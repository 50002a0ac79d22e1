import Trellis.Proofs.Except
import Trellis.Proofs.Schema.Visit
import Trellis.Schema.Compile
/-!
What a checker has from its schema: its kind with the rules, the checkers of its parts, and the presence with
the default as the value that the default stands for.
-/

namespace Trellis

/-- A checker has the presence of its schema.  The default has been visited at
its place, quietly, and what came of it stands for an absent value. -/
structure Presence.Kept (p : Presence) (path : FieldPath) (c : Checker) : Prop where
  optional_eq : c.presence.optional = p.optional
  nullable_eq : c.presence.nullable = p.nullable
  default_none : p.default = none → c.presence.default = none
  default_some : ∀ value, p.default = some value →
    Checker.visit c (some value) ⟨path, []⟩ = (c.presence.default, ⟨path, []⟩)

namespace Checker

theorem presence_withPresence (c : Checker) (p : Presence) :
    (c.withPresence p).presence = p := by
  cases c <;> rfl

/-- The default of a checker plays no part in a visit of a given value. -/
theorem visit_withPresence {c : Checker} {p : Presence}
    (hnullable : p.nullable = c.presence.nullable) (value : Json) (w : Walk) :
    visit (c.withPresence p) (some value) w = visit c (some value) w := by
  rw [visit_some, visit_some]
  cases c <;>
    simp_all [SchemaOf.withPresence, SchemaOf.acceptsNull, SchemaOf.presence,
      SchemaOf.typeName, visitKind]

end Checker

namespace Schema

/-- The checker of a schema without its default. -/
def compileBare (path : FieldPath) : Schema → Except SchemaError Checker
  | .text p rules =>
    (compileRules path rules).map fun rules => .text { p with default := none } rules
  | .numeric p rules => .ok (.numeric { p with default := none } rules)
  | .truth p => .ok (.truth { p with default := none })
  | .list p items count =>
    (compileAt (path ++ [.index 0]) items).map fun items =>
      .list { p with default := none } items count
  | .record p properties strict =>
    (compileProperties path properties).map fun properties =>
      .record { p with default := none } properties strict
  | .anything p => .ok (.anything { p with default := none })

theorem compileAt_eq (path : FieldPath) (s : Schema) :
    compileAt path s =
      (compileBare path s).bind (compileDefault path s.presence) := by
  cases s with
  | text p rules =>
      simp only [compileAt, compileBare]
      cases compileRules path rules <;> rfl
  | list p items count =>
      simp only [compileAt, compileBare]
      cases compileAt (path ++ [.index 0]) items <;> rfl
  | record p properties strict =>
      simp only [compileAt, compileBare]
      cases compileProperties path properties <;> rfl
  | numeric p rules => rfl
  | truth p => rfl
  | anything p => rfl

theorem compileBare_eq_ok {path : FieldPath} {s : Schema} {bare : Checker}
    (hbare : compileBare path s = .ok bare) :
    bare.presence = { s.presence with default := none } ∧
      bare.typeName = s.typeName := by
  cases s with
  | text p rules =>
      obtain ⟨_, -, rfl⟩ := Except.map_eq_ok_iff.mp hbare
      exact ⟨rfl, rfl⟩
  | list p items count =>
      obtain ⟨_, -, rfl⟩ := Except.map_eq_ok_iff.mp hbare
      exact ⟨rfl, rfl⟩
  | record p properties strict =>
      obtain ⟨_, -, rfl⟩ := Except.map_eq_ok_iff.mp hbare
      exact ⟨rfl, rfl⟩
  | numeric p rules =>
      obtain rfl := Except.ok.inj hbare
      exact ⟨rfl, rfl⟩
  | truth p =>
      obtain rfl := Except.ok.inj hbare
      exact ⟨rfl, rfl⟩
  | anything p =>
      obtain rfl := Except.ok.inj hbare
      exact ⟨rfl, rfl⟩

theorem acceptsNull_compileBare {path : FieldPath} {s : Schema} {bare : Checker}
    (hbare : compileBare path s = .ok bare) : bare.acceptsNull = s.acceptsNull := by
  obtain ⟨hpresence, htype⟩ := compileBare_eq_ok hbare
  rw [SchemaOf.acceptsNull, SchemaOf.acceptsNull, hpresence, htype]

/-- A checker with its default visits given values as the one without it, and
has kept the default. -/
theorem compileDefault_eq_ok {path : FieldPath} {p : Presence}
    {bare c : Checker} (hbare : bare.presence = { p with default := none })
    (hcompile : compileDefault path p bare = .ok c) :
    p.Kept path c ∧ ∀ value (w : Walk),
      Checker.visit c (some value) w = Checker.visit bare (some value) w := by
  unfold compileDefault at hcompile
  split at hcompile
  · next hnone =>
      obtain rfl := Except.ok.inj hcompile
      refine ⟨⟨by rw [hbare], by rw [hbare], fun _ => by rw [hbare], ?_⟩,
        fun _ _ => rfl⟩
      intro value hvalue
      exact absurd (hnone.symm.trans hvalue) (by simp)
  · next value hsome =>
      dsimp only at hcompile
      split at hcompile
      · next hclean =>
          obtain rfl := Except.ok.inj hcompile
          have hsame : ∀ given (w : Walk), Checker.visit (bare.withPresence
              { p with
                default := (Checker.visit bare (some value) ⟨path, []⟩).1 })
              (some given) w = Checker.visit bare (some given) w := by
            intro given w
            apply Checker.visit_withPresence
            rw [hbare]
          have hquiet : (Checker.visit bare (some value) ⟨path, []⟩).2 =
              ⟨path, []⟩ := (Checker.visit_extends _ _ _).eq_of_failures hclean
          refine ⟨⟨?_, ?_, ?_, ?_⟩, hsame⟩
          · rw [Checker.presence_withPresence]
          · rw [Checker.presence_withPresence]
          · intro hnone
            exact absurd (hsome.symm.trans hnone) (by simp)
          · intro given hgiven
            obtain rfl := Option.some.inj (hsome.symm.trans hgiven)
            rw [hsame, Checker.presence_withPresence]
            exact Prod.ext rfl hquiet
      · contradiction

/-- A checker comes from the one without default. -/
theorem compileAt_eq_ok {path : FieldPath} {s : Schema} {c : Checker}
    (hcompile : compileAt path s = .ok c) :
    s.presence.Kept path c ∧ ∃ bare, compileBare path s = .ok bare ∧
      ∀ value (w : Walk),
        Checker.visit c (some value) w = Checker.visit bare (some value) w := by
  rw [compileAt_eq] at hcompile
  obtain ⟨bare, hbare, hdefault⟩ := Except.bind_eq_ok_iff.mp hcompile
  obtain ⟨hkept, hsame⟩ := compileDefault_eq_ok
    (compileBare_eq_ok hbare).1 hdefault
  exact ⟨hkept, bare, hbare, hsame⟩

/-- The checkers of properties have their names, in order, and each comes from
the schema under its name. -/
theorem compileProperties_eq_ok {path : FieldPath}
    {properties : List (String × Schema)} {checkers : List (String × Checker)}
    (hcompile : compileProperties path properties = .ok checkers) :
    checkers.map (·.1) = properties.map (·.1) ∧
      ∀ property ∈ properties, ∃ c, (property.1, c) ∈ checkers ∧
        compileAt (path ++ [.key property.1]) property.2 = .ok c := by
  induction properties generalizing checkers with
  | nil =>
      obtain rfl := Except.ok.inj hcompile
      simp
  | cons property rest ih =>
      rw [compileProperties] at hcompile
      obtain ⟨c, hc, hrest⟩ := Except.bind_eq_ok_iff.mp hcompile
      obtain ⟨others, hothers, rfl⟩ := Except.map_eq_ok_iff.mp hrest
      obtain ⟨hnames, hparts⟩ := ih hothers
      refine ⟨by simp [hnames], ?_⟩
      intro other hother
      rcases List.mem_cons.mp hother with rfl | htail
      · exact ⟨c, List.mem_cons_self, hc⟩
      · obtain ⟨part, hmem, hpart⟩ := hparts other htail
        exact ⟨part, List.mem_cons_of_mem _ hmem, hpart⟩

/-- Every checker of properties comes from a property of its name. -/
theorem exists_property_of_mem {path : FieldPath}
    {properties : List (String × Schema)} {checkers : List (String × Checker)}
    (hcompile : compileProperties path properties = .ok checkers)
    {part : String × Checker} (hpart : part ∈ checkers) :
    ∃ property ∈ properties, property.1 = part.1 ∧
      compileAt (path ++ [.key property.1]) property.2 = .ok part.2 := by
  induction properties generalizing checkers with
  | nil =>
      obtain rfl := Except.ok.inj hcompile
      exact absurd hpart List.not_mem_nil
  | cons property rest ih =>
      rw [compileProperties] at hcompile
      obtain ⟨c, hc, hrest⟩ := Except.bind_eq_ok_iff.mp hcompile
      obtain ⟨others, hothers, rfl⟩ := Except.map_eq_ok_iff.mp hrest
      rcases List.mem_cons.mp hpart with rfl | htail
      · exact ⟨property, List.mem_cons_self, rfl, hc⟩
      · obtain ⟨other, hmem, hother⟩ := ih hothers htail
        exact ⟨other, List.mem_cons_of_mem _ hmem, hother⟩

end Schema

end Trellis
