import Trellis.Proofs.Json.WellFormed
import Trellis.Proofs.Schema.Compile
import Trellis.Proofs.Schema.Fits
/-!
Soundness of checkers: what a check gives for an input that it accepts fits the schema.
-/

namespace Trellis

namespace Schema

/-- A text without violations meets the rules that a checker was made of. -/
theorem compileRules_met {path : FieldPath} {rules : StringRules String}
    {compiled : StringRules CompiledPattern}
    (hcompile : compileRules path rules = .ok compiled) {text : String}
    (hrules : Checker.textViolations compiled text = []) : rules.Met text := by
  simp only [Checker.textViolations, List.append_eq_nil_iff,
    Checker.require_eq_nil_iff, decide_eq_false_iff_not, Nat.not_lt,
    Bool.not_eq_false'] at hrules
  obtain ⟨⟨⟨⟨hshort, hlong⟩, hformat⟩, hpattern⟩, hone⟩ := hrules
  have hmember : compiled.oneOf ≠ [] → text ∈ compiled.oneOf := by
    intro hsome
    by_contra hnot
    simp [hsome, hnot] at hone
  unfold compileRules at hcompile
  split at hcompile
  · next hnone =>
      obtain rfl := Except.ok.inj hcompile
      refine ⟨hshort, hlong, hformat, ?_, hmember⟩
      intro source hsource
      exact absurd (hnone.symm.trans hsource) (by simp)
  · next source hsome =>
      obtain ⟨pattern, hread, rfl⟩ := Except.map_eq_ok_iff.mp hcompile
      refine ⟨hshort, hlong, hformat, ?_, hmember⟩
      intro other hother
      obtain rfl := Option.some.inj (hsome.symm.trans hother)
      unfold compilePattern at hread
      split at hread
      · next regex hregex =>
          obtain rfl := Except.ok.inj hread
          exact ⟨regex, hregex, hpattern _ rfl⟩
      · contradiction

theorem countViolations_met {rules : CountRules} {count : Nat}
    (hrules : Checker.countViolations rules count = []) : rules.Met count := by
  simp only [Checker.countViolations, List.append_eq_nil_iff,
    Checker.require_eq_nil_iff, decide_eq_false_iff_not, Nat.not_lt] at hrules
  exact ⟨hrules.1, hrules.2⟩

theorem itemsOf_wellFormed {value : Json} (hvalue : value.WellFormed)
    {items : List Json} (hitems : Checker.itemsOf? value = some items) :
    ∀ item ∈ items, item.WellFormed := by
  cases value with
  | array given =>
      obtain rfl := Option.some.inj hitems
      exact fun item hmem => Json.wellFormed_of_mem hvalue hmem
  | object fields => contradiction
  | null => contradiction
  | bool b =>
      obtain rfl := Option.some.inj hitems
      exact fun item hmem => List.mem_singleton.mp hmem ▸ hvalue
  | number n =>
      obtain rfl := Option.some.inj hitems
      exact fun item hmem => List.mem_singleton.mp hmem ▸ hvalue
  | string text =>
      obtain rfl := Option.some.inj hitems
      exact fun item hmem => List.mem_singleton.mp hmem ▸ hvalue

theorem nullable_or_anything {s : Schema} (haccepts : s.acceptsNull) :
    s.presence.nullable ∨ ∃ p, s = .anything p := by
  rcases Bool.or_eq_true_iff.mp haccepts with hnullable | hany
  · exact Or.inl hnullable
  · cases s with
    | anything p => exact Or.inr ⟨p, rfl⟩
    | numeric p rules =>
        simp only [SchemaOf.typeName] at hany
        split at hany <;> contradiction
    | text p rules => contradiction
    | truth p => contradiction
    | list p items count => contradiction
    | record p properties strict => contradiction

/-- Null fits where it is accepted. -/
theorem fits_null {s : Schema} (haccepts : s.acceptsNull) :
    s.Fits .null .null := by
  rcases nullable_or_anything haccepts with hnullable | ⟨p, rfl⟩
  · cases s with
    | anything p => rfl
    | text p rules => exact Or.inl ⟨hnullable, rfl, rfl⟩
    | numeric p rules => exact Or.inl ⟨hnullable, rfl, rfl⟩
    | truth p => exact Or.inl ⟨hnullable, rfl, rfl⟩
    | list p items count => exact Or.inl ⟨hnullable, rfl, rfl⟩
    | record p properties strict => exact Or.inl ⟨hnullable, rfl, rfl⟩
  · rfl

theorem fitsAll_iff {properties : List (String × Schema)}
    {given found : KeyMap Json} :
    FitsAll properties given found ↔ ∀ property ∈ properties,
      property.2.presence.FitsProperty property.2.Fits
        (given.get? property.1) (found.get? property.1) := by
  induction properties with
  | nil => simp [FitsAll]
  | cons property rest ih => simp [FitsAll, ih]

/-- It is enough that what a quiet visit makes of a value fits, null apart. -/
theorem visit_fits_of_kind {path : FieldPath} {s : Schema} {c : Checker}
    (hcompile : compileAt path s = .ok c) {value : Json} {w : Walk}
    (hkind : ∀ bare, compileBare path s = .ok bare →
      (Checker.visitKind bare value w).2 = w →
        ∃ out, (Checker.visitKind bare value w).1 = some out ∧ s.Fits value out)
    (hquiet : (Checker.visit c (some value) w).2 = w) :
    ∃ out, (Checker.visit c (some value) w).1 = some out ∧ s.Fits value out := by
  obtain ⟨-, bare, hbare, hsame⟩ := compileAt_eq_ok hcompile
  rw [hsame, Checker.visit_some] at hquiet ⊢
  by_cases hnull : value.isNull && bare.acceptsNull
  · rw [if_pos hnull]
    obtain ⟨hvalue, haccepts⟩ := Bool.and_eq_true_iff.mp hnull
    cases value with
    | null =>
        rw [acceptsNull_compileBare hbare] at haccepts
        exact ⟨.null, rfl, fits_null haccepts⟩
    | _ => contradiction
  · rw [if_neg hnull] at hquiet ⊢
    exact hkind bare hbare hquiet

/-- What a quiet visit of a property gives fits, if quiet visits of the value
that is given and of the default do. -/
theorem visit_fitsProperty {path : FieldPath} {s : Schema} {c : Checker}
    (hcompile : compileAt path s = .ok c) {given found : Option Json} {w : Walk}
    (hfits : ∀ input, given.or s.presence.default = some input → ∀ w,
      (Checker.visit c (some input) w).2 = w →
        ∃ out, (Checker.visit c (some input) w).1 = some out ∧ s.Fits input out)
    (hvisit : Checker.visit c given w = (found, w)) :
    s.presence.FitsProperty s.Fits given found := by
  obtain ⟨hkept, -⟩ := compileAt_eq_ok hcompile
  cases given with
  | some input =>
      obtain ⟨out, hout, hfit⟩ := hfits input rfl w (by rw [hvisit])
      rw [hvisit] at hout
      obtain rfl : found = some out := hout
      exact ⟨input, rfl, hfit⟩
  | none =>
      rw [Checker.visit_none, Checker.absent] at hvisit
      cases hdefault : s.presence.default with
      | some value =>
          have hchecked := hkept.default_some value hdefault
          obtain ⟨out, hout, hfit⟩ := hfits value hdefault ⟨path, []⟩
            (by rw [hchecked])
          rw [hchecked] at hout
          change c.presence.default = some out at hout
          rw [hout] at hvisit
          obtain rfl : some out = found := congrArg Prod.fst hvisit
          exact ⟨value, hdefault, hfit⟩
      | none =>
          rw [hkept.default_none hdefault, hkept.optional_eq] at hvisit
          dsimp only at hvisit
          split at hvisit
          · next hoptional =>
              obtain rfl : none = found := congrArg Prod.fst hvisit
              exact ⟨rfl, hdefault, hoptional⟩
          · exact absurd (congrArg Prod.snd hvisit) (Walk.fail_ne _ _ _)

/-- What a quiet visit of a value gives fits the schema.  The induction is on
the schema, for all places, since a property is visited below its object and
its default at the place of its schema. -/
theorem visit_fits {s : Schema} (hnames : s.DistinctNames)
    (hdefaults : s.DefaultsWellFormed) {path : FieldPath} {c : Checker}
    (hcompile : compileAt path s = .ok c) {value : Json}
    (hvalue : value.WellFormed) {w : Walk}
    (hquiet : (Checker.visit c (some value) w).2 = w) :
    ∃ out, (Checker.visit c (some value) w).1 = some out ∧ s.Fits value out := by
  induction s using SchemaOf.induction generalizing path c value w with
  | text p rules =>
      refine visit_fits_of_kind hcompile ?_ hquiet
      intro bare hbare hkind
      obtain ⟨compiled, hcompiled, rfl⟩ := Except.map_eq_ok_iff.mp hbare
      obtain ⟨text, hrules, hout⟩ := Checker.visitString_quiet hkind
      exact ⟨.string text, hout,
        Or.inr ⟨text, rfl, compileRules_met hcompiled hrules⟩⟩
  | numeric p rules =>
      refine visit_fits_of_kind hcompile ?_ hquiet
      intro bare hbare hkind
      obtain rfl := Except.ok.inj hbare
      obtain ⟨n, hof, hout⟩ := Checker.visitNumber_quiet hkind
      exact ⟨.number n, hout, Or.inr ⟨n, rfl, hof⟩⟩
  | truth p =>
      refine visit_fits_of_kind hcompile ?_ hquiet
      intro bare hbare hkind
      obtain rfl := Except.ok.inj hbare
      obtain ⟨b, hout⟩ := Checker.visitBoolean_quiet hkind
      exact ⟨.bool b, hout, Or.inr ⟨b, rfl⟩⟩
  | list p items count ih =>
      refine visit_fits_of_kind hcompile ?_ hquiet
      intro bare hbare hkind
      obtain ⟨item, hitem, rfl⟩ := Except.map_eq_ok_iff.mp hbare
      have hpass : ∀ given, Checker.itemsOf? value = some given →
          ∀ element ∈ given, ∀ w,
            (Checker.visit item (some element) w).2 = w →
              ∃ out, (Checker.visit item (some element) w).1 = some out ∧
                Fits items element out :=
        fun given hgiven element hmem w hquiet => ih hnames.2 hdefaults.2 hitem
          (itemsOf_wellFormed hvalue hgiven element hmem) hquiet
      obtain ⟨given, found, hgiven, hout, hcount, hfound⟩ :=
        Checker.visitArray_quiet (Checker.visit_extends item) hpass hkind
      rw [hfound.length_eq] at hcount
      exact ⟨.array found, hout, Or.inr ⟨given, found, hgiven, rfl,
        countViolations_met hcount, hfound⟩⟩
  | record p properties strict ih =>
      refine visit_fits_of_kind hcompile ?_ hquiet
      intro bare hbare hkind
      obtain ⟨checkers, hcheckers, rfl⟩ := Except.map_eq_ok_iff.mp hbare
      obtain ⟨hsame, hparts⟩ := compileProperties_eq_ok hcheckers
      have hdistinct : (checkers.map (·.1)).Nodup := hsame ▸ hnames.1
      obtain ⟨given, found, rfl, hout, hvisited, hothers⟩ :=
        Checker.visitObject_quiet hdistinct hvalue hkind
      refine ⟨.object found, hout,
        Or.inr ⟨given, found, rfl, rfl, fitsAll_iff.mpr ?_, hsame ▸ hothers⟩⟩
      intro property hmem
      obtain ⟨part, hpart, hc⟩ := hparts property hmem
      apply visit_fitsProperty hc ?_ (hvisited (property.1, part) hpart)
      intro input hinput step hstep
      have hwell : input.WellFormed := by
        rcases Option.or_eq_some_iff.mp hinput with hgiven | ⟨-, hdefault⟩
        · exact Json.wellFormed_of_get? hvalue.2 hgiven
        · exact (SchemaOf.everywhereIn_iff.mp hdefaults.2 property hmem).here
            input hdefault
      exact ih property hmem
        (SchemaOf.everywhereIn_iff.mp hnames.2 property hmem)
        (SchemaOf.everywhereIn_iff.mp hdefaults.2 property hmem) hc hwell hstep
  | anything p =>
      refine visit_fits_of_kind hcompile ?_ hquiet
      intro bare hbare _
      obtain rfl := Except.ok.inj hbare
      exact ⟨value, rfl, rfl⟩

/-- Soundness of checkers.  For a schema that declares no property twice, what
a check gives for a value that it accepts fits the schema.  Values are taken to
hold each field once, in the order of keys, as every value that was read does. -/
theorem check_sound {s : Schema} (hnames : s.DistinctNames)
    (hdefaults : s.DefaultsWellFormed) {c : Checker} (hcompile : s.compile = .ok c)
    {value output : Json} (hvalue : value.WellFormed)
    (hcheck : c.check value = .ok output) : s.Fits value output := by
  unfold Checker.check Checker.checkInput at hcheck
  dsimp only at hcheck
  split at hcheck
  · next hclean =>
      have hquiet : (Checker.visit c (some value) Walk.start).2 = Walk.start :=
        (Checker.visit_extends c (some value) Walk.start).eq_of_failures hclean
      obtain ⟨out, hout, hfits⟩ := visit_fits hnames hdefaults hcompile hvalue
        hquiet
      rw [hout] at hcheck
      obtain rfl := Except.ok.inj hcheck
      exact hfits
  · contradiction

/-- A text that spells a number is read, a default stands for what is absent,
and an undeclared null is kept. -/
theorem check_sound_profile :
    let s := object
      [("age", integer), ("tags", default (array string) (.array []))]
    let value := Json.object [("age", .string "7"), ("note", .null)]
    let output := Json.object
      [("age", .number (.whole ⟨7, by decide, by decide⟩)), ("note", .null),
        ("tags", .array [])]
    ∃ c, s.compile = .ok c ∧ c.check value = .ok output ∧
      s.Fits value output := by
  intro s value output
  have hnames : s.DistinctNames := by
    simp [s, DistinctNames, object, integer, array, string, default,
      SchemaOf.withPresence, SchemaOf.Everywhere, SchemaOf.EverywhereIn,
      SchemaOf.names]
  have hdefaults : s.DefaultsWellFormed := by
    simp [s, DefaultsWellFormed, object, integer, array, string, default,
      Presence.required, SchemaOf.withPresence, SchemaOf.Everywhere,
      SchemaOf.EverywhereIn, SchemaOf.presence, Json.WellFormed,
      Json.WellFormedItems]
  have hvalue : value.WellFormed := by
    simp only [value, Json.WellFormed, Json.WellFormedFields, and_true,
      KeyMap.Sorted]
    decide
  exact ⟨_, rfl, rfl, check_sound hnames hdefaults rfl hvalue rfl⟩

end Schema

end Trellis
