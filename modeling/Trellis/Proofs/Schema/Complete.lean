import Trellis.Proofs.Schema.Conforms
import Trellis.Proofs.Schema.Quiet
import Trellis.Proofs.Schema.Relocation
import Trellis.Proofs.Schema.Sound
/-!
Completeness of checkers: a value that conforms to the schema is accepted and filled in.  And checking again
changes nothing: what a check gives is accepted as it is.
-/

namespace Trellis

namespace Schema

theorem textViolations_eq_nil {path : FieldPath} {rules : StringRules String}
    {compiled : StringRules CompiledPattern}
    (hcompile : compileRules path rules = .ok compiled) {text : String}
    (hmet : rules.Met text) : Checker.textViolations compiled text = [] := by
  obtain ⟨hshort, hlong, hformat, hpattern, hone⟩ := hmet
  have hmember : ¬ (rules.oneOf ≠ [] ∧ text ∉ rules.oneOf) :=
    fun h => h.2 (hone h.1)
  have hrest : ∀ pattern : Option CompiledPattern,
      (∀ p, pattern = some p → p.regex.occursIn text) →
        Checker.textViolations ⟨rules.minLength, rules.maxLength, rules.format,
          pattern, rules.oneOf⟩ text = [] := by
    intro pattern hoccurs
    simp only [Checker.textViolations, List.append_eq_nil_iff,
      Checker.require_eq_nil_iff, decide_eq_false_iff_not, Nat.not_lt,
      Bool.not_eq_false', if_neg hmember, and_true]
    exact ⟨⟨⟨hshort, hlong⟩, hformat⟩, hoccurs⟩
  unfold compileRules at hcompile
  split at hcompile
  · obtain rfl := Except.ok.inj hcompile
    exact hrest none (by simp)
  · next source hsome =>
      obtain ⟨pattern, hread, rfl⟩ := Except.map_eq_ok_iff.mp hcompile
      obtain ⟨regex, hregex, hoccurs⟩ := hpattern source hsome
      simp only [compilePattern, hregex] at hread
      obtain rfl := Except.ok.inj hread
      apply hrest
      intro p hp
      obtain rfl := Option.some.inj hp
      exact hoccurs

theorem above_eq_false {bound : Extended} {n : Number} (hmet : bound.AtMost n) :
    bound.above n.toDouble = false := by
  cases bound with
  | finite b => simpa [Extended.above, Double.less] using Number.le_toDouble hmet
  | infinite negative => simpa [Extended.above, Extended.AtMost] using hmet
  | nan => rfl

theorem below_eq_false {bound : Extended} {n : Number} (hmet : bound.AtLeast n) :
    bound.below n.toDouble = false := by
  cases bound with
  | finite b => simpa [Extended.below, Double.less] using Number.toDouble_le hmet
  | infinite negative => simpa [Extended.below, Extended.AtLeast] using hmet
  | nan => rfl

theorem numberViolations_eq_nil {rules : NumberRules} {n : Number}
    (hmet : rules.Met n) : Checker.numberViolations rules n.toDouble = [] := by
  simp only [Checker.numberViolations, List.append_eq_nil_iff,
    Checker.require_eq_nil_iff]
  exact ⟨fun bound hbound => above_eq_false (hmet.minimum bound hbound),
    fun bound hbound => below_eq_false (hmet.maximum bound hbound)⟩

theorem countViolations_eq_nil {rules : CountRules} {count : Nat}
    (hmet : rules.Met count) : Checker.countViolations rules count = [] := by
  simp only [Checker.countViolations, List.append_eq_nil_iff,
    Checker.require_eq_nil_iff, decide_eq_false_iff_not, Nat.not_lt]
  exact ⟨hmet.minItems, hmet.maxItems⟩

/-- The default that a checker holds is the one that its schema stands for. -/
theorem coercedDefault_eq {path : FieldPath} {s : Schema} {c : Checker}
    (hcompile : compileAt path s = .ok c) :
    s.coercedDefault = c.presence.default := by
  have hstart : s.compile = .ok c := compileAt_relocate hcompile []
  obtain ⟨hkept, -⟩ := compileAt_eq_ok hstart
  cases hdefault : s.presence.default with
  | none =>
      rw [hkept.default_none hdefault, coercedDefault, hdefault]
      rfl
  | some value =>
      have hchecked := hkept.default_some value hdefault
      obtain ⟨out, hout⟩ := Checker.visit_quiet_isSome hchecked
      rw [hout] at hchecked ⊢
      have hcheck : c.check value = .ok out := Checker.check_eq_ok_iff.mpr hchecked
      rw [coercedDefault, hdefault, hstart]
      change (c.check value).toOption = some out
      rw [hcheck]
      rfl

/-- It is enough that the visit by the checker without default gives a value
that is not null what it should. -/
theorem visit_eq_of_kind {path : FieldPath} {s : Schema} {c : Checker}
    (hcompile : compileAt path s = .ok c) {value out : Json} {w : Walk}
    (hkind : ∀ bare, compileBare path s = .ok bare →
      Checker.visit bare (some value) w = (some out, w)) :
    Checker.visit c (some value) w = (some out, w) := by
  obtain ⟨-, bare, hbare, hsame⟩ := compileAt_eq_ok hcompile
  rw [hsame]
  exact hkind bare hbare

/-- Null is given as it is, where it may stand. -/
theorem visit_allowsNull {path : FieldPath} {s : Schema} {c : Checker}
    (hcompile : compileAt path s = .ok c) {value : Json}
    (hnull : s.presence.AllowsNull value) (w : Walk) :
    Checker.visit c (some value) w = (some (s.fill value), w) := by
  obtain ⟨hnullable, rfl⟩ := hnull
  rw [fill_null]
  apply visit_eq_of_kind hcompile
  intro bare hbare
  apply Checker.visit_null
  rw [acceptsNull_compileBare hbare, SchemaOf.acceptsNull, hnullable]
  rfl

/-- A visit of a property gives its value filled in, or its default, if a visit
of a value that it has does. -/
theorem visit_fill_property {path : FieldPath} {s : Schema} {c : Checker}
    (hcompile : compileAt path s = .ok c) {given : Option Json}
    (hgiven : s.presence.AllowsProperty s.Conforms given)
    (hvalue : ∀ value, given = some value → s.Conforms value → ∀ w,
      Checker.visit c (some value) w = (some (s.fill value), w)) (w : Walk) :
    Checker.visit c given w = ((given.map s.fill).or s.coercedDefault, w) := by
  cases given with
  | some value => exact hvalue value rfl hgiven w
  | none =>
      obtain ⟨hkept, -⟩ := compileAt_eq_ok hcompile
      rw [coercedDefault_eq hcompile, Checker.visit_none, Checker.absent]
      cases hdefault : c.presence.default with
      | some value => rfl
      | none =>
          have hoptional : s.presence.optional := by
            refine hgiven.resolve_left fun hsome => ?_
            obtain ⟨value, hvalue⟩ := Option.isSome_iff_exists.mp hsome
            obtain ⟨out, hout⟩ :=
              Checker.visit_quiet_isSome (hkept.default_some value hvalue)
            rw [hdefault] at hout
            contradiction
          dsimp only
          rw [hkept.optional_eq, if_pos hoptional]
          rfl

/-- An object that conforms is visited quietly and filled in, if its fields
are. -/
theorem visitObject_fill {properties : List (String × Schema)}
    (hnames : (properties.map (·.1)).Nodup) {path : FieldPath}
    {checkers : List (String × Checker)}
    (hcheckers : compileProperties path properties = .ok checkers)
    {fields : KeyMap Json} (hsorted : fields.Sorted) {strict : Bool}
    (hconforms : ConformsAll properties fields)
    (hstrict : strict → ∀ key, key ∉ properties.map (·.1) →
      fields.get? key = none)
    (hvalue : ∀ property ∈ properties, ∀ c,
      compileAt (path ++ [.key property.1]) property.2 = .ok c →
        ∀ value, fields.get? property.1 = some value → property.2.Conforms value →
          ∀ w, Checker.visit c (some value) w = (some (property.2.fill value), w))
    (w : Walk) :
    Checker.visitObject (Checker.visitProperties checkers) strict (.object fields) w =
      (some (.object (fillAll properties fields)), w) := by
  obtain ⟨hsame, -⟩ := compileProperties_eq_ok hcheckers
  apply Checker.visitObject_eq (hsame ▸ hnames) hsorted
    (fillAll_sorted properties hsorted)
  · intro part hpart step
    obtain ⟨property, hmem, hname, hc⟩ := exists_property_of_mem hcheckers hpart
    rw [← hname, get?_fillAll hnames fields hmem]
    exact visit_fill_property hc (conformsAll_iff.mp hconforms property hmem)
      (hvalue property hmem _ hc) step
  · intro key hkey
    rw [hsame] at hkey
    exact ⟨get?_fillAll_of_not_mem hkey fields, fun h => hstrict h key hkey⟩

/-- A value that conforms is visited quietly and filled in. -/
theorem visit_fill {s : Schema} (hnames : s.DistinctNames) {path : FieldPath}
    {c : Checker} (hcompile : compileAt path s = .ok c) {value : Json}
    (hvalue : value.WellFormed) (hconforms : s.Conforms value) (w : Walk) :
    Checker.visit c (some value) w = (some (s.fill value), w) := by
  induction s using SchemaOf.induction generalizing path c value w with
  | text p rules =>
      obtain hnull | ⟨text, rfl, hmet⟩ := hconforms
      · exact visit_allowsNull hcompile hnull w
      apply visit_eq_of_kind hcompile
      intro bare hbare
      obtain ⟨compiled, hcompiled, rfl⟩ := Except.map_eq_ok_iff.mp hbare
      exact Checker.visit_of_visitKind
        (Checker.visitString_met (textViolations_eq_nil hcompiled hmet) w)
  | numeric p rules =>
      obtain hnull | ⟨n, rfl, hmet⟩ := hconforms
      · exact visit_allowsNull hcompile hnull w
      apply visit_eq_of_kind hcompile
      intro bare hbare
      obtain rfl := Except.ok.inj hbare
      exact Checker.visit_of_visitKind (Checker.visitNumber_met hmet.ofKind
        (numberViolations_eq_nil hmet) w)
  | truth p =>
      obtain hnull | ⟨b, rfl⟩ := hconforms
      · exact visit_allowsNull hcompile hnull w
      apply visit_eq_of_kind hcompile
      intro bare hbare
      obtain rfl := Except.ok.inj hbare
      rfl
  | list p items count ih =>
      obtain hnull | ⟨given, rfl, hcount, hitems⟩ := hconforms
      · exact visit_allowsNull hcompile hnull w
      apply visit_eq_of_kind hcompile
      intro bare hbare
      obtain ⟨item, hitem, rfl⟩ := Except.map_eq_ok_iff.mp hbare
      have hfound : List.Forall₂
          (fun element out => ∀ w, Checker.visit item (some element) w =
            (some out, w)) given (given.map (fill items)) := by
        rw [List.forall₂_map_right_iff, List.forall₂_same]
        intro element hmem
        exact ih hnames.2 hitem (Json.wellFormed_of_mem hvalue hmem)
          (hitems element hmem)
      have hvisit := @Checker.visitArray_eq _ count (.array given) given _ rfl
        (countViolations_eq_nil hcount) hfound w
      rw [Checker.visit_eq_visitKind rfl, fill]
      exact hvisit
  | record p properties strict ih =>
      obtain hnull | ⟨fields, rfl, hfields, hstrict⟩ := hconforms
      · exact visit_allowsNull hcompile hnull w
      apply visit_eq_of_kind hcompile
      intro bare hbare
      obtain ⟨checkers, hcheckers, rfl⟩ := Except.map_eq_ok_iff.mp hbare
      rw [Checker.visit_eq_visitKind rfl]
      apply visitObject_fill hnames.1 hcheckers hvalue.1 hfields hstrict
      intro property hmem c hc given hgiven hconforms
      exact ih property hmem (SchemaOf.everywhereIn_iff.mp hnames.2 property hmem)
        hc (Json.wellFormed_of_get? hvalue.2 hgiven) hconforms
  | anything p =>
      apply visit_eq_of_kind hcompile
      intro bare hbare
      obtain rfl := Except.ok.inj hbare
      exact Checker.visit_of_visitKind rfl

/-! Checking again. -/

/-- What a quiet visit by the checker gives is visited quietly and left as it
is. -/
def Settles (c : Checker) : Prop :=
  ∀ value out (w : Walk), value.WellFormed →
    Checker.visit c (some value) w = (some out, w) → ∀ other,
      Checker.visit c (some out) other = (some out, other)

theorem numberViolations_congr (rules : NumberRules) {a b : Double}
    (hunits : a.signedUnits = b.signedUnits) :
    Checker.numberViolations rules a = Checker.numberViolations rules b := by
  have habove : ∀ bound : Extended, bound.above a = bound.above b := by
    intro bound
    cases bound <;> simp [Extended.above, Double.less, hunits]
  have hbelow : ∀ bound : Extended, bound.below a = bound.below b := by
    intro bound
    cases bound <;> simp [Extended.below, Double.less, hunits]
  simp only [Checker.numberViolations, Checker.require, habove, hbelow]

/-- A double that is read as a whole number stays on its side of every
bound. -/
theorem signedUnits_of_wholeOf? {n : Number} {whole : Whole}
    (hwhole : Checker.wholeOf? n = some whole) :
    (Number.whole whole).toDouble.signedUnits = n.toDouble.signedUnits := by
  cases n with
  | whole given =>
      obtain rfl := Option.some.inj hwhole
      rfl
  | double d =>
      obtain ⟨val, hval, hfits⟩ := Option.bind_eq_some_iff.mp hwhole
      unfold Whole.ofInt? at hfits
      split at hfits
      · obtain rfl := Option.some.inj hfits
        exact Number.signedUnits_toDouble_of_toInt? hval
      · contradiction

theorem visitNumber_again {rules : NumberRules} {value out : Json} {w : Walk}
    (hvisit : Checker.visitNumber rules value w = (some out, w)) (other : Walk) :
    Checker.visitNumber rules out other = (some out, other) := by
  unfold Checker.visitNumber at hvisit
  split at hvisit
  · exact absurd (congrArg Prod.snd hvisit) (Checker.reject_ne _ _ w)
  · next n _ =>
      split at hvisit
      · split at hvisit
        · exact absurd (congrArg Prod.snd hvisit) (Checker.reject_ne _ _ w)
        · next whole hwhole =>
            obtain ⟨hrules, rfl⟩ := Checker.conclude_eq hvisit
            apply Checker.visitNumber_met fun _ => ⟨whole, rfl⟩
            rw [numberViolations_congr rules (signedUnits_of_wholeOf? hwhole)]
            exact hrules
      · next hinteger =>
          obtain ⟨hrules, rfl⟩ := Checker.conclude_eq hvisit
          exact Checker.visitNumber_met (fun h => absurd h hinteger) hrules other

/-- It is enough that the kind settles what it gives, null apart. -/
theorem settles_of_kind {path : FieldPath} {s : Schema} {c : Checker}
    (hcompile : compileAt path s = .ok c)
    (hkind : ∀ bare, compileBare path s = .ok bare →
      ∀ value out (w : Walk), value.WellFormed →
        (Checker.visitKind bare value w).2 = w →
          (Checker.visitKind bare value w).1 = some out → ∀ other,
            Checker.visitKind bare out other = (some out, other)) : Settles c := by
  intro value out w hvalue hvisit other
  obtain ⟨-, bare, hbare, hsame⟩ := compileAt_eq_ok hcompile
  rw [hsame] at hvisit ⊢
  rw [Checker.visit_some] at hvisit
  split at hvisit
  · next hnull =>
      obtain rfl := Option.some.inj (congrArg Prod.fst hvisit)
      exact Checker.visit_null (Bool.and_eq_true_iff.mp hnull).2 other
  · exact Checker.visit_of_visitKind (hkind bare hbare value out w hvalue
      (congrArg Prod.snd hvisit) (congrArg Prod.fst hvisit) other)

/-- What a visit of a property gives is left as it is, be it its value or its
default, if that is so for every value. -/
theorem visit_settled_property {path : FieldPath} {s : Schema} {c : Checker}
    (hcompile : compileAt path s = .ok c)
    (hdefault : ∀ value, s.presence.default = some value → value.WellFormed)
    (hagain : Settles c) {given found : Option Json}
    (hgiven : ∀ value, given = some value → value.WellFormed) {w : Walk}
    (hvisit : Checker.visit c given w = (found, w)) (other : Walk) :
    Checker.visit c found other = (found, other) := by
  obtain ⟨hkept, -⟩ := compileAt_eq_ok hcompile
  cases given with
  | some value =>
      obtain ⟨out, rfl⟩ := Checker.visit_quiet_isSome hvisit
      exact hagain value out w (hgiven value rfl) hvisit other
  | none =>
      cases found with
      | none => exact Checker.visit_quiet_of_quiet hvisit other
      | some out =>
          rw [Checker.visit_none, Checker.absent] at hvisit
          cases hchecked : c.presence.default with
          | none =>
              rw [hchecked] at hvisit
              dsimp only at hvisit
              split at hvisit <;> simp at hvisit
          | some value =>
              rw [hchecked] at hvisit
              obtain rfl : value = out :=
                Option.some.inj (congrArg Prod.fst hvisit)
              cases hraw : s.presence.default with
              | none =>
                  rw [hkept.default_none hraw] at hchecked
                  contradiction
              | some raw =>
                  have hvisited := hkept.default_some raw hraw
                  rw [hchecked] at hvisited
                  exact hagain raw value _ (hdefault raw hraw) hvisited other

theorem visitArray_again {item : Checker} (hagain : Settles item)
    {count : CountRules} {value out : Json} (hvalue : value.WellFormed) {w : Walk}
    (hvisit : Checker.visitArray (Checker.visit item) count value w = (some out, w))
    (other : Walk) :
    Checker.visitArray (Checker.visit item) count out other = (some out, other) := by
  have hpass : ∀ given, Checker.itemsOf? value = some given →
      ∀ element ∈ given, ∀ w,
        (Checker.visit item (some element) w).2 = w → ∃ out,
          (Checker.visit item (some element) w).1 = some out ∧
            ∀ other, Checker.visit item (some out) other = (some out, other) := by
    intro given hgiven element hmem step hstep
    obtain ⟨found, hfound⟩ := Checker.visit_quiet_isSome (Prod.ext rfl hstep)
    exact ⟨found, hfound, hagain element found step
      (itemsOf_wellFormed hvalue hgiven element hmem) (Prod.ext hfound hstep)⟩
  have hquiet : (Checker.visitArray (Checker.visit item) count value w).2 = w := by
    rw [hvisit]
  obtain ⟨given, found, -, hout, hcount, hfound⟩ :=
    Checker.visitArray_quiet (Checker.visit_extends item) hpass hquiet
  obtain rfl := Option.some.inj (hout.symm.trans (congrArg Prod.fst hvisit))
  rw [hfound.length_eq] at hcount
  have hflip : List.Forall₂ (fun element _ => (∀ w, Checker.visit item
      (some element) w = (some element, w)) ∧ True) found given :=
    hfound.flip.imp fun _ _ hagain => ⟨hagain, trivial⟩
  obtain ⟨hsettled, -⟩ := (List.forall₂_and_left _ _).mp hflip
  exact @Checker.visitArray_eq _ count (.array found) found _ rfl hcount
    (List.forall₂_same.mpr hsettled) other

theorem visitObject_again {properties : List (String × Schema)}
    (hnames : (properties.map (·.1)).Nodup) {path : FieldPath}
    {checkers : List (String × Checker)}
    (hcheckers : compileProperties path properties = .ok checkers)
    (hdefaults : ∀ property ∈ properties, ∀ value,
      property.2.presence.default = some value → value.WellFormed)
    (hagain : ∀ property ∈ properties, ∀ c,
      compileAt (path ++ [.key property.1]) property.2 = .ok c → Settles c)
    {strict : Bool} {value out : Json} (hvalue : value.WellFormed) {w : Walk}
    (hvisit : Checker.visitObject (Checker.visitProperties checkers) strict value w =
      (some out, w)) (other : Walk) :
    Checker.visitObject (Checker.visitProperties checkers) strict out other =
      (some out, other) := by
  obtain ⟨hsame, -⟩ := compileProperties_eq_ok hcheckers
  have hdistinct : (checkers.map (·.1)).Nodup := hsame ▸ hnames
  have hquiet : (Checker.visitObject (Checker.visitProperties checkers) strict value
      w).2 = w := by
    rw [hvisit]
  obtain ⟨given, found, rfl, hout, hvisited, hothers⟩ :=
    Checker.visitObject_quiet hdistinct hvalue hquiet
  have hsorted := Checker.visitObject_sorted hout
  obtain rfl := Option.some.inj (hout.symm.trans (congrArg Prod.fst hvisit))
  apply Checker.visitObject_eq hdistinct hsorted hsorted
  · intro part hpart step
    obtain ⟨property, hmem, -, hc⟩ := exists_property_of_mem hcheckers hpart
    exact visit_settled_property hc (hdefaults property hmem)
      (hagain property hmem _ hc)
      (fun value hgiven => Json.wellFormed_of_get? hvalue.2 hgiven)
      (hvisited part hpart) step
  · intro key hkey
    obtain ⟨hget, hstrict⟩ := hothers key hkey
    exact ⟨rfl, fun h => hget.trans (hstrict h)⟩

/-- Checkers settle what they give. -/
theorem settles_of_compile {s : Schema} (hnames : s.DistinctNames)
    (hdefaults : s.DefaultsWellFormed) {path : FieldPath} {c : Checker}
    (hcompile : compileAt path s = .ok c) : Settles c := by
  induction s using SchemaOf.induction generalizing path c with
  | text p rules =>
      apply settles_of_kind hcompile
      intro bare hbare value out w _ hquiet hgives other
      obtain ⟨compiled, -, rfl⟩ := Except.map_eq_ok_iff.mp hbare
      obtain ⟨text, hrules, hout⟩ := Checker.visitString_quiet hquiet
      obtain rfl := Option.some.inj (hout.symm.trans hgives)
      exact Checker.visitString_met hrules other
  | numeric p rules =>
      apply settles_of_kind hcompile
      intro bare hbare value out w _ hquiet hgives other
      obtain rfl := Except.ok.inj hbare
      exact visitNumber_again (Prod.ext hgives hquiet) other
  | truth p =>
      apply settles_of_kind hcompile
      intro bare hbare value out w _ hquiet hgives other
      obtain rfl := Except.ok.inj hbare
      obtain ⟨b, hout⟩ := Checker.visitBoolean_quiet hquiet
      obtain rfl := Option.some.inj (hout.symm.trans hgives)
      rfl
  | list p items count ih =>
      apply settles_of_kind hcompile
      intro bare hbare value out w hvalue hquiet hgives other
      obtain ⟨item, hitem, rfl⟩ := Except.map_eq_ok_iff.mp hbare
      exact visitArray_again (ih hnames.2 hdefaults.2 hitem) hvalue
        (Prod.ext hgives hquiet) other
  | record p properties strict ih =>
      apply settles_of_kind hcompile
      intro bare hbare value out w hvalue hquiet hgives other
      obtain ⟨checkers, hcheckers, rfl⟩ := Except.map_eq_ok_iff.mp hbare
      have hparts := SchemaOf.everywhereIn_iff.mp hdefaults.2
      refine visitObject_again hnames.1 hcheckers
        (fun property hmem => (hparts property hmem).here) ?_ hvalue
        (Prod.ext hgives hquiet) other
      intro property hmem c hc
      exact ih property hmem (SchemaOf.everywhereIn_iff.mp hnames.2 property hmem)
        (hparts property hmem) hc
  | anything p =>
      apply settles_of_kind hcompile
      intro bare hbare value out w _ _ _ other
      obtain rfl := Except.ok.inj hbare
      rfl

/-- Completeness of checkers.  For a schema that declares no property twice, a
value that conforms is accepted, and given with the defaults of its absent
properties filled in.  What a check gives is accepted by another check, which
leaves it as it is. -/
theorem check_complete {s : Schema} (hnames : s.DistinctNames)
    (hdefaults : s.DefaultsWellFormed) {c : Checker} (hcompile : s.compile = .ok c)
    {value : Json} (hvalue : value.WellFormed) :
    (s.Conforms value → c.check value = .ok (s.fill value)) ∧
      ∀ out, c.check value = .ok out → c.check out = .ok out := by
  constructor
  · intro hconforms
    exact Checker.check_eq_ok_iff.mpr
      (visit_fill hnames hcompile hvalue hconforms Walk.start)
  · intro out hcheck
    exact Checker.check_eq_ok_iff.mpr (settles_of_compile hnames hdefaults hcompile
      value out Walk.start hvalue (Checker.check_eq_ok_iff.mp hcheck) Walk.start)

/-- The default of an absent property is checked by the property's own checker,
which wraps a scalar into an array and fills in the defaults inside it. -/
theorem check_complete_nested_default :
    let tags := default (array string) (.string "new")
    let s := object [("name", minLength string 1),
      ("profile", default (object [("tags", tags)]) (.object []))]
    let value := Json.object [("name", .string "Ada")]
    let output := Json.object [("name", .string "Ada"),
      ("profile", .object [("tags", .array [.string "new"])])]
    ∃ c, s.compile = .ok c ∧ s.Conforms value ∧ s.fill value = output ∧
      c.check value = .ok output ∧ c.check output = .ok output := by
  intro tags s value output
  have hnames : s.DistinctNames := by
    simp [s, tags, DistinctNames, object, array, string, default, minLength,
      onString, SchemaOf.withPresence, SchemaOf.Everywhere,
      SchemaOf.EverywhereIn, SchemaOf.names]
  have hdefaults : s.DefaultsWellFormed := by
    simp [s, tags, DefaultsWellFormed, object, array, string, default,
      minLength, onString, Presence.required, SchemaOf.withPresence,
      SchemaOf.Everywhere, SchemaOf.EverywhereIn, SchemaOf.presence,
      Json.WellFormed, Json.WellFormedFields, KeyMap.Sorted]
  have hvalue : value.WellFormed := by
    simp [value, Json.WellFormed, Json.WellFormedFields, KeyMap.Sorted]
  have hconforms : s.Conforms value := by
    refine Or.inr ⟨_, rfl, ⟨Or.inr ⟨"Ada", rfl, ?_⟩, Or.inl rfl, trivial⟩, ?_⟩
    · exact ⟨by decide, by simp, by simp, by simp, by simp⟩
    · simp
  have hfill : s.fill value = output := rfl
  obtain ⟨hcomplete, hagain⟩ := check_complete hnames hdefaults rfl hvalue
  have hcheck := hcomplete hconforms
  rw [hfill] at hcheck
  exact ⟨_, rfl, hconforms, hfill, hcheck, hagain output hcheck⟩

end Schema

end Trellis
