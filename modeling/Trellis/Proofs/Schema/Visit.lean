import Mathlib.Data.List.Forall2
import Trellis.Proofs.KeyMap
import Trellis.Proofs.Schema.Induction
import Trellis.Proofs.Schema.Walk
/-!
Visits, one lemma for each kind of value.  A visit extends the walk that it is made in.  A quiet visit, one
that leaves the walk as it was, has met every rule on its way.
-/

namespace Trellis

namespace Checker

theorem reject_extends (type : TypeName) (value : Json) (w : Walk) :
    w.Extends (reject type value w).2 :=
  w.fail_extends _ _

theorem reject_ne (type : TypeName) (value : Json) (w : Walk) :
    (reject type value w).2 ≠ w :=
  w.fail_ne _ _

theorem conclude_extends (value : Json) (violations : List Violation)
    (received : Json) (w : Walk) :
    w.Extends (conclude value violations received w).2 :=
  w.failAll_extends _ _

theorem conclude_quiet {value : Json} {violations : List Violation}
    {received : Json} {w : Walk}
    (hquiet : (conclude value violations received w).2 = w) :
    violations = [] ∧ (conclude value violations received w).1 = some value := by
  obtain rfl := Walk.eq_nil_of_failAll_eq hquiet
  exact ⟨rfl, rfl⟩

theorem require_eq_nil_iff {α : Type} {rule : Option α} {violated : α → Bool}
    {violation : α → Violation} :
    require rule violated violation = [] ↔
      ∀ bound, rule = some bound → violated bound = false := by
  cases rule with
  | none => simp [require]
  | some bound => simp [require]

theorem visitString_extends (rules : StringRules CompiledPattern) (value : Json)
    (w : Walk) : w.Extends (visitString rules value w).2 := by
  unfold visitString
  split
  · exact conclude_extends _ _ _ w
  · exact reject_extends _ _ w

theorem visitString_quiet {rules : StringRules CompiledPattern} {value : Json}
    {w : Walk} (hquiet : (visitString rules value w).2 = w) :
    ∃ text, textViolations rules text = [] ∧
      (visitString rules value w).1 = some (.string text) := by
  unfold visitString at hquiet ⊢
  split at hquiet
  · next text =>
      obtain ⟨hrules, hvalue⟩ := conclude_quiet hquiet
      exact ⟨text, hrules, hvalue⟩
  · exact absurd hquiet (reject_ne _ _ w)

theorem visitNumber_extends (rules : NumberRules) (value : Json) (w : Walk) :
    w.Extends (visitNumber rules value w).2 := by
  unfold visitNumber
  split
  · exact reject_extends _ _ w
  · split
    · split
      · exact reject_extends _ _ w
      · exact conclude_extends _ _ _ w
    · exact conclude_extends _ _ _ w

theorem visitNumber_quiet {rules : NumberRules} {value : Json} {w : Walk}
    (hquiet : (visitNumber rules value w).2 = w) :
    ∃ n, (rules.integer → ∃ whole, n = .whole whole) ∧
      (visitNumber rules value w).1 = some (.number n) := by
  unfold visitNumber at hquiet ⊢
  split at hquiet
  · exact absurd hquiet (reject_ne _ _ w)
  · next n _ =>
      split at hquiet
      · split at hquiet
        · exact absurd hquiet (reject_ne _ _ w)
        · next hinteger _ whole _ =>
            obtain ⟨-, hvalue⟩ := conclude_quiet hquiet
            simp only [hinteger, ↓reduceIte]
            exact ⟨.whole whole, fun _ => ⟨whole, rfl⟩, hvalue⟩
      · next hinteger =>
          obtain ⟨-, hvalue⟩ := conclude_quiet hquiet
          simp only [hinteger]
          exact ⟨n, fun h => absurd h (by simp), hvalue⟩

theorem visitBoolean_extends (value : Json) (w : Walk) :
    w.Extends (visitBoolean value w).2 := by
  unfold visitBoolean
  split
  · exact Walk.Extends.refl w
  · exact Walk.Extends.refl w
  · exact Walk.Extends.refl w
  · exact reject_extends _ _ w

theorem visitBoolean_quiet {value : Json} {w : Walk}
    (hquiet : (visitBoolean value w).2 = w) :
    ∃ b, (visitBoolean value w).1 = some (.bool b) := by
  unfold visitBoolean at hquiet ⊢
  split at hquiet
  · exact ⟨_, rfl⟩
  · exact ⟨true, rfl⟩
  · exact ⟨false, rfl⟩
  · exact absurd hquiet (reject_ne _ _ w)

section Parts

variable {item : Option Json → Walk → Option Json × Walk}

theorem visitItems_extends (hitem : ∀ input (w : Walk), w.Extends (item input w).2)
    (index : Nat) (items : List Json) (w : Walk) :
    w.Extends (visitItems item index items w).2 := by
  induction items generalizing index w with
  | nil => exact Walk.Extends.refl w
  | cons value rest ih =>
      exact (hitem (some value) (w.enter (.index index))).leave.trans
        (ih (index + 1) _)

/-- In a quiet visit of items every item gives a value. -/
theorem visitItems_quiet
    (hitem : ∀ input (w : Walk), w.Extends (item input w).2)
    {R : Json → Json → Prop} {items : List Json}
    (hpass : ∀ value ∈ items, ∀ w, (item (some value) w).2 = w →
      ∃ out, (item (some value) w).1 = some out ∧ R value out)
    {index : Nat} {w : Walk}
    (hquiet : (visitItems item index items w).2 = w) :
    List.Forall₂ R items (visitItems item index items w).1 := by
  induction items generalizing index w with
  | nil => exact List.Forall₂.nil
  | cons value rest ih =>
      have hvalue := hitem (some value) (w.enter (.index index))
      have hrest := visitItems_extends hitem (index + 1) rest
        (item (some value) (w.enter (.index index))).2.leave
      have hhere := hvalue.eq_enter hrest hquiet
      obtain ⟨out, hout, hR⟩ := hpass value List.mem_cons_self _ hhere
      have hleave : (item (some value) (w.enter (.index index))).2.leave = w := by
        rw [hhere, Walk.leave_enter]
      have hbelow : (visitItems item (index + 1) rest w).2 = w := by
        simpa only [visitItems, hleave] using hquiet
      have hothers := ih
        (fun other hother => hpass other (List.mem_cons_of_mem value hother))
        hbelow
      simp only [visitItems, hleave, hout, Option.toList_some]
      exact List.Forall₂.cons hR hothers

theorem visitArray_extends (hitem : ∀ input (w : Walk), w.Extends (item input w).2)
    (count : CountRules) (value : Json) (w : Walk) :
    w.Extends (visitArray item count value w).2 := by
  unfold visitArray
  split
  · exact reject_extends _ _ w
  · exact (w.failAll_extends _ _).trans (visitItems_extends hitem 0 _ _)

/-- In a quiet visit of an array its length is within bounds, and every item
gives a value. -/
theorem visitArray_quiet
    (hitem : ∀ input (w : Walk), w.Extends (item input w).2)
    {R : Json → Json → Prop} {count : CountRules} {value : Json} {w : Walk}
    (hpass : ∀ items, itemsOf? value = some items → ∀ given ∈ items, ∀ w,
      (item (some given) w).2 = w →
        ∃ out, (item (some given) w).1 = some out ∧ R given out)
    (hquiet : (visitArray item count value w).2 = w) :
    ∃ given found, itemsOf? value = some given ∧
      (visitArray item count value w).1 = some (.array found) ∧
      countViolations count given.length = [] ∧ List.Forall₂ R given found := by
  unfold visitArray at hquiet ⊢
  split at hquiet
  · exact absurd hquiet (reject_ne _ _ w)
  · next given hgiven =>
      have hcount := w.failAll_extends (countViolations count given.length)
        (.items given.length)
      have hitems := visitItems_extends hitem 0 given
        (w.failAll (countViolations count given.length) (.items given.length))
      have hcounted : w.failAll (countViolations count given.length)
          (.items given.length) = w := hcount.eq_of_eq hitems hquiet
      simp only [hcounted] at hquiet ⊢
      have hfound := visitItems_quiet hitem (hpass given hgiven) hquiet
      refine ⟨given, _, hgiven, ?_, Walk.eq_nil_of_failAll_eq hcounted, hfound⟩
      rw [hquiet, if_pos w.isClean_refl]

end Parts

theorem visitProperties_cons (name : String) (c : Checker)
    (rest : List (String × Checker)) (fields values : KeyMap Json) (w : Walk) :
    visitProperties ((name, c) :: rest) fields values w =
      visitProperties rest (fields.erase name)
        (values.insertSome name
          (visit c (fields.get? name) (w.enter (.key name))).1)
        (visit c (fields.get? name) (w.enter (.key name))).2.leave := by
  rw [visitProperties]
  obtain ⟨checked, after⟩ := visit c (fields.get? name) (w.enter (.key name))
  cases checked <;> rfl

/-- The fields that no property takes out are left. -/
theorem visitProperties_others (properties : List (String × Checker))
    (fields values : KeyMap Json) (w : Walk) :
    (visitProperties properties fields values w).2.1 =
      fields.filter fun entry => entry.1 ∉ properties.map (·.1) := by
  induction properties generalizing fields values w with
  | nil => simp [visitProperties]
  | cons property rest ih =>
      rw [visitProperties_cons, ih, KeyMap.erase, List.filter_filter]
      apply List.filter_congr
      intro entry _
      rw [Bool.eq_iff_iff]
      simp only [Bool.and_eq_true, decide_eq_true_eq, List.map_cons,
        List.mem_cons, not_or, and_comm, ne_eq]

theorem visitProperties_extends {properties : List (String × Checker)}
    (hvisit : ∀ property ∈ properties, ∀ input (w : Walk),
      w.Extends (visit property.2 input w).2)
    (fields values : KeyMap Json) (w : Walk) :
    w.Extends (visitProperties properties fields values w).2.2 := by
  induction properties generalizing fields values w with
  | nil => exact Walk.Extends.refl w
  | cons property rest ih =>
      have hhere := hvisit property List.mem_cons_self
        (fields.get? property.1) (w.enter (.key property.1))
      rw [visitProperties_cons]
      exact hhere.leave.trans (ih
        (fun other hother => hvisit other (List.mem_cons_of_mem property hother))
        _ _ _)

theorem rejectFields_extends (fields : KeyMap Json) (w : Walk) :
    w.Extends (rejectFields fields w) := by
  induction fields generalizing w with
  | nil => exact Walk.Extends.refl w
  | cons entry rest ih =>
      exact ((w.enter (.key entry.1)).fail_extends .undeclared _).leave.trans
        (ih _)

theorem eq_nil_of_rejectFields_eq {fields : KeyMap Json} {w : Walk}
    (heq : rejectFields fields w = w) : fields = [] := by
  cases fields with
  | nil => rfl
  | cons entry rest =>
      have hhere := (w.enter (.key entry.1)).fail_extends .undeclared
        (.value entry.2)
      have hrest := rejectFields_extends rest
        ((w.enter (.key entry.1)).fail .undeclared (.value entry.2)).leave
      exact absurd (hhere.eq_enter hrest heq) (Walk.fail_ne _ _ _)

theorem visitObject_extends
    {declared : KeyMap Json → KeyMap Json → Walk →
      KeyMap Json × KeyMap Json × Walk}
    (hdeclared : ∀ fields values (w : Walk),
      w.Extends (declared fields values w).2.2)
    (strict : Bool) (value : Json) (w : Walk) :
    w.Extends (visitObject declared strict value w).2 := by
  unfold visitObject
  split
  · next fields =>
      cases strict with
      | true => exact (hdeclared fields [] w).trans (rejectFields_extends _ _)
      | false => exact hdeclared fields [] w
  · exact reject_extends _ _ w

theorem absent_extends (c : Checker) (w : Walk) : w.Extends (absent c w).2 := by
  unfold absent
  split
  · exact Walk.Extends.refl w
  · split
    · exact Walk.Extends.refl w
    · exact w.fail_extends _ _

/-- What a visit makes of a value, apart from a null that is accepted as it
is. -/
def visitKind (c : Checker) (value : Json) (w : Walk) : Option Json × Walk :=
  match c with
  | .text _ rules => visitString rules value w
  | .numeric _ rules => visitNumber rules value w
  | .truth _ => visitBoolean value w
  | .list _ items count => visitArray (visit items) count value w
  | .record _ properties strict =>
    visitObject (visitProperties properties) strict value w
  | .anything _ => (some value, w)

theorem visit_some (c : Checker) (value : Json) (w : Walk) :
    visit c (some value) w =
      if value.isNull && c.acceptsNull then (some .null, w)
      else visitKind c value w := by
  cases c <;> rfl

theorem visit_none (c : Checker) (w : Walk) : visit c none w = absent c w := by
  cases c <;> rfl

theorem visit_extends_of_kind {c : Checker}
    (hkind : ∀ value (w : Walk), w.Extends (visitKind c value w).2)
    (input : Option Json) (w : Walk) : w.Extends (visit c input w).2 := by
  cases input with
  | none =>
      rw [visit_none]
      exact absent_extends c w
  | some value =>
      rw [visit_some]
      split
      · exact Walk.Extends.refl w
      · exact hkind value w

/-- A visit comes back to its place, and adds to the failures at most. -/
theorem visit_extends (c : Checker) (input : Option Json) (w : Walk) :
    w.Extends (visit c input w).2 := by
  induction c using SchemaOf.induction generalizing input w with
  | text p rules =>
      apply visit_extends_of_kind
      exact visitString_extends rules
  | numeric p rules =>
      apply visit_extends_of_kind
      exact visitNumber_extends rules
  | truth p =>
      apply visit_extends_of_kind
      exact visitBoolean_extends
  | list p items count ih =>
      apply visit_extends_of_kind
      exact visitArray_extends ih count
  | record p properties strict ih =>
      apply visit_extends_of_kind
      exact visitObject_extends (visitProperties_extends ih) strict
  | anything p =>
      apply visit_extends_of_kind
      exact fun _ w => Walk.Extends.refl w

theorem visitProperties_get?_of_not_mem {properties : List (String × Checker)}
    {key : String} (hkey : key ∉ properties.map (·.1))
    (fields values : KeyMap Json) (w : Walk) :
    (visitProperties properties fields values w).1.get? key =
      values.get? key := by
  induction properties generalizing fields values w with
  | nil => rfl
  | cons property rest ih =>
      simp only [List.map_cons, List.mem_cons, not_or] at hkey
      rw [visitProperties_cons, ih hkey.2, KeyMap.get?_insertSome,
        if_neg (Ne.symm hkey.1)]

/-- In a quiet visit of properties each one is visited quietly, with the field
of its name, and gives the value there. -/
theorem visitProperties_quiet {properties : List (String × Checker)}
    (hnames : (properties.map (·.1)).Nodup) {fields values : KeyMap Json}
    {w : Walk} (hquiet : (visitProperties properties fields values w).2.2 = w)
    {property : String × Checker} (hmem : property ∈ properties) :
    let step := w.enter (.key property.1)
    let visited := visit property.2 (fields.get? property.1) step
    visited.2 = step ∧
      (visitProperties properties fields values w).1.get? property.1 =
        visited.1.or (values.get? property.1) := by
  induction properties generalizing fields values with
  | nil => exact absurd hmem List.not_mem_nil
  | cons head rest ih =>
      obtain ⟨hfresh, hrest⟩ := List.nodup_cons.mp hnames
      have hhere : (visit head.2 (fields.get? head.1)
          (w.enter (.key head.1))).2 = w.enter (.key head.1) := by
        rw [visitProperties_cons] at hquiet
        exact (visit_extends _ _ _).eq_enter
          (visitProperties_extends (fun other _ => visit_extends other.2) _ _ _)
          hquiet
      rw [visitProperties_cons, hhere, Walk.leave_enter] at hquiet ⊢
      rcases List.mem_cons.mp hmem with rfl | htail
      · refine ⟨hhere, ?_⟩
        rw [visitProperties_get?_of_not_mem hfresh, KeyMap.get?_insertSome,
          if_pos rfl]
      · have hname : property.1 ∈ rest.map (·.1) := List.mem_map_of_mem htail
        have hne : property.1 ≠ head.1 := by
          intro heq
          rw [heq] at hname
          exact hfresh hname
        have hbelow := ih hrest hquiet htail
        rw [KeyMap.get?_erase, if_neg hne, KeyMap.get?_insertSome,
          if_neg hne.symm] at hbelow
        exact hbelow

/-- The fields that an object is left with, given the values of the declared
properties and the other fields. -/
def fieldsLeft (strict : Bool) (values others : KeyMap Json) : KeyMap Json :=
  if strict then values
  else others.foldl (fun m field => m.insert field.1 field.2) values

theorem visitObject_object
    (declared : KeyMap Json → KeyMap Json → Walk →
      KeyMap Json × KeyMap Json × Walk)
    (strict : Bool) (given : KeyMap Json) (w : Walk) :
    visitObject declared strict (.object given) w =
      let seen := declared given [] w
      let after := if strict then rejectFields seen.2.1 seen.2.2 else seen.2.2
      (if w.isClean after then
        some (.object (fieldsLeft strict seen.1 seen.2.1)) else none, after) := by
  cases strict <;> rfl

/-- What is left of fields that were given: the values of the declared ones,
and the others as they were. -/
theorem get?_fieldsLeft {given values : KeyMap Json} (hgiven : given.Sorted)
    {names : List String} (key : String)
    (hvalues : key ∉ names → values.get? key = none) :
    (fieldsLeft false values
        (given.filter fun entry => entry.1 ∉ names)).get? key =
      if key ∈ names then values.get? key else given.get? key := by
  have hnodup := KeyMap.Sorted.nodup_keys
    (List.Pairwise.filter (fun entry => entry.1 ∉ names) hgiven)
  change (List.foldl _ values _).get? key = _
  rw [KeyMap.get?_foldl_insert hnodup,
    KeyMap.get?_filter given (fun k => k ∉ names)]
  by_cases hkey : key ∈ names
  · simp [hkey]
  · simp [hkey, hvalues hkey]

/-- A quiet visit of an object has visited its properties quietly, and found
no other field if the schema is strict. -/
theorem visitObject_object_quiet {properties : List (String × Checker)}
    {strict : Bool} {given : KeyMap Json} {w : Walk}
    (hquiet : (visitObject (visitProperties properties) strict (.object given)
      w).2 = w) :
    (visitProperties properties given [] w).2.2 = w ∧
      (strict → (visitProperties properties given [] w).2.1 = []) ∧
      (visitObject (visitProperties properties) strict (.object given) w).1 =
        some (.object (fieldsLeft false (visitProperties properties given [] w).1
          (visitProperties properties given [] w).2.1)) := by
  have hdeclared := visitProperties_extends
    (fun property (_ : property ∈ properties) => visit_extends property.2)
    given [] w
  rw [visitObject_object] at hquiet ⊢
  dsimp only at hquiet ⊢
  rw [hquiet, if_pos w.isClean_refl]
  cases strict with
  | false => exact ⟨hquiet, fun h => absurd h Bool.false_ne_true, rfl⟩
  | true =>
      change rejectFields _ _ = w at hquiet
      have hdone := hdeclared.eq_of_eq (rejectFields_extends _ _) hquiet
      rw [hdone] at hquiet
      have hnone := eq_nil_of_rejectFields_eq hquiet
      rw [hnone]
      exact ⟨hdone, fun _ => rfl, rfl⟩

/-- In a quiet visit of an object every declared property is visited quietly.
The other fields are left as they were, and a strict schema was given none. -/
theorem visitObject_quiet {properties : List (String × Checker)}
    (hnames : (properties.map (·.1)).Nodup) {strict : Bool} {value : Json}
    (hvalue : value.WellFormed) {w : Walk}
    (hquiet : (visitObject (visitProperties properties) strict value w).2 = w) :
    ∃ given found : KeyMap Json, value = .object given ∧
      (visitObject (visitProperties properties) strict value w).1 =
        some (.object found) ∧
      (∀ property ∈ properties,
        let step := w.enter (.key property.1)
        visit property.2 (given.get? property.1) step =
          (found.get? property.1, step)) ∧
      ∀ key, key ∉ properties.map (·.1) →
        found.get? key = given.get? key ∧ (strict → given.get? key = none) := by
  cases value with
  | object given =>
      obtain ⟨hdone, hnone, hout⟩ := visitObject_object_quiet hquiet
      have hfound := fun key => get?_fieldsLeft hvalue.1 key
        (fun (hkey : key ∉ properties.map (·.1)) =>
          visitProperties_get?_of_not_mem hkey given [] w)
      have hothers := fun key => KeyMap.get?_filter given
        (fun k => k ∉ properties.map (·.1)) key
      rw [visitProperties_others] at hnone hout
      refine ⟨given, _, rfl, hout, ?_, ?_⟩
      · intro property hmem
        obtain ⟨hstep, hget⟩ := visitProperties_quiet hnames hdone hmem
        rw [hfound, if_pos (List.mem_map_of_mem hmem), hget, KeyMap.get?_nil,
          Option.or_none]
        exact Prod.ext rfl hstep
      · intro key hkey
        refine ⟨by rw [hfound, if_neg hkey], ?_⟩
        intro hstrict
        have hother := hothers key
        rw [hnone hstrict, if_pos (decide_eq_true hkey)] at hother
        exact hother.symm
  | null => exact absurd hquiet (reject_ne _ _ w)
  | bool b => exact absurd hquiet (reject_ne _ _ w)
  | number n => exact absurd hquiet (reject_ne _ _ w)
  | string text => exact absurd hquiet (reject_ne _ _ w)
  | array items => exact absurd hquiet (reject_ne _ _ w)

end Checker

end Trellis
