import Trellis.Proofs.Schema.Compile
/-!
Visits do the same at every place.  What a visit gives, and the failures that it reports, do not depend on the
place where it is made and on the failures reported before; only the paths of its failures begin at that place.
So a schema has the same checker wherever it stands.
-/

namespace Trellis

namespace Walk

/-- A walk that goes on from another one: the paths of its own failures begin
where that one has come to. -/
def relocate (base w : Walk) : Walk :=
  ⟨base.path ++ w.path,
    base.failures ++
      w.failures.map fun failure => { failure with path := base.path ++ failure.path }⟩

variable (base : Walk)

theorem relocate_start : base.relocate start = base := by
  simp [relocate, start]

theorem relocate_enter (w : Walk) (step : FieldStep) :
    base.relocate (w.enter step) = (base.relocate w).enter step := by
  simp [relocate, enter]

theorem relocate_leave {w : Walk} (hpath : w.path ≠ []) :
    base.relocate w.leave = (base.relocate w).leave := by
  simp [relocate, leave, List.dropLast_append_of_ne_nil hpath]

theorem relocate_fail (w : Walk) (violation : Violation) (received : Received) :
    base.relocate (w.fail violation received) =
      (base.relocate w).fail violation received := by
  simp [relocate, fail]

theorem relocate_failAll (w : Walk) (violations : List Violation)
    (received : Received) :
    base.relocate (w.failAll violations received) =
      (base.relocate w).failAll violations received := by
  induction violations generalizing w with
  | nil => rfl
  | cons violation rest ih =>
      have hrest := ih (w.fail violation received)
      rw [relocate_fail] at hrest
      exact hrest

theorem isClean_relocate (before after : Walk) :
    (base.relocate before).isClean (base.relocate after) = before.isClean after := by
  simp [relocate, isClean]

/-- What is done in a walk is done in the same way in every walk that goes on
from another one. -/
def Relocates {α : Type} (run : Walk → α × Walk) : Prop :=
  ∀ base w : Walk, run (base.relocate w) = ((run w).1, base.relocate (run w).2)

end Walk

namespace Checker

theorem reject_relocates (type : TypeName) (value : Json) :
    Walk.Relocates (reject type value) := by
  intro base w
  rw [reject, reject, Walk.relocate_fail]

theorem conclude_relocates (value : Json) (violations : List Violation)
    (received : Json) : Walk.Relocates (conclude value violations received) := by
  intro base w
  rw [conclude, conclude, Walk.relocate_failAll]

theorem visitString_relocates (rules : StringRules CompiledPattern)
    (value : Json) : Walk.Relocates (visitString rules value) := by
  intro base w
  unfold visitString
  split
  · exact conclude_relocates _ _ _ base w
  · exact reject_relocates _ _ base w

theorem visitNumber_relocates (rules : NumberRules) (value : Json) :
    Walk.Relocates (visitNumber rules value) := by
  intro base w
  unfold visitNumber
  split
  · exact reject_relocates _ _ base w
  · split
    · split
      · exact reject_relocates _ _ base w
      · exact conclude_relocates _ _ _ base w
    · exact conclude_relocates _ _ _ base w

theorem visitBoolean_relocates (value : Json) :
    Walk.Relocates (visitBoolean value) := by
  intro base w
  unfold visitBoolean
  split
  · rfl
  · rfl
  · rfl
  · exact reject_relocates _ _ base w

theorem absent_relocates (c : Checker) : Walk.Relocates (absent c) := by
  intro base w
  unfold absent
  split
  · rfl
  · split
    · rfl
    · rw [Walk.relocate_fail]

/-- A visit below a step relocates together with the step. -/
theorem relocate_leave_of_extends (base : Walk) {w below : Walk} {step : FieldStep}
    (hbelow : (w.enter step).Extends below) :
    base.relocate below.leave = (base.relocate below).leave := by
  apply Walk.relocate_leave
  rw [hbelow.path_eq]
  exact List.append_ne_nil_of_right_ne_nil _ (List.cons_ne_nil _ _)

section Parts

variable {item : Option Json → Walk → Option Json × Walk}

theorem visitItems_relocates
    (hextends : ∀ input (w : Walk), w.Extends (item input w).2)
    (hitem : ∀ input, Walk.Relocates (item input)) (index : Nat)
    (items : List Json) : Walk.Relocates (visitItems item index items) := by
  intro base w
  induction items generalizing index w with
  | nil => rfl
  | cons value rest ih =>
      have hleave := relocate_leave_of_extends base
        (hextends (some value) (w.enter (.index index)))
      simp only [visitItems]
      rw [← Walk.relocate_enter, hitem, ← hleave, ih]

theorem visitArray_relocates
    (hextends : ∀ input (w : Walk), w.Extends (item input w).2)
    (hitem : ∀ input, Walk.Relocates (item input)) (count : CountRules)
    (value : Json) : Walk.Relocates (visitArray item count value) := by
  intro base w
  unfold visitArray
  split
  · exact reject_relocates _ _ base w
  · dsimp only
    rw [← Walk.relocate_failAll, visitItems_relocates hextends hitem,
      Walk.isClean_relocate]

end Parts

theorem visitProperties_relocates {properties : List (String × Checker)}
    (hvisit : ∀ property ∈ properties, ∀ input,
      Walk.Relocates (visit property.2 input))
    (fields values : KeyMap Json) (base w : Walk) :
    visitProperties properties fields values (base.relocate w) =
      ((visitProperties properties fields values w).1,
        (visitProperties properties fields values w).2.1,
        base.relocate (visitProperties properties fields values w).2.2) := by
  induction properties generalizing fields values w with
  | nil => rfl
  | cons property rest ih =>
      have hleave := relocate_leave_of_extends base
        (visit_extends property.2 (fields.get? property.1)
          (w.enter (.key property.1)))
      rw [visitProperties_cons, visitProperties_cons, ← Walk.relocate_enter,
        hvisit property List.mem_cons_self, ← hleave,
        ih fun other hother => hvisit other (List.mem_cons_of_mem property hother)]

theorem rejectFields_relocate (fields : KeyMap Json) (base w : Walk) :
    rejectFields fields (base.relocate w) =
      base.relocate (rejectFields fields w) := by
  induction fields generalizing w with
  | nil => rfl
  | cons entry rest ih =>
      have hleave := relocate_leave_of_extends base
        ((w.enter (.key entry.1)).fail_extends .undeclared (.value entry.2))
      rw [Walk.relocate_fail, Walk.relocate_enter] at hleave
      rw [rejectFields, rejectFields, ← hleave, ih]

theorem visitObject_relocates {properties : List (String × Checker)}
    (hvisit : ∀ property ∈ properties, ∀ input,
      Walk.Relocates (visit property.2 input)) (strict : Bool) (value : Json) :
    Walk.Relocates (visitObject (visitProperties properties) strict value) := by
  intro base w
  cases value with
  | object given =>
      rw [visitObject_object, visitObject_object]
      dsimp only
      rw [visitProperties_relocates hvisit]
      cases strict with
      | false => simp [Walk.isClean_relocate]
      | true => simp [rejectFields_relocate, Walk.isClean_relocate]
  | null => exact reject_relocates _ _ base w
  | bool b => exact reject_relocates _ _ base w
  | number n => exact reject_relocates _ _ base w
  | string text => exact reject_relocates _ _ base w
  | array items => exact reject_relocates _ _ base w

theorem visit_relocates_of_kind {c : Checker}
    (hkind : ∀ value, Walk.Relocates (visitKind c value))
    (input : Option Json) : Walk.Relocates (visit c input) := by
  intro base w
  cases input with
  | none =>
      rw [visit_none, visit_none]
      exact absent_relocates c base w
  | some value =>
      rw [visit_some, visit_some]
      split
      · rfl
      · exact hkind value base w

/-- A visit does the same at every place. -/
theorem visit_relocates (c : Checker) (input : Option Json) :
    Walk.Relocates (visit c input) := by
  induction c using SchemaOf.induction generalizing input with
  | text p rules =>
      apply visit_relocates_of_kind
      exact visitString_relocates rules
  | numeric p rules =>
      apply visit_relocates_of_kind
      exact visitNumber_relocates rules
  | truth p =>
      apply visit_relocates_of_kind
      exact visitBoolean_relocates
  | list p items count ih =>
      apply visit_relocates_of_kind
      exact visitArray_relocates (visit_extends items) ih count
  | record p properties strict ih =>
      apply visit_relocates_of_kind
      exact visitObject_relocates ih strict
  | anything p =>
      apply visit_relocates_of_kind
      exact fun _ _ _ => rfl

/-- A visit is the one from the start, relocated. -/
theorem visit_eq_relocate (c : Checker) (input : Option Json) (w : Walk) :
    visit c input w =
      ((visit c input Walk.start).1, w.relocate (visit c input Walk.start).2) := by
  have hvisit := visit_relocates c input w Walk.start
  rwa [Walk.relocate_start] at hvisit

/-- A visit that is quiet in one walk is quiet in every walk, and gives the
same there. -/
theorem visit_quiet_of_quiet {c : Checker} {input found : Option Json}
    {w : Walk} (hvisit : visit c input w = (found, w)) (other : Walk) :
    visit c input other = (found, other) := by
  have hfrom := visit_eq_relocate c input w
  rw [hvisit] at hfrom
  obtain ⟨hfound, hw⟩ := Prod.mk.inj hfrom
  have hnone : (visit c input Walk.start).2.failures = [] := by
    have hfailures := congrArg Walk.failures hw
    simpa [Walk.relocate] using hfailures
  have hstart := (visit_extends c input Walk.start).eq_of_failures hnone
  rw [visit_eq_relocate, ← hfound]
  exact Prod.ext rfl ((congrArg other.relocate hstart).trans other.relocate_start)

end Checker

namespace Schema

theorem compileDefault_relocate {path : FieldPath} {p : Presence}
    {bare c : Checker} (hcompile : compileDefault path p bare = .ok c)
    (other : FieldPath) : compileDefault other p bare = .ok c := by
  unfold compileDefault at hcompile ⊢
  split
  · next hnone =>
      rw [hnone] at hcompile
      exact hcompile
  · next value hsome =>
      rw [hsome] at hcompile
      dsimp only at hcompile ⊢
      split at hcompile
      · next hclean =>
          have hquiet : Checker.visit bare (some value) ⟨path, []⟩ =
              ((Checker.visit bare (some value) ⟨path, []⟩).1, ⟨path, []⟩) :=
            Prod.ext rfl ((Checker.visit_extends _ _ _).eq_of_failures hclean)
          rw [Checker.visit_quiet_of_quiet hquiet ⟨other, []⟩]
          exact hcompile
      · contradiction

theorem compileRules_relocate {path : FieldPath} {rules : StringRules String}
    {compiled : StringRules CompiledPattern}
    (hcompile : compileRules path rules = .ok compiled) (other : FieldPath) :
    compileRules other rules = .ok compiled := by
  unfold compileRules at hcompile ⊢
  split
  · next hnone =>
      rw [hnone] at hcompile
      exact hcompile
  · next text hsome =>
      rw [hsome] at hcompile
      obtain ⟨pattern, hread, rfl⟩ := Except.map_eq_ok_iff.mp hcompile
      unfold compilePattern at hread
      split at hread
      · next regex hregex =>
          obtain rfl := Except.ok.inj hread
          simp [compilePattern, hregex, Except.map]
      · contradiction

theorem compileProperties_relocate {properties : List (String × Schema)}
    (hpart : ∀ property ∈ properties, ∀ path c,
      compileAt path property.2 = .ok c → ∀ other,
        compileAt other property.2 = .ok c)
    {path : FieldPath} {checkers : List (String × Checker)}
    (hcompile : compileProperties path properties = .ok checkers)
    (other : FieldPath) : compileProperties other properties = .ok checkers := by
  induction properties generalizing checkers with
  | nil => exact hcompile
  | cons property rest ih =>
      rw [compileProperties] at hcompile ⊢
      obtain ⟨c, hc, hrest⟩ := Except.bind_eq_ok_iff.mp hcompile
      obtain ⟨others, hothers, rfl⟩ := Except.map_eq_ok_iff.mp hrest
      refine Except.bind_eq_ok_iff.mpr
        ⟨c, hpart property List.mem_cons_self _ c hc _, ?_⟩
      refine Except.map_eq_ok_iff.mpr ⟨others, ?_, rfl⟩
      exact ih (fun next hnext => hpart next (List.mem_cons_of_mem _ hnext))
        hothers

/-- A schema has the same checker at every place. -/
theorem compileAt_relocate {s : Schema} {path : FieldPath} {c : Checker}
    (hcompile : compileAt path s = .ok c) (other : FieldPath) :
    compileAt other s = .ok c := by
  induction s using SchemaOf.induction generalizing path c other with
  | text p rules =>
      obtain ⟨compiled, hcompiled, hdefault⟩ := Except.bind_eq_ok_iff.mp hcompile
      exact Except.bind_eq_ok_iff.mpr ⟨compiled,
        compileRules_relocate hcompiled other,
        compileDefault_relocate hdefault other⟩
  | numeric p rules => exact compileDefault_relocate hcompile other
  | truth p => exact compileDefault_relocate hcompile other
  | list p items count ih =>
      obtain ⟨item, hitem, hdefault⟩ := Except.bind_eq_ok_iff.mp hcompile
      exact Except.bind_eq_ok_iff.mpr ⟨item, ih hitem _,
        compileDefault_relocate hdefault other⟩
  | record p properties strict ih =>
      obtain ⟨checkers, hcheckers, hdefault⟩ := Except.bind_eq_ok_iff.mp hcompile
      refine Except.bind_eq_ok_iff.mpr ⟨checkers, ?_,
        compileDefault_relocate hdefault other⟩
      exact compileProperties_relocate
        (fun property hmem _ _ hc next => ih property hmem hc next) hcheckers other
  | anything p => exact compileDefault_relocate hcompile other

end Schema

end Trellis
