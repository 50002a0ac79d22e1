import Trellis.Proofs.Schema.Quiet
import Trellis.Proofs.Schema.Relocation
/-!
What a visit reports of the parts of a value.  Of each part it reports what a check of the part alone reports, with
the place of the part in front.  So the failures of an array are those of its count and then those of its items, and
the failures of an object are those of its properties and then the fields that are not declared.
-/

namespace Trellis

/-- A failure as it is found below a place. -/
def Failure.below (place : FieldPath) (f : Failure) : Failure :=
  { f with path := place ++ f.path }

theorem Walk.failAll_eq (w : Walk) (violations : List Violation) (received : Received) :
    w.failAll violations received =
      ⟨w.path, w.failures ++ violations.map fun v => ⟨w.path, v, received⟩⟩ := by
  induction violations generalizing w with
  | nil => simp [failAll]
  | cons violation rest ih =>
      have hrest := ih (w.fail violation received)
      simp only [fail, List.append_assoc, List.singleton_append] at hrest
      exact hrest

theorem Walk.isClean_start (w : Walk) : Walk.start.isClean w ↔ w.failures = [] := by
  rw [isClean, decide_eq_true_iff, start, List.length_nil, List.length_eq_zero_iff]

namespace Checker

/-- The failures of an input that is checked alone. -/
def failures (c : Checker) (input : Option Json) : List Failure :=
  (visit c input Walk.start).2.failures

/-- What a visit of an input alone gives. -/
def output? (c : Checker) (input : Option Json) : Option Json :=
  (visit c input Walk.start).1

/-- A visit reports what a check alone reports, at the place where it is made. -/
theorem visit_eq_alone (c : Checker) (input : Option Json) (w : Walk) :
    visit c input w = (c.output? input,
      ⟨w.path, w.failures ++ (c.failures input).map (·.below w.path)⟩) := by
  have hpath : (visit c input Walk.start).2.path = [] :=
    (visit_extends c input Walk.start).path_eq
  rw [visit_eq_relocate, Walk.relocate, hpath, List.append_nil]
  rfl

theorem failures_of_visit_eq {c bare : Checker} {value : Json}
    (hvisit : ∀ w, visit c (some value) w = visit bare (some value) w) :
    c.failures (some value) = bare.failures (some value) ∧
      c.output? (some value) = bare.output? (some value) := by
  rw [failures, output?, hvisit]
  exact ⟨rfl, rfl⟩

/-- A check of an input alone, by its failures. -/
theorem checkInput_eq (c : Checker) (input : Option Json) (label : String) :
    c.checkInput input label =
      if c.failures input = [] then .ok ((c.output? input).getD .null)
      else .error ((c.failures input).map (·.toError label)) := by
  unfold checkInput
  dsimp only
  split
  · next hclean => exact (if_pos hclean).symm
  · next hfaulty => exact (if_neg hfaulty).symm

/-- A value is accepted if it has no failures, and what is given for it is what
the visit gives. -/
theorem check_eq_ok_iff_failures {c : Checker} {value out : Json} :
    c.check value = .ok out ↔
      c.failures (some value) = [] ∧ c.output? (some value) = some out := by
  rw [check_eq_ok_iff]
  constructor
  · intro hvisit
    rw [failures, output?, hvisit]
    exact ⟨rfl, rfl⟩
  · rintro ⟨hnone, hout⟩
    rw [visit_eq_alone, hnone, hout]
    rfl

theorem output?_isSome_iff (c : Checker) (value : Json) :
    (c.output? (some value)).isSome ↔ c.failures (some value) = [] := by
  have hgiven := visit_accounted c value Walk.start
  rw [visit_eq_alone] at hgiven
  simpa [Accounted, Walk.start] using hgiven

theorem failures_eq_nil_iff {c : Checker} {value : Json} :
    c.failures (some value) = [] ↔ ∃ out, c.check value = .ok out := by
  constructor
  · intro hnone
    obtain ⟨out, hout⟩ := Option.isSome_iff_exists.mp ((c.output?_isSome_iff value).mpr hnone)
    exact ⟨out, check_eq_ok_iff_failures.mpr ⟨hnone, hout⟩⟩
  · rintro ⟨out, hcheck⟩
    exact (check_eq_ok_iff_failures.mp hcheck).1

/-- What stands for an absent input, and what is reported of it. -/
theorem absent_alone (c : Checker) :
    c.output? none = c.presence.default ∧
      c.failures none = if c.presence.default.isSome ∨ c.presence.optional then []
        else [⟨[], .missing c.typeName, .nothing⟩] := by
  rw [output?, failures, visit_none, absent]
  cases hdefault : c.presence.default with
  | some value => simp [Walk.start]
  | none => cases hoptional : c.presence.optional <;> simp [Walk.start, Walk.fail]

/-- A visit accounts for its input.  It comes back to its place, keeps the failures found
before it and adds its own, which are the same whatever was found before.  For an input that
is there it gives a value exactly if it adds no failure.  For an absent one it gives the
default if there is one; without a default it gives nothing, and adds one failure unless the
input may be absent. -/
theorem visit_accounts (c : Checker) (input : Option Json) :
    ∃ (found : Option Json) (reported : List Failure),
      (∀ w : Walk, visit c input w =
        (found, ⟨w.path, w.failures ++ reported.map (·.below w.path)⟩)) ∧
      match input with
      | some _ => found.isSome ↔ reported = []
      | none =>
        match c.presence.default with
        | some value => found = some value ∧ reported = []
        | none => found = none ∧ (reported = [] ↔ c.presence.optional) ∧
            (¬ c.presence.optional → reported = [⟨[], .missing c.typeName, .nothing⟩]) := by
  refine ⟨c.output? input, c.failures input, visit_eq_alone c input, ?_⟩
  cases input with
  | some value => exact c.output?_isSome_iff value
  | none =>
      obtain ⟨hfound, hreported⟩ := c.absent_alone
      rw [hfound, hreported]
      cases c.presence.default with
      | some value => simp
      | none => cases c.presence.optional <;> simp

/-- The failures of items, each with its index in front, and the values of those
that have one. -/
theorem visitItems_eq_alone (item : Checker) (index : Nat) (items : List Json) (w : Walk) :
    visitItems (visit item) index items w =
      (items.filterMap fun value => item.output? (some value),
        ⟨w.path, w.failures ++ (items.zipIdx index).flatMap fun entry =>
          (item.failures (some entry.1)).map (·.below (w.path ++ [.index entry.2]))⟩) := by
  induction items generalizing index w with
  | nil => simp [visitItems]
  | cons value rest ih =>
      have hleave : (visit item (some value) (w.enter (.index index))).2.leave =
          ⟨w.path, w.failures ++ (item.failures (some value)).map
            (·.below (w.path ++ [.index index]))⟩ := by
        rw [visit_eq_alone]
        simp [Walk.leave, Walk.enter]
      have hhere : (visit item (some value) (w.enter (.index index))).1 =
          item.output? (some value) := by
        rw [visit_eq_alone]
      simp only [visitItems, hleave, hhere, ih, List.zipIdx_cons, List.flatMap_cons,
        List.append_assoc]
      cases hout : item.output? (some value) with
      | none => simp [hout]
      | some out => simp [hout]

/-- The failures of an array: those of its count, and then those of its items in
order, each with its index in front. -/
def listFailures (item : Checker) (count : CountRules) (items : List Json) : List Failure :=
  (countViolations count items.length).map
      (fun violation => ⟨[], violation, .items items.length⟩) ++
    items.zipIdx.flatMap fun entry =>
      (item.failures (some entry.1)).map (·.below [.index entry.2])

/-- An array without failures gives the values of its items. -/
theorem visit_list {p : Presence} {item : Checker} {count : CountRules} {value : Json}
    {items : List Json} (hnull : value.isNull = false)
    (hitems : itemsOf? value = some items) :
    visit (.list p item count) (some value) Walk.start =
      (if listFailures item count items = [] then
          some (.array (items.filterMap fun value => item.output? (some value)))
        else none,
        ⟨[], listFailures item count items⟩) := by
  have hafter : visitItems (visit item) 0 items
      (Walk.start.failAll (countViolations count items.length) (.items items.length)) =
        (items.filterMap fun value => item.output? (some value),
          ⟨[], listFailures item count items⟩) := by
    simp only [visitItems_eq_alone, Walk.failAll_eq, Walk.start, List.nil_append,
      listFailures]
  rw [visit_eq_visitKind hnull, visitKind, visitArray, hitems]
  simp only [hafter, Walk.isClean_start]

theorem listFailures_eq_nil_iff {item : Checker} {count : CountRules}
    {items : List Json} :
    listFailures item count items = [] ↔
      countViolations count items.length = [] ∧
        ∀ value ∈ items, item.failures (some value) = [] := by
  rw [listFailures, List.append_eq_nil_iff, List.map_eq_nil_iff, List.flatMap_eq_nil_iff]
  refine and_congr_right fun _ => ?_
  constructor
  · intro hentries value hvalue
    obtain ⟨index, hlt, rfl⟩ := List.getElem_of_mem hvalue
    exact List.map_eq_nil_iff.mp
      (hentries (items[index], index) (List.mk_mem_zipIdx_iff_getElem?.mpr (by simp [hlt])))
  · intro hvalues entry hentry
    exact List.map_eq_nil_iff.mpr (hvalues entry.1 (List.fst_mem_of_mem_zipIdx hentry))

theorem failures_list {p : Presence} {item : Checker} (count : CountRules) {value : Json}
    {items : List Json} (hitems : itemsOf? value = some items) :
    failures (.list p item count) (some value) = listFailures item count items := by
  have hnull : value.isNull = false := by
    cases value with
    | null => contradiction
    | _ => rfl
  rw [failures, visit_list hnull hitems]

/-! The failures of objects. -/

/-- Undeclared fields are reported in their order, each at its name. -/
theorem rejectFields_eq (fields : KeyMap Json) (w : Walk) :
    rejectFields fields w = ⟨w.path, w.failures ++ fields.map fun field =>
      ⟨w.path ++ [.key field.1], .undeclared, .value field.2⟩⟩ := by
  induction fields generalizing w with
  | nil => simp [rejectFields]
  | cons field rest ih => simp [rejectFields, ih, Walk.leave, Walk.fail, Walk.enter]

/-- The failures of declared properties are those of each one alone, with its
name in front. -/
theorem visitProperties_eq_alone {properties : List (String × Checker)}
    (hnames : (properties.map (·.1)).Nodup) (fields values : KeyMap Json) (w : Walk) :
    (visitProperties properties fields values w).2.2 =
      ⟨w.path, w.failures ++ properties.flatMap fun property =>
        (property.2.failures (fields.get? property.1)).map
          (·.below (w.path ++ [.key property.1]))⟩ := by
  induction properties generalizing fields values w with
  | nil => simp [visitProperties]
  | cons property rest ih =>
      obtain ⟨hfresh, hrest⟩ := List.nodup_cons.mp hnames
      have hleave : (visit property.2 (fields.get? property.1)
          (w.enter (.key property.1))).2.leave =
            ⟨w.path, w.failures ++ (property.2.failures (fields.get? property.1)).map
              (·.below (w.path ++ [.key property.1]))⟩ := by
        rw [visit_eq_alone]
        simp [Walk.leave, Walk.enter]
      have hothers : ∀ other ∈ rest,
          (fields.erase property.1).get? other.1 = fields.get? other.1 := by
        intro other hother
        rw [KeyMap.get?_erase, if_neg]
        rintro heq
        exact hfresh (List.mem_map.mpr ⟨other, hother, heq⟩)
      rw [visitProperties_cons, ih hrest, hleave, List.flatMap_cons, List.append_assoc]
      congr 3
      exact List.flatMap_congr fun other hother => by rw [hothers other hother]

/-- The fields of an object that are not declared. -/
def undeclared (names : List String) (given : KeyMap Json) : KeyMap Json :=
  given.filter fun field => field.1 ∉ names

theorem undeclared_sorted (names : List String) {given : KeyMap Json}
    (hgiven : given.Sorted) : (undeclared names given).Sorted :=
  List.Pairwise.filter _ hgiven

/-- The failures of an object: those of its declared properties in order, each
with its name in front, and under a strict schema one for each other field. -/
def recordFailures (properties : List (String × Checker)) (strict : Bool)
    (given : KeyMap Json) : List Failure :=
  (properties.flatMap fun property =>
      (property.2.failures (given.get? property.1)).map (·.below [.key property.1])) ++
    if strict then (undeclared (properties.map (·.1)) given).map fun field =>
      ⟨[.key field.1], .undeclared, .value field.2⟩
    else []

theorem failures_record {p : Presence} {properties : List (String × Checker)}
    (hnames : (properties.map (·.1)).Nodup) (strict : Bool) (given : KeyMap Json) :
    failures (.record p properties strict) (some (.object given)) =
      recordFailures properties strict given := by
  rw [failures, visit_eq_visitKind rfl, visitKind, visitObject_object]
  simp only [visitProperties_others, visitProperties_eq_alone hnames, rejectFields_eq,
    recordFailures, undeclared, Walk.start, List.nil_append]
  cases strict <;> simp

end Checker

namespace Schema

/-- The checker of an array schema visits values as an array of what the checker
of its items accepts. -/
theorem exists_item_of_compile {path : FieldPath} {p : Presence} {item : Schema}
    {count : CountRules} {c : Checker}
    (hcompile : compileAt path (.list p item count) = .ok c) :
    ∃ one : Checker, item.compile = .ok one ∧ ∀ value w, Checker.visit c (some value) w =
      Checker.visit (.list { p with default := none } one count) (some value) w := by
  obtain ⟨-, bare, hbare, hsame⟩ := compileAt_eq_ok hcompile
  obtain ⟨one, hone, rfl⟩ := Except.map_eq_ok_iff.mp hbare
  exact ⟨one, compileAt_relocate hone [], hsame⟩

end Schema

end Trellis
