import Trellis.Proofs.Schema.Fits
import Trellis.Proofs.Schema.Parts
/-!
What is reported of an input, part by part.  The failures of an object are those of its properties in order, each one
checked alone, and then the fields that a strict schema does not know; those of an array are those of its count and
then of its items.  So inputs that differ at one place differ in the failures at that place and below it alone.  And
every failure is put into words: none of its texts is empty, and the message begins with the field.
-/

namespace Trellis

namespace Json

theorem positionalChars_ne_nil (d : Decimal) : Layout.positionalChars true d ≠ [] := by
  unfold Layout.positionalChars
  dsimp only
  split
  · simp
  · split <;> simp

theorem numberText_ne (n : Number) : numberText n ≠ "" := by
  cases n with
  | whole n => cases hval : n.val <;> simp [numberText, hval, toString, Int.repr, Nat.repr]
  | double d =>
      have hmagnitude : Layout.json.magnitudeChars d.shortest ≠ [] := by
        simp only [Layout.magnitudeChars, Layout.json]
        split
        · exact positionalChars_ne_nil _
        · simp [Layout.scientificChars]
      cases hsign : d.negative <;> simp [numberText, Layout.write, hsign, hmagnitude]

theorem chars_ne_nil (j : Json) : j.chars ≠ [] := by
  cases j with
  | null => simp [chars]
  | bool b => cases b <;> simp [chars]
  | number n => simpa [chars] using numberText_ne n
  | string s => simp [chars, quoteChars]
  | array items => cases items <;> simp [chars]
  | object fields => cases fields <;> simp [chars]

end Json

namespace Violation

theorem expected_ne (v : Violation) : v.expected ≠ "" := by
  cases v with
  | missing type => cases type <;> simp [expected, TypeName.name]
  | wrongType type => cases type <;> simp [expected, TypeName.name]
  | badFormat format => cases format <;> simp [expected, StringFormat.name]
  | _ => simp [expected]

end Violation

theorem Received.text_ne (r : Received) : r.text ≠ "" := by
  cases r with
  | nothing => simp [text]
  | items count => simp [text]
  | value j =>
      rw [text, describe]
      split
      · simpa using Json.chars_ne_nil j
      · simp

namespace Failure

/-- The texts of an error say something, and its message begins with its field. -/
theorem toError_texts (label : String) (f : Failure) :
    let error := f.toError label
    error.expected ≠ "" ∧ error.received ≠ "" ∧
      ∃ phrase, error.message = error.field ++ phrase :=
  ⟨f.violation.expected_ne, f.received.text_ne, " " ++ f.violation.phrase,
    String.append_assoc⟩

/-- The failures that lie neither at a place nor below it. -/
def beyond (place : FieldPath) (fs : List Failure) : List Failure :=
  fs.filter fun f => ¬ place <+: f.path

theorem beyond_append (place : FieldPath) (first second : List Failure) :
    beyond place (first ++ second) = beyond place first ++ beyond place second :=
  List.filter_append first second

theorem beyond_nil (fs : List Failure) : beyond [] fs = [] := by
  simp [beyond]

theorem beyond_map_below (step : FieldStep) (place : FieldPath) (fs : List Failure) :
    beyond (step :: place) (fs.map (·.below [step])) =
      (beyond place fs).map (·.below [step]) := by
  simp [beyond, List.filter_map, Function.comp_def, below]

end Failure

namespace Checker

/-- Objects that differ in one field have the same other undeclared fields. -/
theorem erase_undeclared (names : List String) {name : String}
    {first second : KeyMap Json} (hfirst : first.Sorted) (hsecond : second.Sorted)
    (hsame : ∀ key, key ≠ name → first.get? key = second.get? key) :
    (undeclared names first).erase name = (undeclared names second).erase name := by
  apply ((undeclared_sorted names hfirst).erase name).ext
    ((undeclared_sorted names hsecond).erase name)
  intro key
  rw [KeyMap.get?_erase, KeyMap.get?_erase]
  by_cases hkey : key = name
  · rw [if_pos hkey, if_pos hkey]
  · rw [if_neg hkey, if_neg hkey, undeclared, undeclared,
      KeyMap.get?_filter first fun k => k ∉ names,
      KeyMap.get?_filter second fun k => k ∉ names, hsame key hkey]

theorem beyond_undeclared {names : List String} {name : String} {place : FieldPath}
    (hplace : name ∈ names ∨ place = []) (given : KeyMap Json) :
    Failure.beyond (.key name :: place) ((undeclared names given).map fun field =>
        ⟨[.key field.1], .undeclared, .value field.2⟩) =
      ((undeclared names given).erase name).map fun field =>
        ⟨[.key field.1], .undeclared, .value field.2⟩ := by
  rw [Failure.beyond, List.filter_map, KeyMap.erase]
  apply congrArg
  apply List.filter_congr
  intro field hfield
  have hundeclared : field.1 ∉ names := of_decide_eq_true (List.mem_filter.mp hfield).2
  rw [Function.comp_apply, decide_eq_decide, not_iff_not, List.cons_prefix_cons,
    List.prefix_nil, FieldStep.key.injEq]
  constructor
  · rintro ⟨hname, -⟩
    exact hname.symm
  · rintro rfl
    exact ⟨rfl, hplace.resolve_left hundeclared⟩

end Checker

namespace Schema

/-- Checkers are those of properties, in order: each has the name of its property
and is what the schema of the property compiles to alone. -/
def CheckersOf : List (String × Schema) → List (String × Checker) → Prop :=
  List.Forall₂ fun property part => part.1 = property.1 ∧ property.2.compile = .ok part.2

theorem checkersOf_of_compileProperties {path : FieldPath}
    {properties : List (String × Schema)} {checkers : List (String × Checker)}
    (hcompile : compileProperties path properties = .ok checkers) :
    CheckersOf properties checkers := by
  induction properties generalizing checkers with
  | nil =>
      obtain rfl := Except.ok.inj hcompile
      exact List.Forall₂.nil
  | cons property rest ih =>
      rw [compileProperties] at hcompile
      obtain ⟨c, hc, hrest⟩ := Except.bind_eq_ok_iff.mp hcompile
      obtain ⟨others, hothers, rfl⟩ := Except.map_eq_ok_iff.mp hrest
      exact List.Forall₂.cons ⟨rfl, compileAt_relocate hc []⟩ (ih hothers)

/-- The checker of an object schema reports what the checkers of its properties
report. -/
theorem failures_of_record {path : FieldPath} {p : Presence}
    {properties : List (String × Schema)} {strict : Bool} {c : Checker}
    (hnames : (properties.map (·.1)).Nodup)
    (hcompile : compileAt path (.record p properties strict) = .ok c) :
    ∃ parts, compileProperties path properties = .ok parts ∧
      ∀ given : KeyMap Json, c.failures (some (.object given)) =
        Checker.recordFailures parts strict given := by
  obtain ⟨-, bare, hbare, hsame⟩ := compileAt_eq_ok hcompile
  obtain ⟨parts, hparts, rfl⟩ := Except.map_eq_ok_iff.mp hbare
  obtain ⟨hpartNames, -⟩ := compileProperties_eq_ok hparts
  rw [← hpartNames] at hnames
  refine ⟨parts, hparts, fun given => ?_⟩
  rw [(Checker.failures_of_visit_eq (hsame (.object given))).1,
    Checker.failures_record hnames]

theorem failures_of_list {path : FieldPath} {p : Presence} {items : Schema}
    {count : CountRules} {c : Checker}
    (hcompile : compileAt path (.list p items count) = .ok c) :
    ∃ item, items.compile = .ok item ∧ ∀ value given,
      Checker.itemsOf? value = some given →
        c.failures (some value) = Checker.listFailures item count given := by
  obtain ⟨item, hitem, hvisit⟩ := exists_item_of_compile hcompile
  refine ⟨item, hitem, fun value given hgiven => ?_⟩
  rw [(Checker.failures_of_visit_eq (hvisit value)).1, Checker.failures_list count hgiven]

/-! Inputs that differ at one place. -/

/-- Two inputs are the same but for what they have at a place.  The way there
leads through declared properties and items; at its end may be any field. -/
inductive DifferAt : Schema → FieldPath → Option Json → Option Json → Prop
  | here {s : Schema} {first second : Option Json} : DifferAt s [] first second
  | property {p : Presence} {properties : List (String × Schema)} {strict : Bool}
      {name : String} {s : Schema} {place : FieldPath} {first second : KeyMap Json}
      (hmem : (name, s) ∈ properties) (hfirst : first.Sorted) (hsecond : second.Sorted)
      (hsame : ∀ key, key ≠ name → first.get? key = second.get? key)
      (hbelow : DifferAt s place (first.get? name) (second.get? name)) :
      DifferAt (.record p properties strict) (.key name :: place)
        (some (.object first)) (some (.object second))
  | other {p : Presence} {properties : List (String × Schema)} {strict : Bool}
      {name : String} {first second : KeyMap Json}
      (hname : name ∉ properties.map (·.1)) (hfirst : first.Sorted)
      (hsecond : second.Sorted)
      (hsame : ∀ key, key ≠ name → first.get? key = second.get? key) :
      DifferAt (.record p properties strict) [.key name]
        (some (.object first)) (some (.object second))
  | item {p : Presence} {items : Schema} {count : CountRules} {place : FieldPath}
      {before after : List Json} {first second : Json}
      (hbelow : DifferAt items place (some first) (some second)) :
      DifferAt (.list p items count) (.index before.length :: place)
        (some (.array (before ++ first :: after))) (some (.array (before ++ second :: after)))

open Failure (beyond)

/-- Objects that differ in one field differ in the failures of that field. -/
theorem beyond_recordFailures {parts : List (String × Checker)} {name : String}
    {place : FieldPath} {first second : KeyMap Json} (hfirst : first.Sorted)
    (hsecond : second.Sorted) (hsame : ∀ key, key ≠ name → first.get? key = second.get? key)
    (hplace : name ∈ parts.map (·.1) ∨ place = [])
    (hpart : ∀ part ∈ parts, part.1 = name →
      beyond place (part.2.failures (first.get? name)) =
        beyond place (part.2.failures (second.get? name))) (strict : Bool) :
    beyond (.key name :: place) (Checker.recordFailures parts strict first) =
      beyond (.key name :: place) (Checker.recordFailures parts strict second) := by
  rw [Checker.recordFailures, Checker.recordFailures, Failure.beyond_append,
    Failure.beyond_append]
  have hdeclared : ∀ part ∈ parts,
      beyond (.key name :: place) ((part.2.failures (first.get? part.1)).map
          (·.below [.key part.1])) =
        beyond (.key name :: place) ((part.2.failures (second.get? part.1)).map
          (·.below [.key part.1])) := by
    intro part hmem
    by_cases hname : part.1 = name
    · rw [hname, Failure.beyond_map_below, Failure.beyond_map_below, hpart part hmem hname]
    · rw [hsame part.1 hname]
  congr 1
  · rw [beyond, beyond, List.filter_flatMap, List.filter_flatMap]
    exact List.flatMap_congr hdeclared
  · cases strict with
    | false => rfl
    | true =>
        rw [if_pos rfl, if_pos rfl, Checker.beyond_undeclared hplace,
          Checker.beyond_undeclared hplace,
          Checker.erase_undeclared _ hfirst hsecond hsame]

/-- Arrays that differ in one item differ in the failures of that item. -/
theorem beyond_listFailures {item : Checker} {place : FieldPath} {first second : Json}
    (hitem : beyond place (item.failures (some first)) =
      beyond place (item.failures (some second)))
    (count : CountRules) (before after : List Json) :
    beyond (.index before.length :: place)
        (Checker.listFailures item count (before ++ first :: after)) =
      beyond (.index before.length :: place)
        (Checker.listFailures item count (before ++ second :: after)) := by
  simp only [Checker.listFailures, List.length_append, List.length_cons,
    List.zipIdx_append, List.zipIdx_cons, List.flatMap_append, List.flatMap_cons,
    Failure.beyond_append, Nat.zero_add, Failure.beyond_map_below, hitem]

/-- Inputs that differ at one place have the same failures beyond it, in the same
order.  The induction is on the way to the place. -/
theorem beyond_failures_eq {s : Schema} {place : FieldPath} {first second : Option Json}
    (hdiffer : s.DifferAt place first second) (hnames : s.DistinctNames)
    {path : FieldPath} {c : Checker} (hcompile : compileAt path s = .ok c) :
    beyond place (c.failures first) = beyond place (c.failures second) := by
  induction hdiffer generalizing path c with
  | here => rw [Failure.beyond_nil, Failure.beyond_nil]
  | property hmem hfirst hsecond hsame _ ih =>
      obtain ⟨parts, hparts, hreport⟩ := failures_of_record hnames.1 hcompile
      obtain ⟨hpartNames, -⟩ := compileProperties_eq_ok hparts
      rw [hreport, hreport]
      have hname := hpartNames ▸ List.mem_map_of_mem hmem
      apply beyond_recordFailures hfirst hsecond hsame (Or.inl hname)
      intro part hpart hpartName
      -- the name is declared once, so the part under it is that of the schema on the way
      obtain ⟨property, hproperty, heq, hc⟩ := exists_property_of_mem hparts hpart
      obtain rfl := List.inj_on_of_nodup_map hnames.1 hproperty hmem (heq.trans hpartName)
      exact ih (SchemaOf.everywhereIn_iff.mp hnames.2 _ hmem) hc
  | other _ hfirst hsecond hsame =>
      obtain ⟨parts, -, hreport⟩ := failures_of_record hnames.1 hcompile
      rw [hreport, hreport]
      apply beyond_recordFailures hfirst hsecond hsame (Or.inr rfl)
      intro part _ _
      rw [Failure.beyond_nil, Failure.beyond_nil]
  | item _ ih =>
      obtain ⟨item, hitem, hreport⟩ := failures_of_list hcompile
      rw [hreport _ _ rfl, hreport _ _ rfl]
      exact beyond_listFailures (ih hnames.2 hitem) _ _ _

/-- What is reported of an input.  An input is rejected for its failures, each put
into words.  The failures of an object are those of its properties, each one checked
alone, and of undeclared fields in the order of keys; those of an array are those of
its count and of its items.  What changes at one place leaves all other failures as
they are. -/
theorem report_by_parts {s : Schema} (hnames : s.DistinctNames) {c : Checker}
    (hcompile : s.compile = .ok c) :
    (∀ input label errors, c.checkInput input label = .error errors ↔
      c.failures input ≠ [] ∧ errors = (c.failures input).map (·.toError label)) ∧
    (∀ input label errors, c.checkInput input label = .error errors →
      ∀ error ∈ errors, error.expected ≠ "" ∧ error.received ≠ "" ∧
        ∃ phrase, error.message = error.field ++ phrase) ∧
    (∀ p properties strict, s = .record p properties strict →
      ∃ parts, CheckersOf properties parts ∧ ∀ given : KeyMap Json,
        c.failures (some (.object given)) = Checker.recordFailures parts strict given ∧
        (given.Sorted → (Checker.undeclared (parts.map (·.1)) given).Sorted)) ∧
    (∀ p (items : Schema) count, s = .list p items count →
      ∃ item, items.compile = .ok item ∧ ∀ value given,
        Checker.itemsOf? value = some given →
          c.failures (some value) = Checker.listFailures item count given) ∧
    ∀ place first second, s.DifferAt place first second →
      beyond place (c.failures first) = beyond place (c.failures second) := by
  have hrejected : ∀ input label errors, c.checkInput input label = .error errors ↔
      c.failures input ≠ [] ∧ errors = (c.failures input).map (·.toError label) := by
    intro input label errors
    rw [Checker.checkInput_eq]
    split
    · next hnone => simp [hnone]
    · next hsome => simp [hsome, eq_comm]
  refine ⟨hrejected, ?texts, ?record, ?list, fun _ _ _ hdiffer =>
    beyond_failures_eq hdiffer hnames hcompile⟩
  case texts =>
    intro input label errors herrors error hmem
    obtain ⟨-, rfl⟩ := (hrejected input label errors).mp herrors
    obtain ⟨f, -, rfl⟩ := List.mem_map.mp hmem
    exact f.toError_texts label
  case record =>
    rintro p properties strict rfl
    obtain ⟨parts, hparts, hreport⟩ := failures_of_record hnames.1 hcompile
    exact ⟨parts, checkersOf_of_compileProperties hparts, fun given =>
      ⟨hreport given, Checker.undeclared_sorted _⟩⟩
  case list =>
    rintro p items count rfl
    exact failures_of_list hcompile

/-- A missing name, too many tags, a tag of the wrong type and a field too many are
all reported, in this order.  Another tag changes what is said of that tag alone. -/
theorem report_by_parts_strict :
    let s := strict (object [("name", string), ("tags", maxItems (array integer) 1)])
    let one : Json := .number (.whole ⟨1, by decide, by decide⟩)
    let given := fun tag => Json.object [("extra", .null), ("tags", .array [one, tag])]
    ∃ c, s.compile = .ok c ∧
      c.checkInput (some (given (.bool true))) "body" = .error
        [⟨"name", "name is required", "string", "missing"⟩,
          ⟨"tags", "tags must have at most 1 items", "items <= 1", "2 items"⟩,
          ⟨"tags[1]", "tags[1] must be an integer", "integer", "true"⟩,
          ⟨"extra", "extra is not an allowed property", "no additional properties",
            "null"⟩] ∧
      beyond [.key "tags", .index 1] (c.failures (some (given (.bool true)))) =
        beyond [.key "tags", .index 1] (c.failures (some (given one))) := by
  intro s one given
  have hnames : s.DistinctNames := by
    simp [s, DistinctNames, object, integer, array, string, maxItems, strict, onArray,
      SchemaOf.Everywhere, SchemaOf.EverywhereIn, SchemaOf.names]
  obtain ⟨hrejected, -, -, -, hlocal⟩ := report_by_parts hnames rfl
  refine ⟨_, rfl, (hrejected _ _ _).mpr ⟨List.cons_ne_nil _ _, by decide⟩,
    hlocal _ _ _ ?_⟩
  refine DifferAt.property (List.mem_cons_of_mem _ List.mem_cons_self) ?_ ?_ ?_
    (@DifferAt.item _ _ _ _ [one] [] _ _ .here)
  · rw [KeyMap.Sorted]
    decide
  · rw [KeyMap.Sorted]
    decide
  · intro key hkey
    rw [KeyMap.get?_cons, KeyMap.get?_cons, KeyMap.get?_cons, KeyMap.get?_cons,
      if_neg hkey.symm, if_neg hkey.symm]

end Schema

end Trellis
