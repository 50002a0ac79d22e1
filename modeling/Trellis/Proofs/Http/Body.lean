import Trellis.Http.Body
import Trellis.Proofs.Http.Headers
import Trellis.Proofs.KeyMap
import Trellis.Proofs.Text.Form
/-!
What the pairs of a form or a query are read as.  Each name holds its values in order, and a form body and a query
that spell the same pairs are read as the same fields.
-/

namespace Trellis

/-- The values that pairs give a name, in order. -/
def valuesOf (pairs : List (String × String)) (name : String) : List String :=
  (pairs.filter fun pair => pair.1 = name).map (·.2)

/-- What a name holds for its values: a text for one, a list for several. -/
def entryOf : List String → Option Json
  | [] => none
  | [text] => some (.string text)
  | texts => some (.array (texts.map .string))

theorem valuesOf_append (earlier later : List (String × String)) (name : String) :
    valuesOf (earlier ++ later) name = valuesOf earlier name ++ valuesOf later name := by
  rw [valuesOf, List.filter_append, List.map_append, valuesOf, valuesOf]

theorem valuesOf_singleton (pair : String × String) (name : String) :
    valuesOf [pair] name = if pair.1 = name then [pair.2] else [] := by
  by_cases hname : pair.1 = name
  · simp [valuesOf, hname]
  · simp [valuesOf, hname]

theorem valuesOf_eq_nil_iff {pairs : List (String × String)} {name : String} :
    valuesOf pairs name = [] ↔ name ∉ pairs.map (·.1) := by
  simp only [valuesOf, List.map_eq_nil_iff, List.filter_eq_nil_iff, decide_eq_true_eq,
    List.mem_map, not_exists, not_and]

theorem entryOf_eq_none_iff {texts : List String} : entryOf texts = none ↔ texts = [] := by
  match texts with
  | [] => simp [entryOf]
  | [text] => simp [entryOf]
  | first :: second :: rest => simp [entryOf]

theorem entryOf_append (texts : List String) (text : String) :
    entryOf (texts ++ [text]) = some (addOccurrence (entryOf texts) text) := by
  match texts with
  | [] => rfl
  | [first] => rfl
  | first :: second :: rest => simp [entryOf, addOccurrence]

/-- Fields hold the values of some pairs, and nothing else. -/
structure KeyMap.Groups (fields : KeyMap Json) (pairs : List (String × String)) : Prop where
  sorted : fields.Sorted
  get? : ∀ name, fields.get? name = entryOf (valuesOf pairs name)

namespace KeyMap.Groups

variable {fields : KeyMap Json} {pairs : List (String × String)}

theorem nil : Groups [] [] := ⟨List.Pairwise.nil, fun _ => rfl⟩

/-- One more pair adds one more value to its name. -/
theorem insert (hgroups : Groups fields pairs) (pair : String × String) :
    Groups (fields.insert pair.1 (addOccurrence (fields.get? pair.1) pair.2))
      (pairs ++ [pair]) := by
  refine ⟨hgroups.sorted.insert _ _, ?_⟩
  intro name
  rw [get?_insert, valuesOf_append, valuesOf_singleton]
  by_cases hname : pair.1 = name
  · rw [if_pos hname, if_pos hname, hname, entryOf_append, hgroups.get?]
  · rw [if_neg hname, if_neg hname, List.append_nil, hgroups.get?]

theorem foldl_insert (hgroups : Groups fields pairs) (more : List (String × String)) :
    Groups (more.foldl (fun m pair =>
      m.insert pair.1 (addOccurrence (m.get? pair.1) pair.2)) fields) (pairs ++ more) := by
  induction more generalizing fields pairs with
  | nil => rwa [List.append_nil]
  | cons pair rest ih =>
      have hrest := ih (hgroups.insert pair)
      rwa [List.append_assoc] at hrest

theorem mem_keys_iff (hgroups : Groups fields pairs) (name : String) :
    name ∈ fields.keys ↔ name ∈ pairs.map (·.1) := by
  have hnone : fields.get? name = none ↔ name ∉ pairs.map (·.1) := by
    rw [hgroups.get?, entryOf_eq_none_iff, valuesOf_eq_nil_iff]
  rw [← not_iff_not, ← hnone]
  constructor
  · exact get?_eq_none_of_not_mem
  · intro hget hmem
    obtain ⟨entry, hentry, rfl⟩ := List.mem_map.mp hmem
    rw [(hgroups.sorted.mem_iff entry).mp hentry] at hget
    contradiction

end KeyMap.Groups

theorem groupPairs_groups (pairs : List (String × String)) :
    (groupPairs pairs).Groups pairs :=
  KeyMap.Groups.nil.foldl_insert pairs

/-- The fields of a query are those of its pairs. -/
theorem parseQuery_of_decode {query : String} {pairs : List (String × String)}
    (hquery : Form.decode (Utf8.encode query) = pairs) :
    parseQuery query = groupPairs pairs := by
  rw [parseQuery, hquery]

namespace Request

theorem header?_withForm (r : Request) (pairs : List (String × String)) :
    (r.withForm pairs).header? MediaType.name =
      some "application/x-www-form-urlencoded" := by
  have hname : Headers.name? MediaType.name = some MediaType.name := by decide +kernel
  apply Headers.text?_of_get? hname (by decide)
  rw [withForm, Headers.get?_insert, if_pos rfl, MediaType.form]

end Request

/-- The body of a form is read as the fields of its pairs. -/
theorem Body.parse_withForm (r : Request) {pairs : List (String × String)}
    (hpairs : pairs ≠ []) :
    let posted := r.withForm pairs
    Body.parse (posted.header? MediaType.name) posted.body =
      .ok (.form (.object (groupPairs pairs))) := by
  intro posted
  have htype : Body.mediaType (some "application/x-www-form-urlencoded") =
      "application/x-www-form-urlencoded" := by decide +kernel
  have hjson : ¬ ("application/x-www-form-urlencoded" = "application/json" ∨
      "+json".toList.isSuffixOf "application/x-www-form-urlencoded".toList) := by
    decide +kernel
  have hbody : posted.body = Form.encode pairs := rfl
  rw [r.header?_withForm pairs, hbody, Body.parse, if_neg (Form.encode_ne_nil hpairs)]
  simp only [htype, if_neg hjson, if_true, Form.decode_encode]

end Trellis
