import Trellis.App.Handle
import Trellis.Proofs.Http.Body
import Trellis.Proofs.Http.Target
/-!
Forms and queries from the client to the code of an application.  Whatever texts the pairs hold, a form body and a
query spell the same fields, and code that asks for a name gets the values of that name in order.
-/

namespace Trellis

namespace Request

/-- The query of a target is what follows the first question mark. -/
theorem query?_of_target {r : Request} {path query : String} (hpath : '?' ∉ path.toList)
    (htarget : r.target = path ++ "?" ++ query) : r.query? = some query := by
  have hchars : r.target.toList = path.toList ++ '?' :: query.toList := by
    rw [htarget]
    simp
  rw [query?, Text.cut, hchars, Text.cutChars_append hpath]
  exact congrArg some String.ofList_toList

end Request

namespace Exchange

variable {x : Exchange} {pairs : List (String × String)}

/-- All values of a name are those that the pairs of the query give it. -/
theorem queryAll_of_groups (hquery : x.query.Groups pairs) (name : String) :
    x.queryAll name = valuesOf pairs name := by
  have hstrings : ∀ texts : List String, (texts.map Json.string).filterMap Json.string? =
      texts := by
    intro texts
    rw [List.filterMap_map]
    exact List.filterMap_some
  rw [queryAll, hquery.get?]
  match valuesOf pairs name with
  | [] => rfl
  | [text] => rfl
  | first :: second :: rest => exact hstrings (first :: second :: rest)

/-- The value of a name is the first of its values. -/
theorem query?_of_groups (hquery : x.query.Groups pairs) (name : String) :
    x.query? name = (valuesOf pairs name).head? := by
  rw [query?, hquery.get?]
  match valuesOf pairs name with
  | [] => rfl
  | [text] => rfl
  | first :: second :: rest => rfl

end Exchange

namespace App

variable {σ : Type}

/-- Pairs survive being written and read.  Pairs written as a form body, and the
same text as the query of a target, are read as the same fields: the names of
the pairs, each once and with its value if it has one, else with the list of its
values in order.  Code that asks the exchange of a request with this query for a
name gets all its values in order, or the first of them. -/
theorem pairs_survive {pairs : List (String × String)} (hpairs : pairs ≠ [])
    (request : Request) (app : App σ) :
    let posted := request.withForm pairs
    let text := Form.encodeAsText pairs
    Utf8.encode text = posted.body ∧
    ∃ fields : KeyMap Json,
      Body.parse (posted.header? MediaType.name) posted.body =
        .ok (.form (.object fields)) ∧
      parseQuery text = fields ∧
      fields.keys.Nodup ∧ (∀ name, name ∈ fields.keys ↔ name ∈ pairs.map (·.1)) ∧
      (∀ name, fields.get? name = entryOf (valuesOf pairs name)) ∧
      ∀ (asked : Request) (path : String), '?' ∉ path.toList →
        asked.target = path ++ "?" ++ text → ∀ place route params name,
          let x := app.exchange asked place route params
          x.queryAll name = valuesOf pairs name ∧
            x.query? name = (valuesOf pairs name).head? := by
  intro posted text
  have hbody : Utf8.encode text = posted.body := Form.encode_encodeAsText pairs
  have hquery : parseQuery text = groupPairs pairs := by
    apply parseQuery_of_decode
    rw [Form.encode_encodeAsText, Form.decode_encode]
  have hgroups := groupPairs_groups pairs
  refine ⟨hbody, groupPairs pairs, Body.parse_withForm request hpairs, hquery,
    hgroups.sorted.nodup_keys, hgroups.mem_keys_iff, hgroups.get?, ?_⟩
  intro asked path hpath htarget place route params name x
  have hfields : x.query = groupPairs pairs := by
    change (asked.query?.map parseQuery).getD [] = groupPairs pairs
    rw [Request.query?_of_target hpath htarget, Option.map_some, Option.getD_some, hquery]
  have hread : x.query.Groups pairs := hfields ▸ hgroups
  exact ⟨Exchange.queryAll_of_groups hread name, Exchange.query?_of_groups hread name⟩

/-- A name that is given twice, around an empty one; the values hold separators,
a space and what is not ASCII. -/
theorem pairs_survive_tags :
    let pairs := [("tag", "a&b=c"), ("", ""), ("tag", "é +")]
    let app : App Unit := new .standard
    let posted := (Request.new "POST" "/items").withForm pairs
    let asked := Request.new "GET" ("/items" ++ "?" ++ Form.encodeAsText pairs)
    ∃ fields : KeyMap Json,
      Body.parse (posted.header? MediaType.name) posted.body =
        .ok (.form (.object fields)) ∧
      parseQuery (Form.encodeAsText pairs) = fields ∧
      fields.get? "tag" = some (.array [.string "a&b=c", .string "é +"]) ∧
      fields.get? "" = some (.string "") ∧
      (app.exchange asked "/items" none Params.empty).queryAll "tag" = ["a&b=c", "é +"] ∧
      (app.exchange asked "/items" none Params.empty).query? "tag" = some "a&b=c" := by
  intro pairs app posted asked
  have hpairs : pairs ≠ [] := List.cons_ne_nil _ _
  obtain ⟨-, fields, hbody, hquery, -, -, hget, hseen⟩ :=
    pairs_survive hpairs (Request.new "POST" "/items") app
  have htag : valuesOf pairs "tag" = ["a&b=c", "é +"] := by decide +kernel
  have hempty : valuesOf pairs "" = [""] := by decide +kernel
  have hpath : '?' ∉ "/items".toList := by decide
  obtain ⟨hall, hfirst⟩ := hseen asked "/items" hpath rfl "/items" none Params.empty "tag"
  rw [htag] at hall hfirst
  refine ⟨fields, hbody, hquery, ?_, ?_, hall, hfirst⟩
  · rw [hget, htag]
    rfl
  · rw [hget, hempty]
    rfl

end App

end Trellis
