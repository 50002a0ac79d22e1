import Trellis.Regex.Reader
import Trellis.Schema.Check
/-!
Making a checker of a schema: patterns are read, and defaults are checked against the schema that they
belong to and kept as the values they stand for. Parts come before the whole, properties in order, and a
pattern before a default; the first fault is reported.
-/

namespace Trellis

/-- Why a schema has no checker. -/
inductive SchemaError
  /-- The pattern is no expression, or too large a one. In what way is left open. -/
  | invalidPattern (field pattern : String)
  | invalidDefault (field reason : String)
deriving DecidableEq, Repr

namespace Schema

/-- Read the pattern of a string schema. -/
def compilePattern (path : FieldPath) (text : String) : Except SchemaError CompiledPattern :=
  match Regex.parse? (Regex.anchoredText text) with
  | some regex => .ok ⟨text, regex⟩
  | none => .error (.invalidPattern (path.render "value") text)

/-- The rules of a string schema with the pattern read. -/
def compileRules (path : FieldPath) (rules : StringRules String) :
    Except SchemaError (StringRules CompiledPattern) :=
  match rules.pattern with
  | none => .ok ⟨rules.minLength, rules.maxLength, rules.format, none, rules.oneOf⟩
  | some text =>
    (compilePattern path text).map fun pattern =>
      ⟨rules.minLength, rules.maxLength, rules.format, some pattern, rules.oneOf⟩

/-- Check a default with the checker it belongs to, and keep the value it stands for. -/
def compileDefault (path : FieldPath) (presence : Presence) (bare : Checker) :
    Except SchemaError Checker :=
  match presence.default with
  | none => .ok bare
  | some value =>
    let (checked, w) := Checker.visit bare (some value) ⟨path, []⟩
    match w.failures with
    | [] => .ok (bare.withPresence { presence with default := checked })
    | failure :: _ =>
      .error (.invalidDefault (path.render "value") (failure.message "default"))

mutual

/-- Make the checker of the schema at a place. -/
def compileAt (path : FieldPath) : Schema → Except SchemaError Checker
  | .text p rules =>
    (compileRules path rules).bind fun rules =>
      compileDefault path p (.text { p with default := none } rules)
  | .numeric p rules => compileDefault path p (.numeric { p with default := none } rules)
  | .truth p => compileDefault path p (.truth { p with default := none })
  | .list p items count =>
    (compileAt (path ++ [.index 0]) items).bind fun items =>
      compileDefault path p (.list { p with default := none } items count)
  | .record p properties strict =>
    (compileProperties path properties).bind fun properties =>
      compileDefault path p (.record { p with default := none } properties strict)
  | .anything p => compileDefault path p (.anything { p with default := none })

def compileProperties (path : FieldPath) :
    List (String × Schema) → Except SchemaError (List (String × Checker))
  | [] => .ok []
  | (name, s) :: rest =>
    (compileAt (path ++ [.key name]) s).bind fun c =>
      (compileProperties path rest).map fun others => (name, c) :: others

end

/-- Make the checker of a schema. -/
def compile (s : Schema) : Except SchemaError Checker := compileAt [] s

end Schema

end Trellis
