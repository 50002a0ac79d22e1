import Trellis.Json.Printer
import Trellis.Text.Quoted
/-!
Typed reads of JSON values. A `Shape` describes the wanted type; `decode` gives the value back in that
type, records with their fields in declared order, or says what is wrong with the first part that does not
have it. A record may also be given as the list of its fields.
-/

namespace Trellis.Json

inductive Shape
  | text
  | bool
  | int64
  | nat32
  | list (item : Shape)
  | option (item : Shape)
  | record (name : String) (fields : List (String × Shape))

/-- Why a value does not have a shape. -/
inductive ShapeFault
  /-- A value of another type. -/
  | invalidType (received expected : String)
  /-- A number out of range. -/
  | invalidValue (received expected : String)
  /-- A list of a wrong length. -/
  | invalidLength (length : Nat) (expected : String)
  | missingField (name : String)
deriving DecidableEq, Repr

def ShapeFault.message : ShapeFault → String
  | .invalidType received expected => s!"invalid type: {received}, expected {expected}"
  | .invalidValue received expected => s!"invalid value: {received}, expected {expected}"
  | .invalidLength length expected => s!"invalid length {length}, expected {expected}"
  | .missingField name => s!"missing field `{name}`"

/-- A value as shape faults show it. -/
def received : Json → String
  | .null => "null"
  | .bool b => s!"boolean `{b}`"
  | .number (.whole n) => s!"integer `{n.val}`"
  | .number (.double d) => s!"floating point `{Layout.json.write d}`"
  | .string s => "string " ++ Text.quoted s
  | .array _ => "sequence"
  | .object _ => "map"

/-- A whole number between bounds. -/
def decodeWhole (low high : Int) (expected : String) (j : Json) : Except ShapeFault Json :=
  match j with
  | .number (.whole n) =>
    if low ≤ n.val ∧ n.val ≤ high then .ok j else .error (.invalidValue (received j) expected)
  | _ => .error (.invalidType (received j) expected)

/-- What a record is called in shape faults. -/
def recordName (name : String) (fields : List (String × Shape)) : String :=
  s!"struct {name} with {fields.length} elements"

/-- Decode the items of a list one after the other. -/
def decodeItems (item : Json → Except ShapeFault Json) : List Json → Except ShapeFault (List Json)
  | [] => .ok []
  | j :: rest => do
    let value ← item j
    let values ← decodeItems item rest
    return value :: values

/-- Decode the given fields one after the other, without those that are not declared. -/
def decodeGiven (named : String → Json → Except ShapeFault (Option Json)) :
    List (String × Json) → Except ShapeFault (List (String × Json))
  | [] => .ok []
  | (key, j) :: rest => do
    let value ← named key j
    let values ← decodeGiven named rest
    return match value with
      | some value => (key, value) :: values
      | none => values

/-- The decoded fields in declared order; only optional ones may be absent. -/
def fillFields (values : List (String × Json)) :
    List (String × Shape) → Except ShapeFault (List (String × Json))
  | [] => .ok []
  | (name, shape) :: rest => do
    let value ← match values.find? (·.1 = name), shape with
      | some (_, value), _ => .ok value
      | none, .option _ => .ok .null
      | none, _ => .error (.missingField name)
    let others ← fillFields values rest
    return (name, value) :: others

mutual

def decode (shape : Shape) (j : Json) : Except ShapeFault Json :=
  match shape with
  | .text => match j with
    | .string s => .ok (.string s)
    | _ => .error (.invalidType (received j) "a string")
  | .bool => match j with
    | .bool b => .ok (.bool b)
    | _ => .error (.invalidType (received j) "a boolean")
  | .int64 => decodeWhole (-9223372036854775808) 9223372036854775807 "i64" j
  | .nat32 => decodeWhole 0 4294967295 "u32" j
  | .list item => match j with
    | .array items => (decodeItems (decode item) items).map .array
    | _ => .error (.invalidType (received j) "a sequence")
  | .option item => if j.isNull then .ok .null else decode item j
  | .record name fields => match j with
    | .object given => do
      let values ← decodeGiven (decodeNamed fields) given
      return .object (← fillFields values fields)
    | .array items => do
      let values ← decodeListed (recordName name fields) 0 fields items
      if fields.length < items.length then
        .error (.invalidLength items.length "fewer elements in array")
      else return .object values
    | _ => .error (.invalidType (received j) s!"struct {name}")

/-- Decode one named field with the shape declared for it; a field without one is skipped. -/
def decodeNamed (fields : List (String × Shape)) (key : String) (j : Json) :
    Except ShapeFault (Option Json) :=
  match fields with
  | [] => .ok none
  | (name, shape) :: rest =>
    if name = key then (decode shape j).map some else decodeNamed rest key j

/-- Decode the fields of a record given as a list. -/
def decodeListed (expected : String) (index : Nat) :
    List (String × Shape) → List Json → Except ShapeFault (List (String × Json))
  | [], _ => .ok []
  | _ :: _, [] => .error (.invalidLength index expected)
  | (name, shape) :: rest, j :: items => do
    let value ← decode shape j
    let values ← decodeListed expected (index + 1) rest items
    return (name, value) :: values

end

end Trellis.Json
