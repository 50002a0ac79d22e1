import Trellis.KeyMap
import Trellis.Number.Double
/-!
JSON values. Numbers come in two kinds that stay apart: whole numbers of 64 bits, signed or not, and
doubles. An object keeps its fields in increasing key order; `WellFormed` says so at every depth.
-/

namespace Trellis

/-- A whole number that fits 64 bits, signed or unsigned. -/
structure Whole where
  val : Int
  lower : -9223372036854775808 ≤ val
  upper : val ≤ 18446744073709551615
deriving DecidableEq

namespace Whole

def ofInt? (n : Int) : Option Whole :=
  if h : -9223372036854775808 ≤ n ∧ n ≤ 18446744073709551615 then some ⟨n, h.1, h.2⟩ else none

end Whole

/-- A JSON number. -/
inductive Number
  | whole (n : Whole)
  | double (d : Double)
deriving DecidableEq

namespace Number

/-- The number as a double; a whole number is rounded to the nearest one. -/
def toDouble : Number → Double
  | .whole n => (Double.ofInt n.val).finite?.getD (Double.zero false)
  | .double d => d

/-- Numerical equality within one kind: the two zero doubles are equal, a whole number and a double
are not. -/
def same : Number → Number → Bool
  | .whole a, .whole b => a.val == b.val
  | .double a, .double b => a.signedUnits == b.signedUnits
  | _, _ => false

end Number

/-- A JSON value. -/
inductive Json
  | null
  | bool (b : Bool)
  | number (n : Number)
  | string (s : String)
  | array (items : List Json)
  | object (fields : List (String × Json))

namespace Json

instance : Inhabited Json := ⟨.null⟩

/-- The whole number `n`, or the nearest double if it does not fit 64 bits. -/
def int (n : Int) : Json :=
  match Whole.ofInt? n with
  | some w => .number (.whole w)
  | none => match Double.ofInt n with
    | .finite d => .number (.double d)
    | _ => .null

def nat (n : Nat) : Json := int n

/-- An object from its fields; of fields with equal keys the last one counts. -/
def ofFields (fields : List (String × Json)) : Json := .object (KeyMap.ofList fields)

def strings (items : List String) : Json := .array (items.map .string)

def isNull : Json → Bool
  | .null => true
  | _ => false

/-- The text of a string value. -/
def string? : Json → Option String
  | .string s => some s
  | _ => none

/-- The value of a field, if the value is an object that has it. -/
def field? (key : String) : Json → Option Json
  | .object fields => KeyMap.get? fields key
  | _ => none

mutual

/-- Equality of values: numbers compare as `Number.same` does. -/
def same : Json → Json → Bool
  | .null, .null => true
  | .bool a, .bool b => a == b
  | .number a, .number b => a.same b
  | .string a, .string b => a == b
  | .array a, .array b => sameItems a b
  | .object a, .object b => sameFields a b
  | _, _ => false

def sameItems : List Json → List Json → Bool
  | [], [] => true
  | a :: as, b :: bs => same a b && sameItems as bs
  | _, _ => false

def sameFields : List (String × Json) → List (String × Json) → Bool
  | [], [] => true
  | (k, a) :: as, (l, b) :: bs => k == l && same a b && sameFields as bs
  | _, _ => false

end

mutual

/-- The fields of every object, at every depth, are in increasing key order. -/
def WellFormed : Json → Prop
  | .array items => WellFormedItems items
  | .object fields => KeyMap.Sorted fields ∧ WellFormedFields fields
  | _ => True

def WellFormedItems : List Json → Prop
  | [] => True
  | item :: rest => WellFormed item ∧ WellFormedItems rest

def WellFormedFields : List (String × Json) → Prop
  | [] => True
  | (_, value) :: rest => WellFormed value ∧ WellFormedFields rest

end

end Json

end Trellis
