import Trellis.Json.Value
import Trellis.Schema.Format
/-!
Schemas describe the values that an input may have. A schema is parameterized by what it holds for the
pattern of a string: the text of an expression while it is declared, the expression itself in a checker.
-/

namespace Trellis

/-- The JSON type that a schema asks for. -/
inductive TypeName
  | string
  | number
  | integer
  | boolean
  | array
  | object
  | any
deriving DecidableEq, Repr

def TypeName.name : TypeName → String
  | .string => "string"
  | .number => "number"
  | .integer => "integer"
  | .boolean => "boolean"
  | .array => "array"
  | .object => "object"
  | .any => "any"

/-- What holds of a value as a whole: whether it may be absent or null, and what stands for it when it is
absent. -/
structure Presence where
  optional : Bool
  nullable : Bool
  default : Option Json

def Presence.required : Presence := ⟨false, false, none⟩

structure StringRules (π : Type) where
  minLength : Option Nat
  maxLength : Option Nat
  format : Option StringFormat
  pattern : Option π
  /-- The allowed texts; all are allowed if there are none. -/
  oneOf : List String

structure NumberRules where
  integer : Bool
  minimum : Option Extended
  maximum : Option Extended

structure CountRules where
  minItems : Option Nat
  maxItems : Option Nat
deriving DecidableEq, Repr

inductive SchemaOf (π : Type)
  | text (presence : Presence) (rules : StringRules π)
  | numeric (presence : Presence) (rules : NumberRules)
  | truth (presence : Presence)
  | list (presence : Presence) (items : SchemaOf π) (count : CountRules)
  | record (presence : Presence) (properties : List (String × SchemaOf π)) (strict : Bool)
  | anything (presence : Presence)

/-- A declared schema, with the texts of its patterns. -/
abbrev Schema := SchemaOf String

namespace SchemaOf

variable {π : Type}

instance : Inhabited (SchemaOf π) := ⟨.anything .required⟩

def typeName : SchemaOf π → TypeName
  | .text .. => .string
  | .numeric _ rules => if rules.integer then .integer else .number
  | .truth _ => .boolean
  | .list .. => .array
  | .record .. => .object
  | .anything _ => .any

def presence : SchemaOf π → Presence
  | .text p _ | .numeric p _ | .truth p | .list p _ _ | .record p _ _ | .anything p => p

def withPresence (s : SchemaOf π) (p : Presence) : SchemaOf π :=
  match s with
  | .text _ rules => .text p rules
  | .numeric _ rules => .numeric p rules
  | .truth _ => .truth p
  | .list _ items count => .list p items count
  | .record _ properties strict => .record p properties strict
  | .anything _ => .anything p

/-- Whether null is accepted as it is. -/
def acceptsNull (s : SchemaOf π) : Bool := s.presence.nullable || s.typeName == .any

/-- The schema of a property of an object schema; of equal names the first counts. -/
def property? (s : SchemaOf π) (name : String) : Option (SchemaOf π) :=
  match s with
  | .record _ properties _ => (properties.find? fun p => p.1 = name).map (·.2)
  | _ => none

end SchemaOf

namespace Schema

/-! Schemas without rules, and modifiers. A modifier for another type changes nothing. -/

def string : Schema := .text .required ⟨none, none, none, none, []⟩

def number : Schema := .numeric .required ⟨false, none, none⟩

def integer : Schema := .numeric .required ⟨true, none, none⟩

def boolean : Schema := .truth .required

def array (items : Schema) : Schema := .list .required items ⟨none, none⟩

/-- An object with the given properties; others may be present too. -/
def object (properties : List (String × Schema)) : Schema := .record .required properties false

def any : Schema := .anything .required

def optional (s : Schema) : Schema := s.withPresence { s.presence with optional := true }

def nullable (s : Schema) : Schema := s.withPresence { s.presence with nullable := true }

/-- Give the value that stands for an absent one. -/
def default (s : Schema) (value : Json) : Schema :=
  s.withPresence { s.presence with default := some value }

/-- Change the rules of a string schema. -/
def onString (s : Schema) (change : StringRules String → StringRules String) : Schema :=
  match s with
  | .text p rules => .text p (change rules)
  | other => other

def onNumber (s : Schema) (change : NumberRules → NumberRules) : Schema :=
  match s with
  | .numeric p rules => .numeric p (change rules)
  | other => other

def onArray (s : Schema) (change : CountRules → CountRules) : Schema :=
  match s with
  | .list p items count => .list p items (change count)
  | other => other

def minLength (s : Schema) (n : Nat) : Schema := s.onString ({ · with minLength := some n })

def maxLength (s : Schema) (n : Nat) : Schema := s.onString ({ · with maxLength := some n })

def format (s : Schema) (f : StringFormat) : Schema := s.onString ({ · with format := some f })

/-- Give an expression that the whole text must match. -/
def pattern (s : Schema) (text : String) : Schema := s.onString ({ · with pattern := some text })

def oneOf (s : Schema) (texts : List String) : Schema := s.onString ({ · with oneOf := texts })

def minimum (s : Schema) (bound : Extended) : Schema := s.onNumber ({ · with minimum := some bound })

def maximum (s : Schema) (bound : Extended) : Schema := s.onNumber ({ · with maximum := some bound })

def minItems (s : Schema) (n : Nat) : Schema := s.onArray ({ · with minItems := some n })

def maxItems (s : Schema) (n : Nat) : Schema := s.onArray ({ · with maxItems := some n })

/-- Allow no other properties than the declared ones. -/
def strict (s : Schema) : Schema :=
  match s with
  | .record p properties _ => .record p properties true
  | other => other

/-! Equality of schemas: bounds and defaults are compared as numbers. -/

/-- Equality of bounds; `nan` differs from itself and the two zeros are equal. -/
def sameBound : Extended → Extended → Bool
  | .finite a, .finite b => a.signedUnits == b.signedUnits
  | .infinite a, .infinite b => a == b
  | _, _ => false

def sameOption {α : Type} (same : α → α → Bool) : Option α → Option α → Bool
  | none, none => true
  | some a, some b => same a b
  | _, _ => false

def samePresence (a b : Presence) : Bool :=
  a.optional == b.optional && a.nullable == b.nullable &&
    sameOption Json.same a.default b.default

def sameText (a b : StringRules String) : Bool :=
  a.minLength == b.minLength && a.maxLength == b.maxLength && a.format == b.format &&
    a.pattern == b.pattern && a.oneOf == b.oneOf

def sameNumber (a b : NumberRules) : Bool :=
  a.integer == b.integer && sameOption sameBound a.minimum b.minimum &&
    sameOption sameBound a.maximum b.maximum

mutual

def same : Schema → Schema → Bool
  | .text p a, .text q b => samePresence p q && sameText a b
  | .numeric p a, .numeric q b => samePresence p q && sameNumber a b
  | .truth p, .truth q => samePresence p q
  | .list p a m, .list q b n => samePresence p q && same a b && m == n
  | .record p a s, .record q b t => samePresence p q && sameProperties a b && s == t
  | .anything p, .anything q => samePresence p q
  | _, _ => false

def sameProperties : List (String × Schema) → List (String × Schema) → Bool
  | [], [] => true
  | (k, a) :: as, (l, b) :: bs => k == l && same a b && sameProperties as bs
  | _, _ => false

end

end Schema

end Trellis
