import Trellis.Json.Printer
import Trellis.Schema.Basic
/-!
What a check reports. A `Failure` says where in the input which rule is violated and what was received; it
becomes a `ValidationError`, four texts, once the name of the whole input is known.
-/

namespace Trellis

/-- A step from a value to a part of it. -/
inductive FieldStep
  | key (name : String)
  | index (i : Nat)
deriving DecidableEq, Repr

/-- The way from an input to a part of it, outermost step first. -/
abbrev FieldPath := List FieldStep

namespace FieldPath

/-- Write a path after what was written before: a dot stands before each name but the first, and
indices stand in brackets. -/
def renderAfter (before : String) : FieldPath → String
  | [] => before
  | .key name :: rest => renderAfter (if before = "" then name else before ++ "." ++ name) rest
  | .index i :: rest => renderAfter (before ++ "[" ++ toString i ++ "]") rest

/-- The path as text; the empty path has the name of the input. -/
def render (label : String) (path : FieldPath) : String :=
  if path = [] then label else renderAfter "" path

end FieldPath

/-- A rule that is violated. -/
inductive Violation
  | missing (type : TypeName)
  | wrongType (type : TypeName)
  | tooShort (least : Nat)
  | tooLong (most : Nat)
  | badFormat (format : StringFormat)
  | noMatch (pattern : String)
  | notAllowed (allowed : List String)
  | tooSmall (least : Extended)
  | tooLarge (most : Extended)
  | tooFewItems (least : Nat)
  | tooManyItems (most : Nat)
  | undeclared

namespace Violation

/-- The type with its article. -/
def withArticle (type : TypeName) : String :=
  match type with
  | .integer | .array | .object | .any => "an " ++ type.name
  | _ => "a " ++ type.name

/-- What the message says after the name of the field. -/
def phrase : Violation → String
  | missing _ => "is required"
  | wrongType type => "must be " ++ withArticle type
  | tooShort least => s!"must be at least {least} characters"
  | tooLong most => s!"must be at most {most} characters"
  | badFormat format => "must be a valid " ++ format.name
  | noMatch pattern => "must match pattern " ++ pattern
  | notAllowed allowed => "must be one of: " ++ ", ".intercalate allowed
  | tooSmall least => "must be at least " ++ least.message
  | tooLarge most => "must be at most " ++ most.message
  | tooFewItems least => s!"must have at least {least} items"
  | tooManyItems most => s!"must have at most {most} items"
  | undeclared => "is not an allowed property"

/-- What was expected, in short. -/
def expected : Violation → String
  | missing type | wrongType type => type.name
  | tooShort least => s!"length >= {least}"
  | tooLong most => s!"length <= {most}"
  | badFormat format => format.name
  | noMatch pattern => "pattern /" ++ pattern ++ "/"
  | notAllowed allowed => "one of [" ++ ", ".intercalate allowed ++ "]"
  | tooSmall least => ">= " ++ least.message
  | tooLarge most => "<= " ++ most.message
  | tooFewItems least => s!"items >= {least}"
  | tooManyItems most => s!"items <= {most}"
  | undeclared => "no additional properties"

end Violation

/-- What was received where a rule is violated. -/
inductive Received
  | nothing
  | value (j : Json)
  | items (count : Nat)

namespace Received

/-- The longest text of a value that is shown in full. -/
def longest : Nat := 64

/-- The compact text of a value, cut off if it is long. -/
def describe (j : Json) : String :=
  let cs := j.chars
  if cs.length ≤ longest then String.ofList cs else String.ofList (cs.take longest) ++ "..."

def text : Received → String
  | nothing => "missing"
  | value j => describe j
  | items count => s!"{count} items"

end Received

/-- A violated rule at a place of the input. -/
structure Failure where
  path : FieldPath
  violation : Violation
  received : Received

/-- A failure in words. -/
structure ValidationError where
  field : String
  message : String
  expected : String
  received : String
deriving DecidableEq, Repr

namespace Failure

/-- The field of a failure in an input with the given name. -/
def field (label : String) (f : Failure) : String := f.path.render label

/-- The message: the field and what is wrong with it. -/
def message (label : String) (f : Failure) : String := f.field label ++ " " ++ f.violation.phrase

def toError (label : String) (f : Failure) : ValidationError :=
  ⟨f.field label, f.message label, f.violation.expected, f.received.text⟩

end Failure

namespace ValidationError

def display (e : ValidationError) : String :=
  e.field ++ ": " ++ e.message ++ " (expected " ++ e.expected ++ ", received " ++ e.received ++ ")"

def toJson (e : ValidationError) : Json :=
  Json.ofFields
    [("expected", .string e.expected), ("field", .string e.field), ("message", .string e.message),
     ("received", .string e.received)]

end ValidationError

/-- The errors of a check, in order. -/
abbrev ValidationErrors := List ValidationError

namespace ValidationErrors

/-- One line for each error. -/
def display (es : ValidationErrors) : String :=
  String.join (es.map fun e => e.display ++ "\n")

/-- The errors of one field. -/
def ofField (es : ValidationErrors) (field : String) : ValidationErrors :=
  es.filter fun e => e.field = field

def toJson (es : ValidationErrors) : Json := .array (es.map ValidationError.toJson)

end ValidationErrors

end Trellis
