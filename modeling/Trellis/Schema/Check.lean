import Trellis.Number.Numeral
import Trellis.Regex.Basic
import Trellis.Schema.Violation
/-!
Checking inputs. A `Checker` is a schema whose patterns have been read and whose defaults have been
checked. `visit` walks through checker and input together; it gives the value that the input stands for,
and adds what is wrong to the failures of the walk. Texts that spell numbers and truth values are read as
such, a scalar counts as an array of one item, and defaults stand for absent values.
-/

namespace Trellis

/-- A pattern that has been read. -/
structure CompiledPattern where
  text : String
  regex : Regex

abbrev Checker := SchemaOf CompiledPattern

/-- A walk through an input: the place it has come to, and the failures found. -/
structure Walk where
  path : FieldPath
  failures : List Failure

namespace Walk

def start : Walk := ⟨[], []⟩

def enter (w : Walk) (step : FieldStep) : Walk := { w with path := w.path ++ [step] }

def leave (w : Walk) : Walk := { w with path := w.path.dropLast }

/-- Report a violation at the place of the walk. -/
def fail (w : Walk) (violation : Violation) (received : Received) : Walk :=
  { w with failures := w.failures ++ [⟨w.path, violation, received⟩] }

/-- Report violations one after the other. -/
def failAll (w : Walk) (violations : List Violation) (received : Received) : Walk :=
  violations.foldl (fun w v => w.fail v received) w

/-- Whether nothing was reported since an earlier point of the walk. -/
def isClean (before after : Walk) : Bool := after.failures.length = before.failures.length

end Walk

namespace Checker

/-- A violation, if a rule is given and violated. -/
def require {α : Type} (rule : Option α) (violated : α → Bool) (violation : α → Violation) :
    List Violation :=
  match rule with
  | none => []
  | some bound => if violated bound then [violation bound] else []

/-- The rules that a text violates. -/
def textViolations (rules : StringRules CompiledPattern) (text : String) : List Violation :=
  require rules.minLength (text.length < ·) .tooShort ++
    require rules.maxLength (· < text.length) .tooLong ++
    require rules.format (fun f => !f.accepts text) .badFormat ++
    require rules.pattern (fun p => !p.regex.occursIn text) (fun p => .noMatch p.text) ++
    (if rules.oneOf ≠ [] ∧ text ∉ rules.oneOf then [.notAllowed rules.oneOf] else [])

/-- The bounds that a number violates. -/
def numberViolations (rules : NumberRules) (d : Double) : List Violation :=
  require rules.minimum (Extended.above d) .tooSmall ++
    require rules.maximum (Extended.below d) .tooLarge

/-- The bounds that a number of items violates. -/
def countViolations (rules : CountRules) (count : Nat) : List Violation :=
  require rules.minItems (count < ·) .tooFewItems ++
    require rules.maxItems (· < count) .tooManyItems

/-- The number that a value is or spells. A text of digits that fits a signed word is a whole number,
any other numeral a double. -/
def numberOf? : Json → Option Number
  | .number n => some n
  | .string s => Numeral.read? (Text.trim s)
  | _ => none

/-- The whole number that a number is, if it fits 64 bits. -/
def wholeOf? : Number → Option Whole
  | .whole n => some n
  | .double d => d.toInt?.bind Whole.ofInt?

/-- A value and the failures, given the rules that it violates. -/
def conclude (value : Json) (violations : List Violation) (received : Json) (w : Walk) :
    Option Json × Walk :=
  (if violations.isEmpty then some value else none, w.failAll violations (.value received))

/-- Reject a value for its type. -/
def reject (type : TypeName) (value : Json) (w : Walk) : Option Json × Walk :=
  (none, w.fail (.wrongType type) (.value value))

def visitString (rules : StringRules CompiledPattern) (value : Json) (w : Walk) :
    Option Json × Walk :=
  match value with
  | .string text => conclude value (textViolations rules text) value w
  | _ => reject .string value w

/-- Check a number: it must have an integral value if the rules say so, and lie within the bounds, which
are compared with the nearest double. -/
def visitNumber (rules : NumberRules) (value : Json) (w : Walk) : Option Json × Walk :=
  match numberOf? value with
  | none => reject (if rules.integer then .integer else .number) value w
  | some n =>
    if rules.integer then
      match wholeOf? n with
      | none => reject .integer value w
      | some whole =>
        conclude (.number (.whole whole)) (numberViolations rules n.toDouble) value w
    else conclude (.number n) (numberViolations rules n.toDouble) value w

def visitBoolean (value : Json) (w : Walk) : Option Json × Walk :=
  match value with
  | .bool _ => (some value, w)
  | .string "true" => (some (.bool true), w)
  | .string "false" => (some (.bool false), w)
  | _ => reject .boolean value w

/-- The items that a value stands for: those of an array, or a scalar alone. -/
def itemsOf? : Json → Option (List Json)
  | .array items => some items
  | .object _ | .null => none
  | scalar => some [scalar]

/-- Check items one after the other, giving the values of those that pass. -/
def visitItems (item : Option Json → Walk → Option Json × Walk) :
    Nat → List Json → Walk → List Json × Walk
  | _, [], w => ([], w)
  | index, value :: rest, w =>
    let (checked, w) := item (some value) (w.enter (.index index))
    let (values, w) := visitItems item (index + 1) rest w.leave
    (checked.toList ++ values, w)

def visitArray (item : Option Json → Walk → Option Json × Walk) (count : CountRules) (value : Json)
    (w : Walk) : Option Json × Walk :=
  match itemsOf? value with
  | none => reject .array value w
  | some items =>
    let counted := w.failAll (countViolations count items.length) (.items items.length)
    let (values, after) := visitItems item 0 items counted
    (if w.isClean after then some (.array values) else none, after)

/-- Report undeclared properties. -/
def rejectFields : List (String × Json) → Walk → Walk
  | [], w => w
  | (key, value) :: rest, w =>
    rejectFields rest (((w.enter (.key key)).fail .undeclared (.value value)).leave)

/-- Check an object: `declared` checks the declared properties, taking them out of the given fields and
giving the values together with the fields that are left. -/
def visitObject
    (declared : KeyMap Json → KeyMap Json → Walk → KeyMap Json × KeyMap Json × Walk)
    (strict : Bool) (value : Json) (w : Walk) : Option Json × Walk :=
  match value with
  | .object fields =>
    let (values, others, after) := declared fields [] w
    if strict then
      let after := rejectFields others after
      (if w.isClean after then some (.object values) else none, after)
    else
      let all := others.foldl (fun m field => m.insert field.1 field.2) values
      (if w.isClean after then some (.object all) else none, after)
  | _ => reject .object value w

/-- An absent value: its default stands for it, or it may be absent, or it is missing. -/
def absent (c : Checker) (w : Walk) : Option Json × Walk :=
  match c.presence.default with
  | some value => (some value, w)
  | none =>
    if c.presence.optional then (none, w) else (none, w.fail (.missing c.typeName) .nothing)

mutual

/-- Check an input, which may be absent. -/
def visit (c : Checker) (input : Option Json) (w : Walk) : Option Json × Walk :=
  match input with
  | none => absent c w
  | some value =>
    if value.isNull && c.acceptsNull then (some .null, w)
    else match c with
      | .text _ rules => visitString rules value w
      | .numeric _ rules => visitNumber rules value w
      | .truth _ => visitBoolean value w
      | .list _ items count => visitArray (visit items) count value w
      | .record _ properties strict => visitObject (visitProperties properties) strict value w
      | .anything _ => (some value, w)

/-- Check the declared properties in order, given the fields not yet taken and the values so far. -/
def visitProperties (properties : List (String × Checker)) (fields values : KeyMap Json) (w : Walk) :
    KeyMap Json × KeyMap Json × Walk :=
  match properties with
  | [] => (values, fields, w)
  | (name, c) :: rest =>
    let (checked, after) := visit c (fields.get? name) (w.enter (.key name))
    let values := match checked with
      | some value => values.insert name value
      | none => values
    visitProperties rest (fields.erase name) values after.leave

end

/-- Check an input, which may be absent. The label names the input in errors. -/
def checkInput (c : Checker) (input : Option Json) (label : String) :
    Except ValidationErrors Json :=
  let (value, w) := visit c input Walk.start
  match w.failures with
  | [] => .ok (value.getD .null)
  | failures => .error (failures.map (·.toError label))

/-- Check a value under the name `value`. -/
def check (c : Checker) (value : Json) : Except ValidationErrors Json :=
  c.checkInput (some value) "value"

def accepts (c : Checker) (value : Json) : Bool := (c.check value).isOk

end Checker

end Trellis
