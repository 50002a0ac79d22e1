import Trellis.Number.Numeral
import Trellis.Regex.Reader
/-!
Log filters. A filter is a list of directives between commas, of which empty ones do not count. A directive
may name a target, a span with fields in brackets, and a level after an equals sign; one word alone is a
level or a target.
-/

namespace Trellis.LogFilter

def levelNames : List String := ["error", "warn", "info", "debug", "trace", "off"]

/-- Whether a text is a level: a name in any letter case, a number from 0 to 5, or nothing. -/
def isLevel (text : List Char) : Bool :=
  let digits := match text with
    | '+' :: rest => rest
    | _ => text
  text = [] || levelNames.contains (String.ofList (text.map Char.toLower)) ||
    (digits ≠ [] && digits.all Char.isDigit && Numeral.digitsValue digits ≤ 5)

/-- Whether a text is an expression that a field may be matched with. Conditions that speak of words of all
scripts are not supported. -/
def isFieldPattern (text : String) : Bool :=
  match Regex.read? text with
  | some (_, plan) => !plan.readsWords
  | none => false

/-- Whether a text is a value that a field may be compared with: a truth value, a number or an
expression. -/
def isFieldValue (text : List Char) : Bool :=
  let value := String.ofList text
  value = "true" || value = "false" || (Numeral.decimal? text).isSome || isNonFinite text ||
    isFieldPattern value
where
  isNonFinite (text : List Char) : Bool :=
    ["nan", "inf", "infinity"].contains (String.ofList ((Numeral.sign text).2.map Char.toLower))

/-- Whether a text is a field: a name, or a name and a value. -/
def isField (text : List Char) : Bool :=
  text ≠ [] && match Text.splitChars '=' text with
    | _ :: value :: _ => isFieldValue value
    | _ => true

/-- What follows the first bytes of a text, if they end between characters. -/
def dropBytes? : Nat → List Char → Option (List Char)
  | 0, cs => some cs
  | _, [] => none
  | n, c :: rest => if c.utf8Size ≤ n then dropBytes? (n - c.utf8Size) rest else none

/-- The first bytes of a text, if they end between characters. -/
def takeBytes? : Nat → List Char → Option (List Char)
  | 0, _ => some []
  | _, [] => none
  | n, c :: rest =>
    if c.utf8Size ≤ n then (takeBytes? (n - c.utf8Size) rest).map fun more => c :: more else none

/-- The part of a text between two byte offsets. -/
def slice? (first last : Nat) (text : List Char) : Option (List Char) :=
  (dropBytes? first text).bind (takeBytes? (last - first))

/-- How far a directive has been read. Fields and levels are kept by the byte offsets of their starts. -/
inductive State
  | start
  | levelOrTarget
  | span
  | field (start : Nat)
  | fields
  | target
  | level (start : Nat)

/-- Whether a directive may start with a character. -/
def isStart (c : Char) : Bool := c = '-' || c = ':' || c = '_' || Text.isAlphanumeric c

/-- Read the next character, of which the byte offset is given. Fields are parts of `text`. -/
def next (text : List Char) (offset : Nat) (c : Char) : State → Option State
  | .start => if c = '[' then some .span else if isStart c then some .levelOrTarget else none
  | .levelOrTarget =>
    if c = '=' then some (.level (offset + 1)) else if c = '[' then some .span else some .levelOrTarget
  | .span =>
    if c = ']' then some .target else if c = '{' then some (.field (offset + 1)) else some .span
  | .field start =>
    if c = '}' then ((slice? start offset text).filter isField).map fun _ => .fields
    else some (.field start)
  | .fields => if c = ']' then some .target else none
  | .target => if c = '=' then some (.level (offset + 1)) else none
  | .level start => some (.level start)

/-- Read on from an offset. -/
def run (text : List Char) : Nat → State → List Char → Option State
  | _, s, [] => some s
  | offset, s, c :: rest => match next text offset c s with
    | none => none
    | some s => run text (offset + c.utf8Size) s rest

/-- Whether a text is a directive. Blanks at its ends do not count for its form; the parts, however, are
taken from the text with the blanks, at the offsets that they have without. -/
def isDirective (text : List Char) : Bool :=
  match run text 0 .start (Text.trimChars text) with
  | some .levelOrTarget | some .target => true
  | some (.level start) => ((dropBytes? start text).map isLevel).getD false
  | _ => false

/-- Whether a text is a filter. -/
def isValid (text : String) : Bool :=
  ((Text.splitChars ',' text.toList).filter fun piece => piece ≠ []).all isDirective

end Trellis.LogFilter
