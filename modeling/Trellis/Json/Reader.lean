import Trellis.Json.Value
import Trellis.Text.Utf8
/-!
Reading JSON text. A whole number is read exactly while it fits 64 bits. A number with a fraction or an
exponent is read as a significand of at most 64 bits and a power of ten, the digits beyond being
dropped, and the two are multiplied or divided as doubles. Values nest at most 127 deep.

An error carries the fault and the place where it was noticed, as the line and the number of bytes
already read on that line.
-/

namespace Trellis.Json

/-- What can be wrong with JSON text. -/
inductive Fault
  | endInValue
  | endInList
  | endInObject
  | endInString
  | trailingCharacters
  | trailingComma
  | valueExpected
  | wordExpected
  | colonExpected
  | listEndExpected
  | objectEndExpected
  | keyNotString
  | invalidNumber
  | numberOutOfRange
  | invalidEscape
  | controlCharacter
  | loneSurrogate
  | unfinishedSurrogate
  | invalidText
  | tooDeep
deriving DecidableEq, Repr

def Fault.message : Fault → String
  | .endInValue => "EOF while parsing a value"
  | .endInList => "EOF while parsing a list"
  | .endInObject => "EOF while parsing an object"
  | .endInString => "EOF while parsing a string"
  | .trailingCharacters => "trailing characters"
  | .trailingComma => "trailing comma"
  | .valueExpected => "expected value"
  | .wordExpected => "expected ident"
  | .colonExpected => "expected `:`"
  | .listEndExpected => "expected `,` or `]`"
  | .objectEndExpected => "expected `,` or `\x7d`"
  | .keyNotString => "key must be a string"
  | .invalidNumber => "invalid number"
  | .numberOutOfRange => "number out of range"
  | .invalidEscape => "invalid escape"
  | .controlCharacter => "control character (\\u0000-\\u001F) found while parsing a string"
  | .loneSurrogate => "lone leading surrogate in hex escape"
  | .unfinishedSurrogate => "unexpected end of hex escape"
  | .invalidText => "invalid unicode code point"
  | .tooDeep => "recursion limit exceeded"

/-- A fault and where it was noticed. -/
structure ReadError where
  fault : Fault
  line : Nat
  column : Nat
deriving DecidableEq, Repr

def ReadError.message (e : ReadError) : String :=
  s!"{e.fault.message} at line {e.line} column {e.column}"

namespace Reader

/-- A reading step: what was read and the bytes after it, or a fault and how many bytes are left after
the place where it was noticed. -/
abbrev Step (α : Type) := Except (Fault × Nat) (α × Bytes)

/-- Go on with what a step read and the bytes after it. -/
def Step.andThen {α β : Type} (step : Step α) (next : α → Bytes → Step β) : Step β :=
  match step with
  | .ok (a, rest) => next a rest
  | .error e => .error e

/-- A fault noticed after all bytes but `rest` were consumed. -/
def failAt {α : Type} (fault : Fault) (rest : Bytes) : Step α := .error (fault, rest.length)

/-- A fault noticed on looking at the next byte, which counts as read. -/
def failPeek {α : Type} (fault : Fault) (rest : Bytes) : Step α := .error (fault, rest.length - 1)

def isSpace (b : UInt8) : Bool := b == 0x20 || b == 0x0A || b == 0x09 || b == 0x0D

def skipSpace (bytes : Bytes) : Bytes := bytes.dropWhile isSpace

/-- The value of an ASCII digit. -/
def digit? (b : UInt8) : Option Nat :=
  if 0x30 ≤ b.toNat ∧ b.toNat ≤ 0x39 then some (b.toNat - 0x30) else none

def startsWithDigit : Bytes → Bool
  | [] => false
  | b :: _ => (digit? b).isSome

/-- The largest significand. -/
def largestSignificand : Nat := 18446744073709551615

/-- The largest exponent that is read digit by digit. -/
def largestExponent : Nat := 2147483647

/-- Read digits onto a number for as long as it stays within `bound`: the number, how many digits were
read, and the rest. -/
def digits (bound : Nat) (n count : Nat) : Bytes → Nat × Nat × Bytes
  | [] => (n, count, [])
  | b :: rest => match digit? b with
    | none => (n, count, b :: rest)
    | some d =>
      if bound < n * 10 + d then (n, count, b :: rest)
      else digits bound (n * 10 + d) (count + 1) rest

/-- The number of digits at the start, and the rest. -/
def skipDigits (count : Nat) : Bytes → Nat × Bytes
  | [] => (count, [])
  | b :: rest => if (digit? b).isSome then skipDigits (count + 1) rest else (count, b :: rest)

/-- The largest power of ten below the largest double. -/
def largestPower : Extended := Double.powerOfTen 308

/-- Scale a double by a power of ten. Powers beyond the range of doubles are divided out in steps; the
second such step already leaves zero, so a bound on their number changes nothing. -/
def scaleByTen : Nat → Double → Int → Option Double
  | 0, d, _ => some (Double.zero d.negative)
  | steps + 1, d, exponent =>
    if exponent.natAbs ≤ 308 then
      (Double.powerOfTen exponent.natAbs).finite?.bind fun power =>
        (if 0 ≤ exponent then d.mul power else d.div power).finite?
    else if d.isZero then some d
    else if 0 ≤ exponent then none
    else largestPower.finite?.bind fun power =>
      (d.div power).finite?.bind fun smaller => scaleByTen steps smaller (exponent + 308)

/-- The double for a significand and a power of ten. -/
def assemble (negative : Bool) (significand : Nat) (exponent : Int) (rest : Bytes) : Step Number :=
  match (Double.ofInt significand).finite? with
  | none => failAt .numberOutOfRange rest
  | some d => match scaleByTen 4 d exponent with
    | none => failAt .numberOutOfRange rest
    | some d => .ok (.double (if negative then d.neg else d), rest)

/-- Read the exponent after `e`. -/
def exponentPart (negative : Bool) (significand : Nat) (start : Int) (bytes : Bytes) : Step Number :=
  let (down, bytes) := match bytes with
    | 0x2B :: rest => (false, rest)
    | 0x2D :: rest => (true, rest)
    | _ => (false, bytes)
  match bytes with
  | [] => failAt .endInValue []
  | b :: rest => match digit? b with
    | none => failAt .invalidNumber rest
    | some d =>
      let (e, _, rest) := digits largestExponent d 1 rest
      if startsWithDigit rest then
        if significand ≠ 0 ∧ down = false then failAt .numberOutOfRange (rest.drop 1)
        else .ok (.double (Double.zero negative), (skipDigits 0 rest).2)
      else assemble negative significand (if down then start - e else start + e) rest

/-- Read the digits after a decimal point. -/
def fractionPart (negative : Bool) (significand : Nat) (start : Int) (bytes : Bytes) : Step Number :=
  let (significand, count, rest) := digits largestSignificand significand 0 bytes
  let dropped := startsWithDigit rest
  let rest := (skipDigits 0 rest).2
  if count = 0 ∧ dropped = false then
    match rest with
    | [] => failPeek .endInValue rest
    | _ => failPeek .invalidNumber rest
  else
    let exponent := start - count
    match rest with
    | 0x65 :: rest | 0x45 :: rest => exponentPart negative significand exponent rest
    | _ => assemble negative significand exponent rest

/-- Read on after the digits of a whole number, of which `dropped` did not fit the significand. -/
def afterWhole (negative : Bool) (significand dropped : Nat) (bytes : Bytes) : Step Number :=
  match bytes with
  | 0x2E :: rest => fractionPart negative significand dropped rest
  | 0x65 :: rest | 0x45 :: rest => exponentPart negative significand dropped rest
  | _ =>
    if 0 < dropped then assemble negative significand dropped bytes
    else if negative then
      match significand, Whole.ofInt? (-(significand : Int)) with
      | 0, _ | _, none => assemble true significand 0 bytes
      | _, some n => .ok (.whole n, bytes)
    else match Whole.ofInt? significand with
      | some n => .ok (.whole n, bytes)
      | none => assemble false significand 0 bytes

/-- Read a number after its sign. -/
def number (negative : Bool) (bytes : Bytes) : Step Number :=
  match bytes with
  | [] => failAt .endInValue []
  | b :: rest => match digit? b with
    | none => failAt .invalidNumber rest
    | some 0 =>
      if startsWithDigit rest then failPeek .invalidNumber rest else afterWhole negative 0 0 rest
    | some d =>
      let (significand, _, rest) := digits largestSignificand d 1 rest
      let (dropped, rest) := skipDigits 0 rest
      afterWhole negative significand dropped rest

/-- Read the remaining bytes of a word such as `null`. -/
def word : Bytes → Bytes → Step Unit
  | [], bytes => .ok ((), bytes)
  | _ :: _, [] => failAt .endInValue []
  | c :: cs, b :: rest => if b = c then word cs rest else failAt .wordExpected rest

/-- Four hexadecimal digits. -/
def hexEscape : Bytes → Step Nat
  | a :: b :: c :: d :: rest =>
    match Bytes.hexValue? a.toNat, Bytes.hexValue? b.toNat, Bytes.hexValue? c.toNat,
      Bytes.hexValue? d.toNat with
    | some a, some b, some c, some d => .ok (((a * 16 + b) * 16 + c) * 16 + d, rest)
    | _, _, _, _ => failAt .invalidEscape rest
  | _ => failAt .endInString []

/-- The character of a `\u` escape; one above U+FFFF takes two escapes in a row. -/
def unicodeEscape (bytes : Bytes) : Step Char := (hexEscape bytes).andThen fun high rest =>
  if 0xDC00 ≤ high ∧ high ≤ 0xDFFF then failAt .loneSurrogate rest
  else if high < 0xD800 ∨ 0xDBFF < high then .ok (Char.ofNat high, rest)
  else match rest with
    | [] => failAt .endInString []
    | 0x5C :: [] => failAt .endInString []
    | 0x5C :: 0x75 :: rest => (hexEscape rest).andThen fun low rest =>
      if low < 0xDC00 ∨ 0xDFFF < low then failAt .loneSurrogate rest
      else .ok (Char.ofNat (0x10000 + (high - 0xD800) * 0x400 + (low - 0xDC00)), rest)
    | 0x5C :: _ :: rest => failAt .unfinishedSurrogate rest
    | _ :: rest => failAt .unfinishedSurrogate rest

/-- The bytes that an escape stands for, after its backslash. -/
def escape : Bytes → Step Bytes
  | [] => failAt .endInString []
  | 0x75 :: rest => (unicodeEscape rest).andThen fun c rest => .ok (Utf8.encodeChar c, rest)
  | b :: rest => match simple? b with
    | some byte => .ok ([byte], rest)
    | none => failAt .invalidEscape rest
where
  /-- The byte that a one-letter escape stands for. -/
  simple? (b : UInt8) : Option UInt8 :=
    if b = 0x22 ∨ b = 0x5C ∨ b = 0x2F then some b
    else if b = 0x62 then some 0x08
    else if b = 0x66 then some 0x0C
    else if b = 0x6E then some 0x0A
    else if b = 0x72 then some 0x0D
    else if b = 0x74 then some 0x09
    else none

/-- Read a string after its opening quote; `seen` holds the bytes read so far, latest first. The fuel
bounds the number of pieces by the number of bytes. Ill-formed text is noticed as many bytes before the
end as there are from the first ill-formed one on, with the escapes replaced. -/
def stringBody : Nat → Bytes → Bytes → Step String
  | 0, _, _ => failAt .endInString []
  | _ + 1, _, [] => failAt .endInString []
  | fuel + 1, seen, b :: rest =>
    if b = 0x22 then
      match Utf8.decode? seen.reverse with
      | some s => .ok (s, rest)
      | none => .error (.invalidText, rest.length + (seen.length - Utf8.validLength seen.reverse))
    else if b = 0x5C then
      (escape rest).andThen fun bytes rest => stringBody fuel (bytes.reverse ++ seen) rest
    else if b.toNat < 0x20 then failAt .controlCharacter rest
    else stringBody fuel (b :: seen) rest

def stringAfterQuote (bytes : Bytes) : Step String := stringBody (bytes.length + 1) [] bytes

/-- Read the items of a list up to its closing bracket. -/
def items (item : Bytes → Step Json) : Nat → List Json → Bytes → Step (List Json)
  | 0, _, bytes => failPeek .endInList bytes
  | fuel + 1, seen, bytes =>
    let more (bytes : Bytes) : Step (List Json) :=
      (item bytes).andThen fun value rest => items item fuel (value :: seen) rest
    match skipSpace bytes with
    | [] => failPeek .endInList []
    | 0x5D :: rest => .ok (seen.reverse, rest)
    | b :: rest =>
      if seen.isEmpty then more (b :: rest)
      else if b = 0x2C then
        match skipSpace rest with
        | [] => failPeek .endInValue []
        | 0x5D :: rest => failPeek .trailingComma (0x5D :: rest)
        | rest => more rest
      else failPeek .listEndExpected (b :: rest)

/-- Read the fields of an object up to its closing brace. -/
def fields (item : Bytes → Step Json) : Nat → Bool → KeyMap Json → Bytes → Step (KeyMap Json)
  | 0, _, _, bytes => failPeek .endInObject bytes
  | fuel + 1, first, seen, bytes =>
    let more (bytes : Bytes) : Step (KeyMap Json) :=
      (stringAfterQuote bytes).andThen fun key rest =>
        match skipSpace rest with
        | [] => failPeek .endInObject []
        | 0x3A :: rest =>
          (item rest).andThen fun value rest => fields item fuel false (seen.insert key value) rest
        | rest => failPeek .colonExpected rest
    match skipSpace bytes with
    | [] => failPeek .endInObject []
    | 0x7D :: rest => .ok (seen, rest)
    | b :: rest =>
      if first then
        if b = 0x22 then more rest else failPeek .keyNotString (b :: rest)
      else if b = 0x2C then
        match skipSpace rest with
        | [] => failPeek .endInValue []
        | 0x22 :: rest => more rest
        | 0x7D :: rest => failPeek .trailingComma (0x7D :: rest)
        | rest => failPeek .keyNotString rest
      else failPeek .objectEndExpected (b :: rest)

/-- Read one value. The first argument is one more than the number of levels it may nest. -/
def value : Nat → Bytes → Step Json
  | 0, bytes => failPeek .tooDeep bytes
  | depth + 1, bytes =>
    match skipSpace bytes with
    | [] => failPeek .endInValue []
    | b :: rest =>
      if b = 0x6E then
        (word [0x75, 0x6C, 0x6C] rest).andThen fun _ rest => .ok (.null, rest)
      else if b = 0x74 then
        (word [0x72, 0x75, 0x65] rest).andThen fun _ rest => .ok (.bool true, rest)
      else if b = 0x66 then
        (word [0x61, 0x6C, 0x73, 0x65] rest).andThen fun _ rest => .ok (.bool false, rest)
      else if b = 0x2D then (number true rest).andThen fun n rest => .ok (.number n, rest)
      else if (digit? b).isSome then
        (number false (b :: rest)).andThen fun n rest => .ok (.number n, rest)
      else if b = 0x22 then (stringAfterQuote rest).andThen fun s rest => .ok (.string s, rest)
      else if b = 0x5B then
        if depth = 0 then failPeek .tooDeep (b :: rest)
        else (items (value depth) (rest.length + 1) [] rest).andThen fun list rest =>
          .ok (.array list, rest)
      else if b = 0x7B then
        if depth = 0 then failPeek .tooDeep (b :: rest)
        else (fields (value depth) (rest.length + 1) true [] rest).andThen fun map rest =>
          .ok (.object map, rest)
      else failPeek .valueExpected (b :: rest)

/-- The line and the column of the place after the first `n` bytes. -/
def position (bytes : Bytes) (n : Nat) : Nat × Nat :=
  let consumed := bytes.take n
  (1 + consumed.count 0x0A, (consumed.reverse.takeWhile (· != 0x0A)).length)

end Reader

open Reader in
/-- The value that a whole text spells. -/
def ofBytes (bytes : Bytes) : Except ReadError Json :=
  let fail (e : Fault × Nat) : Except ReadError Json :=
    let place := position bytes (bytes.length - e.2)
    .error ⟨e.1, place.1, place.2⟩
  match value 128 bytes with
  | .error e => fail e
  | .ok (j, rest) => match skipSpace rest with
    | [] => .ok j
    | rest => fail (.trailingCharacters, rest.length - 1)

def ofText (text : String) : Except ReadError Json := ofBytes (Utf8.encode text)

end Trellis.Json
