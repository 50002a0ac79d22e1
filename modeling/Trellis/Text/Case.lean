import Trellis.Unicode.Addition
import Trellis.Unicode.CaseMap
import Trellis.Unicode.Property
/-!
Full case conversion of text. A character may become several, and the capital sigma becomes a final
sigma at the end of a word.
-/

namespace Trellis.Text

open Unicode

/-- The shift of a run table that covers `c`, if one does. -/
def shiftUp? (table : Array Shift) (c : Nat) : Option Nat :=
  (table.find? (·.covers c)).map fun s => c + s.distance

def shiftDown? (table : Array Shift) (c : Nat) : Option Nat :=
  (table.find? (·.covers c)).map fun s => c - s.distance

def capitalSigma : Char := Char.ofNat 0x3A3

def lowerChar (c : Char) : List Char :=
  let n := c.toNat
  if n < 128 then [c.toLower]
  else if n = 0x130 then [Char.ofNat 0x69, Char.ofNat 0x307]
  else [Char.ofNat ((shiftUp? CaseMap.lowerUp n).getD ((shiftDown? CaseMap.lowerDown n).getD n))]

def upperChar (c : Char) : List Char :=
  let n := c.toNat
  if n < 128 then [c.toUpper]
  else match CaseMap.upperLong.find? (·.1 == n) with
    | some (_, form) => form.map Char.ofNat
    | none =>
      [Char.ofNat ((shiftUp? CaseMap.upperUp n).getD ((shiftDown? CaseMap.upperDown n).getD n))]

/-- Whether a character has a case. -/
def isCased (c : Char) : Bool :=
  let n := c.toNat
  (Property.cased.contains n || Addition.cased.contains n) && n != Addition.uncased

/-- Whether a character is passed over when the case context of a letter is read. -/
def isCaseIgnorable (c : Char) : Bool :=
  Property.caseIgnorable.contains c.toNat || Addition.caseIgnorable.contains c.toNat

/-- Whether the first character that is not case-ignorable has a case. -/
def meetsCased (cs : List Char) : Bool :=
  match cs.dropWhile isCaseIgnorable with
  | [] => false
  | c :: _ => isCased c

/-- Lowercase the characters; `before` holds those already passed, nearest first. -/
def lowerChars (before : List Char) : List Char → List Char
  | [] => []
  | c :: rest =>
    let form :=
      if c = capitalSigma then
        [Char.ofNat (if meetsCased before && !meetsCased rest then 0x3C2 else 0x3C3)]
      else lowerChar c
    form ++ lowerChars (c :: before) rest

def lower (s : String) : String := String.ofList (lowerChars [] s.toList)

def upper (s : String) : String := String.ofList (s.toList.flatMap upperChar)

end Trellis.Text
