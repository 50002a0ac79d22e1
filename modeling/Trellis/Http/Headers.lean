import Trellis.Text.Utf8
/-!
Header fields. Names are tokens, compared in lowercase; values are bytes without control characters
other than the tab. A name may have several values, which keep their order. Invalid names and values are
ignored by the operations that set them.
-/

namespace Trellis

/-- Header fields in the order in which they were added. -/
structure Headers where
  entries : List (String × Bytes)
deriving DecidableEq, Repr

namespace Headers

def empty : Headers := ⟨[]⟩

/-- Whether a character may stand in a header name. -/
def isTokenChar (c : Char) : Bool :=
  c.isAlphanum ||
    ['!', '#', '$', '%', '&', '\'', '*', '+', '-', '.', '^', '_', Char.ofNat 0x60, '|', '~'].contains c

/-- The longest header name. -/
def longestName : Nat := 65535

/-- A header name in lowercase, if it is one. -/
def name? (text : String) : Option String :=
  let cs := text.toList
  if cs ≠ [] ∧ cs.all isTokenChar ∧ cs.length ≤ longestName then
    some (String.ofList (cs.map Char.toLower))
  else none

/-- Whether a byte may stand in a header value. -/
def isValueByte (b : UInt8) : Bool := (0x20 ≤ b.toNat && b.toNat ≠ 0x7F) || b.toNat = 9

/-- A header value, if the text is one. -/
def value? (text : String) : Option Bytes :=
  let bytes := Utf8.encode text
  if bytes.all isValueByte then some bytes else none

def contains (h : Headers) (name : String) : Bool := h.entries.any fun entry => entry.1 = name

/-- The first value of a name. -/
def get? (h : Headers) (name : String) : Option Bytes :=
  (h.entries.find? fun entry => entry.1 = name).map (·.2)

/-- Add a value after the others of its name. -/
def append (h : Headers) (name : String) (value : Bytes) : Headers := ⟨h.entries ++ [(name, value)]⟩

/-- Set the only value of a name. -/
def insert (h : Headers) (name : String) (value : Bytes) : Headers :=
  ⟨(h.entries.filter fun entry => entry.1 ≠ name) ++ [(name, value)]⟩

/-- A valid name and value. -/
def pair? (name value : String) : Option (String × Bytes) := do
  let name ← name? name
  let value ← value? value
  return (name, value)

def appendText (h : Headers) (name value : String) : Headers :=
  match pair? name value with
  | some (name, value) => h.append name value
  | none => h

def insertText (h : Headers) (name value : String) : Headers :=
  match pair? name value with
  | some (name, value) => h.insert name value
  | none => h

/-- Whether a byte shows as ASCII text: visible, a space or a tab. -/
def isTextByte (b : UInt8) : Bool := (0x20 ≤ b.toNat && b.toNat < 0x7F) || b.toNat = 9

/-- A value as text, if it is ASCII. -/
def valueText? (value : Bytes) : Option String :=
  if value.all isTextByte then Utf8.decode? value else none

/-- The first value of a name in any letter case, if it is ASCII text. -/
def text? (h : Headers) (name : String) : Option String := do
  let name ← name? name
  let value ← h.get? name
  valueText? value

/-- Add the fields of `extra` whose names are not there yet. -/
def fill (h extra : Headers) : Headers :=
  extra.entries.foldl
    (fun h entry => if h.contains entry.1 then h else h.append entry.1 entry.2) h

/-- The fields by name; the values of one name keep their order. -/
def sorted (h : Headers) : List (String × Bytes) := h.entries.mergeSort fun a b => a.1 ≤ b.1

end Headers

end Trellis
