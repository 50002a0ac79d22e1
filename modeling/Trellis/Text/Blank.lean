/-!
Blank characters: those with the Unicode property `White_Space`.
-/

namespace Trellis.Text

/-- Whether a character is white space. -/
def isBlank (c : Char) : Bool :=
  let n := c.toNat
  (9 ≤ n && n ≤ 13) || n == 0x20 || n == 0x85 || n == 0xA0 || n == 0x1680 ||
    (0x2000 ≤ n && n ≤ 0x200A) || n == 0x2028 || n == 0x2029 || n == 0x202F || n == 0x205F ||
    n == 0x3000

def trimChars (cs : List Char) : List Char :=
  ((cs.dropWhile isBlank).reverse.dropWhile isBlank).reverse

/-- The text without the blanks at its ends. -/
def trim (s : String) : String := String.ofList (trimChars s.toList)

/-- The text with the ASCII letters in lowercase. -/
def lowerAscii (s : String) : String := s.map Char.toLower

/-- The text with the ASCII letters in uppercase. -/
def upperAscii (s : String) : String := s.map Char.toUpper

/-- The pieces between the occurrences of a separator, in order; at least one. -/
def splitChars (separator : Char) : List Char → List (List Char)
  | [] => [[]]
  | c :: rest =>
    if c = separator then [] :: splitChars separator rest
    else match splitChars separator rest with
      | [] => [[c]]
      | piece :: pieces => (c :: piece) :: pieces

/-- The text before the first occurrence of a separator, and the text after it if there is one. -/
def cutChars (separator : Char) : List Char → List Char × Option (List Char)
  | [] => ([], none)
  | c :: rest =>
    if c = separator then ([], some rest)
    else
      let cut := cutChars separator rest
      (c :: cut.1, cut.2)

/-- The text before the first occurrence of a separator, and the text after it if there is one. -/
def cut (separator : Char) (s : String) : String × Option String :=
  let parts := cutChars separator s.toList
  (String.ofList parts.1, parts.2.map String.ofList)

end Trellis.Text
