import Trellis.Json.Value
import Trellis.Number.Layout
/-!
JSON values as compact text: no spaces, fields in the order in which the object holds them, and only
quotes, backslashes and control characters escaped.
-/

namespace Trellis.Json

def escapeChar (c : Char) : List Char :=
  if c = '"' then ['\\', '"']
  else if c = '\\' then ['\\', '\\']
  else if c = '\n' then ['\\', 'n']
  else if c = '\r' then ['\\', 'r']
  else if c = '\t' then ['\\', 't']
  else if c.toNat = 8 then ['\\', 'b']
  else if c.toNat = 12 then ['\\', 'f']
  else if c.toNat < 32 then
    ['\\', 'u', '0', '0', Nat.digitChar (c.toNat / 16), Nat.digitChar (c.toNat % 16)]
  else [c]

/-- A string in double quotes. -/
def quoteChars (s : String) : List Char := '"' :: s.toList.flatMap escapeChar ++ ['"']

def numberText : Number → String
  | .whole n => toString n.val
  | .double d => Layout.json.write d

mutual

def chars : Json → List Char
  | .null => ['n', 'u', 'l', 'l']
  | .bool true => ['t', 'r', 'u', 'e']
  | .bool false => ['f', 'a', 'l', 's', 'e']
  | .number n => (numberText n).toList
  | .string s => quoteChars s
  | .array [] => ['[', ']']
  | .array (item :: rest) => '[' :: chars item ++ itemChars rest
  | .object [] => ['{', '}']
  | .object ((key, value) :: rest) => '{' :: quoteChars key ++ ':' :: chars value ++ fieldChars rest

/-- The items after the first, each with a comma before it, and the closing bracket. -/
def itemChars : List Json → List Char
  | [] => [']']
  | item :: rest => ',' :: chars item ++ itemChars rest

/-- The fields after the first, each with a comma before it, and the closing brace. -/
def fieldChars : List (String × Json) → List Char
  | [] => ['}']
  | (key, value) :: rest => ',' :: quoteChars key ++ ':' :: chars value ++ fieldChars rest

end

/-- The compact text of a value. -/
def compact (j : Json) : String := String.ofList (chars j)

end Trellis.Json
