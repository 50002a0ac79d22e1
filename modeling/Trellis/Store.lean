import Trellis.Json.Value
import Trellis.Text.Quoted
/-!
Named values of several types. A value is read back only under the type it was stored with.
-/

namespace Trellis

/-- The types of stored values. -/
inductive StoredType
  | natural
  | integer
  | bool
  | text
  | json
deriving DecidableEq, Repr

inductive Stored
  /-- An unsigned word. -/
  | natural (n : UInt64)
  /-- A signed word. -/
  | integer (n : Int64)
  | bool (b : Bool)
  | text (s : String)
  | json (j : Json)

def Stored.type : Stored → StoredType
  | natural _ => .natural
  | integer _ => .integer
  | bool _ => .bool
  | text _ => .text
  | json _ => .json

/-- The stored values by name. -/
structure Store where
  entries : KeyMap Stored

namespace Store

def empty : Store := ⟨[]⟩

/-- Store a value, in place of the one that was there, whatever its type. -/
def insert (s : Store) (key : String) (value : Stored) : Store := ⟨s.entries.insert key value⟩

/-- The value under a name, if it has the wanted type. -/
def get? (s : Store) (key : String) (type : StoredType) : Option Stored :=
  (s.entries.get? key).filter fun value => value.type = type

def contains (s : Store) (key : String) : Bool := s.entries.contains key

def erase (s : Store) (key : String) : Store := ⟨s.entries.erase key⟩

/-- The names in increasing order. -/
def keys (s : Store) : List String := s.entries.keys

def size (s : Store) : Nat := s.entries.length

def isEmpty (s : Store) : Bool := s.entries.isEmpty

/-- The store as diagnostics show it: the names without the values. -/
def debug (s : Store) : String :=
  "Store \x7b keys: " ++ Text.bracketed (s.keys.map Text.quoted) ++ " \x7d"

end Store

end Trellis
