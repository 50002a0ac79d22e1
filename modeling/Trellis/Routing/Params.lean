import Trellis.Json.Value
/-!
Captured path parameters, in pattern order.
-/

namespace Trellis

structure Params where
  entries : List (String × String)
deriving DecidableEq, Repr

namespace Params

def empty : Params := ⟨[]⟩

def push (params : Params) (name value : String) : Params := ⟨params.entries ++ [(name, value)]⟩

/-- The first value under a name. -/
def get? (params : Params) (name : String) : Option String :=
  (params.entries.find? fun entry => entry.1 = name).map (·.2)

def size (params : Params) : Nat := params.entries.length

def isEmpty (params : Params) : Bool := params.entries.isEmpty

/-- The parameters as an object of strings. -/
def toJson (params : Params) : Json :=
  Json.ofFields (params.entries.map fun entry => (entry.1, .string entry.2))

end Params

end Trellis
