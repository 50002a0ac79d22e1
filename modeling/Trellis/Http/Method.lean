import Trellis.Text.Blank
/-!
Request methods. `any` is the method of routes that serve every method; no request is read as it.
-/

namespace Trellis

inductive Method
  | get
  | post
  | put
  | patch
  | delete
  | options
  | head
  | trace
  | connect
  | any
deriving DecidableEq, Repr

namespace Method

/-- All methods in their order. -/
def all : List Method :=
  [.get, .post, .put, .patch, .delete, .options, .head, .trace, .connect, .any]

def name : Method → String
  | .get => "GET"
  | .post => "POST"
  | .put => "PUT"
  | .patch => "PATCH"
  | .delete => "DELETE"
  | .options => "OPTIONS"
  | .head => "HEAD"
  | .trace => "TRACE"
  | .connect => "CONNECT"
  | .any => "ALL"

/-- The place of a method in the order. -/
def index : Method → Nat
  | .get => 0
  | .post => 1
  | .put => 2
  | .patch => 3
  | .delete => 4
  | .options => 5
  | .head => 6
  | .trace => 7
  | .connect => 8
  | .any => 9

/-- The method with the given name. -/
def ofName? (name : String) : Option Method := all.find? fun m => m.name = name

/-- The method that a request line names, in any letter case. -/
def ofRequest? (text : String) : Option Method :=
  (ofName? (Text.upperAscii text)).filter fun m => m ≠ .any

/-- The methods of a list in their order, each once. -/
def sorted (methods : List Method) : List Method := all.filter fun m => m ∈ methods

end Method

end Trellis
