import Trellis.Http.Headers
import Trellis.Json.Printer
import Trellis.Json.Reader
import Trellis.Text.Blank
import Trellis.Text.Form
/-!
Requests and responses. A request holds its target as received: the path, and after the first question
mark the query.
-/

namespace Trellis

namespace MediaType

def name : String := "content-type"

def json : Bytes := Utf8.encode "application/json"

def form : Bytes := Utf8.encode "application/x-www-form-urlencoded"

def plainText : Bytes := Utf8.encode "text/plain; charset=utf-8"

end MediaType

structure Request where
  method : String
  target : String
  headers : Headers
  body : Bytes
deriving DecidableEq, Repr

/-- Why a JSON value has no form encoding. -/
inductive FormFault
  | notPairs
  | badPair
  | badValue
deriving DecidableEq, Repr

def FormFault.message : FormFault → String
  | .notPairs => "top-level serializer supports only maps and structs"
  | .badPair => "unsupported pair"
  | .badValue => "unsupported value"

namespace Request

def new (method target : String) : Request := ⟨method, target, Headers.empty, []⟩

/-- Add a header field. -/
def withHeader (r : Request) (name value : String) : Request :=
  { r with headers := r.headers.appendText name value }

def withBody (r : Request) (body : Bytes) : Request := { r with body }

/-- Set a JSON body and its media type. -/
def withJson (r : Request) (value : Json) : Request :=
  { r with body := Utf8.encode value.compact, headers := r.headers.insert MediaType.name MediaType.json }

/-- Set a form body and its media type. -/
def withForm (r : Request) (pairs : List (String × String)) : Request :=
  { r with body := Form.encode pairs, headers := r.headers.insert MediaType.name MediaType.form }

/-- The text of a scalar as a form value. -/
def formText? : Json → Option String
  | .bool b => some (if b then "true" else "false")
  | .number (.whole n) => some (toString n.val)
  | .number (.double d) => some (Layout.form.write d)
  | .string s => some s
  | _ => none

/-- The pairs that a JSON value stands for in a form: an object of scalars. A list holds no pairs
unless it is empty, since a list of two is no pair. -/
def formPairs : Json → Except FormFault (List (String × String))
  | .null => .ok []
  | .object fields => fields.mapM fun field =>
    match formText? field.2 with
    | some text => .ok (field.1, text)
    | none => .error .badValue
  | .array [] => .ok []
  | .array _ => .error .badPair
  | _ => .error .notPairs

def withFormValue (r : Request) (value : Json) : Except FormFault Request :=
  (formPairs value).map r.withForm

/-- The target up to the first question mark. -/
def path (r : Request) : String := (Text.cut '?' r.target).1

/-- The target after the first question mark. -/
def query? (r : Request) : Option String := (Text.cut '?' r.target).2

def header? (r : Request) (name : String) : Option String := r.headers.text? name

end Request

structure Response where
  status : Nat
  headers : Headers
  body : Bytes
deriving DecidableEq, Repr

namespace Response

/-- A response without fields and body. -/
def bare (status : Nat) : Response := ⟨status, Headers.empty, []⟩

def withStatus (r : Response) (status : Nat) : Response := { r with status }

/-- Set a header field. -/
def withHeader (r : Response) (name value : String) : Response :=
  { r with headers := r.headers.insertText name value }

def withBody (r : Response) (body : Bytes) : Response := { r with body }

/-- Set a text body and its media type. -/
def withText (r : Response) (text : String) : Response :=
  { r with
    body := Utf8.encode text
    headers := r.headers.insert MediaType.name MediaType.plainText }

/-- Set a JSON body and its media type. -/
def withJson (r : Response) (value : Json) : Response :=
  { r with
    body := Utf8.encode value.compact
    headers := r.headers.insert MediaType.name MediaType.json }

def json (status : Nat) (value : Json) : Response := (bare status).withJson value

def header? (r : Response) (name : String) : Option String := r.headers.text? name

/-- The body as text, with replacements where it is no UTF-8. -/
def text (r : Response) : String := Utf8.decodeLossy r.body

/-- The body read as JSON. -/
def bodyJson (r : Response) : Except Json.ReadError Json := Json.ofBytes r.body

end Response

end Trellis
