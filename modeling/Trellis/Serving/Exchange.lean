import Trellis.Error
import Trellis.Http.Body
import Trellis.Json.Decode
import Trellis.Routing.Params
import Trellis.Store
/-!
What the code of an application sees of a request and cannot change: the request itself, the route it was
matched to, and the values that validation has left.
-/

namespace Trellis

structure Exchange where
  method : String
  /-- The normalized path below the base path. -/
  path : String
  /-- The pattern of the matched route. -/
  route : Option String
  params : Params
  query : KeyMap Json
  headers : Headers
  rawBody : Bytes
  /-- The body, once validation has decoded it. -/
  decoded : Option (Except BodyFault Body)
  validParams : Option Json
  validQuery : Option Json
  validBody : Option Json
  decorators : Store

namespace Exchange

/-- A path parameter as it was captured. -/
def param? (x : Exchange) (name : String) : Option String := x.params.get? name

/-- The first value of a query parameter. -/
def query? (x : Exchange) (name : String) : Option String :=
  match x.query.get? name with
  | some (.string value) => some value
  | some (.array (.string value :: _)) => some value
  | _ => none

/-- All values of a query parameter. -/
def queryAll (x : Exchange) (name : String) : List String :=
  match x.query.get? name with
  | some (.string value) => [value]
  | some (.array values) => values.filterMap Json.string?
  | _ => []

def header? (x : Exchange) (name : String) : Option String := x.headers.text? name

/-- The body as it decodes. -/
def parsedBody (x : Exchange) : Except BodyFault Body :=
  x.decoded.getD (Body.parse (x.header? MediaType.name) x.rawBody)

/-- The body; one that cannot be decoded is the client's fault. -/
def body (x : Exchange) : Except Error Body :=
  match x.parsedBody with
  | .ok body => .ok body
  | .error fault => .error (.fault .badRequest fault.message)

/-- The path parameters as validation has left them, else as they are. -/
def paramsValue (x : Exchange) : Json := x.validParams.getD x.params.toJson

/-- The query as validation has left it, else as it is. -/
def queryValue (x : Exchange) : Json := x.validQuery.getD (.object x.query)

/-- The body as validation has left it, else as it is; null if there is none. -/
def bodyValue (x : Exchange) : Except Error Json :=
  match x.validBody with
  | some value => .ok value
  | none => x.body.map fun body => body.toJson?.getD .null

/-- A value read in a type. -/
def readAs (shape : Json.Shape) (fault : Fault) (value : Json) : Except Error Json :=
  match Json.decode shape value with
  | .ok value => .ok value
  | .error e => .error (.fault fault e.message)

/-- The body in a type. -/
def json (x : Exchange) (shape : Json.Shape) : Except Error Json :=
  x.bodyValue.bind (readAs shape .deserialization)

/-- The query in a type. -/
def queryAs (x : Exchange) (shape : Json.Shape) : Except Error Json :=
  readAs shape .badRequest x.queryValue

/-- The path parameters in a type. -/
def paramsAs (x : Exchange) (shape : Json.Shape) : Except Error Json :=
  readAs shape .badRequest x.paramsValue

/-- The exchange as diagnostics show it. -/
def debug (x : Exchange) : String :=
  let route := match x.route with
    | none => "None"
    | some route => "Some(" ++ Text.quoted route ++ ")"
  let entries := x.params.entries.map fun entry =>
    "(" ++ Text.quoted entry.1 ++ ", " ++ Text.quoted entry.2 ++ ")"
  "Context \x7b method: " ++ Text.quoted x.method ++ ", path: " ++ Text.quoted x.path ++
    ", route: " ++ route ++ ", params: Params \x7b entries: " ++ Text.bracketed entries ++
    " \x7d \x7d"

end Exchange

end Trellis
