import Trellis.Config.Basic
import Trellis.Http.Status
import Trellis.Routing.Router
import Trellis.Schema.Compile
/-!
Errors of an application, at registration and while serving. Each has a status; the message of an error
whose status is the server's fault is not for clients.
-/

namespace Trellis

namespace SchemaError

def message : SchemaError → String
  | invalidPattern field pattern =>
    s!"invalid pattern `{pattern}` at `{field}`: not a regular expression"
  | invalidDefault field reason =>
    s!"default for `{field}` does not satisfy its own schema: {reason}"

end SchemaError

/-- The kinds of errors that consist of a text. -/
inductive Fault
  | notFound
  | methodNotAllowed
  | badRequest
  | unauthorized
  | forbidden
  | conflict
  | unsupportedMediaType
  | unprocessableEntity
  | tooManyRequests
  | serialization
  | deserialization
  | internal
  | serviceUnavailable
  | panic
  | io
deriving DecidableEq, Repr

namespace Fault

def label : Fault → String
  | notFound => "Not Found"
  | methodNotAllowed => "Method not allowed"
  | badRequest => "Bad Request"
  | unauthorized => "Unauthorized"
  | forbidden => "Forbidden"
  | conflict => "Conflict"
  | unsupportedMediaType => "Unsupported Media Type"
  | unprocessableEntity => "Unprocessable Entity"
  | tooManyRequests => "Too Many Requests"
  | serialization => "Serialization error"
  | deserialization => "Deserialization error"
  | internal => "Internal server error"
  | serviceUnavailable => "Service Unavailable"
  | panic => "Handler panicked"
  | io => "IO error"

def status : Fault → Status
  | notFound => .notFound
  | methodNotAllowed => .methodNotAllowed
  | badRequest | deserialization => .badRequest
  | unauthorized => .unauthorized
  | forbidden => .forbidden
  | conflict => .conflict
  | unsupportedMediaType => .unsupportedMediaType
  | unprocessableEntity => .unprocessableEntity
  | tooManyRequests => .tooManyRequests
  | serviceUnavailable => .serviceUnavailable
  | serialization | internal | panic | io => .internalServerError

end Fault

inductive Error
  | pattern (error : PatternError)
  | duplicateRoute (route : DuplicateRoute)
  | pluginDependency (plugin missing : String)
  | schema (error : SchemaError)
  | config (error : ConfigError)
  | validation (errors : ValidationErrors)
  | fault (kind : Fault) (text : String)
  /-- An error of the application's own. -/
  | custom (text : String)
deriving DecidableEq, Repr

namespace Error

def message : Error → String
  | pattern error => "Invalid route pattern: " ++ error.message
  | duplicateRoute route => s!"Route already registered: {route.method.name} {route.pattern}"
  | pluginDependency plugin missing =>
    s!"Plugin `{plugin}` depends on `{missing}`, which is not registered"
  | schema error => "Invalid schema: " ++ error.message
  | config error => "Configuration error: " ++ error.message
  | validation errors => "Validation error: " ++ errors.display
  | fault kind text => kind.label ++ ": " ++ text
  | custom text => text

/-- The status that tells a client about the error. -/
def status : Error → Status
  | validation _ => .badRequest
  | fault kind _ => kind.status
  | _ => .internalServerError

def isClientError (e : Error) : Bool := e.status.isClientError

def isServerError (e : Error) : Bool := e.status.isServerError

/-- What a client is told of an error: the text alone where it is about the client's request. -/
def clientMessage : Error → String
  | fault .notFound text
  | fault .methodNotAllowed text
  | fault .badRequest text
  | fault .unauthorized text
  | fault .forbidden text
  | fault .conflict text
  | fault .unsupportedMediaType text
  | fault .unprocessableEntity text
  | fault .tooManyRequests text
  | fault .deserialization text => text
  | e => e.message

end Error

end Trellis
