/-!
Response status codes: the named ones with their reason phrases, and a phrase for every code.
-/

namespace Trellis

/-- A named status code. -/
inductive Status
  | ok
  | created
  | accepted
  | noContent
  | movedPermanently
  | found
  | seeOther
  | notModified
  | temporaryRedirect
  | permanentRedirect
  | badRequest
  | unauthorized
  | forbidden
  | notFound
  | methodNotAllowed
  | notAcceptable
  | requestTimeout
  | conflict
  | gone
  | payloadTooLarge
  | unsupportedMediaType
  | unprocessableEntity
  | tooManyRequests
  | internalServerError
  | notImplemented
  | badGateway
  | serviceUnavailable
  | gatewayTimeout
deriving DecidableEq, Repr

namespace Status

def all : List Status :=
  [.ok, .created, .accepted, .noContent, .movedPermanently, .found, .seeOther, .notModified,
   .temporaryRedirect, .permanentRedirect, .badRequest, .unauthorized, .forbidden, .notFound,
   .methodNotAllowed, .notAcceptable, .requestTimeout, .conflict, .gone, .payloadTooLarge,
   .unsupportedMediaType, .unprocessableEntity, .tooManyRequests, .internalServerError,
   .notImplemented, .badGateway, .serviceUnavailable, .gatewayTimeout]

def code : Status → Nat
  | .ok => 200
  | .created => 201
  | .accepted => 202
  | .noContent => 204
  | .movedPermanently => 301
  | .found => 302
  | .seeOther => 303
  | .notModified => 304
  | .temporaryRedirect => 307
  | .permanentRedirect => 308
  | .badRequest => 400
  | .unauthorized => 401
  | .forbidden => 403
  | .notFound => 404
  | .methodNotAllowed => 405
  | .notAcceptable => 406
  | .requestTimeout => 408
  | .conflict => 409
  | .gone => 410
  | .payloadTooLarge => 413
  | .unsupportedMediaType => 415
  | .unprocessableEntity => 422
  | .tooManyRequests => 429
  | .internalServerError => 500
  | .notImplemented => 501
  | .badGateway => 502
  | .serviceUnavailable => 503
  | .gatewayTimeout => 504

/-- The reason phrase. -/
def reason : Status → String
  | .ok => "OK"
  | .created => "Created"
  | .accepted => "Accepted"
  | .noContent => "No Content"
  | .movedPermanently => "Moved Permanently"
  | .found => "Found"
  | .seeOther => "See Other"
  | .notModified => "Not Modified"
  | .temporaryRedirect => "Temporary Redirect"
  | .permanentRedirect => "Permanent Redirect"
  | .badRequest => "Bad Request"
  | .unauthorized => "Unauthorized"
  | .forbidden => "Forbidden"
  | .notFound => "Not Found"
  | .methodNotAllowed => "Method Not Allowed"
  | .notAcceptable => "Not Acceptable"
  | .requestTimeout => "Request Timeout"
  | .conflict => "Conflict"
  | .gone => "Gone"
  | .payloadTooLarge => "Payload Too Large"
  | .unsupportedMediaType => "Unsupported Media Type"
  | .unprocessableEntity => "Unprocessable Entity"
  | .tooManyRequests => "Too Many Requests"
  | .internalServerError => "Internal Server Error"
  | .notImplemented => "Not Implemented"
  | .badGateway => "Bad Gateway"
  | .serviceUnavailable => "Service Unavailable"
  | .gatewayTimeout => "Gateway Timeout"

/-- The reason phrase in one word. -/
def label : Status → String
  | .ok => "Ok"
  | s => String.ofList (s.reason.toList.filter fun c => c ≠ ' ')

def ofCode? (code : Nat) : Option Status := all.find? fun s => s.code = code

def isSuccess (s : Status) : Bool := 200 ≤ s.code && s.code < 300

def isClientError (s : Status) : Bool := 400 ≤ s.code && s.code < 500

def isServerError (s : Status) : Bool := 500 ≤ s.code && s.code < 600

/-- The reason phrase of any code; codes without a name have that of their class. -/
def reasonFor (code : Nat) : String :=
  match ofCode? code with
  | some s => s.reason
  | none =>
    if 100 ≤ code ∧ code ≤ 199 then "Informational"
    else if 200 ≤ code ∧ code ≤ 299 then "Success"
    else if 300 ≤ code ∧ code ≤ 399 then "Redirection"
    else if 400 ≤ code ∧ code ≤ 499 then "Client Error"
    else "Server Error"

/-- The code and the reason phrase. -/
def text (s : Status) : String := s!"{s.code} {s.reason}"

end Status

end Trellis
