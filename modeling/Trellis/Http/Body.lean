import Trellis.Http.Message
/-!
Request bodies and query strings as values. The media type decides how a body is read; a body without one
is text. Names that occur once in a form or a query hold a text, repeated ones the list of their texts.
-/

namespace Trellis

inductive Body
  | empty
  | json (value : Json)
  | form (value : Json)
  | text (text : String)
  | binary (bytes : Bytes)

/-- Why a body cannot be read. -/
inductive BodyFault
  | badJson (error : Json.ReadError)
  | notUtf8
deriving DecidableEq, Repr

def BodyFault.message : BodyFault → String
  | .badJson error => "invalid JSON body: " ++ error.message
  | .notUtf8 => "body is not valid UTF-8"

/-- The value of a name after one more occurrence with the given text. -/
def addOccurrence (before : Option Json) (text : String) : Json :=
  match before with
  | none => .string text
  | some (.array items) => .array (items ++ [.string text])
  | some other => .array [other, .string text]

/-- Group pairs by name. -/
def groupPairs (pairs : List (String × String)) : KeyMap Json :=
  pairs.foldl (fun m pair => m.insert pair.1 (addOccurrence (m.get? pair.1) pair.2)) []

/-- A query string as the fields of an object. -/
def parseQuery (query : String) : KeyMap Json := groupPairs (Form.decode (Utf8.encode query))

namespace Body

/-- The media type without its parameters, in lowercase; empty if there is none. -/
def mediaType (contentType : Option String) : String :=
  match contentType with
  | none => ""
  | some value => Text.lowerAscii (Text.trim (Text.cut ';' value).1)

/-- Read a body. -/
def parse (contentType : Option String) (bytes : Bytes) : Except BodyFault Body :=
  if bytes = [] then .ok .empty
  else
    let type := mediaType contentType
    if type = "application/json" ∨ "+json".toList.isSuffixOf type.toList then
      match Json.ofBytes bytes with
      | .ok value => .ok (.json value)
      | .error e => .error (.badJson e)
    else if type = "application/x-www-form-urlencoded" then
      .ok (.form (.object (groupPairs (Form.decode bytes))))
    else if type = "" ∨ "text/".toList.isPrefixOf type.toList then
      match Utf8.decode? bytes with
      | some content => .ok (.text content)
      | none => .error .notUtf8
    else .ok (.binary bytes)

/-- The body as a value to check. -/
def toJson? : Body → Option Json
  | .empty => none
  | .json value => some value
  | .form value => some value
  | .text content => some (.string content)
  | .binary _ => none

def isEmpty : Body → Bool
  | .empty => true
  | _ => false

end Body

end Trellis
