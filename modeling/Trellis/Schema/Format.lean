import Trellis.Regex.Reader
/-!
The named formats of strings: email addresses, UUIDs and web addresses, each told by an expression.
-/

namespace Trellis

inductive StringFormat
  | email
  | uuid
  | uri
deriving DecidableEq, Repr

namespace StringFormat

def name : StringFormat → String
  | .email => "email"
  | .uuid => "uuid"
  | .uri => "uri"

/-- The format with the given name. -/
def ofName? (name : String) : Option StringFormat :=
  [email, uuid, uri].find? fun f => f.name = name

/-- The expression of a format as it is written. It spans the whole text. -/
def text : StringFormat → String
  | .email =>
    "^[a-zA-Z0-9.!#$%&'*+/=?^_`\x7b|\x7d~-]+@[a-zA-Z0-9](?:[a-zA-Z0-9-]\x7b0,61\x7d[a-zA-Z0-9])?" ++
      "(?:\\.[a-zA-Z0-9](?:[a-zA-Z0-9-]\x7b0,61\x7d[a-zA-Z0-9])?)*$"
  | .uuid =>
    "^[0-9a-fA-F]\x7b8\x7d-[0-9a-fA-F]\x7b4\x7d-[0-9a-fA-F]\x7b4\x7d-[0-9a-fA-F]\x7b4\x7d-" ++
      "[0-9a-fA-F]\x7b12\x7d$"
  | .uri => "^https?://[^\\s/$.?#].[^\\s]*$"

/-- The expression of a format. -/
def regex? (f : StringFormat) : Option Regex := (Regex.read? f.text).map (·.1)

/-- Whether a text has the format. -/
def accepts (f : StringFormat) (text : String) : Bool :=
  f.regex?.any fun regex => regex.occursIn text

end StringFormat

end Trellis
