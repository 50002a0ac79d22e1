import Trellis.Routing.Path
/-!
Route patterns such as `/users/:id/files/*`. A pattern is a list of segments: literals, parameters that
take one segment each, and at the end possibly a wildcard that takes all remaining segments.
-/

namespace Trellis

inductive Segment
  | literal (text : String)
  | param (name : String)
  | wildcard
deriving DecidableEq, Repr

/-- Why a text is no pattern. Each case carries the text. -/
inductive PatternError
  | wildcardNotLast (pattern : String)
  | emptyName (pattern : String)
  | duplicateName (pattern name : String)
  | notAbsolute (pattern : String)
deriving DecidableEq, Repr

def PatternError.message : PatternError → String
  | .wildcardNotLast pattern => s!"`*` must be the last segment in `{pattern}`"
  | .emptyName pattern => s!"empty parameter name in `{pattern}`"
  | .duplicateName pattern name => s!"parameter `{name}` appears more than once in `{pattern}`"
  | .notAbsolute pattern => s!"route pattern `{pattern}` must start with `/`"

/-- A pattern as it was written, and its segments. -/
structure Pattern where
  raw : String
  segments : List Segment
deriving DecidableEq, Repr

namespace Segment

/-- The segment as a pattern writes it. -/
def text : Segment → String
  | .literal text => text
  | .param name => String.ofList (':' :: name.toList)
  | .wildcard => "*"

/-- The name under which the segment captures. -/
def name? : Segment → Option String
  | .literal _ => none
  | .param name => some name
  | .wildcard => some "*"

def isLiteral : Segment → Bool
  | .literal _ => true
  | _ => false

end Segment

namespace Pattern

/-- Read the parts of the pattern `raw`; `seen` holds the parameter names of the parts before. -/
def segmentsOf (raw : String) (seen : List String) : List String → Except PatternError (List Segment)
  | [] => .ok []
  | part :: rest =>
    if part = "*" then
      if rest = [] then .ok [.wildcard] else .error (.wildcardNotLast raw)
    else match part.toList with
      | ':' :: chars =>
        let name := String.ofList chars
        if chars = [] then .error (.emptyName raw)
        else if name ∈ seen then .error (.duplicateName raw name)
        else (segmentsOf raw (name :: seen) rest).map (.param name :: ·)
      | _ => (segmentsOf raw seen rest).map (.literal part :: ·)

/-- Read a pattern. It starts with a slash; empty segments do not count. -/
def parse (raw : String) : Except PatternError Pattern :=
  match raw.toList with
  | '/' :: _ => (segmentsOf raw [] (Path.split raw)).map fun segments => ⟨raw, segments⟩
  | _ => .error (.notAbsolute raw)

/-- Whether every segment is a literal. -/
def isStatic (p : Pattern) : Bool := p.segments.all Segment.isLiteral

/-- The names of the captures in order. -/
def paramNames (p : Pattern) : List String := p.segments.filterMap Segment.name?

/-- The pattern with single slashes and no slash at its end. -/
def canonical (p : Pattern) : String := Path.join (p.segments.map Segment.text)

end Pattern

end Trellis
