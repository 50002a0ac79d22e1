import Trellis.Text.Blank
/-!
Paths as lists of segments. `split` drops empty segments, so duplicate, leading and trailing slashes do
not count; `join` writes a list of segments with one slash before each.
-/

namespace Trellis.Path

/-- The non-empty pieces between slashes. -/
def split (path : String) : List String :=
  ((Text.splitChars '/' path.toList).filter fun piece => piece ≠ []).map String.ofList

/-- The segments with a slash before each; the empty list is the root. -/
def join (segments : List String) : String :=
  if segments = [] then "/"
  else String.ofList (segments.flatMap fun segment => '/' :: segment.toList)

/-- The path with single slashes and no slash at its end. -/
def normalize (path : String) : String := join (split path)

/-- Whether `top` covers `path` by whole segments: `/api` covers `/api` and `/api/x`, not `/apix`. -/
def covers (top path : List String) : Bool := top.isPrefixOf path

end Trellis.Path
