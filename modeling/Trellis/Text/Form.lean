import Trellis.Text.Percent
/-!
Name and value pairs in the form `a=1&b=2`. A space is written `+`; letters, digits and `*`, `-`, `.`,
`_` stand for themselves and all other bytes are percent-escaped. Reading skips empty pieces, takes a
piece without `=` as a name with an empty value, and reads ill-formed UTF-8 with replacements.
-/

namespace Trellis.Form

/-- Bytes that are written as they are. -/
def isPlain (b : UInt8) : Bool :=
  Percent.isAlphanumeric b || b == 0x2A || b == 0x2D || b == 0x2E || b == 0x5F

def encodeByte (b : UInt8) : Bytes :=
  if isPlain b then [b] else if b == 0x20 then [0x2B] else Percent.escape b

def encodeBytes (bytes : Bytes) : Bytes := bytes.flatMap encodeByte

def encodeText (text : String) : Bytes := encodeBytes (Utf8.encode text)

def encodePair (pair : String × String) : Bytes :=
  encodeText pair.1 ++ 0x3D :: encodeText pair.2

/-- The pairs joined by `&`. -/
def encode : List (String × String) → Bytes
  | [] => []
  | [pair] => encodePair pair
  | pair :: rest => encodePair pair ++ 0x26 :: encode rest

/-- The pieces between the occurrences of a byte; at least one. -/
def split (separator : UInt8) : Bytes → List Bytes
  | [] => [[]]
  | b :: rest =>
    if b = separator then [] :: split separator rest
    else match split separator rest with
      | [] => [[b]]
      | piece :: pieces => (b :: piece) :: pieces

/-- The bytes before the first `=`, and those after it. -/
def cutPair : Bytes → Bytes × Bytes
  | [] => ([], [])
  | b :: rest =>
    if b = 0x3D then ([], rest)
    else
      let cut := cutPair rest
      (b :: cut.1, cut.2)

def decodeText (bytes : Bytes) : String :=
  Utf8.decodeLossy (Percent.decode (bytes.map fun b => if b = 0x2B then 0x20 else b))

def decodePair (bytes : Bytes) : String × String :=
  let cut := cutPair bytes
  (decodeText cut.1, decodeText cut.2)

def decode (bytes : Bytes) : List (String × String) :=
  ((split 0x26 bytes).filter fun piece => piece ≠ []).map decodePair

end Trellis.Form
