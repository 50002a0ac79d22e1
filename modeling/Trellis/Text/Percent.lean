import Trellis.Text.Utf8
/-!
Percent encoding. Decoding replaces `%` and two hexadecimal digits by the byte they spell and leaves
every other byte alone, an unfinished escape included.
-/

namespace Trellis.Percent

/-- `%`. -/
def sign : UInt8 := 0x25

def decode : Bytes → Bytes
  | [] => []
  | b :: rest =>
    if b = sign then
      match rest with
      | h :: l :: more =>
        match Bytes.hexValue? h.toNat, Bytes.hexValue? l.toNat with
        | some high, some low => UInt8.ofNat (high * 16 + low) :: decode more
        | _, _ => b :: decode (h :: l :: more)
      | short => b :: short
    else b :: decode rest

/-- The uppercase hexadecimal digit of a number below 16, as a byte. -/
def hexByte (n : Nat) : UInt8 := UInt8.ofNat (if n < 10 then 0x30 + n else 0x41 + (n - 10))

def escape (b : UInt8) : Bytes := [sign, hexByte (b.toNat / 16), hexByte (b.toNat % 16)]

/-- Whether a byte is an ASCII letter or digit. -/
def isAlphanumeric (b : UInt8) : Bool :=
  let n := b.toNat
  (0x30 ≤ n && n ≤ 0x39) || (0x41 ≤ n && n ≤ 0x5A) || (0x61 ≤ n && n ≤ 0x7A)

/-- Whether a byte is unreserved in a path: a letter, a digit or one of `-`, `_`, `.`, `~`. -/
def isUnreserved (b : UInt8) : Bool :=
  isAlphanumeric b || b == 0x2D || b == 0x5F || b == 0x2E || b == 0x7E

/-- Encode a component of a path: all bytes but the unreserved ones are escaped. -/
def encode (bytes : Bytes) : Bytes :=
  bytes.flatMap fun b => if isUnreserved b then [b] else escape b

/-- The text that a component spells, or the component itself if it does not spell UTF-8. -/
def decodeText (text : String) : String :=
  (Utf8.decode? (decode (Utf8.encode text))).getD text

/-- The component that spells a text. -/
def encodeText (text : String) : String :=
  Utf8.decodeLossy (encode (Utf8.encode text))

end Trellis.Percent
