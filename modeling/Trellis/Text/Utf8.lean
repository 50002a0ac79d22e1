/-!
UTF-8 text as bytes. `encode` writes each character in one to four bytes. Reading goes character by
character through `next`, which either reads one well-formed character or drops the longest
ill-formed start; `decode?` insists on well-formed input and `decodeLossy` writes U+FFFD for each
ill-formed piece.
-/

namespace Trellis

/-- A byte string. -/
abbrev Bytes := List UInt8

namespace Utf8

/-- The byte `10xxxxxx` that carries the low six bits of `n`. -/
def continuation (n : Nat) : UInt8 := UInt8.ofNat (0x80 + n % 0x40)

def encodeChar (c : Char) : Bytes :=
  let n := c.toNat
  if n < 0x80 then [UInt8.ofNat n]
  else if n < 0x800 then [UInt8.ofNat (0xC0 + n / 0x40), continuation n]
  else if n < 0x10000 then
    [UInt8.ofNat (0xE0 + n / 0x1000), continuation (n / 0x40), continuation n]
  else
    [UInt8.ofNat (0xF0 + n / 0x40000), continuation (n / 0x1000), continuation (n / 0x40),
      continuation n]

def encodeChars (cs : List Char) : Bytes := cs.flatMap encodeChar

def encode (s : String) : Bytes := encodeChars s.toList

/-- The bytes a multi-byte character may have in second place after `lead`, as an interval. The
narrowed cases keep out overlong forms, surrogates and code points above U+10FFFF. -/
def secondRange (lead : Nat) : Nat × Nat :=
  if lead = 0xE0 then (0xA0, 0xBF)
  else if lead = 0xED then (0x80, 0x9F)
  else if lead = 0xF0 then (0x90, 0xBF)
  else if lead = 0xF4 then (0x80, 0x8F)
  else (0x80, 0xBF)

/-- Consume one byte in the interval, if the next byte lies in it. -/
def take? (range : Nat × Nat) : Bytes → Option (Nat × Bytes)
  | [] => none
  | b :: rest => if range.1 ≤ b.toNat ∧ b.toNat ≤ range.2 then some (b.toNat, rest) else none

/-- Read on after the byte `lead`: one character and what follows it, or `none` and what follows
the longest ill-formed start. -/
def next (lead : UInt8) (rest : Bytes) : Option Char × Bytes :=
  let n := lead.toNat
  if n < 0x80 then (some (Char.ofNat n), rest)
  else if n < 0xC2 ∨ 0xF4 < n then (none, rest)
  else match take? (secondRange n) rest with
    | none => (none, rest)
    | some (b, rest) =>
      if n < 0xE0 then (some (Char.ofNat ((n - 0xC0) * 0x40 + (b - 0x80))), rest)
      else match take? (0x80, 0xBF) rest with
        | none => (none, rest)
        | some (c, rest) =>
          if n < 0xF0 then
            (some (Char.ofNat (((n - 0xE0) * 0x40 + (b - 0x80)) * 0x40 + (c - 0x80))), rest)
          else match take? (0x80, 0xBF) rest with
            | none => (none, rest)
            | some (d, rest) =>
              (some (Char.ofNat
                ((((n - 0xF0) * 0x40 + (b - 0x80)) * 0x40 + (c - 0x80)) * 0x40 + (d - 0x80))), rest)

theorem take?_length {range : Nat × Nat} {bytes rest : Bytes} {b : Nat}
    (h : take? range bytes = some (b, rest)) : rest.length ≤ bytes.length := by
  cases bytes with
  | nil => simp [take?] at h
  | cons head tail =>
    simp only [take?] at h
    split at h
    · simp only [Option.some.injEq, Prod.mk.injEq] at h
      simp [h.2]
    · simp at h

theorem next_length (lead : UInt8) (rest : Bytes) : (next lead rest).2.length ≤ rest.length := by
  unfold next
  dsimp only
  split
  · simp
  · split
    · simp
    · split
      · simp
      · next h₁ =>
        have l₁ := take?_length h₁
        split
        · exact l₁
        · split
          · exact l₁
          · next h₂ =>
            have l₂ := take?_length h₂
            split
            · exact Nat.le_trans l₂ l₁
            · split
              · exact Nat.le_trans l₂ l₁
              · next h₃ => exact Nat.le_trans (take?_length h₃) (Nat.le_trans l₂ l₁)

/-- The characters and the ill-formed pieces (`none`) of a byte string, in order. -/
def pieces : Bytes → List (Option Char)
  | [] => []
  | b :: rest =>
    let step := next b rest
    step.1 :: pieces step.2
termination_by bytes => bytes.length
decreasing_by exact Nat.lt_succ_of_le (next_length b rest)

/-- The character that stands for an ill-formed piece. -/
def replacement : Char := Char.ofNat 0xFFFD

/-- The text that the bytes spell, if they are well-formed. -/
def decode? (bytes : Bytes) : Option String :=
  ((pieces bytes).mapM id).map String.ofList

/-- The number of bytes before the first ill-formed piece. -/
def validLength (bytes : Bytes) : Nat :=
  (encodeChars (((pieces bytes).takeWhile Option.isSome).filterMap id)).length

/-- The text that the bytes spell, with U+FFFD for each ill-formed piece. -/
def decodeLossy (bytes : Bytes) : String :=
  String.ofList ((pieces bytes).map (·.getD replacement))

end Utf8

namespace Bytes

def hexDigit (n : Nat) : Char := Nat.digitChar (n % 16)

/-- Two lowercase hexadecimal digits per byte. -/
def toHex (bytes : Bytes) : String :=
  String.ofList (bytes.flatMap fun b => [hexDigit (b.toNat / 16), hexDigit b.toNat])

/-- The value of a hexadecimal digit of either case. -/
def hexValue? (n : Nat) : Option Nat :=
  if 0x30 ≤ n ∧ n ≤ 0x39 then some (n - 0x30)
  else if 0x41 ≤ n ∧ n ≤ 0x46 then some (n - 0x41 + 10)
  else if 0x61 ≤ n ∧ n ≤ 0x66 then some (n - 0x61 + 10)
  else none

def ofHexChars : List Char → Bytes
  | h :: l :: rest =>
    UInt8.ofNat ((hexValue? h.toNat).getD 0 * 16 + (hexValue? l.toNat).getD 0) :: ofHexChars rest
  | _ => []

/-- The bytes that pairs of hexadecimal digits spell. -/
def ofHex (text : String) : Bytes := ofHexChars text.toList

end Bytes

end Trellis
