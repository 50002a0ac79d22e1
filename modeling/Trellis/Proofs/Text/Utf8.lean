import Mathlib.Tactic.SplitIfs
import Trellis.Text.Utf8
/-!
Reading takes back what writing has made of a text.  Each character is read from its bytes whatever follows them,
so a text is read from its bytes as it is; and ASCII bytes are the bytes of the text that they spell.
-/

namespace Trellis

namespace Utf8

theorem toNat_char_ofNat {n : Nat} (hlt : n < 0x80) : (Char.ofNat n).toNat = n := by
  have hvalid : n.isValidChar := Or.inl (by omega)
  rw [Char.ofNat, dif_pos hvalid]
  rfl

theorem toNat_continuation (n : Nat) : (continuation n).toNat = 0x80 + n % 0x40 :=
  UInt8.toNat_ofNat_of_lt' (show _ < 256 by omega)

theorem take?_continuation (n : Nat) (rest : Bytes) :
    take? (0x80, 0xBF) (continuation n :: rest) = some (0x80 + n % 0x40, rest) := by
  rw [take?, toNat_continuation, if_pos]
  constructor
  · exact Nat.le_add_right _ _
  · change 0x80 + n % 0x40 ≤ 0xBF
    omega

/-- What may stand in second place, lead by lead. -/
theorem take?_secondRange {lead n : Nat} (rest : Bytes)
    (hE0 : lead = 0xE0 → 0x20 ≤ n % 0x40) (hED : lead = 0xED → n % 0x40 < 0x20)
    (hF0 : lead = 0xF0 → 0x10 ≤ n % 0x40) (hF4 : lead = 0xF4 → n % 0x40 < 0x10) :
    take? (secondRange lead) (continuation n :: rest) =
      some (0x80 + n % 0x40, rest) := by
  have hrange : (secondRange lead).1 ≤ 0x80 + n % 0x40 ∧
      0x80 + n % 0x40 ≤ (secondRange lead).2 := by
    unfold secondRange
    split_ifs <;> dsimp only <;> omega
  rw [take?, toNat_continuation, if_pos hrange]

/-! One lemma for each number of bytes that a character is written in. -/

theorem next_one {n : Nat} (hn : n < 0x80) (rest : Bytes) :
    next (UInt8.ofNat n) rest = (some (Char.ofNat n), rest) := by
  have hlead : (UInt8.ofNat n).toNat = n := UInt8.toNat_ofNat_of_lt' (show _ < 256 by omega)
  simp only [next, hlead, if_pos hn]

theorem next_two {n : Nat} (hleast : 0x80 ≤ n) (hmost : n < 0x800) (rest : Bytes) :
    next (UInt8.ofNat (0xC0 + n / 0x40)) (continuation n :: rest) =
      (some (Char.ofNat n), rest) := by
  have hlead : (UInt8.ofNat (0xC0 + n / 0x40)).toNat = 0xC0 + n / 0x40 :=
    UInt8.toNat_ofNat_of_lt' (show _ < 256 by omega)
  have hrange : secondRange (0xC0 + n / 0x40) = (0x80, 0xBF) := by
    unfold secondRange
    rw [if_neg (by omega), if_neg (by omega), if_neg (by omega), if_neg (by omega)]
  have hvalue : (0xC0 + n / 0x40 - 0xC0) * 0x40 + (0x80 + n % 0x40 - 0x80) = n := by
    omega
  simp only [next, hlead, hrange, take?_continuation, hvalue]
  rw [if_neg (by omega), if_neg (by omega), if_pos (by omega)]

/-- The second byte keeps out what two bytes would have held, and surrogates. -/
theorem next_three {n : Nat} (hleast : 0x800 ≤ n) (hmost : n < 0x10000)
    (hvalid : n < 0xD800 ∨ 0xDFFF < n) (rest : Bytes) :
    next (UInt8.ofNat (0xE0 + n / 0x1000))
        (continuation (n / 0x40) :: continuation n :: rest) =
      (some (Char.ofNat n), rest) := by
  have hlead : (UInt8.ofNat (0xE0 + n / 0x1000)).toNat = 0xE0 + n / 0x1000 :=
    UInt8.toNat_ofNat_of_lt' (show _ < 256 by omega)
  have hsecond : take? (secondRange (0xE0 + n / 0x1000))
      (continuation (n / 0x40) :: continuation n :: rest) =
        some (0x80 + n / 0x40 % 0x40, continuation n :: rest) := by
    apply take?_secondRange <;> omega
  have hvalue : ((0xE0 + n / 0x1000 - 0xE0) * 0x40 +
      (0x80 + n / 0x40 % 0x40 - 0x80)) * 0x40 + (0x80 + n % 0x40 - 0x80) = n := by
    omega
  simp only [next, hlead, hsecond, take?_continuation, hvalue]
  rw [if_neg (by omega), if_neg (by omega), if_neg (by omega), if_pos (by omega)]

/-- The second byte keeps out what three bytes would have held, and what no
character has. -/
theorem next_four {n : Nat} (hleast : 0x10000 ≤ n) (hmost : n < 0x110000)
    (rest : Bytes) :
    next (UInt8.ofNat (0xF0 + n / 0x40000)) (continuation (n / 0x1000) ::
        continuation (n / 0x40) :: continuation n :: rest) =
      (some (Char.ofNat n), rest) := by
  have hlead : (UInt8.ofNat (0xF0 + n / 0x40000)).toNat = 0xF0 + n / 0x40000 :=
    UInt8.toNat_ofNat_of_lt' (show _ < 256 by omega)
  have hsecond : take? (secondRange (0xF0 + n / 0x40000))
      (continuation (n / 0x1000) :: continuation (n / 0x40) :: continuation n :: rest) =
        some (0x80 + n / 0x1000 % 0x40,
          continuation (n / 0x40) :: continuation n :: rest) := by
    apply take?_secondRange <;> omega
  have hvalue : (((0xF0 + n / 0x40000 - 0xF0) * 0x40 +
      (0x80 + n / 0x1000 % 0x40 - 0x80)) * 0x40 +
        (0x80 + n / 0x40 % 0x40 - 0x80)) * 0x40 + (0x80 + n % 0x40 - 0x80) = n := by
    omega
  simp only [next, hlead, hsecond, take?_continuation, hvalue]
  rw [if_neg (by omega), if_neg (by omega), if_neg (by omega), if_neg (by omega)]

theorem toNat_valid (c : Char) :
    c.toNat < 0xD800 ∨ 0xDFFF < c.toNat ∧ c.toNat < 0x110000 :=
  c.valid

theorem pieces_cons (b : UInt8) (rest : Bytes) :
    pieces (b :: rest) = (next b rest).1 :: pieces (next b rest).2 := by
  rw [pieces]

/-- A character is read from its bytes, whatever follows them. -/
theorem pieces_encodeChar (c : Char) (rest : Bytes) :
    pieces (encodeChar c ++ rest) = some c :: pieces rest := by
  have hvalid := toNat_valid c
  have hchar : Char.ofNat c.toNat = c := Char.ofNat_toNat c
  unfold encodeChar
  dsimp only
  split
  · next hone =>
      rw [List.singleton_append, pieces_cons, next_one hone, hchar]
  · next hone =>
      split
      · next htwo =>
          rw [List.cons_append, List.singleton_append, pieces_cons,
            next_two (by omega) htwo, hchar]
      · next htwo =>
          split
          · next hthree =>
              rw [List.cons_append, List.cons_append, List.singleton_append,
                pieces_cons, next_three (by omega) hthree (by omega), hchar]
          · next hthree =>
              rw [List.cons_append, List.cons_append, List.cons_append,
                List.singleton_append, pieces_cons,
                next_four (by omega) (by omega), hchar]

theorem pieces_encodeChars (cs : List Char) :
    pieces (encodeChars cs) = cs.map some := by
  induction cs with
  | nil => rw [encodeChars, List.flatMap_nil, pieces, List.map_nil]
  | cons c rest ih =>
      rw [encodeChars, List.flatMap_cons, pieces_encodeChar, ← encodeChars, ih,
        List.map_cons]

/-- The bytes of a text spell it. -/
theorem decode?_encode (text : String) : decode? (encode text) = some text := by
  have hread : (text.toList.map some).mapM id = some text.toList := by
    induction text.toList with
    | nil => rfl
    | cons c rest ih => simp [ih]
  rw [decode?, encode, pieces_encodeChars, hread, Option.map_some, String.ofList_toList]

/-- Nothing is replaced when the bytes of a text are read. -/
theorem decodeLossy_encode (text : String) : decodeLossy (encode text) = text := by
  have hread : (text.toList.map some).map (·.getD replacement) = text.toList := by
    rw [List.map_map]
    exact List.map_id'' (fun _ => rfl) _
  rw [decodeLossy, encode, pieces_encodeChars, hread, String.ofList_toList]

/-- ASCII bytes are those of the text that they spell. -/
theorem encode_decodeLossy {bytes : Bytes} (hascii : ∀ b ∈ bytes, b.toNat < 0x80) :
    encode (decodeLossy bytes) = bytes := by
  rw [encode, decodeLossy, String.toList_ofList]
  induction bytes with
  | nil => rw [pieces]; rfl
  | cons b rest ih =>
      have hlead : b.toNat < 0x80 := hascii b List.mem_cons_self
      have hnext : next b rest = (some (Char.ofNat b.toNat), rest) := by
        simp only [next, if_pos hlead]
      have hchar : encodeChar (Char.ofNat b.toNat) = [b] := by
        simp only [encodeChar, toNat_char_ofNat hlead, if_pos hlead, UInt8.ofNat_toNat]
      have hrest := ih fun other hother => hascii other (List.mem_cons_of_mem b hother)
      rw [encodeChars] at hrest ⊢
      rw [pieces_cons, hnext, List.map_cons, List.flatMap_cons, Option.getD_some, hchar,
        hrest, List.singleton_append]

end Utf8

end Trellis
