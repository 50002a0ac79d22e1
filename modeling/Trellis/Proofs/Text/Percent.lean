import Trellis.Proofs.Text.Utf8
import Trellis.Text.Percent
/-!
Percent-encoded texts.  What is encoded is decoded again, whatever follows it, and it is written in unreserved
characters and signs alone; so encoded texts can be joined by slashes and are decoded together.
-/

namespace Trellis

namespace Utf8

theorem encode_append (first second : String) :
    encode (first ++ second) = encode first ++ encode second := by
  rw [encode, encode, encode, String.toList_append, encodeChars, List.flatMap_append,
    ← encodeChars, ← encodeChars]

/-- An ASCII character of a text is one of its bytes. -/
theorem ofNat_mem_encode {text : String} {c : Char} (hc : c ∈ text.toList)
    (hascii : c.toNat < 0x80) : UInt8.ofNat c.toNat ∈ encode text := by
  refine List.mem_flatMap.mpr ⟨c, hc, ?_⟩
  rw [encodeChar, if_pos hascii]
  exact List.mem_singleton_self _

end Utf8

namespace Percent

theorem hexValue?_hexByte :
    ∀ n < 16, Bytes.hexValue? (hexByte n).toNat = some n := by
  decide

theorem isAlphanumeric_hexByte : ∀ n < 16, isAlphanumeric (hexByte n) := by
  decide

/-- An escape is a sign and two digits. -/
theorem mem_escape {b written : UInt8} (hmem : written ∈ escape b) :
    written = sign ∨ isAlphanumeric written := by
  have hbyte : b.toNat < 256 := b.toNat_lt
  simp only [escape, List.mem_cons, List.not_mem_nil, or_false] at hmem
  rcases hmem with rfl | rfl | rfl
  · exact Or.inl rfl
  · exact Or.inr (isAlphanumeric_hexByte _ (by omega))
  · exact Or.inr (isAlphanumeric_hexByte _ (by omega))

theorem isAlphanumeric_ascii {b : UInt8} (hb : isAlphanumeric b) : b.toNat < 0x80 := by
  simp only [isAlphanumeric, Bool.or_eq_true, Bool.and_eq_true, decide_eq_true_eq] at hb
  omega

theorem decode_cons {b : UInt8} (hb : b ≠ sign) (rest : Bytes) :
    decode (b :: rest) = b :: decode rest := by
  rw [decode.eq_def]
  exact if_neg hb

/-- An escaped byte is read back, whatever follows. -/
theorem decode_escape (b : UInt8) (rest : Bytes) :
    decode (escape b ++ rest) = b :: decode rest := by
  have hbyte : b.toNat < 256 := b.toNat_lt
  have hhigh := hexValue?_hexByte (b.toNat / 16) (by omega)
  have hlow := hexValue?_hexByte (b.toNat % 16) (by omega)
  have hvalue : b.toNat / 16 * 16 + b.toNat % 16 = b.toNat := by omega
  rw [escape, List.cons_append, List.cons_append, List.singleton_append, decode.eq_def]
  simp only [if_true, hhigh, hlow, hvalue, UInt8.ofNat_toNat]

/-- Encoded bytes are read back, whatever follows. -/
theorem decode_encode_append (bytes rest : Bytes) :
    decode (encode bytes ++ rest) = bytes ++ decode rest := by
  induction bytes with
  | nil => rfl
  | cons b more ih =>
      rw [encode, List.flatMap_cons, ← encode, List.append_assoc]
      split
      · next hplain =>
          have hsign : b ≠ sign := by
            rintro rfl
            contradiction
          rw [List.singleton_append, decode_cons hsign, ih, List.cons_append]
      · rw [decode_escape, ih, List.cons_append]

/-! Encoded texts. -/

/-- The bytes that stand in an encoded text. -/
def IsCoded (b : UInt8) : Prop := isUnreserved b ∨ b = sign

theorem isCoded_of_mem_encode {bytes : Bytes} {b : UInt8} (hmem : b ∈ encode bytes) :
    IsCoded b := by
  obtain ⟨raw, -, hraw⟩ := List.mem_flatMap.mp hmem
  split at hraw
  · next hplain =>
      obtain rfl := List.mem_singleton.mp hraw
      exact Or.inl hplain
  · rcases mem_escape hraw with hsign | hdigit
    · exact Or.inr hsign
    · exact Or.inl (by simp [isUnreserved, hdigit])

theorem IsCoded.ascii {b : UInt8} (hcoded : IsCoded b) : b.toNat < 0x80 := by
  rcases hcoded with hplain | rfl
  · simp only [isUnreserved, Bool.or_eq_true, beq_iff_eq] at hplain
    rcases hplain with (((hdigit | rfl) | rfl) | rfl) | rfl
    · exact isAlphanumeric_ascii hdigit
    all_goals decide
  · decide

theorem encode_encodeText (text : String) :
    Utf8.encode (encodeText text) = encode (Utf8.encode text) :=
  Utf8.encode_decodeLossy fun _ hmem => (isCoded_of_mem_encode hmem).ascii

/-- What is reserved does not stand in an encoded text. -/
theorem not_mem_encodeText {c : Char} (hascii : c.toNat < 0x80)
    (hreserved : ¬ IsCoded (UInt8.ofNat c.toNat)) (text : String) :
    c ∉ (encodeText text).toList := by
  intro hmem
  have hbyte := Utf8.ofNat_mem_encode hmem hascii
  rw [encode_encodeText] at hbyte
  exact hreserved (isCoded_of_mem_encode hbyte)

/-- Neither the separator of segments nor the one of a query stands in an encoded text. -/
theorem separator_not_mem_encodeText (text : String) :
    '/' ∉ (encodeText text).toList ∧ '?' ∉ (encodeText text).toList := by
  constructor
  · exact not_mem_encodeText (by decide) (by unfold IsCoded; decide) text
  · exact not_mem_encodeText (by decide) (by unfold IsCoded; decide) text

/-- Texts that are encoded and then joined by slashes are decoded together. -/
theorem decode_intercalate (texts : List String) :
    decode (Utf8.encode ("/".intercalate (texts.map encodeText))) =
      Utf8.encode ("/".intercalate texts) := by
  induction texts with
  | nil => rfl
  | cons text rest ih =>
      cases rest with
      | nil =>
          have hone := decode_encode_append (Utf8.encode text) []
          rw [List.append_nil] at hone
          rw [List.map_singleton, String.intercalate_singleton, String.intercalate_singleton,
            encode_encodeText, hone, decode, List.append_nil]
      | cons next others =>
          have hslash : ∀ bytes : Bytes, decode (Utf8.encode "/" ++ bytes) =
              Utf8.encode "/" ++ decode bytes :=
            fun bytes => decode_cons (by decide) bytes
          rw [List.map_cons] at ih
          rw [List.map_cons, List.map_cons, String.intercalate_cons_cons,
            String.intercalate_cons_cons, Utf8.encode_append, Utf8.encode_append,
            Utf8.encode_append, Utf8.encode_append, encode_encodeText, List.append_assoc,
            decode_encode_append, hslash, ih, List.append_assoc]

theorem decodeText_intercalate (texts : List String) :
    decodeText ("/".intercalate (texts.map encodeText)) = "/".intercalate texts := by
  rw [decodeText, decode_intercalate, Utf8.decode?_encode, Option.getD_some]

/-- An encoded text is decoded once and as it was. -/
theorem decodeText_encodeText (text : String) : decodeText (encodeText text) = text := by
  have hone := decodeText_intercalate [text]
  rwa [List.map_singleton, String.intercalate_singleton, String.intercalate_singleton] at hone

theorem encodeText_ne {text : String} (htext : text ≠ "") : encodeText text ≠ "" := by
  intro hempty
  have hread := decodeText_encodeText text
  have hnone : decodeText "" = "" := decodeText_intercalate []
  rw [hempty, hnone] at hread
  exact htext hread.symm

end Percent

end Trellis
