import Trellis.Proofs.Text.Percent
import Trellis.Text.Form
/-!
Pairs written as a form are read back as they were, whatever texts they hold.  A written component holds neither
separator, so the pieces of a form are its pairs, and the byte `=` that is first in a piece ends the name.
-/

namespace Trellis

namespace Form

/-- The bytes that stand in a written component. -/
def IsWritten (b : UInt8) : Prop := isPlain b ∨ b = 0x2B ∨ b = Percent.sign

theorem isPlain_of_isAlphanumeric {b : UInt8} (hb : Percent.isAlphanumeric b) :
    isPlain b := by
  simp [isPlain, hb]

theorem isWritten_escape {b written : UInt8} (hmem : written ∈ Percent.escape b) :
    IsWritten written := by
  rcases Percent.mem_escape hmem with hsign | hdigit
  · exact Or.inr (Or.inr hsign)
  · exact Or.inl (isPlain_of_isAlphanumeric hdigit)

theorem isWritten_encodeByte {b written : UInt8} (hmem : written ∈ encodeByte b) :
    IsWritten written := by
  unfold encodeByte at hmem
  split at hmem
  · next hplain =>
      rw [List.mem_singleton.mp hmem]
      exact Or.inl hplain
  · split at hmem
    · exact Or.inr (Or.inl (List.mem_singleton.mp hmem))
    · exact isWritten_escape hmem

theorem isWritten_encodeText {text : String} {b : UInt8} (hmem : b ∈ encodeText text) :
    IsWritten b := by
  obtain ⟨raw, -, hraw⟩ := List.mem_flatMap.mp hmem
  exact isWritten_encodeByte hraw

/-- Neither separator stands in a written component. -/
theorem not_isWritten_separator : ¬ IsWritten 0x26 ∧ ¬ IsWritten 0x3D := by
  unfold IsWritten
  decide

theorem IsWritten.ascii {b : UInt8} (hwritten : IsWritten b) : b.toNat < 0x80 := by
  rcases hwritten with hplain | rfl | rfl
  · simp only [isPlain, Bool.or_eq_true, beq_iff_eq] at hplain
    rcases hplain with (((hdigit | rfl) | rfl) | rfl) | rfl
    · exact Percent.isAlphanumeric_ascii hdigit
    all_goals decide
  · decide
  · decide

/-- A byte with the space in place of the plus sign. -/
def unplus (b : UInt8) : UInt8 := if b = 0x2B then 0x20 else b

theorem map_unplus_escape (b : UInt8) :
    (Percent.escape b).map unplus = Percent.escape b := by
  have hbyte : b.toNat < 256 := b.toNat_lt
  have hhex : ∀ n < 16, unplus (Percent.hexByte n) = Percent.hexByte n := by decide
  have hsign : unplus Percent.sign = Percent.sign := by decide
  simp only [Percent.escape, List.map_cons, List.map_nil, hsign,
    hhex (b.toNat / 16) (by omega), hhex (b.toNat % 16) (by omega)]

/-- A written byte is read back, whatever follows. -/
theorem decode_encodeByte (b : UInt8) (rest : Bytes) :
    Percent.decode ((encodeByte b ++ rest).map unplus) =
      b :: Percent.decode (rest.map unplus) := by
  unfold encodeByte
  split
  · next hplain =>
      have hplus : b ≠ 0x2B := by
        rintro rfl
        contradiction
      have hsign : b ≠ Percent.sign := by
        rintro rfl
        contradiction
      rw [List.singleton_append, List.map_cons, unplus, if_neg hplus,
        Percent.decode_cons hsign]
  · split
    · next hspace =>
        rw [List.singleton_append, List.map_cons, unplus, if_pos rfl,
          Percent.decode_cons (by decide), eq_of_beq hspace]
    · rw [List.map_append, map_unplus_escape, Percent.decode_escape]

theorem decode_encodeBytes (bytes : Bytes) :
    Percent.decode ((encodeBytes bytes).map unplus) = bytes := by
  induction bytes with
  | nil => rfl
  | cons b rest ih =>
      rw [encodeBytes, List.flatMap_cons, decode_encodeByte, ← encodeBytes, ih]

/-- A written text is read back. -/
theorem decodeText_encodeText (text : String) : decodeText (encodeText text) = text := by
  change Utf8.decodeLossy (Percent.decode ((encodeText text).map unplus)) = text
  rw [encodeText, decode_encodeBytes, Utf8.decodeLossy_encode]

theorem cutPair_append {name : Bytes} (hname : 0x3D ∉ name) (value : Bytes) :
    cutPair (name ++ 0x3D :: value) = (name, value) := by
  induction name with
  | nil => rfl
  | cons b rest ih =>
      rw [List.mem_cons, not_or] at hname
      obtain ⟨hb, hrest⟩ := hname
      rw [List.cons_append, cutPair, if_neg (Ne.symm hb), ih hrest]

theorem decodePair_encodePair (pair : String × String) :
    decodePair (encodePair pair) = pair := by
  have hname : 0x3D ∉ encodeText pair.1 := fun hmem =>
    not_isWritten_separator.2 (isWritten_encodeText hmem)
  simp only [decodePair, encodePair, cutPair_append hname, decodeText_encodeText]

theorem split_of_not_mem {separator : UInt8} {piece : Bytes}
    (hpiece : separator ∉ piece) : split separator piece = [piece] := by
  induction piece with
  | nil => rfl
  | cons b rest ih =>
      rw [List.mem_cons, not_or] at hpiece
      obtain ⟨hb, hrest⟩ := hpiece
      rw [split, if_neg (Ne.symm hb), ih hrest]

theorem split_append {separator : UInt8} {piece : Bytes}
    (hpiece : separator ∉ piece) (rest : Bytes) :
    split separator (piece ++ separator :: rest) = piece :: split separator rest := by
  induction piece with
  | nil => exact if_pos rfl
  | cons b tail ih =>
      rw [List.mem_cons, not_or] at hpiece
      obtain ⟨hb, htail⟩ := hpiece
      rw [List.cons_append, split, if_neg (Ne.symm hb), ih htail]

theorem not_mem_encodePair (pair : String × String) : 0x26 ∉ encodePair pair := by
  intro hmem
  rcases List.mem_append.mp hmem with hname | hrest
  · exact not_isWritten_separator.1 (isWritten_encodeText hname)
  · rcases List.mem_cons.mp hrest with hequals | hvalue
    · contradiction
    · exact not_isWritten_separator.1 (isWritten_encodeText hvalue)

theorem encodePair_ne_nil (pair : String × String) : encodePair pair ≠ [] :=
  List.append_ne_nil_of_right_ne_nil _ (List.cons_ne_nil _ _)

/-- The pieces of a form are its pairs. -/
theorem split_encode {pairs : List (String × String)} (hpairs : pairs ≠ []) :
    split 0x26 (encode pairs) = pairs.map encodePair := by
  induction pairs with
  | nil => contradiction
  | cons pair rest ih =>
      cases rest with
      | nil => exact split_of_not_mem (not_mem_encodePair pair)
      | cons next others =>
          rw [encode, split_append (not_mem_encodePair pair), List.map_cons,
            ih (List.cons_ne_nil _ _)]
          exact List.cons_ne_nil _ _

/-- Pairs written as a form are read back as they were. -/
theorem decode_encode (pairs : List (String × String)) : decode (encode pairs) = pairs := by
  by_cases hpairs : pairs = []
  · rw [hpairs]
    rfl
  · have hpieces : (pairs.map encodePair).filter (fun piece => piece ≠ []) =
        pairs.map encodePair := by
      rw [List.filter_eq_self]
      intro piece hmem
      obtain ⟨pair, -, rfl⟩ := List.mem_map.mp hmem
      exact decide_eq_true (encodePair_ne_nil pair)
    rw [decode, split_encode hpairs, hpieces, List.map_map]
    exact List.map_id'' decodePair_encodePair pairs

theorem encode_ne_nil {pairs : List (String × String)} (hpairs : pairs ≠ []) :
    encode pairs ≠ [] := by
  intro hnil
  have hread := decode_encode pairs
  rw [hnil] at hread
  exact hpairs hread.symm

theorem encode_ascii (pairs : List (String × String)) :
    ∀ b ∈ encode pairs, b.toNat < 0x80 := by
  have hpair : ∀ (pair : String × String), ∀ b ∈ encodePair pair, b.toNat < 0x80 := by
    intro pair b hmem
    rcases List.mem_append.mp hmem with hname | hrest
    · exact (isWritten_encodeText hname).ascii
    · rcases List.mem_cons.mp hrest with rfl | hvalue
      · decide
      · exact (isWritten_encodeText hvalue).ascii
  induction pairs with
  | nil => exact fun b hmem => absurd hmem List.not_mem_nil
  | cons pair rest ih =>
      cases rest with
      | nil => exact hpair pair
      | cons next others =>
          intro b hmem
          rcases List.mem_append.mp hmem with hfirst | hothers
          · exact hpair pair b hfirst
          · rcases List.mem_cons.mp hothers with rfl | hmore
            · decide
            · exact ih b hmore

/-- The form of pairs as text. -/
def encodeAsText (pairs : List (String × String)) : String :=
  Utf8.decodeLossy (encode pairs)

theorem encode_encodeAsText (pairs : List (String × String)) :
    Utf8.encode (encodeAsText pairs) = encode pairs :=
  Utf8.encode_decodeLossy (encode_ascii pairs)

end Form

end Trellis
