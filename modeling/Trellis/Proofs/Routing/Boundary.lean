import Trellis.Proofs.Routing.NormalForm
/-!
Where a path lies, as its text shows it.  That one path covers another by whole segments can be read off their
normal forms: the other goes on with a slash, if it goes on at all.
-/

namespace Trellis

namespace Path

/-- A path is another one or lies below it, by their texts.  All paths lie below
the root, whose normal form ends in a slash already. -/
def AtOrBelow (path top : String) : Prop :=
  normalize top = "/" ∨ normalize path = normalize top ∨
    (normalize top ++ "/").toList <+: (normalize path).toList

instance (path top : String) : Decidable (AtOrBelow path top) :=
  inferInstanceAs (Decidable (_ ∨ _ ∨ _))

/-- Covering compares the segments one by one, as far as the upper path goes. -/
theorem covers_eq_all_zip (top path : List String) :
    covers top path = (decide (top.length ≤ path.length) &&
      (path.zip top).all fun pair => pair.1 == pair.2) := by
  unfold covers
  induction top generalizing path with
  | nil => simp
  | cons s rest ih =>
      cases path with
      | nil => simp
      | cons first others =>
          rw [List.isPrefixOf_cons_cons, ih, List.zip_cons_cons, List.all_cons,
            Bool.and_left_comm, BEq.comm]
          simp only [List.length_cons, Nat.add_le_add_iff_right]

theorem normalize_eq_root_iff {path : String} :
    normalize path = "/" ↔ split path = [] := by
  rw [show "/" = normalize "" from rfl, normalize_eq_iff, split_empty]

/-- Segments that are added to others are written after them. -/
theorem toList_join_append {first : List String} (hfirst : first ≠ [])
    (second : List String) :
    (join (first ++ second)).toList =
      (join first).toList ++ second.flatMap fun s => '/' :: s.toList := by
  have hboth : first ++ second ≠ [] := List.append_ne_nil_of_left_ne_nil hfirst second
  rw [join, join, if_neg hfirst, if_neg hboth, String.toList_ofList,
    String.toList_ofList, List.flatMap_append]

variable {top path : String}

theorem atOrBelow_of_split {rest : List String}
    (hsplit : split path = split top ++ rest) : AtOrBelow path top := by
  by_cases htop : split top = []
  · exact Or.inl (normalize_eq_root_iff.mpr htop)
  · cases rest with
    | nil =>
        rw [List.append_nil] at hsplit
        exact Or.inr (Or.inl (normalize_eq_iff.mpr hsplit))
    | cons s below =>
        refine Or.inr (Or.inr ⟨s.toList ++ below.flatMap fun s => '/' :: s.toList, ?_⟩)
        rw [normalize, normalize, hsplit, toList_join_append htop, String.toList_append]
        simp

/-- A text that goes on with a slash has more segments. -/
theorem split_of_toList {rest : List Char}
    (htext : (normalize path).toList = (normalize top).toList ++ '/' :: rest) :
    split path = split top ++ pieces rest := by
  rw [← split_normalize path, ← split_normalize top, split_eq_pieces, htext,
    pieces_append_slash, split_eq_pieces]

/-- Covering by segments is lying at or below by texts. -/
theorem covers_split_iff : covers (split top) (split path) ↔ AtOrBelow path top := by
  rw [covers_iff]
  constructor
  · rintro ⟨rest, hrest⟩
    exact atOrBelow_of_split hrest.symm
  · rintro (hroot | hsame | ⟨rest, hrest⟩)
    · rw [normalize_eq_root_iff.mp hroot]
      exact List.nil_prefix
    · have hsplit : split path = split top := normalize_eq_iff.mp hsame
      exact hsplit ▸ List.prefix_rfl
    · refine ⟨pieces rest, (split_of_toList ?_).symm⟩
      rw [← hrest, String.toList_append, List.append_assoc]
      rfl

/-- Of the texts that begin as a path does, it covers those that go on with a
slash. -/
theorem atOrBelow_iff_slash {c : Char} {rest : List Char} (htop : normalize top ≠ "/")
    (htext : (normalize path).toList = (normalize top).toList ++ c :: rest) :
    AtOrBelow path top ↔ c = '/' := by
  constructor
  · rintro (hroot | hsame | hbelow)
    · exact absurd hroot htop
    · rw [hsame] at htext
      have hlength := congrArg List.length htext
      simp at hlength
    · rw [htext, String.toList_append, List.prefix_append_right_inj] at hbelow
      exact (List.cons_prefix_cons.mp hbelow).1.symm
  · rintro rfl
    exact atOrBelow_of_split (split_of_toList htext)

end Path

end Trellis
