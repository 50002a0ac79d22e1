import Mathlib.Data.List.DropRight
import Trellis.Proofs.Routing.Path
import Trellis.Routing.Group
/-!
The paths of groups, read as segments.  However their texts place slashes, the path of a route in a group has the
segments of the group and then its own.
-/

namespace Trellis

namespace Text

/-- A separator ends a piece. -/
theorem splitChars_append_separator (separator : Char) (first second : List Char) :
    splitChars separator (first ++ separator :: second) =
      splitChars separator first ++ splitChars separator second := by
  induction first with
  | nil => simp [splitChars]
  | cons c rest ih =>
      rw [List.cons_append, splitChars, splitChars]
      by_cases hc : c = separator
      · rw [if_pos hc, if_pos hc, ih, List.cons_append]
      · rw [if_neg hc, if_neg hc, ih]
        cases hrest : splitChars separator rest with
        | nil => exact absurd hrest (splitChars_ne_nil separator rest)
        | cons piece pieces => rfl

end Text

namespace Path

/-- The segments of a path that is given by its characters. -/
def pieces (cs : List Char) : List String :=
  ((Text.splitChars '/' cs).filter fun piece => piece ≠ []).map String.ofList

theorem split_eq_pieces (path : String) : split path = pieces path.toList := rfl

/-- A slash between two texts keeps their segments apart. -/
theorem pieces_append_slash (first second : List Char) :
    pieces (first ++ '/' :: second) = pieces first ++ pieces second := by
  rw [pieces, Text.splitChars_append_separator, List.filter_append, List.map_append]
  rfl

theorem pieces_slash (cs : List Char) : pieces ('/' :: cs) = pieces cs :=
  pieces_append_slash [] cs

theorem pieces_append_end_slash (cs : List Char) : pieces (cs ++ ['/']) = pieces cs := by
  rw [pieces_append_slash]
  exact List.append_nil _

/-- Slashes at the start do not count. -/
theorem pieces_dropWhile (cs : List Char) :
    pieces (cs.dropWhile (· = '/')) = pieces cs := by
  induction cs with
  | nil => rfl
  | cons c rest ih =>
      by_cases hc : c = '/'
      · subst hc
        rw [List.dropWhile_cons_of_pos (by simp), ih, pieces_slash]
      · rw [List.dropWhile_cons_of_neg (by simpa using hc)]

/-- Slashes at the end do not count. -/
theorem pieces_rdropWhile (cs : List Char) :
    pieces (cs.rdropWhile (· = '/')) = pieces cs := by
  induction cs using List.reverseRecOn with
  | nil => rfl
  | append_singleton rest c ih =>
      by_cases hc : c = '/'
      · subst hc
        rw [List.rdropWhile_concat_pos _ _ _ (by simp), ih, pieces_append_end_slash]
      · rw [List.rdropWhile_concat_neg _ _ _ (by simpa using hc)]

theorem split_empty : split "" = [] := rfl

end Path

namespace RouteGroup

variable {μ : Type}

/-- The path of a group is empty, or it starts with a slash. -/
theorem cleanBase_cases (path : String) :
    (cleanBase path).toList = [] ∨ ∃ rest, (cleanBase path).toList = '/' :: rest := by
  have hprefix : ∀ cs : List Char,
      ((('/' :: cs).reverse.dropWhile (· = '/')).reverse = [] ∨
        ∃ rest, (('/' :: cs).reverse.dropWhile (· = '/')).reverse = '/' :: rest) := by
    intro cs
    obtain ⟨tail, htail⟩ := List.rdropWhile_prefix (fun c => c = '/') ('/' :: cs)
    change (List.rdropWhile _ _) = [] ∨ ∃ rest, (List.rdropWhile _ _) = '/' :: rest
    cases hclean : List.rdropWhile (fun c => c = '/') ('/' :: cs) with
    | nil => exact Or.inl rfl
    | cons c rest =>
        rw [hclean, List.cons_append] at htail
        obtain ⟨rfl, -⟩ := List.cons.inj htail
        exact Or.inr ⟨rest, rfl⟩
  unfold cleanBase
  rw [String.toList_ofList]
  split
  · exact hprefix _
  · exact hprefix _

theorem split_cleanBase (path : String) :
    Path.split (cleanBase path) = Path.split path := by
  rw [Path.split_eq_pieces, Path.split_eq_pieces, cleanBase, String.toList_ofList]
  split
  · next rest hpath =>
      rw [hpath]
      exact Path.pieces_rdropWhile _
  · exact (Path.pieces_rdropWhile _).trans (Path.pieces_slash _)

/-- The paths of nested groups are joined without mixing their segments. -/
theorem split_append_cleanBase (outer path : String) :
    Path.split (outer ++ cleanBase path) = Path.split outer ++ Path.split path := by
  rw [← split_cleanBase path, Path.split_eq_pieces, String.toList_append]
  rcases cleanBase_cases path with hnil | ⟨rest, hrest⟩
  · rw [hnil, Path.split_eq_pieces (cleanBase path), hnil, List.append_nil]
    exact (List.append_nil _).symm
  · rw [hrest, Path.split_eq_pieces (cleanBase path), hrest, Path.pieces_append_slash,
      Path.pieces_slash]
    rfl

/-- The path of a route has the segments of its group and then its own. -/
theorem split_applyBase (g : RouteGroup μ) (path : String) :
    Path.split (g.applyBase path) = Path.split g.base ++ Path.split path := by
  have hown := Path.pieces_dropWhile path.toList
  unfold applyBase
  by_cases hbase : g.base = ""
  · rw [if_pos hbase, hbase, Path.split_empty, List.nil_append]
  · rw [if_neg hbase]
    dsimp only
    by_cases hrest : path.toList.dropWhile (· = '/') = []
    · rw [if_pos hrest, Path.split_eq_pieces path, ← hown, hrest]
      exact (List.append_nil _).symm
    · rw [if_neg hrest, Path.split_eq_pieces, Path.split_eq_pieces path, ← hown]
      simp only [String.toList_append, String.toList_ofList, List.append_assoc]
      exact Path.pieces_append_slash _ _

end RouteGroup

end Trellis
