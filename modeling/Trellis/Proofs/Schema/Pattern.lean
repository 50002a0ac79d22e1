import Trellis.Proofs.Regex.Anchored
import Trellis.Proofs.Schema.Compile
import Trellis.Proofs.Schema.Quiet
/-!
Texts under a string schema with a pattern.  The checker looks for a match of the pattern with anchors added at its
ends, but none where the pattern has a circumflex or a dollar sign itself.  So what is accepted is what the pattern
matches as a whole, unless that sign does not anchor all of the pattern.
-/

namespace Trellis

open Regex.Reader (piece? sequence OpenComment)

/-- The checker of a pattern that has been read. -/
def Checker.ofPattern (text : String) (regex : Regex) : Checker :=
  .text .required ⟨none, none, none, some ⟨text, regex⟩, []⟩

theorem Checker.check_ofPattern_iff {p s : String} {regex : Regex} {out : Json} :
    (Checker.ofPattern p regex).check (.string s) = .ok out ↔
      out = .string s ∧ regex.occursIn s := by
  rw [Checker.ofPattern, check_text_iff]
  simp [textViolations, require]

namespace Schema

variable {p : String} {c : Checker}

theorem compile_pattern (p : String) :
    (string.pattern p).compile = (compilePattern [] p).bind fun pattern =>
      .ok (.text .required ⟨none, none, none, some pattern, []⟩) := by
  change ((compilePattern [] p).map _).bind _ = _
  cases compilePattern [] p <;> rfl

theorem compile_pattern_eq_ok_iff :
    (string.pattern p).compile = .ok c ↔
      ∃ regex, Regex.parse? (Regex.anchoredText p) = some regex ∧ c = .ofPattern p regex := by
  rw [compile_pattern, compilePattern]
  cases Regex.parse? (Regex.anchoredText p) with
  | none => simp [Except.bind]
  | some regex => simp [Except.bind, Checker.ofPattern, eq_comm]

theorem compile_pattern_eq_error (hcompile : ∀ c, (string.pattern p).compile ≠ .ok c) :
    (string.pattern p).compile = .error (.invalidPattern "value" p) := by
  rw [compile_pattern, compilePattern] at hcompile ⊢
  cases hparse : Regex.parse? (Regex.anchoredText p) with
  | none => rfl
  | some regex => exact absurd rfl (hparse ▸ hcompile (.ofPattern p regex))

/-- A text is accepted if the pattern matches it between places that the added anchors allow. -/
theorem check_pattern_iff {piece : Regex.Reader.Piece} (hread : piece? p.toList = some piece)
    (hcompile : (string.pattern p).compile = .ok c) {s : String} {out : Json} :
    c.check (.string s) = .ok out ↔ out = .string s ∧
      ∃ i j, i ≤ s.toList.length ∧ piece.regex.Matches s.toList i j ∧
        (p.toList.head? ≠ some '^' → i = 0) ∧
        (p.toList.getLast? ≠ some '$' → j = s.toList.length) := by
  obtain ⟨regex, hparse, rfl⟩ := compile_pattern_eq_ok_iff.mp hcompile
  obtain ⟨-, rfl⟩ := Regex.parse?_anchoredText hread hparse
  rw [Checker.check_ofPattern_iff, Regex.occursIn_iff]
  refine and_congr_right' (exists_congr fun i => exists_congr fun j => ?_)
  exact and_congr_right fun hi => Regex.matches_anchoredRegex hi

/-- What is accepted under a pattern that is an expression.  A text is, if the pattern matches
it from its start to its end; but a pattern that begins with a circumflex may match from any
place on, and one that ends with a dollar sign up to any place, unless the sign anchors the
whole pattern there.  The schema has a checker if the pattern, in a group and with the anchors,
is not too large and no comment takes the end of the group. -/
theorem whole_texts {r : Regex} (hvalid : Regex.parse? p = some r) :
    (∀ c, (string.pattern p).compile = .ok c → ∀ (s : String) out,
      c.check (.string s) = .ok out ↔ out = .string s ∧
        ∃ i j, i ≤ s.toList.length ∧ r.Matches s.toList i j ∧
          (p.toList.head? ≠ some '^' → i = 0) ∧
          (p.toList.getLast? ≠ some '$' → j = s.toList.length)) ∧
    (∀ c, (string.pattern p).compile = .ok c →
      (p.toList.head? = some '^' → r.startsText) →
      (p.toList.getLast? = some '$' → r.endsText) → ∀ (s : String) out,
        c.check (.string s) = .ok out ↔ out = .string s ∧ r.MatchesAll s) ∧
    ((∀ c, (string.pattern p).compile ≠ .ok c) →
      (string.pattern p).compile = .error (.invalidPattern "value" p)) ∧
    ∃ piece, piece? p.toList = some piece ∧ piece.regex = r ∧
      ((∃ c, (string.pattern p).compile = .ok c) →
        (sequence (Regex.anchoredPieces p.toList piece)).Admissible) ∧
      (¬ OpenComment p.toList → (sequence (Regex.anchoredPieces p.toList piece)).Admissible →
        ∃ c, (string.pattern p).compile = .ok c) := by
  obtain ⟨piece, hread, -, rfl⟩ := Regex.parse?_eq_some_iff.mp hvalid
  refine ⟨fun c hcompile s out => check_pattern_iff hread hcompile,
    fun c hcompile hstart hend s out => ?_, compile_pattern_eq_error, piece, hread, rfl, ?_,
    fun hclosed hadmissible => ?_⟩
  · rw [check_pattern_iff hread hcompile, Regex.exists_matches_iff_whole hstart hend,
      Regex.MatchesAll]
  · rintro ⟨c, hcompile⟩
    obtain ⟨regex, hparse, -⟩ := compile_pattern_eq_ok_iff.mp hcompile
    exact (Regex.parse?_anchoredText hread hparse).1
  · obtain ⟨regex, hparse⟩ := Regex.exists_parse?_anchoredText hread hclosed hadmissible
    exact ⟨_, compile_pattern_eq_ok_iff.mpr ⟨regex, hparse, rfl⟩⟩

/-- A pattern of both signs accepts the empty text alone. -/
theorem whole_texts_empty :
    ∃ c, (string.pattern "^$").compile = .ok c ∧ c.check (.string "") = .ok (.string "") ∧
      ∀ out, c.check (.string "a") ≠ .ok out := by
  obtain ⟨c, hcompile⟩ : ∃ c, (string.pattern "^$").compile = .ok c := ⟨_, rfl⟩
  have hvalid : Regex.parse? "^$" = some (.seq (.anchor .textStart) (.anchor .textEnd)) := rfl
  obtain ⟨-, hwhole, -⟩ := whole_texts hvalid
  have haccepted := hwhole c hcompile (fun _ => rfl) (fun _ => rfl)
  refine ⟨c, hcompile, (haccepted _ _).mpr ⟨rfl, by decide⟩, fun out hcheck => ?_⟩
  exact absurd ((haccepted _ _).mp hcheck).2 (by decide)

/-- A pattern that begins with a circumflex in one branch and ends with a dollar sign in the
other accepts every text, though it matches the empty text alone. -/
theorem branch_passed :
    ∃ r c, Regex.parse? "^|$" = some r ∧ (string.pattern "^|$").compile = .ok c ∧
      c.check (.string "a") = .ok (.string "a") ∧ ¬ r.MatchesAll "a" := by
  refine ⟨.alt (.anchor .textStart) (.anchor .textEnd), _, rfl, rfl, ?_, by decide⟩
  exact Checker.check_ofPattern_iff.mpr ⟨rfl, by decide⟩

end Schema

end Trellis
