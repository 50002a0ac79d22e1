import Mathlib.Data.List.Sort
import Mathlib.Data.Prod.Basic
import Trellis.Proofs.Routing.EditDistance
/-!
What is suggested for a path: of the candidates that are near it, each once, the first three by distance and text.
Candidates in another order or with repetitions give the same.
-/

namespace Trellis.Suggest

/-- The order of suggestions for a path: by distance, and by text at one distance. -/
def Nearer (path first second : String) : Prop :=
  Prod.Lex (· < ·) (· < ·) (distance path.toList first.toList, first)
    (distance path.toList second.toList, second)

instance (path : String) : Std.Asymm (Nearer path) :=
  ⟨fun _ _ hone => asymm_of (Prod.Lex (· < ·) (· < ·)) hone⟩

/-- All candidates near a path, in order and each once.  A candidate is near if its
distance is at most a third of the longer text in bytes, or at most two. -/
structure Ranks (path : String) (candidates ranked : List String) : Prop where
  ordered : ranked.Pairwise (Nearer path)
  mem_iff : ∀ s, s ∈ ranked ↔ s ∈ candidates ∧ s ≠ path ∧
    distance path.toList s.toList ≤ max 2 (max path.utf8ByteSize s.utf8ByteSize / 3)

/-- The order and the repetitions of the candidates do not matter. -/
theorem Ranks.eq_of_mem_iff {path : String} {candidates others ranked ranking : List String}
    (hranked : Ranks path candidates ranked) (hranking : Ranks path others ranking)
    (hsame : ∀ s, s ∈ others ↔ s ∈ candidates) : ranking = ranked := by
  refine List.Pairwise.eq_of_mem_iff hranking.ordered hranked.ordered fun s => ?_
  rw [hranking.mem_iff, hranked.mem_iff, hsame]

theorem closer_iff {a b : Nat × String} : closer a b ↔ Prod.Lex (· < ·) (· ≤ ·) a b := by
  simp [closer, Prod.lex_def]

theorem closer_trans (a b c : Nat × String) (hone : closer a b) (htwo : closer b c) :
    closer a c := by
  rw [closer_iff] at hone htwo ⊢
  exact Prod.Lex.trans hone htwo

theorem closer_total (a b : Nat × String) : closer a b || closer b a := by
  rw [Bool.or_eq_true, closer_iff, closer_iff]
  exact Std.Total.total a b

theorem closer_antisymm {a b : Nat × String} (hone : closer a b) (htwo : closer b a) : a = b := by
  rw [closer_iff] at hone htwo
  exact antisymm hone htwo

theorem dropRepeats_sublist (entries : List (Nat × String)) :
    (dropRepeats entries).Sublist entries := by
  fun_induction dropRepeats entries with
  | case1 a b rest _ ih => exact ih.trans ((List.sublist_cons_self b rest).cons_cons a)
  | case2 a b rest _ ih => exact ih.cons_cons a
  | case3 short => exact List.Sublist.refl short

/-- Sorted entries have repetitions side by side only, so none is left. -/
theorem pairwise_dropRepeats {entries : List (Nat × String)}
    (hsorted : entries.Pairwise fun a b => closer a b) :
    (dropRepeats entries).Pairwise fun a b => closer a b ∧ a ≠ b := by
  fun_induction dropRepeats entries with
  | case1 a b rest _ ih =>
      exact ih (hsorted.sublist ((List.sublist_cons_self b rest).cons_cons a))
  | case2 a b rest hne ih =>
      obtain ⟨hfirst, hrest⟩ := List.pairwise_cons.mp hsorted
      refine List.pairwise_cons.mpr ⟨fun c hc => ?_, ih hrest⟩
      have hmem := (dropRepeats_sublist (b :: rest)).subset hc
      refine ⟨hfirst c hmem, ?_⟩
      rintro rfl
      -- what equals the first entry comes after the second, so both are the same
      rcases List.mem_cons.mp hmem with rfl | hlater
      · exact hne rfl
      · have hback := (List.pairwise_cons.mp hrest).1 a hlater
        exact hne (congrArg Prod.snd (closer_antisymm (hfirst b List.mem_cons_self) hback))
  | case3 short hshort =>
      match short, hshort with
      | [], _ => exact List.Pairwise.nil
      | [a], _ => exact List.pairwise_singleton _ a
      | a :: b :: rest, hshort => exact absurd rfl (hshort a b rest)

/-- Where a text has one entry, nothing but repetitions is dropped. -/
theorem mem_dropRepeats_iff {entries : List (Nat × String)}
    (hone : ∀ a ∈ entries, ∀ b ∈ entries, a.2 = b.2 → a = b) (entry : Nat × String) :
    entry ∈ dropRepeats entries ↔ entry ∈ entries := by
  fun_induction dropRepeats entries with
  | case1 a b rest heq ih =>
      obtain rfl := hone a (by simp) b (by simp) heq
      rw [ih fun c hc d hd => hone c (List.mem_cons_of_mem _ hc) d (List.mem_cons_of_mem _ hd)]
      simp
  | case2 a b rest _ ih =>
      rw [List.mem_cons, List.mem_cons,
        ih fun c hc d hd => hone c (List.mem_cons_of_mem _ hc) d (List.mem_cons_of_mem _ hd)]
  | case3 short => exact Iff.rfl

/-- The candidates near a path, as they come, with their distances. -/
def near (path : String) (candidates : List String) : List (Nat × String) :=
  ((candidates.filter fun candidate => candidate ≠ path).map fun candidate =>
    (distance path.toList candidate.toList, candidate)).filter
      fun entry => entry.1 ≤ limit path entry.2

theorem mem_near_iff {path : String} {candidates : List String} {entry : Nat × String} :
    entry ∈ near path candidates ↔
      entry.1 = distance path.toList entry.2.toList ∧
        entry.2 ∈ candidates ∧ entry.2 ≠ path ∧
          distance path.toList entry.2.toList ≤
            max 2 (max path.utf8ByteSize entry.2.utf8ByteSize / 3) := by
  obtain ⟨n, s⟩ := entry
  rw [near, List.mem_filter, List.mem_map, limit, Nat.max_comm 2, decide_eq_true_eq]
  constructor
  · rintro ⟨⟨other, hother, hentry⟩, hlimit⟩
    obtain ⟨rfl, rfl⟩ := Prod.mk.inj hentry
    rw [List.mem_filter, decide_eq_true_eq] at hother
    exact ⟨rfl, hother.1, hother.2, hlimit⟩
  · rintro ⟨hscore, hmem, hne, hlimit⟩
    refine ⟨⟨s, List.mem_filter.mpr ⟨hmem, decide_eq_true hne⟩, ?_⟩, hscore ▸ hlimit⟩
    exact congrArg (·, s) hscore.symm

theorem suggest_eq (path : String) (candidates : List String) :
    suggest path candidates =
      ((dropRepeats ((near path candidates).mergeSort closer)).take 3).map (·.2) := rfl

theorem exists_ranks (path : String) (candidates : List String) :
    ∃ ranked, Ranks path candidates ranked ∧ suggest path candidates = ranked.take 3 := by
  let sorted := (near path candidates).mergeSort closer
  have hmem : ∀ entry, entry ∈ dropRepeats sorted ↔ entry ∈ near path candidates := by
    intro entry
    rw [mem_dropRepeats_iff, List.mem_mergeSort]
    intro a ha b hb htext
    rw [List.mem_mergeSort, mem_near_iff] at ha hb
    exact Prod.ext (by rw [ha.1, hb.1, htext]) htext
  refine ⟨(dropRepeats sorted).map (·.2), ⟨?_, fun s => ?_⟩, ?_⟩
  · have hordered := pairwise_dropRepeats
      (List.pairwise_mergeSort closer_trans closer_total (near path candidates))
    rw [List.pairwise_map]
    refine hordered.imp_of_mem fun {a b} ha hb ⟨hcloser, hne⟩ => ?_
    rw [hmem, mem_near_iff] at ha hb
    rw [closer_iff, Prod.lex_def, ha.1, hb.1] at hcloser
    refine Prod.lex_def.mpr (hcloser.imp_right fun ⟨heq, hle⟩ => ⟨heq, ?_⟩)
    exact Std.lt_of_le_of_ne hle fun htext => hne (Prod.ext (by rw [ha.1, hb.1, heq]) htext)
  · rw [List.mem_map]
    constructor
    · rintro ⟨entry, hentry, rfl⟩
      exact (mem_near_iff.mp ((hmem entry).mp hentry)).2
    · intro hs
      exact ⟨(distance path.toList s.toList, s), (hmem _).mpr (mem_near_iff.mpr ⟨rfl, hs⟩), rfl⟩
  · rw [suggest_eq, List.map_take]

theorem suggest_congr (path : String) {candidates others : List String}
    (hsame : ∀ s, s ∈ others ↔ s ∈ candidates) :
    suggest path others = suggest path candidates := by
  obtain ⟨ranked, hranked, htake⟩ := exists_ranks path candidates
  obtain ⟨ranking, hranking, hother⟩ := exists_ranks path others
  rw [htake, hother, hranked.eq_of_mem_iff hranking hsame]

/-- What is suggested is a candidate other than the path. -/
theorem mem_of_mem_suggest {path s : String} {candidates : List String}
    (hmem : s ∈ suggest path candidates) : s ∈ candidates ∧ s ≠ path := by
  obtain ⟨ranked, hranked, htake⟩ := exists_ranks path candidates
  rw [htake] at hmem
  obtain ⟨hcandidate, hne, -⟩ := (hranked.mem_iff s).mp (List.mem_of_mem_take hmem)
  exact ⟨hcandidate, hne⟩

end Trellis.Suggest
