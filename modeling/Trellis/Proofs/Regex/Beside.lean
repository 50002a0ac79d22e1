import Trellis.Regex.Reader
/-!
Reading an expression by itself, and reading it in a group.  The two go side by side (`Beside`): what is left to read
differs by the end of the group, and every reader that succeeds on the one gives the same on the other.  There is one
exception.  Where blanks are skipped, a comment that no line ends takes the end of the group with it.
-/

namespace Trellis.Regex.Reader

/-- A number sign after which no line ends; a comment that begins there has no end. -/
def OpenEnded (text : List Char) : Prop := ∃ rest, '#' :: rest <:+ text ∧ '\n' ∉ rest

theorem OpenEnded.of_suffix {cs text : List Char} (hsuffix : cs <:+ text) :
    OpenEnded cs → OpenEnded text := by
  rintro ⟨rest, hrest, hline⟩
  exact ⟨rest, hrest.trans hsuffix, hline⟩

/-- The end of a group, and an anchor after it if there is one. -/
def closing (anchored : Bool) : List Char := ')' :: if anchored then ['$'] else []

/-- What is left of a text, and of the same text in a group, while the same flags hold. -/
inductive Beside (whole : List Char) (anchored : Bool) (flags : Flags) :
    List Char → List Char → Prop
  | inside {cs : List Char} (hsuffix : cs <:+ whole) :
    Beside whole anchored flags cs (cs ++ closing anchored)
  /-- A comment has taken the end of the group. -/
  | swallowed (hspaced : flags.spaced) (hopen : OpenEnded whole) : Beside whole anchored flags [] []

theorem skipBlanks_comment_closing (anchored : Bool) :
    skipBlanks true (closing anchored) = [] := by
  cases anchored <;> decide

theorem skipBlanks_closing (anchored : Bool) :
    skipBlanks false (closing anchored) = closing anchored := by
  cases anchored <;> decide

/-- Blanks are skipped alike before the end of a group, unless a comment goes on into it. -/
theorem skipBlanks_append (anchored inComment : Bool) (cs : List Char) :
    (skipBlanks inComment (cs ++ closing anchored) = skipBlanks inComment cs ++ closing anchored ∧
      skipBlanks inComment cs <:+ cs) ∨
    (skipBlanks inComment (cs ++ closing anchored) = [] ∧ skipBlanks inComment cs = [] ∧
      (OpenEnded cs ∨ inComment = true ∧ '\n' ∉ cs)) := by
  induction cs generalizing inComment with
  | nil =>
      cases inComment with
      | false => exact .inl ⟨skipBlanks_closing anchored, List.suffix_refl _⟩
      | true => exact .inr ⟨skipBlanks_comment_closing anchored, rfl, .inr ⟨rfl, by simp⟩⟩
  | cons c rest ih =>
      have htail : rest <:+ c :: rest := List.suffix_cons c rest
      have hrest : ∀ inside, (skipBlanks inside (rest ++ closing anchored) =
          skipBlanks inside rest ++ closing anchored ∧ skipBlanks inside rest <:+ c :: rest) ∨
          (skipBlanks inside (rest ++ closing anchored) = [] ∧ skipBlanks inside rest = [] ∧
            (OpenEnded (c :: rest) ∨ inside = true ∧ '\n' ∉ rest)) := by
        intro inside
        rcases ih inside with ⟨hsame, hsuffix⟩ | ⟨hall, hnone, hopen⟩
        · exact .inl ⟨hsame, hsuffix.trans htail⟩
        · exact .inr ⟨hall, hnone, hopen.imp_left (.of_suffix htail)⟩
      rw [List.cons_append]
      cases inComment with
      | true =>
          simp only [skipBlanks, if_true]
          rcases hrest (c ≠ '\n') with hinside | ⟨hall, hnone, hopen⟩
          · exact .inl hinside
          · refine .inr ⟨hall, hnone, hopen.imp_right fun ⟨hc, hline⟩ => ⟨trivial, ?_⟩⟩
            exact List.not_mem_cons_of_ne_of_not_mem (of_decide_eq_true hc).symm hline
      | false =>
          simp only [skipBlanks, Bool.false_eq_true, if_false]
          split
          · rcases hrest false with hinside | ⟨hall, hnone, hopen⟩
            · exact .inl hinside
            · exact .inr ⟨hall, hnone, hopen.imp_right fun hline => by simp at hline⟩
          · split
            · next hsign =>
                subst hsign
                rcases hrest true with hinside | ⟨hall, hnone, hopen | ⟨-, hline⟩⟩
                · exact .inl hinside
                · exact .inr ⟨hall, hnone, .inl hopen⟩
                · exact .inr ⟨hall, hnone, .inl ⟨rest, List.suffix_refl _, hline⟩⟩
            · exact .inl ⟨rfl, List.suffix_refl _⟩

namespace Beside

variable {whole : List Char} {anchored : Bool} {flags : Flags} {cs cs' : List Char}

theorem suffix (h : Beside whole anchored flags cs cs') : cs <:+ whole := by
  cases h with
  | inside hsuffix => exact hsuffix
  | swallowed => exact List.nil_suffix

theorem cons_inv {c : Char} {rest : List Char} (h : Beside whole anchored flags (c :: rest) cs') :
    ∃ rest', cs' = c :: rest' ∧ Beside whole anchored flags rest rest' := by
  cases h with
  | inside hsuffix =>
      exact ⟨rest ++ closing anchored, rfl, .inside ((List.suffix_cons c rest).trans hsuffix)⟩

theorem tail {c : Char} {rest rest' : List Char}
    (h : Beside whole anchored flags (c :: rest) (c :: rest')) :
    Beside whole anchored flags rest rest' := by
  obtain ⟨more, hmore, hrest⟩ := h.cons_inv
  exact (List.cons.inj hmore).2 ▸ hrest

theorem nil_inv (h : Beside whole anchored flags [] cs') :
    cs' = closing anchored ∨ cs' = [] ∧ flags.spaced ∧ OpenEnded whole := by
  cases h with
  | inside => exact .inl rfl
  | swallowed hspaced hopen => exact .inr ⟨rfl, hspaced, hopen⟩

theorem append_inv (first : List Char) {rest : List Char} {c : Char}
    (h : Beside whole anchored flags (first ++ c :: rest) cs') :
    ∃ rest', cs' = first ++ c :: rest' ∧ Beside whole anchored flags rest rest' := by
  induction first generalizing cs' with
  | nil => exact h.cons_inv
  | cons d first ih =>
      obtain ⟨more, rfl, hmore⟩ := h.cons_inv
      obtain ⟨rest', rfl, hrest⟩ := ih hmore
      exact ⟨rest', rfl, hrest⟩

theorem length_le (h : Beside whole anchored flags cs cs') : cs.length ≤ cs'.length := by
  cases h with
  | inside => simp
  | swallowed => exact Nat.le_refl _

/-- What begins the rest in the group begins the rest by itself, unless it is the end of
the group. -/
theorem cons_of_cons {c : Char} {rest' : List Char}
    (h : Beside whole anchored flags cs (c :: rest')) (hc : c ≠ ')') : ∃ rest, cs = c :: rest := by
  cases cs with
  | nil =>
      rcases h.nil_inv with hclosing | ⟨hnil, -⟩
      · exact absurd (List.cons.inj hclosing).1 hc
      · simp at hnil
  | cons d rest =>
      obtain ⟨more', hsame, -⟩ := h.cons_inv
      exact ⟨rest, by rw [(List.cons.inj hsame).1]⟩

theorem append_of_append {first rest' : List Char}
    (h : Beside whole anchored flags cs (first ++ rest')) (hfirst : ')' ∉ first) : ∃ rest, cs = first ++ rest := by
  induction first generalizing cs with
  | nil => exact ⟨cs, rfl⟩
  | cons c first ih =>
      rw [List.mem_cons, not_or] at hfirst
      obtain ⟨more, rfl⟩ := h.cons_of_cons (Ne.symm hfirst.1)
      obtain ⟨rest, rfl⟩ := ih h.tail hfirst.2
      exact ⟨rest, rfl⟩

theorem skip (h : Beside whole anchored flags cs cs') :
    Beside whole anchored flags (skip flags cs) (skip flags cs') := by
  unfold Reader.skip
  split
  · next hspaced =>
      cases h with
      | swallowed _ hopen => exact .swallowed hspaced hopen
      | @inside cs hsuffix =>
          rcases skipBlanks_append anchored false cs with ⟨hsame, hskipped⟩ | ⟨hall, hnone, hopen⟩
          · rw [hsame]
            exact .inside (hskipped.trans hsuffix)
          · rw [hall, hnone]
            rcases hopen with hopen | ⟨hfalse, -⟩
            · exact .swallowed hspaced (hopen.of_suffix hsuffix)
            · simp at hfalse
  · exact h

theorem skip_cons {c : Char} {rest : List Char} (h : Beside whole anchored flags cs cs')
    (hskip : Reader.skip flags cs = c :: rest) :
    ∃ rest', Reader.skip flags cs' = c :: rest' ∧
      Beside whole anchored flags (c :: rest) (c :: rest') := by
  have hboth := hskip ▸ h.skip
  obtain ⟨rest', hskip', -⟩ := hboth.cons_inv
  exact ⟨rest', hskip', hskip' ▸ hboth⟩

theorem skipSome {c : Char} {rest : List Char} (h : Beside whole anchored flags cs cs')
    (hread : skipSome flags cs = some (c, rest)) :
    ∃ rest', Reader.skipSome flags cs' = some (c, rest') ∧
      Beside whole anchored flags (c :: rest) (c :: rest') := by
  unfold Reader.skipSome at hread
  split at hread
  · simp at hread
  · next d more hskip =>
      obtain ⟨rfl, rfl⟩ : d = c ∧ more = rest := by simpa using hread
      obtain ⟨rest', hskip', hrest⟩ := h.skip_cons hskip
      exact ⟨rest', by simp [Reader.skipSome, hskip'], hrest⟩

end Beside

theorem skipBlanks_length_le (inComment : Bool) (cs : List Char) :
    (skipBlanks inComment cs).length ≤ cs.length := by
  induction cs generalizing inComment with
  | nil => exact Nat.le_refl _
  | cons c rest ih =>
      have hrest : ∀ inside, (skipBlanks inside rest).length ≤ (c :: rest).length :=
        fun inside => Nat.le_trans (ih inside) (Nat.le_succ _)
      unfold skipBlanks
      split
      · exact hrest _
      · split
        · exact hrest _
        · split
          · exact hrest _
          · exact Nat.le_refl _

theorem skip_length_le (flags : Flags) (cs : List Char) : (skip flags cs).length ≤ cs.length := by
  unfold skip
  split
  · exact skipBlanks_length_le false cs
  · exact Nat.le_refl _

namespace Beside

variable {whole : List Char} {anchored : Bool} {flags : Flags} {cs cs' : List Char}

/-- A span that ends before a character. -/
theorem spanSpaced (h : Beside whole anchored flags cs cs') {test : Char → Bool}
    {n m : Nat} (hn : cs.length ≤ n) (hm : n ≤ m) {span rest : List Char} {c : Char}
    (hread : spanSpaced flags test n cs = (span, c :: rest)) :
    ∃ rest', Reader.spanSpaced flags test m cs' = (span, c :: rest') ∧
      Beside whole anchored flags (c :: rest) (c :: rest') := by
  induction n generalizing m cs cs' span with
  | zero =>
      obtain rfl := List.length_eq_zero_iff.mp (Nat.le_zero.mp hn)
      simp [Reader.spanSpaced] at hread
  | succ n ih =>
      obtain ⟨m, rfl⟩ := Nat.exists_eq_add_of_le' (Nat.lt_of_lt_of_le n.succ_pos hm)
      cases cs with
      | nil => simp [Reader.spanSpaced] at hread
      | cons d more =>
          obtain ⟨more', rfl, hmore⟩ := h.cons_inv
          rw [Reader.spanSpaced] at hread ⊢
          split at hread
          · next htest =>
              obtain ⟨rfl, hrest⟩ := Prod.mk.inj hread
              have hlength : (Reader.skip flags more).length ≤ n :=
                Nat.le_trans (skip_length_le flags more) (Nat.le_of_succ_le_succ hn)
              obtain ⟨rest', hread', hbeside⟩ := ih (m := m) hmore.skip hlength
                (Nat.le_of_succ_le_succ hm) (Prod.ext rfl hrest)
              exact ⟨rest', by simp [htest, hread'], hbeside⟩
          · next htest =>
              obtain ⟨rfl, hrest⟩ := Prod.mk.inj hread
              obtain ⟨rfl, rfl⟩ := List.cons.inj hrest
              exact ⟨more', by simp [htest], h⟩

theorem dropWhile (h : Beside whole anchored flags cs cs') {test : Char → Bool} {rest : List Char}
    {c : Char} (hread : cs.dropWhile test = c :: rest) :
    ∃ rest', cs'.dropWhile test = c :: rest' ∧ cs'.takeWhile test = cs.takeWhile test ∧
      Beside whole anchored flags (c :: rest) (c :: rest') := by
  induction cs generalizing cs' with
  | nil => simp at hread
  | cons d more ih =>
      obtain ⟨more', rfl, hmore⟩ := h.cons_inv
      rw [List.dropWhile_cons] at hread
      split at hread
      · next htest =>
          obtain ⟨rest', hdrop, htake, hrest⟩ := ih hmore hread
          exact ⟨rest', by simp [htest, hdrop], by simp [htest, htake], hrest⟩
      · next htest =>
          obtain ⟨rfl, rfl⟩ := List.cons.inj hread
          exact ⟨more', by simp [htest], by simp [htest], h⟩

end Beside

end Trellis.Regex.Reader
