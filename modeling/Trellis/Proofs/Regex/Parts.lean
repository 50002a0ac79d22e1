import Mathlib.Data.List.TakeWhile
import Mathlib.Tactic.SplitIfs
import Trellis.Proofs.Regex.Beside
/-!
The readers of the parts of an expression go side by side on a text and on the same text in a group.
-/

namespace Trellis.Regex.Reader

namespace Beside

variable {whole : List Char} {anchored : Bool} {flags : Flags} {cs cs' : List Char}

theorem count? (h : Beside whole anchored flags cs cs') {n : Nat} {c : Char} {rest : List Char}
    (hread : count? flags cs = some (n, c :: rest)) :
    ∃ rest', Reader.count? flags cs' = some (n, c :: rest') ∧
      Beside whole anchored flags (c :: rest) (c :: rest') := by
  unfold Reader.count? at hread ⊢
  simp only [Option.ite_none_left_eq_some, Option.some.injEq, Prod.mk.injEq] at hread ⊢
  obtain ⟨hvalue, hn, hrest⟩ := hread
  cases hfirst : cs.dropWhile Text.isBlank with
  | nil => simp [hfirst, Reader.spanSpaced] at hvalue
  | cons d more =>
      obtain ⟨more', hfirst', -, hmore⟩ := h.dropWhile hfirst
      rcases hspan : Reader.spanSpaced flags Char.isDigit (d :: more).length (d :: more) with
        ⟨digits, after⟩
      simp only [hfirst, hspan] at hvalue hn hrest
      cases after with
      | nil => simp at hrest
      | cons e after =>
          obtain ⟨after', hspan', hafter⟩ :=
            hmore.spanSpaced (Nat.le_refl _) hmore.length_le hspan
          obtain ⟨rest', hlast', -, hrest'⟩ := hafter.dropWhile hrest
          refine ⟨rest', ?_, hrest'⟩
          simp only [hfirst', hspan', hlast', and_true]
          exact ⟨hvalue, hn⟩

theorem bounds? (h : Beside whole anchored flags cs cs') {least : Nat} {most : Option Nat}
    {rest : List Char} (hread : bounds? flags cs = some (least, most, rest)) :
    ∃ rest', Reader.bounds? flags cs' = some (least, most, rest') ∧
      Beside whole anchored flags rest rest' := by
  unfold Reader.bounds? at hread
  simp only [Option.bind_eq_bind, Option.bind_eq_some_iff, Prod.exists] at hread
  obtain ⟨c, first, hsome, n, second, hcount, hread⟩ := hread
  obtain ⟨first', hsome', hfirst⟩ := h.skipSome hsome
  split at hread
  · next third =>
      obtain ⟨third', hcount', hthird⟩ := hfirst.count? hcount
      obtain ⟨rfl, rfl, rfl⟩ : n = least ∧ some n = most ∧ third = rest := by
        simpa using hread
      exact ⟨third', by simp [Reader.bounds?, hsome', hcount'], hthird.tail⟩
  · next third =>
      obtain ⟨third', hcount', hthird⟩ := hfirst.count? hcount
      simp only [Option.bind_eq_some_iff, Prod.exists] at hread
      obtain ⟨d, fourth, hsome₂, hread⟩ := hread
      obtain ⟨fourth', hsome₂', hfourth⟩ := hthird.tail.skipSome hsome₂
      split at hread
      · next hbrace =>
          obtain ⟨rfl, rfl, rfl⟩ : n = least ∧ none = most ∧ fourth = rest := by
            simpa using hread
          exact ⟨fourth', by simp [Reader.bounds?, hsome', hcount', hsome₂', hbrace], hfourth.tail⟩
      · next hbrace =>
          simp only [Option.bind_eq_some_iff, Prod.exists] at hread
          obtain ⟨m, fifth, hcount₂, hread⟩ := hread
          split at hread
          · next sixth =>
              obtain ⟨sixth', hcount₂', hsixth⟩ := hfourth.count? hcount₂
              simp only [Option.ite_none_right_eq_some] at hread
              obtain ⟨hle, hread⟩ := hread
              obtain ⟨rfl, rfl, rfl⟩ : n = least ∧ some m = most ∧ sixth = rest := by
                simpa using hread
              refine ⟨sixth', ?_, hsixth.tail⟩
              simp [Reader.bounds?, hsome', hcount', hsome₂', hbrace, hcount₂', hle]
          · simp at hread
  · simp at hread

theorem hexDigits? (h : Beside whole anchored flags cs cs') {n : Nat} {digits rest : List Char}
    (hread : hexDigits? flags n cs = some (digits, rest)) :
    ∃ rest', Reader.hexDigits? flags n cs' = some (digits, rest') ∧
      Beside whole anchored flags rest rest' := by
  induction n generalizing cs cs' digits with
  | zero =>
      obtain ⟨rfl, rfl⟩ : [] = digits ∧ cs = rest := by simpa [Reader.hexDigits?] using hread
      exact ⟨cs', rfl, h⟩
  | succ n ih =>
      cases cs with
      | nil => simp [Reader.hexDigits?] at hread
      | cons c more =>
          obtain ⟨more', rfl, hmore⟩ := h.cons_inv
          simp only [Reader.hexDigits?, Option.ite_none_right_eq_some, Option.map_eq_some_iff,
            Prod.exists, Prod.mk.injEq] at hread
          obtain ⟨hdigit, later, after, hread, rfl, rfl⟩ := hread
          obtain ⟨rest', hread', hrest⟩ := ih hmore.skip hread
          exact ⟨rest', by simp [Reader.hexDigits?, hdigit, hread'], hrest⟩

theorem hexChar? (h : Beside whole anchored flags cs cs') {kind : Char} {value : Char × Bool}
    {rest : List Char} (hread : hexChar? flags kind cs = some (value, rest)) :
    ∃ rest', Reader.hexChar? flags kind cs' = some (value, rest') ∧
      Beside whole anchored flags rest rest' := by
  unfold Reader.hexChar? at hread
  split at hread
  · next first hskip =>
      obtain ⟨first', hskip', hfirst⟩ := h.skip_cons hskip
      have hinner := hfirst.tail.skip
      rcases hspan : Reader.spanSpaced flags isHexDigit (Reader.skip flags first).length
        (Reader.skip flags first) with ⟨digits, after⟩
      simp only [hspan] at hread
      split at hread
      · next second =>
          obtain ⟨second', hspan', hsecond⟩ :=
            hinner.spanSpaced (Nat.le_refl _) hinner.length_le hspan
          simp only [Option.bind_eq_bind, Option.ite_none_left_eq_some,
            Option.bind_eq_some_iff] at hread
          obtain ⟨hdigits, c, hscalar, hread⟩ := hread
          obtain ⟨rfl, rfl⟩ : (c, false) = value ∧ Reader.skip flags second = rest := by
            simpa using hread
          exact ⟨Reader.skip flags second',
            by simp [Reader.hexChar?, hskip', hspan', hdigits, hscalar], hsecond.tail.skip⟩
      · simp at hread
  · next hshort =>
      simp only [Option.bind_eq_bind, Option.bind_eq_some_iff, Prod.exists] at hread
      obtain ⟨digits, after, hdigits, c, hscalar, hread⟩ := hread
      obtain ⟨rfl, rfl⟩ : (c, decide (kind = 'x')) = value ∧ after = rest := by simpa using hread
      obtain ⟨rest', hdigits', hrest⟩ := h.skip.hexDigits? hdigits
      refine ⟨rest', ?_, hrest⟩
      unfold Reader.hexChar?
      split
      · next first' hskip' =>
          obtain ⟨first, hskip⟩ := (hskip' ▸ h.skip).cons_of_cons (by decide)
          exact absurd hskip (hshort first)
      · simp [hdigits', hscalar]

theorem unicodeClass? (h : Beside whole anchored flags cs cs') {named : CharSet × Bool}
    {rest : List Char} (hread : unicodeClass? flags cs = some (named, rest)) :
    ∃ rest', Reader.unicodeClass? flags cs' = some (named, rest') ∧
      Beside whole anchored flags rest rest' := by
  unfold Reader.unicodeClass? at hread
  simp only [Option.bind_eq_bind, Option.bind_eq_some_iff, Prod.exists] at hread
  obtain ⟨c, first, hsome, hread⟩ := hread
  obtain ⟨first', hsome', hfirst⟩ := h.skipSome hsome
  split at hread
  · next hbrace =>
      have hinner := hfirst.tail.skip
      rcases hspan : Reader.spanSpaced flags (fun c => c ≠ '}') (Reader.skip flags first).length
        (Reader.skip flags first) with ⟨name, after⟩
      simp only [hspan] at hread
      split at hread
      · next second =>
          obtain ⟨second', hspan', hsecond⟩ :=
            hinner.spanSpaced (Nat.le_refl _) hinner.length_le hspan
          simp only [Option.bind_eq_some_iff] at hread
          obtain ⟨found, hfound, hread⟩ := hread
          obtain ⟨rfl, rfl⟩ : found = named ∧ second = rest := by simpa using hread
          refine ⟨second', ?_, hsecond.tail⟩
          simp only [Reader.unicodeClass?, hsome', hbrace, if_true, hspan', hfound,
            Option.bind_eq_bind, Option.bind_some, Option.pure_def]
      · simp at hread
  · next hbrace =>
      simp only [Option.ite_none_left_eq_some, Option.bind_eq_some_iff] at hread
      obtain ⟨hslash, found, hfound, hread⟩ := hread
      obtain ⟨rfl, rfl⟩ : (found, false) = named ∧ Reader.skip flags first = rest := by
        simpa using hread
      refine ⟨Reader.skip flags first', ?_, hfirst.tail.skip⟩
      simp only [Reader.unicodeClass?, hsome', hbrace, hslash, if_false, hfound,
        Option.bind_eq_bind, Option.bind_some, Option.pure_def]

theorem boundary? (h : Beside whole anchored flags cs cs') {place : Anchor} {rest : List Char}
    (hread : boundary? flags cs = some (place, rest)) :
    ∃ rest', Reader.boundary? flags cs' = some (place, rest') ∧
      Beside whole anchored flags rest rest' := by
  unfold Reader.boundary? at hread
  split at hread
  · next first =>
      obtain ⟨first', rfl, hfirst⟩ := h.cons_inv
      simp only [Option.bind_eq_bind, Option.bind_eq_some_iff, Prod.exists] at hread
      obtain ⟨c, second, hsome, hread⟩ := hread
      obtain ⟨second', hsome', hsecond⟩ := hfirst.skipSome hsome
      split at hread
      · next hname =>
          rcases hspan : Reader.spanSpaced flags (fun c => c.isAlpha || c = '-') (second.length + 1)
            (c :: second) with ⟨name, after⟩
          simp only [hspan] at hread
          split at hread
          · next third =>
              obtain ⟨third', hspan', hthird⟩ :=
                hsecond.spanSpaced (Nat.le_refl _) hsecond.length_le hspan
              -- whatever condition the name stands for, it stands for it in the group
              split at hread
              case h_5 => simp at hread
              all_goals
                next hnamed =>
                  simp only [Option.pure_def, Option.some.injEq, Prod.mk.injEq] at hread
                  obtain ⟨rfl, rfl⟩ := hread
                  refine ⟨third', ?_, hthird.tail⟩
                  simp only [List.length_cons] at hspan'
                  simp only [Reader.boundary?, hsome', hspan', hnamed, Option.bind_eq_bind,
                    Option.bind_some, Option.pure_def]
                  exact if_pos hname
          · simp at hread
      · next hname =>
          obtain ⟨rfl, rfl⟩ : Anchor.wordBoundary (wordKind flags) = place ∧
              '{' :: first = rest := by simpa using hread
          refine ⟨'{' :: first', ?_, h⟩
          simp only [Reader.boundary?, hsome', hname, Option.bind_eq_bind, Option.bind_some,
            Option.pure_def, Bool.false_eq_true, if_false]
  · next hbrace =>
      obtain ⟨rfl, rfl⟩ : Anchor.wordBoundary (wordKind flags) = place ∧ cs = rest := by
        simpa using hread
      refine ⟨cs', ?_, h⟩
      unfold Reader.boundary?
      split
      · next first' =>
          obtain ⟨first, rfl⟩ := h.cons_of_cons (by decide)
          exact absurd rfl (hbrace first)
      · rfl

theorem escape? (h : Beside whole anchored flags cs cs') {escape : Escape} {rest : List Char}
    (hread : escape? flags cs = some (escape, rest)) :
    ∃ rest', Reader.escape? flags cs' = some (escape, rest') ∧
      Beside whole anchored flags rest rest' := by
  cases cs with
  | nil => simp [Reader.escape?] at hread
  | cons c first =>
      obtain ⟨first', rfl, hfirst⟩ := h.cons_inv
      unfold Reader.escape? at hread ⊢
      simp only [Option.bind_eq_bind, Option.pure_def] at hread ⊢
      split at hread
      · next hhex =>
          simp only [Option.bind_eq_some_iff, Prod.exists, Option.some.injEq,
            Prod.mk.injEq] at hread
          obtain ⟨value, asByte, second, hvalue, rfl, rfl⟩ := hread
          obtain ⟨second', hvalue', hsecond⟩ := hfirst.hexChar? hvalue
          exact ⟨second', by simp only [hhex, if_true, hvalue', Option.bind_some], hsecond⟩
      · next hhex =>
          simp only [hhex, if_false]
          split at hread
          · next hclass =>
              simp only [Option.bind_eq_some_iff, Prod.exists] at hread
              obtain ⟨set, negated, second, hnamed, hread⟩ := hread
              obtain ⟨second', hnamed', hsecond⟩ := hfirst.unicodeClass? hnamed
              simp only [Option.ite_none_right_eq_some, Option.bind_eq_some_iff, Option.some.injEq,
                Prod.mk.injEq] at hread
              obtain ⟨hunicode, found, hfound, rfl, rfl⟩ := hread
              refine ⟨second', ?_, hsecond⟩
              simp only [hclass, if_true, hnamed', Option.bind_some, hunicode, hfound]
          · next hclass =>
              simp only [hclass, if_false]
              split at hread
              · next set =>
                  simp only [Option.bind_eq_some_iff, Option.some.injEq, Prod.mk.injEq] at hread
                  obtain ⟨found, hfound, rfl, rfl⟩ := hread
                  exact ⟨first', by simp only [hfound, Option.bind_some], hfirst⟩
              · split at hread
                · next value =>
                    simp only [Option.some.injEq, Prod.mk.injEq] at hread
                    obtain ⟨rfl, rfl⟩ := hread
                    exact ⟨first', rfl, hfirst⟩
                · by_cases hb : c = 'b'
                  · subst hb
                    simp only [Char.reduceEq, if_false, if_true, Option.bind_eq_some_iff,
                      Prod.exists, Option.some.injEq, Prod.mk.injEq] at hread ⊢
                    obtain ⟨place, second, hplace, rfl, rfl⟩ := hread
                    obtain ⟨second', hplace', hsecond⟩ := hfirst.boundary? hplace
                    exact ⟨second', ⟨place, second', hplace', rfl, rfl⟩, hsecond⟩
                  · simp only [hb, if_false] at hread ⊢
                    -- a sign stands for something by itself, whatever follows
                    split_ifs at hread ⊢
                    all_goals
                      obtain ⟨rfl, rfl⟩ := Prod.mk.inj (Option.some.inj hread)
                      exact ⟨first', rfl, hfirst⟩

theorem item? {c : Char} {item : Item} {rest : List Char} (h : Beside whole anchored flags cs cs')
    (hread : item? flags c cs = some (item, rest)) :
    ∃ rest', Reader.item? flags c cs' = some (item, rest') ∧
      Beside whole anchored flags rest rest' := by
  unfold Reader.item? at hread ⊢
  simp only [Option.bind_eq_bind] at hread ⊢
  split at hread
  · next hslash =>
      simp only [Option.bind_eq_some_iff, Prod.exists] at hread
      obtain ⟨escape, first, hescape, hread⟩ := hread
      obtain ⟨first', hescape', hfirst⟩ := h.escape? hescape
      simp only [hslash, if_true, hescape', Option.bind_some]
      split at hread
      · next d asByte =>
          simp only [Option.pure_def, Option.ite_none_right_eq_some, Option.some.injEq,
            Prod.mk.injEq] at hread
          obtain ⟨hchar, rfl, rfl⟩ := hread
          exact ⟨first', if_pos hchar, hfirst⟩
      · next set =>
          obtain ⟨rfl, rfl⟩ : Item.set set = item ∧ first = rest := by simpa using hread
          exact ⟨first', rfl, hfirst⟩
      · simp at hread
  · next hslash =>
      simp only [Option.pure_def, Option.ite_none_right_eq_some, Option.some.injEq,
        Prod.mk.injEq] at hread
      obtain ⟨hchar, rfl, rfl⟩ := hread
      exact ⟨cs', by simp only [hslash, if_false, hchar, if_true, Option.pure_def], h⟩

theorem peekBehindBlanks_append (inComment : Bool) (cs : List Char) :
    peekBehindBlanks inComment (cs ++ closing anchored) =
      some ((peekBehindBlanks inComment cs).getD ')') := by
  induction cs generalizing inComment with
  | nil => cases inComment <;> cases anchored <;> decide
  | cons c rest ih =>
      rw [List.cons_append, peekBehindBlanks, peekBehindBlanks]
      split
      · exact ih inComment
      · split
        · exact ih true
        · rfl

/-- A hyphen is told from a range by what is there by itself. -/
theorem peek_eq (h : Beside whole anchored flags cs cs') {c : Char} (hc : c = ']' ∨ c = '-') :
    peek flags cs' = some c ↔ peek flags cs = some c := by
  have hend : ')' ≠ c := by rcases hc with rfl | rfl <;> decide
  cases h with
  | swallowed => rfl
  | inside =>
      have hhead : (cs ++ closing anchored).head? = some c ↔ cs.head? = some c := by
        cases cs <;> simp [closing, hend]
      unfold peek
      split
      · rw [peekBehindBlanks_append]
        cases hbehind : peekBehindBlanks false cs with
        | some d => simp
        | none =>
            cases cs with
            | nil => simp [hend]
            | cons d rest =>
                -- all that is left is blanks and a number sign
                have hd : d ≠ c := by
                  rintro rfl
                  rcases hc with rfl | rfl <;> simp [peekBehindBlanks, Text.isBlank] at hbehind
                simp [hend, hd]
      · exact hhead

theorem itemOrRange? {c : Char} {set : CharSet} {rest : List Char}
    (h : Beside whole anchored flags cs cs') (hread : itemOrRange? flags c cs = some (set, rest)) :
    ∃ rest', Reader.itemOrRange? flags c cs' = some (set, rest') ∧
      Beside whole anchored flags rest rest' := by
  unfold Reader.itemOrRange? at hread ⊢
  simp only [Option.bind_eq_bind, Option.bind_eq_some_iff, Prod.exists] at hread
  obtain ⟨item, first, hitem, next, second, hsome, hread⟩ := hread
  obtain ⟨first', hitem', hfirst⟩ := h.item? hitem
  obtain ⟨second', hsome', hsecond⟩ := hfirst.skipSome hsome
  have hpeek : peek flags second' = some ']' ∨ peek flags second' = some '-' ↔
      peek flags second = some ']' ∨ peek flags second = some '-' :=
    or_congr (hsecond.tail.peek_eq (.inl rfl)) (hsecond.tail.peek_eq (.inr rfl))
  simp only [hitem', hsome', Option.bind_eq_bind, Option.bind_some, hpeek]
  split at hread
  · next hsingle =>
      simp only [Option.pure_def, Option.some.injEq, Prod.mk.injEq] at hread
      obtain ⟨rfl, rfl⟩ := hread
      exact ⟨next :: second', by simp only [hsingle, if_true, Option.pure_def], hsecond⟩
  · next hrange =>
      simp only [Option.bind_eq_some_iff, Prod.exists] at hread
      obtain ⟨d, third, hsome₂, last, fourth, hlast, hread⟩ := hread
      obtain ⟨third', hsome₂', hthird⟩ := hsecond.tail.skipSome hsome₂
      obtain ⟨fourth', hlast', hfourth⟩ := hthird.tail.item? hlast
      simp only [hrange, if_false, hsome₂', hlast', Option.bind_some]
      split at hread
      · simp only [Option.pure_def, Option.ite_none_right_eq_some, Option.some.injEq,
          Prod.mk.injEq] at hread
        obtain ⟨hle, rfl, rfl⟩ := hread
        exact ⟨fourth', if_pos hle, hfourth⟩
      · simp at hread

end Beside

/-- A caret, if there is one, and what follows it. -/
def caret (cs : List Char) : Bool × List Char :=
  match cs with
  | '^' :: rest => (true, rest)
  | _ => (false, cs)

/-- An ASCII class from its name on. -/
def asciiName? (negated : Bool) (cs : List Char) : Option ((CharSet × Bool) × List Char) :=
  match cs.dropWhile fun c => c ≠ ':' with
  | ':' :: ']' :: rest =>
    (ClassName.ascii? (String.ofList (cs.takeWhile fun c => c ≠ ':'))).bind fun set =>
      some ((set, negated), rest)
  | _ => none

theorem asciiClass?_colon (rest : List Char) :
    asciiClass? (':' :: rest) = asciiName? (caret rest).1 (caret rest).2 := rfl

theorem asciiClass?_of_ne {cs : List Char} (hcolon : ∀ rest, cs ≠ ':' :: rest) :
    asciiClass? cs = none := by
  unfold asciiClass?
  split
  · next rest => exact absurd rfl (hcolon rest)
  · rfl

namespace Beside

variable {whole : List Char} {anchored : Bool} {flags : Flags} {cs cs' : List Char}

theorem asciiName?_some {negated : Bool} {found : CharSet × Bool} {rest : List Char}
    (h : Beside whole anchored flags cs cs') (hread : asciiName? negated cs = some (found, rest)) :
    ∃ rest', asciiName? negated cs' = some (found, rest') ∧
      Beside whole anchored flags rest rest' := by
  unfold asciiName? at hread ⊢
  split at hread
  · next hdrop =>
      obtain ⟨first', hdrop', htake, hfirst⟩ := h.dropWhile hdrop
      obtain ⟨second', rfl, hsecond⟩ := hfirst.tail.cons_inv
      simp only [Option.bind_eq_some_iff, Option.some.injEq, Prod.mk.injEq] at hread
      obtain ⟨set, hset, rfl, rfl⟩ := hread
      exact ⟨second', by simp only [hdrop', htake, hset, Option.bind_some], hsecond⟩
  · simp at hread

theorem dropWhile_inv {test : Char → Bool} (h : Beside whole anchored flags cs cs')
    (hclosing : ∀ c ∈ closing anchored, test c) {c : Char} {rest' : List Char}
    (hread : cs'.dropWhile test = c :: rest') :
    ∃ rest, cs.dropWhile test = c :: rest ∧
      Beside whole anchored flags (c :: rest) (c :: rest') := by
  induction cs generalizing cs' with
  | nil =>
      rcases h.nil_inv with rfl | ⟨rfl, -⟩
      · simp [List.dropWhile_eq_nil_iff.mpr hclosing] at hread
      · simp at hread
  | cons d more ih =>
      obtain ⟨more', rfl, hmore⟩ := h.cons_inv
      rw [List.dropWhile_cons] at hread ⊢
      split at hread
      · next htest => simpa only [htest, if_true] using ih hmore hread
      · next htest =>
          obtain ⟨rfl, rfl⟩ := List.cons.inj hread
          exact ⟨more, if_neg htest, h⟩

theorem asciiName?_none {negated : Bool} (h : Beside whole anchored flags cs cs')
    (hread : asciiName? negated cs = none) : asciiName? negated cs' = none := by
  have hclosing : ∀ c ∈ closing anchored, decide (c ≠ ':') := by
    cases anchored <;> simp [closing]
  unfold asciiName? at hread ⊢
  split
  · next hdrop' =>
      obtain ⟨first, hdrop, hfirst⟩ := h.dropWhile_inv hclosing hdrop'
      obtain ⟨second, rfl⟩ := hfirst.tail.cons_of_cons (by decide)
      obtain ⟨-, -, htake, -⟩ := h.dropWhile hdrop
      simp only [hdrop] at hread
      rw [htake]
      cases hset : ClassName.ascii? (String.ofList (cs.takeWhile fun c => c ≠ ':')) with
      | none => rfl
      | some set => simp only [hset, Option.bind_some, reduceCtorEq] at hread
  · rfl

/-- A sign that may be missing is there in both texts or in none. -/
theorem cut (sign : Char) {f : List Char → Bool × List Char}
    (h : Beside whole anchored flags cs cs') (hsign : sign ≠ ')') (hcut : ∀ rest, f (sign :: rest) = (true, rest))
    (hplain : ∀ ds, (∀ rest, ds ≠ sign :: rest) → f ds = (false, ds)) :
    (f cs').1 = (f cs).1 ∧ Beside whole anchored flags (f cs).2 (f cs').2 := by
  by_cases hthere : ∃ first, cs = sign :: first
  · obtain ⟨first, rfl⟩ := hthere
    obtain ⟨first', rfl, hfirst⟩ := h.cons_inv
    rw [hcut, hcut]
    exact ⟨rfl, hfirst⟩
  · have hmissing : ∀ first', cs' ≠ sign :: first' := by
      rintro first' rfl
      exact hthere (h.cons_of_cons hsign)
    rw [hplain cs (not_exists.mp hthere), hplain cs' hmissing]
    exact ⟨rfl, h⟩

theorem caret_cut (h : Beside whole anchored flags cs cs') :
    (caret cs').1 = (caret cs).1 ∧ Beside whole anchored flags (caret cs).2 (caret cs').2 := by
  refine h.cut '^' (by decide) (fun rest => rfl) fun ds hds => ?_
  unfold caret
  split
  · next rest => exact absurd rfl (hds rest)
  · rfl

theorem asciiClass?_some {found : CharSet × Bool} {rest : List Char}
    (h : Beside whole anchored flags cs cs') (hread : asciiClass? cs = some (found, rest)) :
    ∃ rest', Reader.asciiClass? cs' = some (found, rest') ∧
      Beside whole anchored flags rest rest' := by
  by_cases hcolon : ∃ first, cs = ':' :: first
  · obtain ⟨first, rfl⟩ := hcolon
    obtain ⟨first', rfl, hfirst⟩ := h.cons_inv
    obtain ⟨hsame, hcut⟩ := hfirst.caret_cut
    rw [asciiClass?_colon] at hread ⊢
    rw [hsame]
    exact hcut.asciiName?_some hread
  · rw [asciiClass?_of_ne (not_exists.mp hcolon)] at hread
    simp at hread

theorem asciiClass?_none (h : Beside whole anchored flags cs cs') (hread : asciiClass? cs = none) :
    Reader.asciiClass? cs' = none := by
  by_cases hcolon : ∃ first', cs' = ':' :: first'
  · obtain ⟨first', rfl⟩ := hcolon
    obtain ⟨first, rfl⟩ := h.cons_of_cons (by decide)
    obtain ⟨hsame, hcut⟩ := h.tail.caret_cut
    rw [asciiClass?_colon] at hread ⊢
    rw [hsame]
    exact hcut.asciiName?_none hread
  · exact asciiClass?_of_ne (not_exists.mp hcolon)

theorem classStart? {s t : ClassState} {n m : Nat} (hn : n ≤ m) {rest : List Char}
    (h : Beside whole anchored flags cs cs') (hread : classStart? flags n s cs = some (t, rest)) :
    ∃ rest', Reader.classStart? flags m s cs' = some (t, rest') ∧
      Beside whole anchored flags rest rest' := by
  induction n generalizing m s cs cs' with
  | zero => simp [Reader.classStart?] at hread
  | succ n ih =>
      obtain ⟨m, rfl⟩ := Nat.exists_eq_add_of_le' (Nat.lt_of_lt_of_le n.succ_pos hn)
      rw [Reader.classStart?] at hread ⊢
      simp only [Option.bind_eq_bind, Option.pure_def] at hread ⊢
      simp only [Option.bind_eq_some_iff, Prod.exists] at hread
      obtain ⟨c, first, hsome, hread⟩ := hread
      obtain ⟨first', hsome', hfirst⟩ := h.skipSome hsome
      simp only [hsome', Option.bind_some]
      split at hread
      · next hhyphen =>
          rw [if_pos hhyphen]
          exact ih (Nat.le_of_succ_le_succ hn) hfirst.tail hread
      · next hhyphen =>
          rw [if_neg hhyphen]
          split at hread
          · next hbracket =>
              simp only [Option.bind_eq_some_iff, Prod.exists, Option.some.injEq,
                Prod.mk.injEq] at hread
              obtain ⟨d, second, hsome₂, rfl, rfl⟩ := hread
              obtain ⟨second', hsome₂', hsecond⟩ := hfirst.tail.skipSome hsome₂
              refine ⟨d :: second', ?_, hsecond⟩
              simp only [hbracket, hsome₂', if_true, Option.bind_some, and_self]
          · next hbracket =>
              simp only [Option.some.injEq, Prod.mk.injEq] at hread
              obtain ⟨rfl, rfl⟩ := hread
              exact ⟨c :: first', by simp only [hbracket, if_false], hfirst⟩

/-- Classes are read alike with some fuel by themselves and as much or more in the group. -/
def Classes (whole : List Char) (anchored : Bool) (flags : Flags) (n : Nat) : Prop :=
  ∀ {m : Nat} {cs cs' rest : List Char} {found : CharSet × Nat}, n ≤ m →
    Beside whole anchored flags cs cs' → class? flags n cs = some (found, rest) →
    ∃ rest', Reader.class? flags m cs' = some (found, rest') ∧
      Beside whole anchored flags rest rest'

/-- So are the items of a class, after those that were read. -/
def Items (whole : List Char) (anchored : Bool) (flags : Flags) (n : Nat) : Prop :=
  ∀ {m : Nat} {s : ClassState} {cs cs' rest : List Char} {found : CharSet × Nat}, n ≤ m →
    Beside whole anchored flags cs cs' → classItems? flags n s cs = some (found, rest) →
    ∃ rest', Reader.classItems? flags m s cs' = some (found, rest') ∧
      Beside whole anchored flags rest rest'

theorem classes_succ {n : Nat} (hitems : Items whole anchored flags n) :
    Classes whole anchored flags (n + 1) := by
  intro m cs cs' rest found hn h hread
  obtain ⟨m, rfl⟩ := Nat.exists_eq_add_of_le' (Nat.lt_of_lt_of_le n.succ_pos hn)
  rw [Reader.class?] at hread ⊢
  simp only [Option.bind_eq_bind, Option.pure_def] at hread ⊢
  rw [Option.bind_eq_some_iff] at hread
  obtain ⟨⟨c, first⟩, hsome, hread⟩ := hread
  obtain ⟨first', hsome', hfirst⟩ := h.skipSome hsome
  obtain ⟨negated, body, body', hcut, hcut', hbody⟩ : ∃ negated body body',
      (if c = '^' then (true, first) else (false, c :: first)) = (negated, body) ∧
      (if c = '^' then (true, first') else (false, c :: first')) = (negated, body') ∧
      Beside whole anchored flags body body' := by
    split
    · exact ⟨true, first, first', rfl, rfl, hfirst.tail⟩
    · exact ⟨false, c :: first, c :: first', rfl, rfl, hfirst⟩
  simp only [hcut, Option.bind_eq_some_iff, Prod.exists, Option.some.injEq,
    Prod.mk.injEq] at hread
  obtain ⟨s, second, hstart, set, depth, third, hread, complement, hset, rfl, rfl⟩ := hread
  obtain ⟨second', hstart', hsecond⟩ :=
    hbody.classStart? (Nat.succ_le_succ hbody.length_le) hstart
  obtain ⟨third', hread', hthird⟩ := hitems (Nat.le_of_succ_le_succ hn) hsecond hread
  refine ⟨third', ?_, hthird⟩
  simp only [hsome', hcut', hstart', hread', hset, Option.bind_some]

theorem items_succ {n : Nat} (hclasses : Classes whole anchored flags n)
    (hitems : Items whole anchored flags n) : Items whole anchored flags (n + 1) := by
  intro m s cs cs' rest found hn h hread
  obtain ⟨m, rfl⟩ := Nat.exists_eq_add_of_le' (Nat.lt_of_lt_of_le n.succ_pos hn)
  have hm : n ≤ m := Nat.le_of_succ_le_succ hn
  rw [Reader.classItems?] at hread ⊢
  simp only [Option.bind_eq_bind, Option.pure_def] at hread ⊢
  rw [Option.bind_eq_some_iff] at hread
  obtain ⟨⟨c, first⟩, hsome, hread⟩ := hread
  obtain ⟨first', hsome', hfirst⟩ := h.skipSome hsome
  simp only [hsome', Option.bind_some]
  simp only at hread
  split at hread
  · split at hread
    · next set negated second hascii =>
        obtain ⟨second', hascii', hsecond⟩ := hfirst.tail.asciiClass?_some hascii
        rw [Option.bind_eq_some_iff] at hread
        obtain ⟨complement, hset, hread⟩ := hread
        simp only [hascii', hset, Option.bind_some]
        exact hitems hm hsecond hread
    · next hascii =>
        simp only [Option.bind_eq_some_iff, Prod.exists] at hread
        obtain ⟨set, depth, second, hclass, hread⟩ := hread
        obtain ⟨second', hclass', hsecond⟩ := hclasses hm hfirst.tail hclass
        simp only [hfirst.tail.asciiClass?_none hascii, hclass', Option.bind_some]
        exact hitems hm hsecond hread
  · obtain ⟨rfl, rfl⟩ := Prod.mk.inj (Option.some.inj hread)
    exact ⟨first', rfl, hfirst.tail⟩
  · obtain ⟨second', rfl, hsecond⟩ := hfirst.tail.cons_inv
    exact hitems hm hsecond hread
  · obtain ⟨second', rfl, hsecond⟩ := hfirst.tail.cons_inv
    exact hitems hm hsecond hread
  · obtain ⟨second', rfl, hsecond⟩ := hfirst.tail.cons_inv
    exact hitems hm hsecond hread
  · next hopen hclose hand hminus htilde =>
      simp only [Option.bind_eq_some_iff, Prod.exists] at hread
      obtain ⟨set, second, hitem, hread⟩ := hread
      obtain ⟨second', hitem', hsecond⟩ := hfirst.tail.itemOrRange? hitem
      -- the group brings no second sign of an operator
      split
      · exact absurd rfl hopen
      · exact absurd rfl hclose
      · obtain ⟨more, rfl⟩ := hfirst.tail.cons_of_cons (by decide)
        exact absurd rfl (hand more rfl)
      · obtain ⟨more, rfl⟩ := hfirst.tail.cons_of_cons (by decide)
        exact absurd rfl (hminus more rfl)
      · obtain ⟨more, rfl⟩ := hfirst.tail.cons_of_cons (by decide)
        exact absurd rfl (htilde more rfl)
      · simp only [hitem', Option.bind_some]
        exact hitems hm hsecond hread

theorem classes_and_items (n : Nat) :
    Classes whole anchored flags n ∧ Items whole anchored flags n := by
  induction n with
  | zero => exact ⟨fun _ _ hread => by simp [Reader.class?] at hread,
      fun _ _ hread => by simp [Reader.classItems?] at hread⟩
  | succ n ih => exact ⟨classes_succ ih.2, items_succ ih.1 ih.2⟩

end Beside

end Trellis.Regex.Reader
