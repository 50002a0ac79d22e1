import Mathlib.Data.List.Forall2
import Trellis.Proofs.Regex.Words
import Trellis.Proofs.Schema.Pattern
/-!
The grammars of the formats.  What each format accepts is told by the words of its expression: UUIDs by what stands at
each position, email addresses by their labels, and web addresses by the characters after the scheme, the second of
which may be a blank.
-/

namespace Trellis

namespace CharSet

theorem contains_range {first last : Nat} {c : Char} :
    (range first last).contains c ↔ first ≤ c.toNat ∧ c.toNat ≤ last := by
  simp [contains, mem]

theorem contains_union {first second : CharSet} {c : Char} :
    (union first second).contains c ↔ first.contains c ∨ second.contains c := by
  simp [contains, mem]

theorem contains_compl {set : CharSet} {c : Char} :
    set.compl.contains c ↔ ¬ set.contains c := by
  simp [contains, mem]

/-- A set with more characters. -/
def adding (set : CharSet) (cs : List Char) : CharSet :=
  cs.foldl (fun set c => .union set (.one c)) set

theorem contains_adding {set : CharSet} {cs : List Char} {c : Char} :
    (set.adding cs).contains c ↔ set.contains c ∨ c ∈ cs := by
  induction cs generalizing set with
  | nil => simp [adding]
  | cons d rest ih =>
      rw [adding, List.foldl_cons, ← adding, ih, contains_union, Regex.contains_one,
        List.mem_cons, or_assoc]

theorem contains_blank {c : Char} : blank.contains c ↔ Text.isBlank c := by
  rw [contains, mem, Char.ofNat_toNat]

/-- The texts that have a character of each set, in this order. -/
def rows (sets : List CharSet) : Language Char :=
  {w | List.Forall₂ (fun c set => contains set c) w sets}

theorem rows_append (first second : List CharSet) :
    rows (first ++ second) = rows first * rows second := by
  ext w
  rw [Language.mem_mul]
  constructor
  · intro hw
    exact ⟨_, List.forall₂_take_append w first second hw, _,
      List.forall₂_drop_append w first second hw, List.take_append_drop _ _⟩
  · rintro ⟨v, hv, u, hu, rfl⟩
    exact List.rel_append hv hu

theorem rows_replicate (set : CharSet) (n : Nat) :
    rows (List.replicate n set) = (Regex.one set).words ^ n := by
  have hone : rows [set] = (Regex.one set).words := by
    ext w
    constructor
    · intro hw
      obtain ⟨c, rest, hc, hrest, rfl⟩ := List.forall₂_cons_right_iff.mp hw
      rw [List.forall₂_nil_right_iff.mp hrest]
      exact ⟨c, hc, rfl⟩
    · rintro ⟨c, hc, rfl⟩
      exact .cons hc .nil
  induction n with
  | zero =>
      ext w
      exact List.forall₂_nil_right_iff
  | succ n ih => rw [pow_succ', ← ih, ← hone, ← rows_append]; rfl

theorem mem_rows_map_range {set : Nat → CharSet} {n : Nat} {w : List Char} :
    w ∈ rows ((List.range n).map set) ↔
      w.length = n ∧ ∀ i c, w[i]? = some c → (set i).contains c := by
  change List.Forall₂ _ w _ ↔ _
  simp only [List.forall₂_iff_get, List.length_map, List.length_range, List.get_eq_getElem,
    List.getElem_map, List.getElem_range, List.getElem?_eq_some_iff]
  refine and_congr_right fun hlength => ?_
  constructor
  · rintro hall i _ ⟨hi, rfl⟩
    exact hall i hi (by omega)
  · exact fun hall i hi _ => hall i _ ⟨hi, rfl⟩

end CharSet

namespace StringFormat

open Regex (words anchorFree occursIn_between mem_words_char mem_words_chars mem_words_optional
  mem_words_star mem_words_times_one words_exactly words_seqs)

def letterOrDigit : CharSet :=
  .union (.union (.range 0x61 0x7A) (.range 0x41 0x5A)) (.range 0x30 0x39)

def hexDigit : CharSet :=
  .union (.union (.range 0x30 0x39) (.range 0x61 0x66)) (.range 0x41 0x46)

theorem contains_letterOrDigit {c : Char} : letterOrDigit.contains c ↔ c.isAlphanum := by
  simp only [letterOrDigit, CharSet.contains_union, CharSet.contains_range]
  have halphanum : c.isAlphanum = ((decide (65 ≤ c.val ∧ c.val ≤ 90) ||
      decide (97 ≤ c.val) && decide (c.val ≤ 122)) ||
        decide (48 ≤ c.val) && decide (c.val ≤ 57)) := rfl
  rw [halphanum]
  simp only [Bool.or_eq_true, Bool.and_eq_true, decide_eq_true_eq, UInt32.le_iff_toNat_le]
  change _ ↔ ((65 ≤ c.toNat ∧ c.toNat ≤ 90) ∨ (97 ≤ c.toNat ∧ c.toNat ≤ 122)) ∨
    (48 ≤ c.toNat ∧ c.toNat ≤ 57)
  omega

theorem contains_hexDigit {c : Char} : hexDigit.contains c ↔ c.isHexDigit := by
  simp only [hexDigit, CharSet.contains_union, CharSet.contains_range]
  have hhex : c.isHexDigit = (decide (48 ≤ c.val) && decide (c.val ≤ 57) ||
      decide (97 ≤ c.val) && decide (c.val ≤ 102) ||
        decide (65 ≤ c.val) && decide (c.val ≤ 70)) := rfl
  rw [hhex]
  simp only [Bool.or_eq_true, Bool.and_eq_true, decide_eq_true_eq, UInt32.le_iff_toNat_le]
  change _ ↔ ((48 ≤ c.toNat ∧ c.toNat ≤ 57) ∨ (97 ≤ c.toNat ∧ c.toNat ≤ 102)) ∨
    (65 ≤ c.toNat ∧ c.toNat ≤ 70)
  omega

/-- A row of parts between the ends of a text. -/
def spanning (parts : List Regex) : Regex :=
  Regex.seqs (.anchor .textStart :: (parts ++ [.anchor .textEnd]))

/-- A format that is read as a row of parts between the ends of a text accepts the words of
that row. -/
theorem accepts_iff {f : StringFormat} {parts : List Regex} (hfree : parts.all anchorFree)
    (hregex : f.regex? = some (spanning parts)) {s : String} :
    f.accepts s ↔ s.toList ∈ (parts.map words).prod := by
  rw [accepts, hregex, Option.any_some, spanning, occursIn_between hfree]

/-! UUIDs. -/

/-- Five groups of hexadecimal digits with hyphens between them, told by the positions of the
hyphens. -/
structure IsUuid (s : String) : Prop where
  length_eq : s.toList.length = 36
  positions : ∀ i c, s.toList[i]? = some c →
    if i ∈ [8, 13, 18, 23] then c = '-' else c.isHexDigit

/-- What stands at a position of a UUID. -/
def uuidSet (i : Nat) : CharSet := if i ∈ [8, 13, 18, 23] then .one '-' else hexDigit

theorem contains_uuidSet {i : Nat} {c : Char} :
    (uuidSet i).contains c ↔ if i ∈ [8, 13, 18, 23] then c = '-' else c.isHexDigit := by
  unfold uuidSet
  split
  · exact Regex.contains_one
  · exact contains_hexDigit

def hexDigits (n : Nat) : Regex := .exactly n (.one hexDigit)

def uuidParts : List Regex :=
  [hexDigits 8, .char '-', hexDigits 4, .char '-', hexDigits 4, .char '-', hexDigits 4, .char '-',
    hexDigits 12]

-- Reading an expression computes on closed text, which the kernel does fast and `rfl` does not.
theorem regex?_uuid : uuid.regex? = some (spanning uuidParts) := by decide +kernel

/-- The parts of the expression have one word for each way to fill the positions. -/
theorem words_uuidParts :
    (uuidParts.map words).prod = CharSet.rows ((List.range 36).map uuidSet) := by
  have hhex : ∀ n, (hexDigits n).words = CharSet.rows (List.replicate n hexDigit) := by
    intro n
    rw [hexDigits, words_exactly, CharSet.rows_replicate]
  have hhyphen : (Regex.char '-').words = CharSet.rows (List.replicate 1 (.one '-')) := by
    rw [CharSet.rows_replicate, pow_one, Regex.char]
  simp only [uuidParts, List.map_cons, List.map_nil, List.prod_cons, List.prod_nil, mul_one, hhex,
    hhyphen, ← CharSet.rows_append]
  rfl

theorem uuid_accepts_iff {s : String} : uuid.accepts s ↔ IsUuid s := by
  have hfree : uuidParts.all anchorFree := rfl
  rw [accepts_iff hfree regex?_uuid, words_uuidParts, CharSet.mem_rows_map_range]
  simp only [contains_uuidSet]
  exact ⟨fun h => ⟨h.1, h.2⟩, fun h => ⟨h.length_eq, h.positions⟩⟩

/-! Email addresses. -/

/-- The signs that may stand before the `@` besides letters and digits. -/
def localSigns : List Char := ".!#$%&'*+/=?^_`\x7b|\x7d~-".toList

/-- One to 63 letters, digits and hyphens, with no hyphen at either end. -/
structure IsLabel (label : List Char) : Prop where
  pos : 1 ≤ label.length
  length_le : label.length ≤ 63
  chars : ∀ c ∈ label, c.isAlphanum ∨ c = '-'
  head : label.head? ≠ some '-'
  last : label.getLast? ≠ some '-'

/-- Characters, an `@` and labels with dots between them. -/
def IsEmail (s : String) : Prop :=
  ∃ (account : List Char) (labels : List (List Char)),
    s.toList = account ++ '@' :: ['.'].intercalate labels ∧
      account ≠ [] ∧ (∀ c ∈ account, c.isAlphanum ∨ c ∈ localSigns) ∧
      labels ≠ [] ∧ ∀ label ∈ labels, IsLabel label

def localPart : CharSet := letterOrDigit.adding localSigns

theorem contains_localPart {c : Char} :
    localPart.contains c ↔ c.isAlphanum ∨ c ∈ localSigns := by
  rw [localPart, CharSet.contains_adding, contains_letterOrDigit]

/-- What may follow the first character of a label. -/
def labelRest : Regex :=
  .optional (.seq (.times (.one (.union letterOrDigit (.one '-'))) 0 (some 61))
    (.one letterOrDigit))

def domainLabel : Regex := .seq (.one letterOrDigit) labelRest

/-- A word of the expression for labels is one letter or digit, or two with up to 61
characters between them. -/
theorem mem_words_domainLabel {w : List Char} :
    w ∈ domainLabel.words ↔ ∃ c, c.isAlphanum ∧ (w = [c] ∨ ∃ inner d, w = c :: (inner ++ [d]) ∧
      inner.length ≤ 61 ∧ (∀ e ∈ inner, e.isAlphanum ∨ e = '-') ∧ d.isAlphanum) := by
  have hinner : ∀ e, (CharSet.union letterOrDigit (.one '-')).contains e ↔
      e.isAlphanum ∨ e = '-' := by
    intro e
    rw [CharSet.contains_union, contains_letterOrDigit, Regex.contains_one]
  rw [domainLabel, words, Language.mem_mul]
  constructor
  · rintro ⟨_, ⟨c, hc, rfl⟩, v, hv, rfl⟩
    refine ⟨c, contains_letterOrDigit.mp hc, ?_⟩
    rcases mem_words_optional.mp hv with rfl | hv
    · exact Or.inl rfl
    · obtain ⟨inner, htimes, _, ⟨d, hd, rfl⟩, rfl⟩ := Language.mem_mul.mp hv
      obtain ⟨-, hmost, hall⟩ := mem_words_times_one.mp htimes
      exact Or.inr ⟨inner, d, rfl, by simpa using hmost 61 rfl,
        fun e he => (hinner e).mp (hall e he), contains_letterOrDigit.mp hd⟩
  · rintro ⟨c, hc, hrest⟩
    have hfirst : [c] ∈ (Regex.one letterOrDigit).words :=
      ⟨c, contains_letterOrDigit.mpr hc, rfl⟩
    rcases hrest with rfl | ⟨inner, d, rfl, hlength, hall, hd⟩
    · exact ⟨[c], hfirst, [], mem_words_optional.mpr (Or.inl rfl), rfl⟩
    · refine ⟨[c], hfirst, inner ++ [d], mem_words_optional.mpr (Or.inr ?_), rfl⟩
      refine Language.append_mem_mul (mem_words_times_one.mpr ⟨Nat.zero_le _, ?_, ?_⟩)
        ⟨d, contains_letterOrDigit.mpr hd, rfl⟩
      · rintro _ ⟨⟩
        simpa using hlength
      · exact fun e he => (hinner e).mpr (hall e he)

theorem mem_words_domainLabel_iff {w : List Char} : w ∈ domainLabel.words ↔ IsLabel w := by
  have hhyphen : ∀ {c : Char}, c.isAlphanum → c ≠ '-' := by
    rintro _ halnum rfl
    contradiction
  rw [mem_words_domainLabel]
  constructor
  · rintro ⟨c, hc, rfl | ⟨inner, d, rfl, hlength, hall, hd⟩⟩
    · exact ⟨by simp, by simp, by simp [hc], by simpa using hhyphen hc,
        by simpa using hhyphen hc⟩
    · refine ⟨by simp, by simp; omega, ?_, by simpa using hhyphen hc, ?_⟩
      · intro e he
        rcases List.mem_cons.mp he with rfl | he
        · exact Or.inl hc
        · rcases List.mem_append.mp he with he | he
          · exact hall e he
          · rw [List.mem_singleton.mp he]
            exact Or.inl hd
      · rw [← List.cons_append, List.getLast?_concat]
        simpa using hhyphen hd
  · intro hlabel
    cases w with
    | nil => exact absurd hlabel.pos (by simp)
    | cons c rest =>
        have hc : c.isAlphanum := by
          refine (hlabel.chars c List.mem_cons_self).resolve_right ?_
          rintro rfl
          exact hlabel.head rfl
        refine ⟨c, hc, ?_⟩
        rcases List.eq_nil_or_concat' rest with rfl | ⟨inner, d, rfl⟩
        · exact Or.inl rfl
        · refine Or.inr ⟨inner, d, rfl, ?_, fun e he => hlabel.chars e (by simp [he]), ?_⟩
          · have hlength := hlabel.length_le
            simp at hlength
            omega
          · refine (hlabel.chars d (by simp)).resolve_right ?_
            rintro rfl
            have hlast := hlabel.last
            rw [← List.cons_append, List.getLast?_concat] at hlast
            exact hlast rfl

theorem intercalate_cons {α : Type} (separator first : List α) (others : List (List α)) :
    separator.intercalate (first :: others) =
      first ++ (others.map (separator ++ ·)).flatten := by
  induction others generalizing first with
  | nil => simp
  | cons second others ih =>
      rw [List.intercalate_cons_cons, ih, List.map_cons, List.flatten_cons]
      simp only [List.append_assoc]

/-- Labels, each with a dot before it. -/
theorem mem_words_star_label {w : List Char} :
    w ∈ (Regex.star (.seq (.char '.') domainLabel)).words ↔
      ∃ labels : List (List Char), w = (labels.map (['.'] ++ ·)).flatten ∧
        ∀ label ∈ labels, IsLabel label := by
  have hpiece : ∀ piece, piece ∈ (Regex.seq (.char '.') domainLabel).words ↔
      ∃ label, IsLabel label ∧ ['.'] ++ label = piece := by
    intro piece
    rw [words, Language.mem_mul]
    simp only [mem_words_char, mem_words_domainLabel_iff, exists_eq_left]
  rw [mem_words_star]
  simp only [hpiece]
  constructor
  · rintro ⟨pieces, rfl, hall⟩
    have hlabels : (pieces.map List.tail).map (['.'] ++ ·) = pieces := by
      rw [List.map_map]
      refine (List.map_congr_left fun piece hmem => ?_).trans (List.map_id pieces)
      obtain ⟨label, -, rfl⟩ := hall piece hmem
      rfl
    refine ⟨pieces.map List.tail, by rw [hlabels], ?_⟩
    intro label hmem
    obtain ⟨piece, hpiece, rfl⟩ := List.mem_map.mp hmem
    obtain ⟨label, hlabel, rfl⟩ := hall piece hpiece
    exact hlabel
  · rintro ⟨labels, rfl, hall⟩
    refine ⟨labels.map (['.'] ++ ·), rfl, ?_⟩
    intro piece hmem
    obtain ⟨label, hlabel, rfl⟩ := List.mem_map.mp hmem
    exact ⟨label, hall label hlabel, rfl⟩

/-- What follows the `@`. -/
theorem mem_words_domain {w : List Char} :
    w ∈ domainLabel.words * (Regex.star (.seq (.char '.') domainLabel)).words ↔
      ∃ labels : List (List Char), w = ['.'].intercalate labels ∧ labels ≠ [] ∧
        ∀ label ∈ labels, IsLabel label := by
  rw [Language.mem_mul]
  simp only [mem_words_domainLabel_iff, mem_words_star_label]
  constructor
  · rintro ⟨first, hfirst, _, ⟨others, rfl, hothers⟩, rfl⟩
    exact ⟨first :: others, (intercalate_cons _ _ _).symm, List.cons_ne_nil _ _,
      List.forall_mem_cons.mpr ⟨hfirst, hothers⟩⟩
  · rintro ⟨labels, rfl, hne, hall⟩
    cases labels with
    | nil => contradiction
    | cons first others =>
        obtain ⟨hfirst, hothers⟩ := List.forall_mem_cons.mp hall
        exact ⟨first, hfirst, _, ⟨others, rfl, hothers⟩, (intercalate_cons _ _ _).symm⟩

def emailParts : List Regex :=
  [.plus (.one localPart), .char '@', .one letterOrDigit, labelRest,
    .star (.seq (.char '.') domainLabel)]

theorem regex?_email : email.regex? = some (spanning emailParts) := by decide +kernel

theorem email_accepts_iff {s : String} : email.accepts s ↔ IsEmail s := by
  have hfree : emailParts.all anchorFree := rfl
  have haccount : ∀ w, w ∈ (Regex.plus (.one localPart)).words ↔
      w ≠ [] ∧ ∀ c ∈ w, c.isAlphanum ∨ c ∈ localSigns := by
    intro w
    rw [Regex.plus, mem_words_times_one]
    simp [contains_localPart, Nat.one_le_iff_ne_zero]
  have hproduct : (emailParts.map words).prod =
      (Regex.plus (.one localPart)).words * ((Regex.char '@').words *
        (domainLabel.words * (Regex.star (.seq (.char '.') domainLabel)).words)) := by
    have hlabel : domainLabel.words = (Regex.one letterOrDigit).words * labelRest.words := rfl
    simp only [emailParts, hlabel, List.map_cons, List.map_nil, List.prod_cons, List.prod_nil,
      mul_one, mul_assoc]
  rw [accepts_iff hfree regex?_email, hproduct]
  constructor
  · intro hmem
    obtain ⟨account, hbefore, _, hafter, hs⟩ := Language.mem_mul.mp hmem
    obtain ⟨_, hsign, domain, hdomain, rfl⟩ := Language.mem_mul.mp hafter
    obtain rfl := mem_words_char.mp hsign
    obtain ⟨labels, rfl, hlabels, hall⟩ := mem_words_domain.mp hdomain
    obtain ⟨hne, hchars⟩ := (haccount account).mp hbefore
    exact ⟨account, labels, hs.symm, hne, hchars, hlabels, hall⟩
  · rintro ⟨account, labels, hs, hne, hchars, hlabels, hall⟩
    rw [hs]
    refine Language.append_mem_mul ((haccount account).mpr ⟨hne, hchars⟩) ?_
    exact Language.append_mem_mul (mem_words_char.mpr rfl)
      (mem_words_domain.mpr ⟨labels, rfl, hlabels, hall⟩)

/-- A line feed stands in no UUID and in no email address. -/
theorem IsUuid.not_mem {s : String} (huuid : IsUuid s) : '\n' ∉ s.toList := by
  intro hmem
  obtain ⟨i, hi⟩ := List.getElem?_of_mem hmem
  have hpos := huuid.positions i '\n' hi
  split at hpos <;> contradiction

theorem IsEmail.not_mem {s : String} (hemail : IsEmail s) : '\n' ∉ s.toList := by
  obtain ⟨account, labels, hs, -, hchars, hlabels, hall⟩ := hemail
  have haccount : '\n' ∉ account := fun hmem =>
    absurd (hchars '\n' hmem) (by decide)
  have hlabel : ∀ label ∈ labels, '\n' ∉ label := fun label hmem hin =>
    absurd ((hall label hmem).chars '\n' hin) (by decide)
  cases labels with
  | nil => contradiction
  | cons first others =>
      obtain ⟨hfirst, hothers⟩ := List.forall_mem_cons.mp hlabel
      rw [hs, intercalate_cons]
      simpa [haccount, hfirst] using hothers

/-- The grammars of UUIDs and of email addresses: each format accepts exactly the texts
that its grammar says, and no text with a line feed at its end. -/
theorem uuid_email_grammars (s : String) :
    (uuid.accepts s ↔ IsUuid s) ∧ (email.accepts s ↔ IsEmail s) ∧
      uuid.accepts (s ++ "\n") = false ∧ email.accepts (s ++ "\n") = false := by
  have hfeed : '\n' ∈ (s ++ "\n").toList := by simp
  refine ⟨uuid_accepts_iff, email_accepts_iff, ?_, ?_⟩
  · rw [Bool.eq_false_iff]
    exact fun haccepts => (uuid_accepts_iff.mp haccepts).not_mem hfeed
  · rw [Bool.eq_false_iff]
    exact fun haccepts => (email_accepts_iff.mp haccepts).not_mem hfeed

/-! Web addresses. -/

/-- A scheme, a character that may begin the rest, any character that ends no line, and then
no blanks. -/
structure IsUri (scheme : String) (first second : Char) (rest : List Char) : Prop where
  scheme : scheme = "http://" ∨ scheme = "https://"
  first_not_blank : ¬ Text.isBlank first
  first_not_mem : first ∉ ['/', '$', '.', '?', '#']
  second_ne : second ≠ '\n'
  rest_not_blank : ∀ c ∈ rest, ¬ Text.isBlank c

/-- The characters that the part after the scheme may begin with. -/
def uriStart : CharSet := .compl (CharSet.blank.adding ['/', '$', '.', '?', '#'])

theorem contains_uriStart {c : Char} :
    uriStart.contains c ↔ ¬ Text.isBlank c ∧ c ∉ ['/', '$', '.', '?', '#'] := by
  rw [uriStart, CharSet.contains_compl, CharSet.contains_adding, CharSet.contains_blank,
    not_or]

def uriParts : List Regex :=
  "http".toList.map .char ++ [.optional (.char 's')] ++ "://".toList.map .char ++
    [.one uriStart, .one (.compl (.one '\n')), .star (.one (.compl .blank))]

theorem regex?_uri : uri.regex? = some (spanning uriParts) := by decide +kernel

/-- Every format has an expression: each of the texts can be read. -/
theorem regex?_isSome (f : StringFormat) : f.regex?.isSome := by
  cases f with
  | email => rw [regex?_email, Option.isSome_some]
  | uuid => rw [regex?_uuid, Option.isSome_some]
  | uri => rw [regex?_uri, Option.isSome_some]

/-- The scheme, with or without an `s`. -/
theorem mem_words_scheme {w : List Char} :
    w ∈ (Regex.chars "http").words *
        ((Regex.optional (.char 's')).words * (Regex.chars "://").words) ↔
      w = "http://".toList ∨ w = "https://".toList := by
  simp only [Language.mem_mul, mem_words_chars, mem_words_optional, mem_words_char,
    exists_eq_left, or_and_right, exists_or, eq_comm]
  rfl

/-- What follows the scheme. -/
theorem mem_words_target {w : List Char} :
    w ∈ (Regex.one uriStart).words * ((Regex.one (.compl (.one '\n'))).words *
        (Regex.star (.one (.compl .blank))).words) ↔
      ∃ first second rest, w = first :: second :: rest ∧
        (¬ Text.isBlank first ∧ first ∉ ['/', '$', '.', '?', '#']) ∧ second ≠ '\n' ∧
        ∀ c ∈ rest, ¬ Text.isBlank c := by
  have hrest : ∀ v, v ∈ (Regex.star (.one (.compl .blank))).words ↔
      ∀ c ∈ v, ¬ Text.isBlank c := by
    intro v
    rw [Regex.star, mem_words_times_one]
    simp [CharSet.contains_compl, CharSet.contains_blank]
  have hsecond : ∀ c, (CharSet.compl (.one '\n')).contains c ↔ c ≠ '\n' := by
    intro c
    rw [CharSet.contains_compl, Regex.contains_one]
  constructor
  · intro hmem
    obtain ⟨_, ⟨first, hfirst, rfl⟩, _, hlater, rfl⟩ := Language.mem_mul.mp hmem
    obtain ⟨_, ⟨second, hnext, rfl⟩, rest, hblanks, rfl⟩ := Language.mem_mul.mp hlater
    exact ⟨first, second, rest, rfl, contains_uriStart.mp hfirst, (hsecond second).mp hnext,
      (hrest rest).mp hblanks⟩
  · rintro ⟨first, second, rest, rfl, hfirst, hnext, hblanks⟩
    have hone : [first] ∈ (Regex.one uriStart).words :=
      ⟨first, contains_uriStart.mpr hfirst, rfl⟩
    have htwo : [second] ∈ (Regex.one (.compl (.one '\n'))).words :=
      ⟨second, (hsecond second).mpr hnext, rfl⟩
    exact Language.append_mem_mul hone
      (Language.append_mem_mul htwo ((hrest rest).mpr hblanks))

theorem uri_accepts_iff {s : String} :
    uri.accepts s ↔ ∃ scheme first second rest, IsUri scheme first second rest ∧
      s.toList = scheme.toList ++ first :: second :: rest := by
  have hfree : uriParts.all anchorFree := rfl
  have hproduct : (uriParts.map words).prod =
      ((Regex.chars "http").words *
        ((Regex.optional (.char 's')).words * (Regex.chars "://").words)) *
      ((Regex.one uriStart).words * ((Regex.one (.compl (.one '\n'))).words *
        (Regex.star (.one (.compl .blank))).words)) := by
    have hchars : ∀ text : String,
        ((text.toList.map Regex.char).map words).prod = (Regex.chars text).words :=
      fun text => (words_seqs _).symm
    delta uriParts
    rw [List.map_append, List.map_append, List.map_append, List.prod_append,
      List.prod_append, List.prod_append, hchars, hchars]
    simp only [List.map_cons, List.map_nil, List.prod_cons, List.prod_nil, mul_one, mul_assoc]
  rw [accepts_iff hfree regex?_uri, hproduct]
  constructor
  · intro hmem
    obtain ⟨scheme, hscheme, target, htarget, hs⟩ := Language.mem_mul.mp hmem
    obtain ⟨first, second, rest, rfl, ⟨hblank, hfirst⟩, hsecond, hrest⟩ :=
      mem_words_target.mp htarget
    refine ⟨String.ofList scheme, first, second, rest, ⟨?_, hblank, hfirst, hsecond, hrest⟩, ?_⟩
    · simpa [← String.toList_inj] using mem_words_scheme.mp hscheme
    · rw [← hs, String.toList_ofList]
  · rintro ⟨scheme, first, second, rest, huri, hs⟩
    rw [hs]
    refine Language.append_mem_mul (mem_words_scheme.mpr ?_) (mem_words_target.mpr ?_)
    · exact huri.scheme.imp (congrArg String.toList) (congrArg String.toList)
    · exact ⟨first, second, rest, rfl, ⟨huri.first_not_blank, huri.first_not_mem⟩,
        huri.second_ne, huri.rest_not_blank⟩

/-- A web address has a blank exactly if its second character after the scheme is one. -/
theorem IsUri.blank_iff {scheme : String} {first second : Char} {rest : List Char}
    (huri : IsUri scheme first second rest) :
    (∀ c ∈ scheme.toList ++ first :: second :: rest, ¬ Text.isBlank c) ↔
      ¬ Text.isBlank second := by
  have hscheme : ∀ c ∈ scheme.toList, ¬ Text.isBlank c := by
    have hall : scheme.toList.all fun c => !Text.isBlank c := by
      rcases huri.scheme with rfl | rfl <;> decide
    simpa using hall
  rw [List.forall_mem_append, List.forall_mem_cons, List.forall_mem_cons]
  exact ⟨fun hall => hall.2.2.1,
    fun hsecond => ⟨hscheme, huri.first_not_blank, hsecond, huri.rest_not_blank⟩⟩

/-- The shape of web addresses.  A text is accepted exactly if it is a scheme, a character
that is neither a blank nor one of five signs, a character that is no line feed, and more
characters that are no blanks; so the only blank of a web address is the second character
after the scheme, if that is one.  A schema with the format accepts the same texts, as they
are. -/
theorem uri_blanks (s : String) :
    (uri.accepts s ↔ ∃ scheme first second rest, IsUri scheme first second rest ∧
      s.toList = scheme.toList ++ first :: second :: rest) ∧
    (∀ scheme first second rest, IsUri scheme first second rest →
      s.toList = scheme.toList ++ first :: second :: rest →
        ((∀ c ∈ s.toList, ¬ Text.isBlank c) ↔ ¬ Text.isBlank second)) ∧
    ∃ c, (Schema.string.format .uri).compile = .ok c ∧ ∀ out,
      c.check (.string s) = .ok out ↔ out = .string s ∧ uri.accepts s := by
  refine ⟨uri_accepts_iff, ?_, _, rfl, fun out => ?_⟩
  · intro scheme first second rest huri hs
    rw [hs, huri.blank_iff]
  · rw [Checker.check_text_iff]
    simp [Checker.textViolations, Checker.require]

/-- A space may be the second character after the scheme. -/
theorem uri_with_blank :
    uri.accepts "http://a b" ∧ ' ' ∈ "http://a b".toList ∧ Text.isBlank ' ' ∧
      ∃ c, (Schema.string.format .uri).compile = .ok c ∧
        c.check (.string "http://a b") = .ok (.string "http://a b") := by
  have haccepts : uri.accepts "http://a b" :=
    uri_accepts_iff.mpr ⟨"http://", 'a', ' ', ['b'],
      ⟨Or.inl rfl, by decide, by decide, by decide, List.forall_mem_singleton.mpr (by decide)⟩,
      rfl⟩
  obtain ⟨-, -, c, hcompile, hcheck⟩ := uri_blanks "http://a b"
  exact ⟨haccepts, by decide, by decide, c, hcompile, (hcheck _).mpr ⟨rfl, haccepts⟩⟩

end StringFormat

end Trellis
