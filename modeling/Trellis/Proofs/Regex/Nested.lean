import Trellis.Proofs.Regex.Parts
/-!
Reading an expression in a group, step by step.  The state differs from that of reading it by itself by one more group
around the others (`State.inside`).  A whole reading ends where the end of the group is left to read, unless a comment
has taken it.
-/

namespace Trellis.Regex.Reader

variable {whole : List Char} {anchored : Bool} {flags : Flags} {cs cs' : List Char}

theorem Beside.flags? {before set : Flags} {seen letters rest : List Char}
    (h : Beside whole anchored flags cs cs')
    (hread : flags? before seen cs = some (set, letters, rest)) :
    ∃ rest', Reader.flags? before seen cs' = some (set, letters, rest') ∧
      Beside whole anchored flags rest rest' := by
  induction cs generalizing before seen cs' with
  | nil => simp [Reader.flags?] at hread
  | cons c first ih =>
      obtain ⟨first', rfl, hfirst⟩ := h.cons_inv
      rw [Reader.flags?] at hread ⊢
      split at hread
      · next hend =>
          simp only [Option.ite_none_left_eq_some, Option.some.injEq, Prod.mk.injEq] at hread
          obtain ⟨hhyphen, rfl, rfl, rfl⟩ := hread
          exact ⟨c :: first', by rw [if_pos hend, if_neg hhyphen], h⟩
      · next hend =>
          rw [if_neg hend]
          split at hread
          · simp at hread
          · next hseen =>
              rw [if_neg hseen]
              split at hread
              · next hhyphen =>
                  rw [if_pos hhyphen]
                  exact ih hfirst hread
              · next hhyphen =>
                  rw [if_neg hhyphen]
                  split at hread
                  · simp at hread
                  · next hset => exact ih hfirst hread

theorem Beside.groupName? {name : String} {rest : List Char}
    (h : Beside whole anchored flags cs cs') (hread : groupName? cs = some (name, rest)) :
    ∃ rest', Reader.groupName? cs' = some (name, rest') ∧
      Beside whole anchored flags rest rest' := by
  have hcut : ∀ ds : List Char, ds.drop (ds.takeWhile fun c => c ≠ '>').length =
      ds.dropWhile fun c => c ≠ '>' := by
    intro ds
    calc ds.drop (ds.takeWhile fun c => c ≠ '>').length
        = ((ds.takeWhile fun c => c ≠ '>') ++ ds.dropWhile fun c => c ≠ '>').drop
            (ds.takeWhile fun c => c ≠ '>').length := by rw [List.takeWhile_append_dropWhile]
      _ = ds.dropWhile fun c => c ≠ '>' := List.drop_left
  unfold Reader.groupName? at hread ⊢
  simp only [hcut] at hread ⊢
  split at hread
  · next c more after hname hafter =>
      obtain ⟨after', hafter', hname', hbeside⟩ := h.dropWhile hafter
      simp only [Option.ite_none_right_eq_some, Option.some.injEq, Prod.mk.injEq] at hread
      obtain ⟨hchars, rfl, rfl⟩ := hread
      refine ⟨after', ?_, hbeside.tail⟩
      simp only [hafter', hname', hname]
      exact if_pos hchars
  · simp at hread

theorem spaced_of_set? {before set : Flags} {on : Bool} {c : Char}
    (hset : Flags.set? before on c = some set) (hspaced : set.spaced) :
    before.spaced ∨ c = 'x' := by
  unfold Flags.set? at hset
  split at hset
  case h_6 => exact .inr rfl
  case h_8 => simp at hset
  all_goals
    obtain rfl := Option.some.inj hset
    exact .inl hspaced

/-- Blanks are skipped after flags only if they were before or the letter for it is there. -/
theorem spaced_of_flags? {before set : Flags} {seen letters rest : List Char}
    (hread : flags? before seen cs = some (set, letters, rest)) (hspaced : set.spaced) :
    before.spaced ∨ 'x' ∈ cs := by
  induction cs generalizing before seen with
  | nil => simp [flags?] at hread
  | cons c first ih =>
      rw [flags?] at hread
      split at hread
      · simp only [Option.ite_none_left_eq_some, Option.some.injEq, Prod.mk.injEq] at hread
        obtain ⟨-, rfl, -⟩ := hread
        exact .inl hspaced
      · split at hread
        · simp at hread
        · split at hread
          · exact (ih hread).imp_right (List.mem_cons_of_mem c)
          · split at hread
            · simp at hread
            · next hset =>
                rcases ih hread with hmore | hx
                · refine (spaced_of_set? hset hmore).imp_right ?_
                  rintro rfl
                  exact List.mem_cons_self
                · exact .inr (List.mem_cons_of_mem c hx)

/-- The group around all the others. -/
def bottomOf (group : Group) (outer : List Group) : Group := outer.getLast?.getD group

theorem bottomOf_cons (group outermost : Group) (outer : List Group) :
    bottomOf group (outermost :: outer) = bottomOf outermost outer := by
  simp [bottomOf, List.getLast?_cons]

/-- What the states of a reading have in common: the outermost group is not remembered and no flags
hold after it, and blanks are skipped only if the letter for it is in the text. -/
structure State.Regular (whole : List Char) (s : State) : Prop where
  after : (bottomOf s.group s.outer).after = startFlags
  number : (bottomOf s.group s.outer).number = none
  spaced : ∀ flags ∈ s.flags :: (s.group :: s.outer).map (·.after), flags.spaced → 'x' ∈ whole

namespace State.Regular

variable {s : State}

/-- A part is added to the group at hand, or parts of it are changed. -/
theorem part (h : s.Regular whole) {group : Group} (hafter : group.after = s.group.after)
    (hnumber : group.number = s.group.number) : State.Regular whole { s with group } := by
  obtain ⟨group, outer, flags, names, remembered⟩ := s
  refine ⟨?_, ?_, ?_⟩
  · cases outer with
    | nil => exact hafter.trans h.after
    | cons outermost outer => simpa only [bottomOf_cons] using h.after
  · cases outer with
    | nil => exact hnumber.trans h.number
    | cons outermost outer => simpa only [bottomOf_cons] using h.number
  · simpa only [List.map_cons, hafter] using h.spaced

theorem withFlags (h : s.Regular whole) {flags : Flags} (hflags : flags.spaced → 'x' ∈ whole) :
    State.Regular whole { s with flags } := by
  refine ⟨h.after, h.number, fun other hother => ?_⟩
  rcases List.mem_cons.mp hother with rfl | hgroup
  · exact hflags
  · exact h.spaced other (List.mem_cons_of_mem s.flags hgroup)

/-- A group is opened. -/
theorem push (h : s.Regular whole) (number : Option Nat) (remembered : Nat) (names : List String) :
    State.Regular whole
      ⟨Group.start s.flags number, s.group :: s.outer, s.flags, names, remembered⟩ := by
  refine ⟨?_, ?_, fun other hother => ?_⟩
  · rw [bottomOf_cons]
    exact h.after
  · rw [bottomOf_cons]
    exact h.number
  · rcases List.mem_cons.mp hother with rfl | hgroup
    · exact h.spaced s.flags List.mem_cons_self
    · exact h.spaced other hgroup

/-- The group at hand is closed. -/
theorem pop (h : s.Regular whole) {t : State} (hpop : s.pop? = some t) : t.Regular whole := by
  obtain ⟨group, outer, flags, names, remembered⟩ := s
  cases outer with
  | nil => simp [State.pop?] at hpop
  | cons outermost outer =>
      obtain rfl := Option.some.inj hpop
      have hbelow : State.Regular whole ⟨outermost, outer, group.after, names, remembered⟩ := by
        refine ⟨?_, ?_, fun other hother => h.spaced other (List.mem_cons_of_mem flags hother)⟩
        · simpa only [bottomOf_cons] using h.after
        · simpa only [bottomOf_cons] using h.number
      exact hbelow.part rfl rfl

end State.Regular

/-- The state in one more group around the others. -/
def State.inside (g : Group) (s : State) : State := { s with outer := s.outer ++ [g] }

/-- A question mark, if there is one, and what follows it. -/
def mark (cs : List Char) : Bool × List Char :=
  match cs with
  | '?' :: rest => (true, rest)
  | _ => (false, cs)

theorem Beside.mark_cut (h : Beside whole anchored flags cs cs') :
    (mark cs').1 = (mark cs).1 ∧ Beside whole anchored flags (mark cs).2 (mark cs').2 := by
  refine h.cut '?' (by decide) (fun rest => rfl) fun ds hds => ?_
  unfold mark
  split
  · next rest => exact absurd rfl (hds rest)
  · rfl

/-- The group at hand with its latest part repeated. -/
def Group.repeat? (g : Group) (least : Nat) (most : Option Nat) (lazy : Bool) : Option Group :=
  match g.pieces with
  | piece :: before =>
    if piece.repeatable then
      let repetition : Piece := ⟨.times piece.regex least most,
        Plan.ofTimes piece.plan least most lazy, piece.depth + 1, true⟩
      some { g with pieces := repetition :: before }
    else none
  | [] => none

theorem State.repeat?_eq (s : State) (least : Nat) (most : Option Nat) (cs : List Char) :
    s.repeat? least most cs = (s.group.repeat? least most ((mark cs).1 != s.flags.swapLazy)).map
      fun group => ({ s with group }, (mark cs).2) := by
  unfold State.repeat? Group.repeat?
  cases s.group.pieces with
  | nil => rfl
  | cons piece before =>
      by_cases hrepeatable : piece.repeatable
      · simp only [hrepeatable, if_true]
        rfl
      · simp only [hrepeatable]
        rfl

theorem State.repeat?_inside (g : Group) {s t : State} (hs : s.Regular whole) {least : Nat}
    {most : Option Nat} {rest : List Char} (h : Beside whole anchored s.flags cs cs')
    (hread : s.repeat? least most cs = some (t, rest)) :
    ∃ rest', (s.inside g).repeat? least most cs' = some (t.inside g, rest') ∧
      Beside whole anchored s.flags rest rest' ∧ t.Regular whole := by
  obtain ⟨hmark, hafter⟩ := h.mark_cut
  rw [State.repeat?_eq] at hread ⊢
  rw [Option.map_eq_some_iff] at hread
  obtain ⟨group, hgroup, hread⟩ := hread
  obtain ⟨rfl, rfl⟩ := Prod.mk.inj hread
  refine ⟨(mark cs').2, ?_, hafter, ?_⟩
  · rw [hmark]
    simp only [State.inside, hgroup, Option.map_some]
  · unfold Group.repeat? at hgroup
    split at hgroup
    · simp only [Option.ite_none_right_eq_some, Option.some.injEq] at hgroup
      obtain ⟨-, rfl⟩ := hgroup
      exact hs.part rfl rfl
    · simp at hgroup

theorem State.pushNamed?_inside (g : Group) {s t : State} (hs : s.Regular whole) {rest : List Char}
    (h : Beside whole anchored s.flags cs cs') (hread : s.pushNamed? cs = some (t, rest)) :
    ∃ rest', (s.inside g).pushNamed? cs' = some (t.inside g, rest') ∧
      Beside whole anchored s.flags rest rest' ∧ t.Regular whole := by
  unfold State.pushNamed? at hread ⊢
  simp only [Option.bind_eq_bind, Option.pure_def] at hread ⊢
  rw [Option.bind_eq_some_iff] at hread
  obtain ⟨⟨name, first⟩, hname, hread⟩ := hread
  obtain ⟨first', hname', hfirst⟩ := h.groupName? hname
  simp only [Option.ite_none_left_eq_some, Option.some.injEq, Prod.mk.injEq] at hread
  obtain ⟨hnew, rfl, rfl⟩ := hread
  refine ⟨first', ?_, hfirst, hs.push _ _ _⟩
  rw [hname', Option.bind_some]
  exact if_neg hnew

theorem open?_inside (g : Group) {s t : State} (hs : s.Regular whole) {rest : List Char}
    (h : Beside whole anchored s.flags cs cs') (hread : open? s cs = some (t, rest)) :
    ∃ rest', open? (s.inside g) cs' = some (t.inside g, rest') ∧
      Beside whole anchored s.flags rest rest' ∧ t.Regular whole := by
  have hskip := h.skip
  unfold open? at hread ⊢
  simp only [Option.bind_eq_bind, Option.pure_def] at hread ⊢
  rw [show (s.inside g).flags = s.flags from rfl]
  generalize skip s.flags cs = ds at hread hskip
  generalize skip s.flags cs' = ds' at hskip ⊢
  -- the group brings no sign that would make another kind of group of it
  have hnone : ∀ (start : List Char) {first first' : List Char},
      Beside whole anchored s.flags first first' → ')' ∉ start → (∀ rest, first = start ++ rest → False) → ∀ rest', first' ≠ start ++ rest' := by
    rintro start first first' hfirst hstart hfalse rest' rfl
    obtain ⟨more, rfl⟩ := hfirst.append_of_append hstart
    exact hfalse more rfl
  split at hread
  · simp at hread
  · simp at hread
  · simp at hread
  · simp at hread
  · next first =>
      obtain ⟨first', rfl, hfirst⟩ := hskip.append_inv ['?', 'P']
      exact State.pushNamed?_inside g hs hfirst hread
  · next first hequal hbang =>
      obtain ⟨first', rfl, hfirst⟩ := hskip.append_inv ['?']
      have hequal' : ∀ tail, first' ≠ '=' :: tail := hnone ['='] hfirst (by decide) hequal
      have hbang' : ∀ tail, first' ≠ '!' :: tail := hnone ['!'] hfirst (by decide) hbang
      simp only [List.cons_append, List.nil_append]
      exact State.pushNamed?_inside g hs hfirst hread
  · next first hequal hbang hbefore hnotBefore hnamed hangle =>
      obtain ⟨first', rfl, hfirst⟩ := hskip.cons_inv
      have hequal' : ∀ tail, first' ≠ '=' :: tail := hnone ['='] hfirst (by decide) hequal
      have hbang' : ∀ tail, first' ≠ '!' :: tail := hnone ['!'] hfirst (by decide) hbang
      have hbefore' : ∀ tail, first' ≠ '<' :: '=' :: tail :=
        hnone ['<', '='] hfirst (by decide) hbefore
      have hnotBefore' : ∀ tail, first' ≠ '<' :: '!' :: tail :=
        hnone ['<', '!'] hfirst (by decide) hnotBefore
      have hnamed' : ∀ tail, first' ≠ 'P' :: '<' :: tail :=
        hnone ['P', '<'] hfirst (by decide) hnamed
      have hangle' : ∀ tail, first' ≠ '<' :: tail := hnone ['<'] hfirst (by decide) hangle
      rw [Option.bind_eq_some_iff] at hread
      obtain ⟨⟨flags, seen, second⟩, hflags, hread⟩ := hread
      obtain ⟨second', hflags', hsecond⟩ := hfirst.flags? hflags
      have hset : flags.spaced → 'x' ∈ whole := fun hspaced =>
        (spaced_of_flags? hflags hspaced).elim (hs.spaced s.flags List.mem_cons_self)
          fun hx => hfirst.suffix.subset hx
      simp only [hflags', Option.bind_some]
      simp only at hread
      split at hread
      · next third =>
          obtain ⟨third', rfl, hthird⟩ := hsecond.cons_inv
          obtain ⟨rfl, rfl⟩ := Prod.mk.inj (Option.some.inj hread)
          exact ⟨third', rfl, hthird, (hs.push _ _ _).withFlags hset⟩
      · next d third hcolon =>
          obtain ⟨third', rfl, hthird⟩ := hsecond.cons_inv
          simp only [Option.ite_none_left_eq_some, Option.some.injEq, Prod.mk.injEq] at hread
          obtain ⟨hseen, rfl, rfl⟩ := hread
          refine ⟨third', ?_, hthird, (hs.withFlags hset).part rfl rfl⟩
          simp only [hseen, if_false]
          rfl
      · simp at hread
  · next hmarked =>
      have hmarked' : ∀ rest', ds' ≠ '?' :: rest' := by
        rintro rest' rfl
        obtain ⟨more, rfl⟩ := hskip.cons_of_cons (by decide)
        exact hmarked more rfl
      obtain ⟨rfl, rfl⟩ := Prod.mk.inj (Option.some.inj hread)
      split
      case h_8 => exact ⟨ds', rfl, hskip, hs.push _ _ _⟩
      all_goals exact absurd rfl (hmarked' _)

theorem Beside.primitive? {c : Char} {piece : Piece} {rest : List Char}
    (h : Beside whole anchored flags cs cs') (hread : primitive? flags c cs = some (piece, rest)) :
    ∃ rest', Reader.primitive? flags c cs' = some (piece, rest') ∧
      Beside whole anchored flags rest rest' := by
  unfold Reader.primitive? at hread ⊢
  simp only [Option.bind_eq_bind, Option.pure_def] at hread ⊢
  split at hread
  · next hslash =>
      rw [Option.bind_eq_some_iff] at hread
      obtain ⟨⟨escape, first⟩, hescape, hread⟩ := hread
      obtain ⟨first', hescape', hfirst⟩ := h.escape? hescape
      rw [if_pos hslash, hescape', Option.bind_some]
      simp only at hread ⊢
      split at hread
      · simp only [Option.bind_eq_some_iff, Option.some.injEq, Prod.mk.injEq] at hread
        obtain ⟨set, hset, rfl, rfl⟩ := hread
        exact ⟨first', by simp only [hset, Option.bind_some], hfirst⟩
      · obtain ⟨rfl, rfl⟩ := Prod.mk.inj (Option.some.inj hread)
        exact ⟨first', rfl, hfirst⟩
      · obtain ⟨rfl, rfl⟩ := Prod.mk.inj (Option.some.inj hread)
        exact ⟨first', rfl, hfirst⟩
  · next hslash =>
      rw [if_neg hslash]
      split at hread
      · next hdot =>
          simp only [Option.bind_eq_some_iff, Option.some.injEq, Prod.mk.injEq] at hread
          obtain ⟨set, hset, rfl, rfl⟩ := hread
          exact ⟨cs', by simp only [hdot, if_true, hset, Option.bind_some], h⟩
      · next hdot =>
          -- one sign or character, and the rest as it is
          rw [if_neg hdot]
          split_ifs at hread ⊢
          all_goals
            obtain ⟨rfl, rfl⟩ := Prod.mk.inj (Option.some.inj hread)
            exact ⟨cs', rfl, h⟩

/-- Closing the group at hand, in one more group. -/
theorem State.pop?_inside (g : Group) {s t : State} (hread : s.pop? = some t) :
    (s.inside g).pop? = some (t.inside g) := by
  obtain ⟨group, outer, flags, names, remembered⟩ := s
  cases outer with
  | nil => simp [State.pop?] at hread
  | cons outermost outer =>
      simp only [State.pop?, Option.some.injEq] at hread
      subst hread
      rfl

/-- One step keeps the text and the state side by side. -/
theorem step?_inside (g : Group) {s t : State} (hs : s.Regular whole) {c : Char} {rest : List Char}
    (h : Beside whole anchored s.flags cs cs') (hread : step? s c cs = some (t, rest)) :
    ∃ rest', step? (s.inside g) c cs' = some (t.inside g, rest') ∧
      Beside whole anchored s.flags rest rest' ∧ t.Regular whole := by
  unfold step? at hread ⊢
  simp only [Option.bind_eq_bind, Option.pure_def] at hread ⊢
  split at hread
  · exact open?_inside g hs h hread
  · rw [Option.bind_eq_some_iff] at hread
    obtain ⟨popped, hpop, hread⟩ := hread
    obtain ⟨rfl, rfl⟩ := Prod.mk.inj (Option.some.inj hread)
    exact ⟨cs', by simp only [State.pop?_inside g hpop, Option.bind_some], h, hs.pop hpop⟩
  · obtain ⟨rfl, rfl⟩ := Prod.mk.inj (Option.some.inj hread)
    exact ⟨cs', rfl, h, hs.part rfl rfl⟩
  · rw [Option.bind_eq_some_iff] at hread
    obtain ⟨⟨⟨set, depth⟩, first⟩, hclass, hread⟩ := hread
    obtain ⟨rfl, rfl⟩ := Prod.mk.inj (Option.some.inj hread)
    have hfuel : 2 * cs.length + 1 ≤ 2 * cs'.length + 1 := by
      have hlength := h.length_le
      omega
    obtain ⟨first', hclass', hfirst⟩ := (Beside.classes_and_items _).1 hfuel h hclass
    refine ⟨first', ?_, hfirst, hs.part rfl rfl⟩
    rw [show (s.inside g).flags = s.flags from rfl, hclass', Option.bind_some]
    rfl
  · exact State.repeat?_inside g hs h hread
  · exact State.repeat?_inside g hs h hread
  · exact State.repeat?_inside g hs h hread
  · rw [Option.bind_eq_some_iff] at hread
    obtain ⟨⟨least, most, first⟩, hbounds, hread⟩ := hread
    obtain ⟨first', hbounds', hfirst⟩ := h.bounds? hbounds
    rw [show (s.inside g).flags = s.flags from rfl, hbounds', Option.bind_some]
    exact State.repeat?_inside g hs hfirst.skip hread
  · rw [Option.bind_eq_some_iff] at hread
    obtain ⟨⟨piece, first⟩, hpiece, hread⟩ := hread
    obtain ⟨first', hpiece', hfirst⟩ := h.primitive? hpiece
    obtain ⟨rfl, rfl⟩ := Prod.mk.inj (Option.some.inj hread)
    refine ⟨first', ?_, hfirst, hs.part rfl rfl⟩
    rw [show (s.inside g).flags = s.flags from rfl, hpiece', Option.bind_some]
    rfl

theorem steps?_nil {n : Nat} {s : State} (hskip : skip s.flags cs = []) :
    steps? n s cs = some s := by
  unfold steps?
  rw [hskip]

theorem steps?_cons {n : Nat} {s : State} {c : Char} {rest : List Char}
    (hskip : skip s.flags cs = c :: rest) :
    steps? (n + 1) s cs = (step? s c rest).bind fun read => steps? n read.1 read.2 := by
  rw [steps?, hskip]
  simp only
  cases step? s c rest <;> rfl

theorem steps?_zero {s : State} {c : Char} {rest : List Char}
    (hskip : skip s.flags cs = c :: rest) : steps? 0 s cs = none := by
  unfold steps?
  rw [hskip]

theorem steps?_congr {n : Nat} {s : State} {ds : List Char}
    (hsame : skip s.flags cs = skip s.flags ds) : steps? n s cs = steps? n s ds := by
  cases n <;> rw [steps?, steps?, hsame]

theorem skip_nil (flags : Flags) : skip flags [] = [] := by
  unfold skip
  split <;> rfl

/-- Nothing is skipped at the end of a group. -/
theorem skip_closing (flags : Flags) (anchored : Bool) :
    skip flags (closing anchored) = closing anchored := by
  unfold skip
  split
  · exact skipBlanks_closing anchored
  · rfl

/-- A text that may have a comment without an end: the letter of the flag that allows
comments is somewhere in it, and there is a number sign that no line feed follows. -/
def OpenComment (text : List Char) : Prop := 'x' ∈ text ∧ OpenEnded text

/-- Where nothing is left to read, the end of the group is left, unless a comment has taken it. -/
theorem steps?_inside_end (g : Group) (n : Nat) {s : State} (hs : s.Regular whole)
    (h : Beside whole anchored s.flags cs cs') (hskip : skip s.flags cs = []) :
    steps? n (s.inside g) cs' = steps? n (s.inside g) (closing anchored) ∨
      steps? n (s.inside g) cs' = some (s.inside g) ∧ OpenComment whole := by
  rcases (hskip ▸ h.skip).nil_inv with hclosing | ⟨hnil, hspaced, hopen⟩
  · exact .inl (steps?_congr (hclosing.trans (skip_closing _ _).symm))
  · exact .inr ⟨steps?_nil hnil, hs.spaced s.flags List.mem_cons_self hspaced, hopen⟩

/-- A whole reading comes to the end of the group, with the fuel that it has beyond what it needs
by itself, or a comment has taken that end. -/
theorem steps?_inside (g : Group) {n : Nat} (m : Nat) {s t : State} (hs : s.Regular whole)
    (h : Beside whole anchored s.flags cs cs') (hread : steps? n s cs = some t) :
    t.Regular whole ∧
      ((∃ k, m ≤ k ∧ steps? (n + m) (s.inside g) cs' = steps? k (t.inside g) (closing anchored)) ∨
        steps? (n + m) (s.inside g) cs' = some (t.inside g) ∧ OpenComment whole) := by
  induction n generalizing s cs cs' with
  | zero =>
      cases hskip : skip s.flags cs with
      | nil =>
          obtain rfl : s = t := Option.some.inj ((steps?_nil hskip).symm.trans hread)
          refine ⟨hs, (steps?_inside_end g _ hs h hskip).imp_left fun hend => ⟨0 + m, ?_, hend⟩⟩
          omega
      | cons c first => simp [steps?_zero hskip] at hread
  | succ n ih =>
      cases hskip : skip s.flags cs with
      | nil =>
          obtain rfl : s = t := Option.some.inj ((steps?_nil hskip).symm.trans hread)
          refine ⟨hs, (steps?_inside_end g _ hs h hskip).imp_left fun hend => ⟨n + 1 + m, ?_, hend⟩⟩
          omega
      | cons c first =>
          obtain ⟨first', hskip', hfirst⟩ := h.skip_cons hskip
          rw [steps?_cons hskip, Option.bind_eq_some_iff] at hread
          obtain ⟨⟨next, second⟩, hstep, hread⟩ := hread
          obtain ⟨second', hstep', hsecond, hnext⟩ := step?_inside g hs hfirst.tail hstep
          rw [Nat.succ_add, steps?_cons (s := s.inside g) hskip', hstep', Option.bind_some]
          cases hsecond with
          | inside hsuffix => exact ih hnext (.inside hsuffix) hread
          | swallowed hspaced hopen =>
              -- the comment was taken in this step, under the flags before it
              obtain rfl : next = t := Option.some.inj ((steps?_nil (skip_nil _)).symm.trans hread)
              exact ⟨hnext, .inr ⟨steps?_nil (skip_nil _),
                hs.spaced s.flags List.mem_cons_self hspaced, hopen⟩⟩

end Trellis.Regex.Reader
