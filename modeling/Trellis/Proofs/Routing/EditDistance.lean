import Trellis.Routing.Suggest
/-!
The distance of two texts.  Its table is filled row by row from the beginnings of the texts; each entry is the least
number of edits of one character that turn the one beginning into the other.
-/

namespace Trellis.Suggest

/-- One edit of a text: a character is inserted, deleted or replaced. -/
inductive Edit : List Char → List Char → Prop
  | insert (before after : List Char) (c : Char) : Edit (before ++ after) (before ++ c :: after)
  | delete (before after : List Char) (c : Char) : Edit (before ++ c :: after) (before ++ after)
  | replace (before after : List Char) (c d : Char) :
      Edit (before ++ c :: after) (before ++ d :: after)

/-- A text turns into another by this many edits, one after the other. -/
inductive Edits : Nat → List Char → List Char → Prop
  | none (text : List Char) : Edits 0 text text
  | step {n : Nat} {first next second : List Char} :
      Edit first next → Edits n next second → Edits (n + 1) first second

/-- This many edits turn a text into another, and no fewer do. -/
structure LeastEdits (n : Nat) (first second : List Char) : Prop where
  edits : Edits n first second
  le : ∀ m, Edits m first second → n ≤ m

theorem Edit.cons (c : Char) {first second : List Char} (hedit : Edit first second) :
    Edit (c :: first) (c :: second) := by
  cases hedit with
  | insert before after d => exact .insert (c :: before) after d
  | delete before after d => exact .delete (c :: before) after d
  | replace before after d e => exact .replace (c :: before) after d e

theorem Edits.cons (c : Char) {n : Nat} {first second : List Char}
    (hedits : Edits n first second) : Edits n (c :: first) (c :: second) := by
  induction hedits with
  | none text => exact .none _
  | step hedit _ ih => exact .step (hedit.cons c) ih

theorem Edits.insert_first (d : Char) {n : Nat} {first second : List Char}
    (hedits : Edits n first second) : Edits (n + 1) first (d :: second) :=
  .step (.insert [] first d) (hedits.cons d)

theorem Edits.delete_first (c : Char) {n : Nat} {first second : List Char}
    (hedits : Edits n first second) : Edits (n + 1) (c :: first) second :=
  .step (.delete [] first c) hedits

theorem Edits.replace_first (c d : Char) {n : Nat} {first second : List Char}
    (hedits : Edits n first second) :
    Edits (n + if d = c then 0 else 1) (c :: first) (d :: second) := by
  by_cases hsame : d = c
  · rw [if_pos hsame, hsame]
    exact hedits.cons c
  · rw [if_neg hsame]
    exact .step (.replace [] first c d) (hedits.cons d)

theorem Edit.reverse {first second : List Char} (hedit : Edit first second) :
    Edit first.reverse second.reverse := by
  cases hedit with
  | insert before after c => simpa using Edit.insert after.reverse before.reverse c
  | delete before after c => simpa using Edit.delete after.reverse before.reverse c
  | replace before after c d => simpa using Edit.replace after.reverse before.reverse c d

theorem Edits.reverse {n : Nat} {first second : List Char} (hedits : Edits n first second) :
    Edits n first.reverse second.reverse := by
  induction hedits with
  | none text => exact .none _
  | step hedit _ ih => exact .step hedit.reverse ih

theorem LeastEdits.of_reverse {n : Nat} {first second : List Char}
    (hleast : LeastEdits n first.reverse second.reverse) : LeastEdits n first second where
  edits := by simpa using hleast.edits.reverse
  le := fun m hedits => hleast.le m hedits.reverse

/-- The least number of edits, by what becomes of the first characters: the second
is inserted, the first is deleted, or the one is put in place of the other. -/
def apart : List Char → List Char → Nat
  | [], second => second.length
  | c :: first, [] => first.length + 1
  | c :: first, d :: second =>
    min (min (apart (c :: first) second + 1) (apart first (d :: second) + 1))
      (apart first second + if d = c then 0 else 1)
termination_by first second => first.length + second.length

theorem apart_nil_left (second : List Char) : apart [] second = second.length := by
  rw [apart]

theorem apart_nil_right (first : List Char) : apart first [] = first.length := by
  cases first with
  | nil => rw [apart_nil_left]
  | cons c rest => rw [apart, List.length_cons]

theorem apart_cons_cons (c d : Char) (first second : List Char) :
    apart (c :: first) (d :: second) =
      min (min (apart (c :: first) second + 1) (apart first (d :: second) + 1))
        (apart first second + if d = c then 0 else 1) := by
  rw [apart]

theorem apart_self (text : List Char) : apart text text = 0 := by
  induction text with
  | nil => rw [apart_nil_left, List.length_nil]
  | cons c rest ih => rw [apart_cons_cons, ih, if_pos rfl, Nat.min_zero]

theorem apart_cons_left_le (c : Char) (first second : List Char) :
    apart (c :: first) second ≤ apart first second + 1 := by
  cases second with
  | nil => simp [apart_nil_right]
  | cons d rest =>
      rw [apart_cons_cons]
      omega

theorem apart_cons_right_le (d : Char) (first second : List Char) :
    apart first (d :: second) ≤ apart first second + 1 := by
  cases first with
  | nil => simp [apart_nil_left]
  | cons c rest =>
      rw [apart_cons_cons]
      omega

theorem le_apart_cons_left (c : Char) (first second : List Char) :
    apart first second ≤ apart (c :: first) second + 1 := by
  induction second with
  | nil =>
      rw [apart_nil_right, apart_nil_right, List.length_cons]
      omega
  | cons d rest ih =>
      have hshort := apart_cons_right_le d first rest
      rw [apart_cons_cons]
      omega

theorem apart_replace_le (c d : Char) (rest second : List Char) :
    apart (c :: rest) second ≤ apart (d :: rest) second + 1 := by
  cases second with
  | nil =>
      rw [apart_nil_right, apart_nil_right, List.length_cons, List.length_cons]
      omega
  | cons e others =>
      have hshort := apart_replace_le c d rest others
      rw [apart_cons_cons, apart_cons_cons]
      split <;> split <;> omega

/-- What is common at the start does not take texts further apart. -/
theorem apart_append_le {first next : List Char}
    (hclose : ∀ second, apart first second ≤ apart next second + 1)
    (before second : List Char) :
    apart (before ++ first) second ≤ apart (before ++ next) second + 1 := by
  induction before generalizing second with
  | nil => exact hclose second
  | cons c rest ih =>
      rw [List.cons_append, List.cons_append]
      induction second with
      | nil =>
          have hnil := ih []
          rw [apart_nil_right, apart_nil_right] at hnil ⊢
          exact Nat.succ_le_succ hnil
      | cons d others ihShort =>
          have hdeleted := ih (d :: others)
          have hreplaced := ih others
          rw [apart_cons_cons, apart_cons_cons]
          omega

/-- An edit takes texts at most one edit further apart. -/
theorem Edit.apart_le {first next : List Char} (hedit : Edit first next)
    (second : List Char) : apart first second ≤ apart next second + 1 := by
  cases hedit with
  | insert before after c => exact apart_append_le (le_apart_cons_left c after) before second
  | delete before after c => exact apart_append_le (apart_cons_left_le c after) before second
  | replace before after c d => exact apart_append_le (apart_replace_le c d after) before second

theorem Edits.apart_le {n : Nat} {first second : List Char} (hedits : Edits n first second) :
    apart first second ≤ n := by
  induction hedits with
  | none text => exact Nat.le_of_eq (apart_self text)
  | step hedit _ ih => exact Nat.le_trans (hedit.apart_le _) (Nat.succ_le_succ ih)

/-- There are edits of the least number.  The induction follows the choice that is
made at the first characters. -/
theorem edits_apart (first second : List Char) : Edits (apart first second) first second := by
  induction first, second using apart.induct with
  | case1 second =>
      rw [apart_nil_left]
      induction second with
      | nil => exact .none []
      | cons d rest ih => exact ih.insert_first d
  | case2 c first =>
      rw [apart_nil_right]
      induction first generalizing c with
      | nil => exact (Edits.none []).delete_first c
      | cons d rest ih => exact (ih d).delete_first c
  | case3 c first d second ihInsert ihDelete ihReplace =>
      have hchoice : apart (c :: first) (d :: second) = apart (c :: first) second + 1 ∨
          apart (c :: first) (d :: second) = apart first (d :: second) + 1 ∨
          apart (c :: first) (d :: second) =
            apart first second + if d = c then 0 else 1 := by
        rw [apart_cons_cons]
        omega
      rcases hchoice with hinsert | hdelete | hreplace
      · rw [hinsert]
        exact ihInsert.insert_first d
      · rw [hdelete]
        exact ihDelete.delete_first c
      · rw [hreplace]
        exact ihReplace.replace_first c d

theorem leastEdits_apart (first second : List Char) :
    LeastEdits (apart first second) first second :=
  ⟨edits_apart first second, fun _ hedits => hedits.apart_le⟩

/-! The table has the texts from their ends, since each row and each entry takes one character more. -/

/-- A row from one of its entries on: the distances of a text to `before` and to it
with more and more of the rest. -/
def entries (first : List Char) : List Char → List Char → List Nat
  | before, [] => [apart first before]
  | before, d :: rest => apart first before :: entries first (d :: before) rest

theorem entries_eq_cons (first before rest : List Char) :
    ∃ more, entries first before rest = apart first before :: more := by
  cases rest with
  | nil => exact ⟨[], rfl⟩
  | cons d rest => exact ⟨_, rfl⟩

theorem range_eq_entries (before rest : List Char) :
    List.range' before.length (rest.length + 1) = entries [] before rest := by
  induction rest generalizing before with
  | nil => simp [entries, apart_nil_left]
  | cons d rest ih =>
      rw [entries, ← ih, apart_nil_left, List.length_cons, List.range'_succ, List.length_cons]

/-- The rest of a row comes from the row before it and its own entry to the left. -/
theorem extendRow_entries (c : Char) (first before rest : List Char) :
    apart (c :: first) before ::
        extendRow c rest (entries first before rest) (apart (c :: first) before) =
      entries (c :: first) before rest := by
  induction rest generalizing before with
  | nil => rfl
  | cons d rest ih =>
      obtain ⟨more, hmore⟩ := entries_eq_cons first (d :: before) rest
      rw [entries, entries, ← ih, hmore, extendRow, apart_cons_cons]

theorem lastRow_entries (first rest second : List Char) :
    lastRow second rest (entries first [] second) =
      entries (rest.reverse ++ first) [] second := by
  induction rest generalizing first with
  | nil => rfl
  | cons c rest ih =>
      obtain ⟨more, hmore⟩ := entries_eq_cons first [] second
      have hhead : (entries first [] second).headD 0 + 1 = apart (c :: first) [] := by
        rw [hmore, List.headD_cons, apart_nil_right, apart_nil_right, List.length_cons]
      rw [lastRow, hhead, extendRow_entries, ih, List.reverse_cons, List.append_assoc,
        List.singleton_append]

theorem getLastD_entries (first before rest : List Char) :
    (entries first before rest).getLastD 0 = apart first (rest.reverse ++ before) := by
  induction rest generalizing before with
  | nil => rfl
  | cons d rest ih =>
      obtain ⟨more, hmore⟩ := entries_eq_cons first (d :: before) rest
      have hbelow := ih (d :: before)
      rw [hmore] at hbelow
      rw [entries, hmore, List.getLastD_cons, List.reverse_cons, List.append_assoc,
        List.singleton_append, ← hbelow]
      rfl

theorem distance_eq_apart (first second : List Char) :
    distance first second = apart first.reverse second.reverse := by
  have hfirst : List.range (second.length + 1) = entries [] [] second := by
    rw [List.range_eq_range']
    exact range_eq_entries [] second
  rw [distance, hfirst, lastRow_entries, getLastD_entries, List.append_nil, List.append_nil]

/-- The distance of two texts is the least number of edits. -/
theorem leastEdits_distance (first second : List Char) :
    LeastEdits (distance first second) first second := by
  rw [distance_eq_apart]
  exact (leastEdits_apart first.reverse second.reverse).of_reverse

end Trellis.Suggest
