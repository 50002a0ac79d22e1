import Mathlib.Data.List.Dedup
import Mathlib.Data.List.Sort
import Trellis.KeyMap
/-!
What maps hold after entries were taken out, and after a map was put into another one.  A sorted map is known by
what it holds.  A map that is made of pairs holds the last one under each key.
-/

namespace Trellis

namespace KeyMap

variable {α : Type}

theorem get?_filter (m : KeyMap α) (keep : String → Bool) (key : String) :
    get? (m.filter fun entry => keep entry.1) key =
      if keep key then m.get? key else none := by
  induction m with
  | nil => simp
  | cons entry rest ih =>
      rw [List.filter_cons, get?_cons]
      by_cases hentry : entry.1 = key
      · subst hentry
        cases hkeep : keep entry.1 with
        | true => simp [get?_cons]
        | false => simp [ih, hkeep]
      · cases hkeep : keep entry.1 with
        | true => simp [get?_cons, hentry, ih]
        | false => simp [hentry, ih]

theorem get?_erase (m : KeyMap α) (key other : String) :
    (m.erase key).get? other = if other = key then none else m.get? other := by
  have hfilter := get?_filter m (fun k => k ≠ key) other
  by_cases hkey : other = key
  · simpa [erase, hkey] using hfilter
  · simpa [erase, hkey] using hfilter

/-- A value that may be missing is put at a key if it is there. -/
def insertSome (m : KeyMap α) (key : String) : Option α → KeyMap α
  | some value => m.insert key value
  | none => m

theorem get?_insertSome (m : KeyMap α) (key other : String) (value : Option α) :
    (m.insertSome key value).get? other =
      if key = other then value.or (m.get? other) else m.get? other := by
  cases value with
  | none => simp [insertSome]
  | some value => simp [insertSome, get?_insert]

theorem get?_eq_none_of_not_mem {m : KeyMap α} {key : String}
    (hkey : key ∉ m.keys) : m.get? key = none := by
  rw [get?, Option.map_eq_none_iff, List.find?_eq_none]
  intro entry hentry heq
  exact hkey (List.mem_map.mpr ⟨entry, hentry, of_decide_eq_true heq⟩)

theorem Sorted.nodup_keys {m : KeyMap α} (hsorted : m.Sorted) : m.keys.Nodup := by
  rw [keys, List.nodup_iff_pairwise_ne, List.pairwise_map]
  exact hsorted.imp fun hlt => String.ne_of_lt hlt

/-- The entries of a map that is put into another one count before those that
were there. -/
theorem get?_foldl_insert {added : KeyMap α} (hnodup : added.keys.Nodup)
    (m : KeyMap α) (key : String) :
    get? (added.foldl (fun m entry => m.insert entry.1 entry.2) m) key =
      (added.get? key).or (m.get? key) := by
  induction added generalizing m with
  | nil => simp
  | cons entry rest ih =>
      obtain ⟨hfresh, hrest⟩ := List.nodup_cons.mp hnodup
      rw [List.foldl_cons, ih hrest, get?_insert, get?_cons]
      by_cases hentry : entry.1 = key
      · subst hentry
        simp [get?_eq_none_of_not_mem hfresh]
      · simp [hentry]

theorem Sorted.insertSome {m : KeyMap α} (hsorted : m.Sorted) (key : String)
    (value : Option α) : (m.insertSome key value).Sorted := by
  cases value with
  | none => exact hsorted
  | some value => exact hsorted.insert key value

theorem Sorted.foldl_insert {m : KeyMap α} (hsorted : m.Sorted)
    (added : KeyMap α) :
    Sorted (added.foldl (fun m entry => m.insert entry.1 entry.2) m) := by
  induction added generalizing m with
  | nil => exact hsorted
  | cons entry rest ih => exact ih (hsorted.insert entry.1 entry.2)

theorem Sorted.mem_iff {m : KeyMap α} (hsorted : m.Sorted) (entry : String × α) :
    entry ∈ m ↔ m.get? entry.1 = some entry.2 := by
  induction m with
  | nil => simp
  | cons first rest ih =>
      obtain ⟨hfirst, hrest⟩ := List.pairwise_cons.mp hsorted
      rw [List.mem_cons, ih hrest, get?_cons]
      by_cases hkey : first.1 = entry.1
      · have hfresh : get? rest entry.1 = none := by
          apply get?_eq_none_of_not_mem
          intro hmem
          obtain ⟨other, hother, heq⟩ := List.mem_map.mp hmem
          exact String.ne_of_lt (hfirst other hother) (hkey.trans heq.symm)
        rw [hfresh, if_pos hkey]
        simp [Prod.ext_iff, hkey, eq_comm]
      · rw [if_neg hkey, or_iff_right]
        exact fun heq => hkey (congrArg Prod.fst heq).symm

/-- Sorted maps that hold the same are equal. -/
theorem Sorted.ext {m other : KeyMap α} (hsorted : m.Sorted)
    (hother : other.Sorted) (hget : ∀ key, m.get? key = other.get? key) :
    m = other := by
  have hirrefl : Std.Irrefl fun a b : String × α => a.1 < b.1 :=
    ⟨fun entry => String.lt_irrefl entry.1⟩
  have hantisymm : Std.Antisymm fun a b : String × α => a.1 < b.1 :=
    ⟨fun a b hab hba => absurd (String.lt_trans hab hba) (String.lt_irrefl a.1)⟩
  apply List.Pairwise.eq_of_mem_iff hsorted hother
  intro entry
  rw [hsorted.mem_iff, hother.mem_iff, hget]

theorem get?_append (m other : KeyMap α) (key : String) :
    get? (m ++ other) key = (m.get? key).or (other.get? key) := by
  induction m with
  | nil => rfl
  | cons entry rest ih =>
      rw [List.cons_append, get?_cons, get?_cons, ih]
      split <;> rfl

/-- Pairs are read back under a key that one of them has. -/
theorem get?_of_unique {pairs : List (String × α)} {pair : String × α}
    (hmem : pair ∈ pairs) (hone : ∀ other ∈ pairs, other.1 = pair.1 → other = pair) :
    get? pairs pair.1 = some pair.2 := by
  induction pairs with
  | nil => exact absurd hmem List.not_mem_nil
  | cons first rest ih =>
      rw [get?_cons]
      split
      · next hkey => rw [hone first List.mem_cons_self hkey]
      · next hkey =>
          have htail : pair ∈ rest := by
            refine (List.mem_cons.mp hmem).resolve_left ?_
            rintro rfl
            exact hkey rfl
          exact ih htail fun other hother => hone other (List.mem_cons_of_mem first hother)

/-- Of pairs that are put into a map one after the other, the last one under a
key counts. -/
theorem get?_ofList (pairs : List (String × α)) (key : String) :
    (ofList pairs).get? key = get? pairs.reverse key := by
  have hfold : ∀ m : KeyMap α,
      get? (pairs.foldl (fun m pair => m.insert pair.1 pair.2) m) key =
        (get? pairs.reverse key).or (m.get? key) := by
    induction pairs with
    | nil => exact fun m => rfl
    | cons pair rest ih =>
        intro m
        rw [List.foldl_cons, ih, List.reverse_cons, get?_append, get?_insert,
          get?_cons, Option.or_assoc]
        split <;> rfl
  rw [ofList, hfold, get?_nil, Option.or_none]

theorem mem_keys_ofList (pairs : List (String × α)) (key : String) :
    key ∈ (ofList pairs).keys ↔ key ∈ pairs.map (·.1) := by
  have hfold : ∀ m : KeyMap α,
      key ∈ keys (pairs.foldl (fun m pair => m.insert pair.1 pair.2) m) ↔
        key ∈ pairs.map (·.1) ∨ key ∈ m.keys := by
    induction pairs with
    | nil => simp
    | cons pair rest ih =>
        intro m
        rw [List.foldl_cons, ih, mem_keys_insert, List.map_cons, List.mem_cons,
          or_left_comm, or_assoc]
  rw [ofList, hfold, keys, List.map_nil, or_iff_left List.not_mem_nil]

/-- A map that is made of pairs has as many entries as the pairs have keys. -/
theorem length_ofList (pairs : List (String × α)) :
    (ofList pairs).length = (pairs.map (·.1)).dedup.length := by
  have hperm : (ofList pairs).keys.Perm (pairs.map (·.1)).dedup := by
    apply (List.perm_ext_iff_of_nodup (Sorted.ofList pairs).nodup_keys
      (List.nodup_dedup _)).mpr
    intro key
    rw [mem_keys_ofList, List.mem_dedup]
  rw [← hperm.length_eq, keys, List.length_map]

end KeyMap

end Trellis
