/-!
Maps from text keys to values, kept as lists of pairs in increasing key order. `get?` is the view:
`get?_insert` says what a map holds after an insertion, and `Sorted.insert` that the order is kept.
-/

namespace Trellis

/-- Pairs of a key and a value. Every map built by `insert` from the empty list is `Sorted`. -/
abbrev KeyMap (α : Type) := List (String × α)

namespace KeyMap

variable {α : Type}

/-- The keys increase strictly, so each key has one value. -/
def Sorted (m : KeyMap α) : Prop := m.Pairwise fun a b => a.1 < b.1

def get? (m : KeyMap α) (key : String) : Option α :=
  (m.find? fun entry => entry.1 = key).map (·.2)

def contains (m : KeyMap α) (key : String) : Bool := m.any fun entry => entry.1 = key

def keys (m : KeyMap α) : List String := m.map (·.1)

/-- Put a value at a key, replacing the one that was there. -/
def insert (m : KeyMap α) (key : String) (value : α) : KeyMap α :=
  match m with
  | [] => [(key, value)]
  | (k, v) :: rest =>
    if key = k then (key, value) :: rest
    else if key < k then (key, value) :: (k, v) :: rest
    else (k, v) :: insert rest key value

/-- Take a key out. -/
def erase (m : KeyMap α) (key : String) : KeyMap α := m.filter fun entry => entry.1 ≠ key

/-- Insert the pairs of a list one after the other, so that of equal keys the last one counts. -/
def ofList (pairs : List (String × α)) : KeyMap α :=
  pairs.foldl (fun m pair => m.insert pair.1 pair.2) []

@[simp] theorem get?_nil (key : String) : get? ([] : KeyMap α) key = none := rfl

theorem get?_cons (key : String) (entry : String × α) (m : KeyMap α) :
    get? (entry :: m) key = if entry.1 = key then some entry.2 else get? m key := by
  by_cases h : entry.1 = key <;> simp [get?, h]

theorem get?_insert (m : KeyMap α) (key other : String) (value : α) :
    get? (m.insert key value) other = if key = other then some value else get? m other := by
  induction m with
  | nil => simp [insert, get?_cons]
  | cons entry rest ih =>
    obtain ⟨k, v⟩ := entry
    simp only [insert]
    split
    · next h =>
      subst h
      simp only [get?_cons]
      split <;> rfl
    · split
      · simp only [get?_cons]
      · simp only [get?_cons, ih]
        by_cases hk : k = other
        · subst hk
          next h _ => simp [h]
        · simp [hk]

theorem mem_keys_insert (m : KeyMap α) (key other : String) (value : α) :
    other ∈ keys (m.insert key value) ↔ other = key ∨ other ∈ keys m := by
  induction m with
  | nil => simp [insert, keys]
  | cons entry rest ih =>
    obtain ⟨k, v⟩ := entry
    simp only [insert]
    split
    · next h => simp [keys, h]
    · split
      · simp [keys]
      · simp only [keys, List.map_cons, List.mem_cons] at ih ⊢
        rw [ih]
        constructor
        · rintro (h | h | h)
          · exact Or.inr (Or.inl h)
          · exact Or.inl h
          · exact Or.inr (Or.inr h)
        · rintro (h | h | h)
          · exact Or.inr (Or.inl h)
          · exact Or.inl h
          · exact Or.inr (Or.inr h)

theorem Sorted.insert {m : KeyMap α} (h : m.Sorted) (key : String) (value : α) :
    (m.insert key value).Sorted := by
  induction m with
  | nil => simp [KeyMap.insert, Sorted]
  | cons entry rest ih =>
    obtain ⟨k, v⟩ := entry
    simp only [Sorted, List.pairwise_cons] at h
    simp only [KeyMap.insert]
    split
    · next hk =>
      subst hk
      exact List.pairwise_cons.mpr h
    · next hne =>
      split
      · next hlt =>
        refine List.pairwise_cons.mpr ⟨?_, List.pairwise_cons.mpr h⟩
        intro b hb
        rcases List.mem_cons.mp hb with rfl | hb
        · exact hlt
        · exact String.lt_trans hlt (h.1 b hb)
      · next hge =>
        refine List.pairwise_cons.mpr ⟨?_, ih h.2⟩
        intro b hb
        have hkey : b.1 ∈ keys (KeyMap.insert rest key value) := List.mem_map_of_mem hb
        rcases (mem_keys_insert rest key b.1 value).mp hkey with heq | hmem
        · rw [heq]
          exact Decidable.byContradiction fun hnot =>
            hne (String.le_antisymm (String.not_lt.mp hnot) (String.not_lt.mp hge))
        · obtain ⟨entry, hentry, heq⟩ := List.mem_map.mp hmem
          rw [← heq]
          exact h.1 entry hentry

theorem Sorted.erase {m : KeyMap α} (h : m.Sorted) (key : String) : (m.erase key).Sorted :=
  List.Pairwise.filter _ h

theorem Sorted.ofList (pairs : List (String × α)) : (KeyMap.ofList pairs).Sorted := by
  have step : ∀ m : KeyMap α, m.Sorted →
      (pairs.foldl (fun m pair => m.insert pair.1 pair.2) m).Sorted := by
    induction pairs with
    | nil => exact fun _ h => h
    | cons pair rest ih => exact fun m h => ih _ (h.insert pair.1 pair.2)
  exact step [] List.Pairwise.nil

end KeyMap

end Trellis
