import Trellis.Http.Headers
import Trellis.Proofs.Text.Utf8
/-!
Header fields read by name.  To set a field replaces the values of its name and no others; to fill in fields adds
those whose names are not there, and leaves all others.
-/

namespace Trellis.Headers

/-- The values of a name, in order. -/
def values (h : Headers) (name : String) : List Bytes :=
  (h.entries.filter fun entry => entry.1 = name).map (·.2)

theorem values_eq_nil_iff {h : Headers} {name : String} :
    h.values name = [] ↔ ¬ h.contains name := by
  simp only [values, contains, List.map_eq_nil_iff, List.filter_eq_nil_iff,
    List.any_eq_true, decide_eq_true_eq, not_exists, not_and]

theorem values_append (h : Headers) (key : String) (value : Bytes) (name : String) :
    (h.append key value).values name =
      if key = name then h.values name ++ [value] else h.values name := by
  by_cases hkey : key = name
  · simp [values, append, hkey]
  · simp [values, append, hkey]

/-- To remove a name leaves the fields of the others. -/
theorem find?_remove (entries : List (String × Bytes)) (key name : String) :
    (entries.filter fun entry => entry.1 ≠ key).find? (fun entry => entry.1 = name) =
      if key = name then none else entries.find? fun entry => entry.1 = name := by
  by_cases hkey : key = name
  · rw [if_pos hkey, List.find?_eq_none]
    intro entry hentry
    have hother : entry.1 ≠ key := by simpa using (List.mem_filter.mp hentry).2
    simpa [← hkey] using hother
  · rw [if_neg hkey, List.find?_filter]
    congr 1
    funext entry
    by_cases hentry : entry.1 = name
    · simp [hentry, Ne.symm hkey]
    · simp [hentry]

theorem get?_insert (h : Headers) (key : String) (value : Bytes) (name : String) :
    (h.insert key value).get? name = if key = name then some value else h.get? name := by
  rw [get?, insert, List.find?_append, find?_remove]
  by_cases hkey : key = name
  · simp [hkey]
  · simp [hkey, get?]

/-- To set a field sets it if it is valid, and else does nothing. -/
theorem get?_insertText (h : Headers) (key text : String) (name : String) :
    (h.insertText key text).get? name =
      match pair? key text with
      | some (key, value) => if key = name then some value else h.get? name
      | none => h.get? name := by
  unfold insertText
  cases pair? key text with
  | none => rfl
  | some field => exact get?_insert h field.1 field.2 name

/-- Filling in keeps the values of every name that is there, and gives every
other name its first value among the fields that are filled in. -/
theorem values_fill (h extra : Headers) (name : String) :
    (h.fill extra).values name =
      if h.contains name then h.values name else (extra.get? name).toList := by
  obtain ⟨entries⟩ := extra
  unfold fill get?
  induction entries generalizing h with
  | nil =>
      by_cases hname : h.contains name
      · simp [hname]
      · rw [if_neg hname]
        exact values_eq_nil_iff.mpr hname
  | cons entry rest ih =>
      obtain ⟨key, value⟩ := entry
      rw [List.foldl_cons, ih]
      by_cases hthere : h.contains key
      · rw [if_pos hthere]
        by_cases hkey : key = name
        · rw [if_pos (hkey ▸ hthere), if_pos (hkey ▸ hthere)]
        · simp [hkey]
      · rw [if_neg hthere]
        by_cases hkey : key = name
        · subst hkey
          have hadded : (h.append key value).contains key := by simp [contains, append]
          rw [if_pos hadded, values_append, if_pos rfl, values_eq_nil_iff.mpr hthere,
            if_neg hthere]
          simp
        · have hsame : (h.append key value).contains name = h.contains name := by
            simp [contains, append, hkey]
          rw [hsame, values_append, if_neg hkey]
          simp [hkey]

/-- Visible ASCII characters and the space. -/
def isVisible (c : Char) : Bool := 0x20 ≤ c.toNat && c.toNat < 0x7F

theorem visible_encode {text : String} (hvisible : text.toList.all isVisible) :
    ∀ b ∈ Utf8.encode text, 0x20 ≤ b.toNat ∧ b.toNat < 0x7F := by
  intro b hmem
  obtain ⟨c, hc, hb⟩ := List.mem_flatMap.mp hmem
  have hrange := List.all_eq_true.mp hvisible c hc
  rw [isVisible, Bool.and_eq_true, decide_eq_true_eq, decide_eq_true_eq] at hrange
  obtain ⟨hleast, hmost⟩ := hrange
  rw [Utf8.encodeChar, if_pos (by omega), List.mem_singleton] at hb
  have hbyte : b.toNat = c.toNat := by
    rw [hb]
    exact UInt8.toNat_ofNat_of_lt' (show _ < 256 by omega)
  rw [hbyte]
  exact ⟨hleast, hmost⟩

/-- A field that holds the bytes of a text of visible characters is read as it. -/
theorem text?_of_get? {h : Headers} {name key text : String} (hname : name? name = some key)
    (hvisible : text.toList.all isVisible) (hget : h.get? key = some (Utf8.encode text)) :
    h.text? name = some text := by
  have hbytes : (Utf8.encode text).all isTextByte := by
    rw [List.all_eq_true]
    intro b hb
    have hrange := visible_encode hvisible b hb
    simp only [isTextByte, Bool.or_eq_true, Bool.and_eq_true, decide_eq_true_eq]
    omega
  have htext : valueText? (Utf8.encode text) = some text := by
    rw [valueText?, if_pos hbytes, Utf8.decode?_encode]
  simp [text?, hname, hget, htext]

/-- A text of visible characters is read back as it was set. -/
theorem text?_insertText (h : Headers) {name key text : String} (hname : name? name = some key)
    (hvisible : text.toList.all isVisible) :
    (h.insertText name text).text? name = some text := by
  have hbytes : (Utf8.encode text).all isValueByte := by
    rw [List.all_eq_true]
    intro b hb
    have hrange := visible_encode hvisible b hb
    simp only [isValueByte, Bool.or_eq_true, Bool.and_eq_true, decide_eq_true_eq]
    omega
  have hpair : pair? name text = some (key, Utf8.encode text) := by
    simp [pair?, hname, value?, hbytes]
  apply text?_of_get? hname hvisible
  rw [get?_insertText, hpair]
  exact if_pos rfl

end Trellis.Headers
