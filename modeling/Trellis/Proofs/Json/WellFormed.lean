import Trellis.Json.Value
/-!
The parts of a well-formed value are well-formed.
-/

namespace Trellis

namespace Json

theorem wellFormed_of_mem {items : List Json} (hitems : WellFormedItems items)
    {item : Json} (hmem : item ∈ items) : item.WellFormed := by
  induction items with
  | nil => exact absurd hmem List.not_mem_nil
  | cons first rest ih =>
      rcases List.mem_cons.mp hmem with rfl | hrest
      · exact hitems.1
      · exact ih hitems.2 hrest

theorem wellFormed_of_get? {fields : KeyMap Json}
    (hfields : WellFormedFields fields) {key : String} {value : Json}
    (hget : fields.get? key = some value) : value.WellFormed := by
  induction fields with
  | nil => contradiction
  | cons field rest ih =>
      rw [KeyMap.get?_cons] at hget
      split at hget
      · obtain rfl := Option.some.inj hget
        exact hfields.1
      · exact ih hfields.2 hget

end Json

end Trellis
