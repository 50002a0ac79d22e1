import Trellis.Proofs.KeyMap
import Trellis.Proofs.Number.Rounding
import Trellis.Proofs.Schema.Fits
/-!
When a value conforms to a schema as it is, without anything read from texts or wrapped into an array, and what
the value is once the defaults of its absent properties have been filled in.
-/

namespace Trellis

/-- A number is not below a bound, as an exact number.  Nothing is below
`nan`. -/
def Extended.AtMost (bound : Extended) (n : Number) : Prop :=
  match bound with
  | .finite b => b.signedUnits ≤ n.units
  | .infinite negative => negative
  | .nan => True

/-- A number is not above a bound, as an exact number.  Nothing is above
`nan`. -/
def Extended.AtLeast (bound : Extended) (n : Number) : Prop :=
  match bound with
  | .finite b => n.units ≤ b.signedUnits
  | .infinite negative => ¬ negative
  | .nan => True

/-- A number is of the right kind, and within the bounds. -/
structure NumberRules.Met (rules : NumberRules) (n : Number) : Prop where
  ofKind : rules.OfKind n
  minimum : ∀ bound, rules.minimum = some bound → bound.AtMost n
  maximum : ∀ bound, rules.maximum = some bound → bound.AtLeast n

/-- Null, where it may stand. -/
def Presence.AllowsNull (p : Presence) (value : Json) : Prop :=
  p.nullable ∧ value = .null

/-- A declared property, given its value if it has one.  It is absent only if
it has a default or is optional. -/
def Presence.AllowsProperty (p : Presence) (conforms : Json → Prop) :
    Option Json → Prop
  | some value => conforms value
  | none => p.default.isSome ∨ p.optional

namespace Schema

mutual

/-- A value has the form that a schema asks for. -/
def Conforms : Schema → Json → Prop
  | .text p rules, value =>
    p.AllowsNull value ∨ ∃ text, value = .string text ∧ rules.Met text
  | .numeric p rules, value =>
    p.AllowsNull value ∨ ∃ n, value = .number n ∧ rules.Met n
  | .truth p, value =>
    p.AllowsNull value ∨ ∃ b, value = .bool b
  | .list p items count, value =>
    p.AllowsNull value ∨
      ∃ given, value = .array given ∧ count.Met given.length ∧
        ∀ item ∈ given, Conforms items item
  | .record p properties strict, value =>
    p.AllowsNull value ∨
      ∃ fields : KeyMap Json, value = .object fields ∧
        ConformsAll properties fields ∧
        (strict → ∀ key, key ∉ properties.map (·.1) → fields.get? key = none)
  | .anything _, _ => True

/-- Every declared property conforms to its schema. -/
def ConformsAll : List (String × Schema) → KeyMap Json → Prop
  | [], _ => True
  | (name, s) :: rest, fields =>
    s.presence.AllowsProperty (Conforms s) (fields.get? name) ∧
      ConformsAll rest fields

end

/-- The value that the default of a schema stands for: what its own checker
makes of it. -/
def coercedDefault (s : Schema) : Option Json :=
  s.presence.default.bind fun value =>
    s.compile.toOption.bind fun c => (c.check value).toOption

mutual

/-- A value with the defaults of its absent properties filled in, at every
depth. -/
def fill : Schema → Json → Json
  | .list _ items _, .array given => .array (given.map (fill items))
  | .record _ properties _, .object fields => .object (fillAll properties fields)
  | _, value => value

/-- Fields with every declared property filled. -/
def fillAll : List (String × Schema) → KeyMap Json → KeyMap Json
  | [], fields => fields
  | (name, s) :: rest, fields =>
    fillAll rest (fields.insertSome name
      (((fields.get? name).map (fill s)).or s.coercedDefault))

end

theorem conformsAll_iff {properties : List (String × Schema)}
    {fields : KeyMap Json} :
    ConformsAll properties fields ↔ ∀ property ∈ properties,
      property.2.presence.AllowsProperty property.2.Conforms
        (fields.get? property.1) := by
  induction properties with
  | nil => simp [ConformsAll]
  | cons property rest ih => simp [ConformsAll, ih]

theorem fill_null (s : Schema) : s.fill .null = .null := by
  cases s <;> rfl

theorem fillAll_sorted (properties : List (String × Schema))
    {fields : KeyMap Json} (hfields : fields.Sorted) :
    (fillAll properties fields).Sorted := by
  induction properties generalizing fields with
  | nil => exact hfields
  | cons property rest ih => exact ih (hfields.insertSome property.1 _)

theorem get?_fillAll_of_not_mem {properties : List (String × Schema)}
    {key : String} (hkey : key ∉ properties.map (·.1)) (fields : KeyMap Json) :
    (fillAll properties fields).get? key = fields.get? key := by
  induction properties generalizing fields with
  | nil => rfl
  | cons property rest ih =>
      simp only [List.map_cons, List.mem_cons, not_or] at hkey
      rw [fillAll, ih hkey.2, KeyMap.get?_insertSome, if_neg (Ne.symm hkey.1)]

/-- A declared property has its own value filled in, or its default. -/
theorem get?_fillAll {properties : List (String × Schema)}
    (hnames : (properties.map (·.1)).Nodup) (fields : KeyMap Json)
    {property : String × Schema} (hmem : property ∈ properties) :
    (fillAll properties fields).get? property.1 =
      ((fields.get? property.1).map property.2.fill).or
        property.2.coercedDefault := by
  induction properties generalizing fields with
  | nil => exact absurd hmem List.not_mem_nil
  | cons head rest ih =>
      obtain ⟨hfresh, hrest⟩ := List.nodup_cons.mp hnames
      rw [fillAll]
      rcases List.mem_cons.mp hmem with rfl | htail
      · rw [get?_fillAll_of_not_mem hfresh, KeyMap.get?_insertSome, if_pos rfl]
        cases hget : fields.get? property.1 with
        | none => simp
        | some value => simp
      · have hname : property.1 ∈ rest.map (·.1) := List.mem_map_of_mem htail
        have hne : head.1 ≠ property.1 := by
          intro heq
          rw [← heq] at hname
          exact hfresh hname
        rw [ih hrest _ htail, KeyMap.get?_insertSome, if_neg hne]

end Schema

end Trellis
