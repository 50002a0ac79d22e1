import Trellis.Schema.Basic
/-!
Schemas as trees: induction on a schema, and conditions on a schema and all schemas in it.
-/

namespace Trellis

namespace SchemaOf

variable {π : Type}

/-- Induction on a schema, with the properties of an object schema as parts of
it. -/
theorem induction {motive : SchemaOf π → Prop}
    (text : ∀ p rules, motive (.text p rules))
    (numeric : ∀ p rules, motive (.numeric p rules))
    (truth : ∀ p, motive (.truth p))
    (list : ∀ p items count, motive items → motive (.list p items count))
    (record : ∀ p properties strict,
      (∀ property ∈ properties, motive property.2) →
        motive (.record p properties strict))
    (anything : ∀ p, motive (.anything p)) (s : SchemaOf π) : motive s :=
  @SchemaOf.rec π motive
    (fun properties => ∀ property ∈ properties, motive property.2)
    (fun property => motive property.2)
    text numeric truth (fun p items count ih => list p items count ih)
    (fun p properties strict ih => record p properties strict ih) anything
    (fun _ hmem => absurd hmem List.not_mem_nil)
    (fun _ _ ihHead ihTail property hmem => by
      rcases List.mem_cons.mp hmem with rfl | htail
      · exact ihHead
      · exact ihTail property htail)
    (fun _ _ ih => ih) s

/-- The names of the properties of an object schema. -/
def names : SchemaOf π → List String
  | .record _ properties _ => properties.map (·.1)
  | _ => []

mutual

/-- A condition holds of a schema and of every schema in it. -/
def Everywhere (P : SchemaOf π → Prop) : SchemaOf π → Prop
  | .list p items count => P (.list p items count) ∧ Everywhere P items
  | .record p properties strict =>
    P (.record p properties strict) ∧ EverywhereIn P properties
  | s => P s

/-- A condition holds everywhere in the schemas of properties. -/
def EverywhereIn (P : SchemaOf π → Prop) : List (String × SchemaOf π) → Prop
  | [] => True
  | (_, s) :: rest => Everywhere P s ∧ EverywhereIn P rest

end

theorem everywhereIn_iff {P : SchemaOf π → Prop}
    {properties : List (String × SchemaOf π)} :
    EverywhereIn P properties ↔ ∀ property ∈ properties, Everywhere P property.2 := by
  induction properties with
  | nil => simp [EverywhereIn]
  | cons property rest ih => simp [EverywhereIn, ih]

theorem Everywhere.here {P : SchemaOf π → Prop} {s : SchemaOf π}
    (heverywhere : s.Everywhere P) : P s := by
  cases s with
  | list p items count => exact heverywhere.1
  | record p properties strict => exact heverywhere.1
  | text p rules => exact heverywhere
  | numeric p rules => exact heverywhere
  | truth p => exact heverywhere
  | anything p => exact heverywhere

end SchemaOf

end Trellis
