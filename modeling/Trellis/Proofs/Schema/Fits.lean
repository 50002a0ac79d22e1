import Mathlib.Data.List.Forall2
import Trellis.Proofs.Schema.Induction
import Trellis.Schema.Compile
/-!
When a value fits a schema.  `Fits input output` says that `output` has the form that a schema asks for, as
it stands, and holds what `input` holds: one item for each item, and undeclared fields as they were.
-/

namespace Trellis

namespace Schema

/-- No object schema declares a property twice, at any depth. -/
def DistinctNames (s : Schema) : Prop := s.Everywhere fun t => t.names.Nodup

/-- The defaults are well-formed values, at any depth. -/
def DefaultsWellFormed (s : Schema) : Prop :=
  s.Everywhere fun t => ∀ value, t.presence.default = some value → value.WellFormed

end Schema

/-- A text meets the rules of a string schema.  The pattern counts as it is
compiled, anchored at both ends. -/
structure StringRules.Met (rules : StringRules String) (text : String) : Prop where
  minLength : ∀ least, rules.minLength = some least → least ≤ text.length
  maxLength : ∀ most, rules.maxLength = some most → text.length ≤ most
  format : ∀ f, rules.format = some f → f.accepts text
  pattern : ∀ source, rules.pattern = some source →
    ∃ regex, Regex.parse? (Regex.anchoredText source) = some regex ∧
      regex.occursIn text
  oneOf : rules.oneOf ≠ [] → text ∈ rules.oneOf

/-- A number of items lies within the bounds of an array schema. -/
structure CountRules.Met (rules : CountRules) (count : Nat) : Prop where
  minItems : ∀ least, rules.minItems = some least → least ≤ count
  maxItems : ∀ most, rules.maxItems = some most → count ≤ most

/-- A number of the kind that a number schema asks for. -/
def NumberRules.OfKind (rules : NumberRules) (n : Number) : Prop :=
  rules.integer → ∃ whole, n = .whole whole

/-- Null stands where it was given, and only where it may. -/
def Presence.FitsNull (p : Presence) (input output : Json) : Prop :=
  p.nullable ∧ input = .null ∧ output = .null

/-- A declared property, given its value in the input and in the output, if it
has one there.  It is absent from the output only if it may be, was not given
and has no default. -/
def Presence.FitsProperty (p : Presence) (fits : Json → Json → Prop)
    (given : Option Json) : Option Json → Prop
  | some output => ∃ input, given.or p.default = some input ∧ fits input output
  | none => given = none ∧ p.default = none ∧ p.optional

namespace Schema

mutual

/-- An output has the form that a schema asks for, and comes from the input. -/
def Fits : Schema → Json → Json → Prop
  | .text p rules, input, output =>
    p.FitsNull input output ∨ ∃ text, output = .string text ∧ rules.Met text
  | .numeric p rules, input, output =>
    p.FitsNull input output ∨ ∃ n, output = .number n ∧ rules.OfKind n
  | .truth p, input, output =>
    p.FitsNull input output ∨ ∃ b, output = .bool b
  | .list p items count, input, output =>
    p.FitsNull input output ∨
      ∃ given found, Checker.itemsOf? input = some given ∧
        output = .array found ∧ count.Met found.length ∧
        List.Forall₂ (Fits items) given found
  | .record p properties strict, input, output =>
    p.FitsNull input output ∨
      ∃ given found : KeyMap Json, input = .object given ∧
        output = .object found ∧ FitsAll properties given found ∧
        ∀ key, key ∉ properties.map (·.1) →
          found.get? key = given.get? key ∧ (strict → given.get? key = none)
  | .anything _, input, output => output = input

/-- Every declared property fits its schema. -/
def FitsAll : List (String × Schema) → KeyMap Json → KeyMap Json → Prop
  | [], _, _ => True
  | (name, s) :: rest, given, found =>
    s.presence.FitsProperty (Fits s) (given.get? name) (found.get? name) ∧
      FitsAll rest given found

end

end Schema

end Trellis
