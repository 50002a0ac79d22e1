import Trellis.Schema.Check
/-!
What a check does to the walk that it is made in.  It comes back to the place where it started, and it only
adds to the failures; so a check that leaves the walk clean leaves it as it was, and so does every part of it.
-/

namespace Trellis

namespace Walk

/-- The walk has come back to its place, with more failures or the same. -/
structure Extends (before after : Walk) : Prop where
  path_eq : after.path = before.path
  failures : before.failures <+: after.failures

namespace Extends

theorem refl (w : Walk) : w.Extends w := ⟨rfl, List.prefix_refl _⟩

theorem trans {first second third : Walk} (hfirst : first.Extends second)
    (hsecond : second.Extends third) : first.Extends third :=
  ⟨hsecond.path_eq.trans hfirst.path_eq,
    hfirst.failures.trans hsecond.failures⟩

theorem eq_of_length {before after : Walk} (hextends : before.Extends after)
    (hlength : after.failures.length ≤ before.failures.length) :
    after = before := by
  obtain ⟨hpath, hfailures⟩ := hextends
  have hsame := hfailures.eq_of_length_le hlength
  cases before
  cases after
  rw [Walk.mk.injEq]
  exact ⟨hpath, hsame.symm⟩

/-- A walk that began without failures and has none is where it began. -/
theorem eq_of_failures {path : FieldPath} {after : Walk}
    (hextends : Extends ⟨path, []⟩ after) (hnone : after.failures = []) :
    after = ⟨path, []⟩ :=
  hextends.eq_of_length (Nat.le_of_eq (congrArg List.length hnone))

/-- If nothing was added in the end, nothing was added on the way. -/
theorem eq_of_eq {before mid after : Walk} (hmid : before.Extends mid)
    (hafter : mid.Extends after) (heq : after = before) : mid = before := by
  subst heq
  exact hmid.eq_of_length hafter.failures.length_le

end Extends

theorem isClean_refl (w : Walk) : w.isClean w := decide_eq_true rfl

theorem leave_enter (w : Walk) (step : FieldStep) : (w.enter step).leave = w := by
  simp [enter, leave]

theorem fail_extends (w : Walk) (violation : Violation) (received : Received) :
    w.Extends (w.fail violation received) :=
  ⟨rfl, List.prefix_append _ _⟩

theorem fail_ne (w : Walk) (violation : Violation) (received : Received) :
    w.fail violation received ≠ w := by
  intro heq
  have hlength := congrArg (fun after => after.failures.length) heq
  simp [fail] at hlength

theorem failAll_extends (w : Walk) (violations : List Violation)
    (received : Received) : w.Extends (w.failAll violations received) := by
  induction violations generalizing w with
  | nil => exact Extends.refl w
  | cons violation rest ih =>
      exact (w.fail_extends violation received).trans (ih _)

theorem eq_nil_of_failAll_eq {w : Walk} {violations : List Violation}
    {received : Received} (heq : w.failAll violations received = w) :
    violations = [] := by
  cases violations with
  | nil => rfl
  | cons violation rest =>
      have hrest := failAll_extends (w.fail violation received) rest received
      have hfirst := (w.fail_extends violation received).eq_of_eq hrest heq
      exact absurd hfirst (w.fail_ne violation received)

/-- What happens below a step is an extension of the walk before the step. -/
theorem Extends.leave {w below : Walk} {step : FieldStep}
    (hextends : (w.enter step).Extends below) : w.Extends below.leave := by
  refine ⟨?_, hextends.failures⟩
  simp [Walk.leave, hextends.path_eq, enter]

/-- If nothing was added below a step and after it, nothing was added below
it. -/
theorem Extends.eq_enter {w below after : Walk} {step : FieldStep}
    (hbelow : (w.enter step).Extends below) (hafter : below.leave.Extends after)
    (heq : after = w) : below = w.enter step := by
  have hleave := hbelow.leave.eq_of_eq hafter heq
  have hfailures := congrArg Walk.failures hleave
  exact hbelow.eq_of_length (Nat.le_of_eq (congrArg List.length hfailures))

end Walk

end Trellis
