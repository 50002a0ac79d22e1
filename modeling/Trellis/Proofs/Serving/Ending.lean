import Trellis.Proofs.Serving.Course
/-!
How the code of an application ends that runs in a row, stated over the turns of its pieces alone: the moment in
which it starts, its outcome, and the moment in which it leaves.  A run keeps to it.
-/

namespace Trellis

variable {σ α : Type}

/-- How an action ends that is run in a moment, and the moment after it. -/
def Action.turn (action : Action σ α) (m : Moment σ) : Outcome α × Moment σ :=
  let turn := action m
  (turn.outcome, m.after turn.effects turn.own)

/-- What can run in a moment: it comes to an outcome and leaves another moment. -/
abbrev Ending (σ : Type) := Moment σ → Outcome Response → Moment σ → Prop

/-- Before hooks run up to the first that does not go on. -/
inductive Hooked :
    List (BeforeHook σ) → Moment σ → Outcome (Option Response) → Moment σ → Prop
  | nil {m} : Hooked [] m (.done none) m
  | passed {hook rest m after ended last} :
      Code.turn hook m = (.done none, after) →
      Hooked rest after ended last → Hooked (hook :: rest) m ended last
  | stopped {hook rest m ended after} :
      Code.turn hook m = (ended, after) →
      ended ≠ .done none → Hooked (hook :: rest) m ended after

/-- The handler runs, and its reply is made a response under the status that is
set by then. -/
inductive Handled (handler : Handler σ) : Ending σ
  | replied {m reply after response} :
      Code.turn handler m = (.done reply, after) →
      reply.respond after.desk.status = .ok response →
      Handled handler m (.done response) after
  | refused {m reply after e} :
      Code.turn handler m = (.done reply, after) →
      reply.respond after.desk.status = .error e →
      Handled handler m (.failed e) after
  | failed {m e after} :
      Code.turn handler m = (.failed e, after) → Handled handler m (.failed e) after
  | panicked {m text after} :
      Code.turn handler m = (.panicked text, after) →
      Handled handler m (.panicked text) after

/-- Before hooks run, and if all of them go on, what is behind them. -/
inductive Guarded (hooks : List (BeforeHook σ)) (next : Ending σ) : Ending σ
  | passed {m after ended last} :
      Hooked hooks m (.done none) after →
      next after ended last → Guarded hooks next m ended last
  | answered {m response after} :
      Hooked hooks m (.done (some response)) after →
      Guarded hooks next m (.done response) after
  | failed {m e after} :
      Hooked hooks m (.failed e) after → Guarded hooks next m (.failed e) after
  | panicked {m text after} :
      Hooked hooks m (.panicked text) after →
      Guarded hooks next m (.panicked text) after

/-- Middleware runs around the rest of a chain and what is inside it.  If it
proceeds, the rest runs, and then the middleware again with the result; a panic
of the rest passes through. -/
inductive Wrapped (next : Ending σ) : List (Middleware σ) → Ending σ
  | inside {m ended last} : next m ended last → Wrapped next [] m ended last
  | answered {mw rest m response after} :
      Code.turn (mw.enter rest.length) m = (.done (.answer response), after) →
      Wrapped next (mw :: rest) m (.done response) after
  | failed {mw rest m e after} :
      Code.turn (mw.enter rest.length) m = (.failed e, after) →
      Wrapped next (mw :: rest) m (.failed e) after
  | panicked {mw rest m text after} :
      Code.turn (mw.enter rest.length) m = (.panicked text, after) →
      Wrapped next (mw :: rest) m (.panicked text) after
  | response {mw rest m resume after response inner ended last} :
      Code.turn (mw.enter rest.length) m = (.done (.proceed resume), after) →
      Wrapped next rest after (.done response) inner →
      Action.turn (resume (.ok response)) inner = (ended, last) →
      Wrapped next (mw :: rest) m ended last
  | error {mw rest m resume after e inner ended last} :
      Code.turn (mw.enter rest.length) m = (.done (.proceed resume), after) →
      Wrapped next rest after (.failed e) inner →
      Action.turn (resume (.error e)) inner = (ended, last) →
      Wrapped next (mw :: rest) m ended last
  | panic {mw rest m resume after text last} :
      Code.turn (mw.enter rest.length) m = (.done (.proceed resume), after) →
      Wrapped next rest after (.panicked text) last →
      Wrapped next (mw :: rest) m (.panicked text) last

/-- A response is handed through after hooks, up to the first that gives
none. -/
inductive Returned : List (AfterHook σ) → Response → Ending σ
  | nil {response m} : Returned [] response m (.done response) m
  | passed {hook rest response m next after ended last} :
      Code.turn (hook response) m = (.done next, after) →
      Returned rest next after ended last →
      Returned (hook :: rest) response m ended last
  | stopped {hook rest response m ended after} :
      Code.turn (hook response) m = (ended, after) →
      (∀ next, ended ≠ .done next) → Returned (hook :: rest) response m ended after

theorem Stage.passed_hooks_cons {hook : BeforeHook σ} {m after : Moment σ}
    (hturn : Code.turn hook m = (.done none, after)) (place : Nat → Place) (i : Nat)
    (rest : List (BeforeHook σ)) :
    passed (hooks place i (hook :: rest)) m = passed (hooks place (i + 1) rest) after := by
  simp only [numbered, passed, Stage.hook, hturn, Option.bind_some]

theorem Stage.passed_chain_cons {mw : Middleware σ} {rest : List (Middleware σ)}
    {m after : Moment σ} {resume : Except Error Response → Action σ Response}
    (hturn : Code.turn (mw.enter rest.length) m = (.done (.proceed resume), after))
    (i : Nat) :
    passed (chain i (mw :: rest)) m = passed (chain (i + 1) rest) after := by
  simp only [chain, passed, middleware, hturn, Option.bind_some]

/-- Before hooks that go on are stages that are passed. -/
theorem Hooked.passed_eq {hooks : List (BeforeHook σ)} {m after : Moment σ}
    (hhooked : Hooked hooks m (.done none) after) (place : Nat → Place) (i : Nat) :
    Stage.passed (Stage.hooks place i hooks) m = some after := by
  generalize hdone : Outcome.done none = outcome at hhooked
  induction hhooked generalizing i with
  | nil => rfl
  | passed hturn _ ih =>
      rw [Stage.passed_hooks_cons hturn]
      exact ih (i + 1) hdone
  | stopped _ hstopped => exact absurd hdone.symm hstopped

/-- What is behind before hooks runs past all of them. -/
theorem Guarded.mono {hooks : List (BeforeHook σ)} {next next' : Ending σ}
    {m last : Moment σ} {ended : Outcome Response}
    (hends : Guarded hooks next m ended last) (place : Nat → Place)
    (hnext : ∀ inner, Stage.passed (Stage.hooks place 0 hooks) m = some inner →
      ∀ ended last, next inner ended last → next' inner ended last) :
    Guarded hooks next' m ended last := by
  cases hends with
  | passed hhooked hinner =>
      exact .passed hhooked (hnext _ (hhooked.passed_eq place 0) _ _ hinner)
  | answered hhooked => exact .answered hhooked
  | failed hhooked => exact .failed hhooked
  | panicked hhooked => exact .panicked hhooked

/-- What is inside a chain runs past all of its middleware. -/
theorem Wrapped.mono {codes : List (Middleware σ)} {next next' : Ending σ}
    {m last : Moment σ} {ended : Outcome Response}
    (hends : Wrapped next codes m ended last) (i : Nat)
    (hnext : ∀ inner, Stage.passed (Stage.chain i codes) m = some inner →
      ∀ ended last, next inner ended last → next' inner ended last) :
    Wrapped next' codes m ended last := by
  induction hends generalizing i with
  | inside hinner => exact .inside (hnext _ rfl _ _ hinner)
  | answered hturn => exact .answered hturn
  | failed hturn => exact .failed hturn
  | panicked hturn => exact .panicked hturn
  | response hturn _ hresumed ih =>
      rw [Stage.passed_chain_cons hturn] at hnext
      exact .response hturn (ih (i + 1) hnext) hresumed
  | error hturn _ hresumed ih =>
      rw [Stage.passed_chain_cons hturn] at hnext
      exact .error hturn (ih (i + 1) hnext) hresumed
  | panic hturn _ ih =>
      rw [Stage.passed_chain_cons hturn] at hnext
      exact .panic hturn (ih (i + 1) hnext)

/-- After hooks in two rows are one row. -/
theorem Returned.append {hooks others : List (AfterHook σ)} {response next : Response}
    {m after last : Moment σ} {ended : Outcome Response}
    (hhooks : Returned hooks response m (.done next) after)
    (hothers : Returned others next after ended last) :
    Returned (hooks ++ others) response m ended last := by
  generalize hdone : Outcome.done next = outcome at hhooks
  induction hhooks with
  | nil =>
      obtain rfl := Outcome.done.inj hdone
      exact hothers
  | passed hturn _ ih => exact .passed hturn (ih hothers hdone)
  | stopped _ hstopped => exact absurd hdone.symm (hstopped next)

/-- After hooks behind one that gives no response do not run. -/
theorem Returned.append_of_stopped {hooks : List (AfterHook σ)} {response : Response}
    {m last : Moment σ} {ended : Outcome Response}
    (hhooks : Returned hooks response m ended last)
    (hended : ∀ next, ended ≠ .done next) (others : List (AfterHook σ)) :
    Returned (hooks ++ others) response m ended last := by
  induction hhooks with
  | nil => exact absurd rfl (hended _)
  | passed hturn _ ih => exact .passed hturn (ih hended)
  | stopped hturn hstopped => exact .stopped hturn hstopped

namespace Run

/-- What is run ends as stated, from every run on. -/
def Realizes (x : Exchange) (run : Run σ → Outcome Response × Run σ)
    (ending : Ending σ) : Prop :=
  ∀ r, ending (r.moment x) (run r).1 ((run r).2.moment x)

theorem perform_eq (x : Exchange) (action : Action σ α) (r : Run σ) :
    Action.turn action (r.moment x) =
      ((perform x action r).1, (perform x action r).2.moment x) := rfl

theorem before_hooked (x : Exchange) (place : Nat → Place) (i : Nat)
    (hooks : List (BeforeHook σ)) (r : Run σ) :
    Hooked hooks (r.moment x) (before x place i hooks r).1
      ((before x place i hooks r).2.moment x) := by
  induction hooks generalizing i r with
  | nil => exact .nil
  | cons hook rest ih =>
      obtain ⟨outcome, after, henter, hturn, -⟩ := enter_eq x (place i) hook r
      rw [before, henter]
      rcases outcome with (_ | response) | e | text
      · exact .passed hturn (ih (i + 1) after)
      all_goals exact .stopped hturn (by simp)

theorem handle_realizes (x : Exchange) (handler : Handler σ) :
    Realizes x (handle x handler) (Handled handler) := by
  intro r
  obtain ⟨outcome, after, henter, hturn, -⟩ := enter_eq x .handler handler r
  rw [handle, henter]
  cases outcome with
  | failed e => exact .failed hturn
  | panicked text => exact .panicked hturn
  | done reply =>
      dsimp only
      cases hreply : reply.respond after.desk.status with
      | ok response => exact .replied hturn hreply
      | error e => exact .refused hturn hreply

theorem Realizes.behind {x : Exchange} {next : Run σ → Outcome Response × Run σ}
    {ending : Ending σ} (hnext : Realizes x next ending) (place : Nat → Place)
    (hooks : List (BeforeHook σ)) :
    Realizes x (Run.behind x place hooks next) (Guarded hooks ending) := by
  intro r
  have hhooked := before_hooked x place 0 hooks r
  rw [Run.behind]
  generalize before x place 0 hooks r = stopped at hhooked ⊢
  obtain ⟨(_ | response) | e | text, after⟩ := stopped
  · exact .passed hhooked (hnext after)
  · exact .answered hhooked
  · exact .failed hhooked
  · exact .panicked hhooked

theorem Realizes.chain {x : Exchange} {endpoint : Run σ → Outcome Response × Run σ}
    {ending : Ending σ} (hendpoint : Realizes x endpoint ending) (i : Nat)
    (codes : List (Middleware σ)) :
    Realizes x (Run.chain x endpoint i codes) (Wrapped ending codes) := by
  intro r
  induction codes generalizing i r with
  | nil => exact .inside (hendpoint (r.log endpointEvent))
  | cons mw rest ih =>
      obtain ⟨outcome, after, henter, hturn, -⟩ :=
        enter_eq x (.middleware i) (mw.enter rest.length)
          (r.log (middlewareEvent mw.name i))
      rw [Run.chain, henter]
      rcases outcome with (response | resume) | e | text
      · exact .answered hturn
      · have hinner := ih (i + 1) after
        dsimp only
        generalize Run.chain x endpoint (i + 1) rest after = inner at hinner ⊢
        obtain ⟨response | e | text, last⟩ := inner
        · exact .response hturn hinner (perform_eq x (resume (.ok response)) last)
        · exact .error hturn hinner (perform_eq x (resume (.error e)) last)
        · exact .panic hturn hinner
      · exact .failed hturn
      · exact .panicked hturn

theorem afterHooks_returned (x : Exchange) (place : Nat → Place) (i : Nat)
    (hooks : List (AfterHook σ)) (response : Response) :
    Realizes x (afterHooks x place i hooks response) (Returned hooks response) := by
  intro r
  induction hooks generalizing i response r with
  | nil => exact .nil
  | cons hook rest ih =>
      obtain ⟨outcome, after, henter, hturn, -⟩ :=
        enter_eq x (place i) (hook response) r
      rw [afterHooks, henter]
      cases outcome with
      | done next => exact .passed hturn (ih (i + 1) next after)
      | failed e => exact .stopped hturn (by simp)
      | panicked text => exact .stopped hturn (by simp)

end Run

end Trellis
