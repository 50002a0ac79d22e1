import Trellis.Serving.Run
/-!
What the code of an application sees of a request.  Code that is run with an exchange sees that exchange and no
other: it could as well be given the exchange beforehand, in its call, in its action, and in what middleware does
after the code that it wraps.
-/

namespace Trellis

variable {σ α β : Type}

/-- The moment with another exchange. -/
def Moment.seeing (m : Moment σ) (x : Exchange) : Moment σ := { m with exchange := x }

/-- An action that sees `x`, whatever its moment holds. -/
def Action.seeing (x : Exchange) (action : Action σ α) : Action σ α :=
  fun m => action (m.seeing x)

/-- Code that sees `x`, whatever its moment holds. -/
def Code.seeing (x : Exchange) (code : Code σ α) : Code σ α := fun m =>
  let launch := code (m.seeing x)
  { launch with action := launch.action.map (Action.seeing x) }

namespace Outcome

def map (f : α → β) : Outcome α → Outcome β
  | .done value => .done (f value)
  | .failed e => .failed e
  | .panicked text => .panicked text

end Outcome

/-- Code whose value is turned into another. -/
def Code.map (f : α → β) (code : Code σ α) : Code σ β := fun m =>
  let launch := code m
  { launch with action := launch.action.map fun action m =>
      let turn := action m
      { turn with outcome := turn.outcome.map f } }

def Entry.seeing (x : Exchange) : Entry σ → Entry σ
  | .answer response => .answer response
  | .proceed resume => .proceed fun ended => Action.seeing x (resume ended)

/-- Middleware that sees `x`, before and after the code that it wraps. -/
def Middleware.seeing (x : Exchange) (m : Middleware σ) : Middleware σ where
  name := m.name
  enter left := Code.seeing x (Code.map (Entry.seeing x) (m.enter left))

namespace Run

theorem perform_seeing (x : Exchange) (action : Action σ α) (r : Run σ) :
    perform x (Action.seeing x action) r = perform x action r := rfl

theorem call_seeing (x : Exchange) (place : Place) (code : Code σ α) (r : Run σ) :
    call x place (Code.seeing x code) r =
      ((call x place code r).1.map (Action.seeing x), (call x place code r).2) :=
  rfl

theorem enter_seeing (x : Exchange) (place : Place) (code : Code σ α) (r : Run σ) :
    enter x place (Code.seeing x code) r = enter x place code r := by
  rw [enter, enter, call_seeing]
  cases call x place code r with
  | mk action after => cases action <;> rfl

theorem enter_map (x : Exchange) (place : Place) (f : α → β) (code : Code σ α)
    (r : Run σ) :
    enter x place (Code.map f code) r =
      ((enter x place code r).1.map f, (enter x place code r).2) := by
  have hcall : call x place (Code.map f code) r =
      ((call x place code r).1.map fun action m =>
        { action m with outcome := (action m).outcome.map f },
        (call x place code r).2) := rfl
  rw [enter, enter, hcall]
  cases call x place code r with
  | mk action after => cases action <;> rfl

theorem before_seeing (x : Exchange) (place : Nat → Place) (i : Nat)
    (codes : List (BeforeHook σ)) (r : Run σ) :
    before x place i (codes.map (Code.seeing x)) r = before x place i codes r := by
  induction codes generalizing i r with
  | nil => rfl
  | cons code rest ih =>
      rw [List.map_cons, before, before, enter_seeing]
      cases enter x (place i) code r with
      | mk outcome after =>
          cases outcome with
          | failed e => rfl
          | panicked text => rfl
          | done given =>
              cases given with
              | none => exact ih (i + 1) after
              | some response => rfl

theorem afterHooks_seeing (x : Exchange) (place : Nat → Place) (i : Nat)
    (codes : List (AfterHook σ)) (response : Response) (r : Run σ) :
    afterHooks x place i (codes.map fun code given => Code.seeing x (code given))
      response r = afterHooks x place i codes response r := by
  induction codes generalizing i response r with
  | nil => rfl
  | cons code rest ih =>
      rw [List.map_cons, afterHooks, afterHooks, enter_seeing]
      cases enter x (place i) (code response) r with
      | mk outcome after =>
          cases outcome with
          | failed e => rfl
          | panicked text => rfl
          | done next => exact ih (i + 1) next after

theorem chain_seeing (x : Exchange) (endpoint : Run σ → Outcome Response × Run σ)
    (i : Nat) (codes : List (Middleware σ)) (r : Run σ) :
    chain x endpoint i (codes.map (Middleware.seeing x)) r =
      chain x endpoint i codes r := by
  induction codes generalizing i r with
  | nil => rfl
  | cons m rest ih =>
      rw [List.map_cons, chain, chain, List.length_map, Middleware.seeing,
        enter_seeing, enter_map]
      cases enter x (.middleware i) (m.enter rest.length)
        (r.log (middlewareEvent m.name i)) with
      | mk outcome after =>
          cases outcome with
          | failed e => rfl
          | panicked text => rfl
          | done entry =>
              cases entry with
              | answer response => rfl
              | proceed resume =>
                  simp only [Outcome.map, Entry.seeing]
                  rw [ih (i + 1) after]
                  rfl

theorem handle_seeing (x : Exchange) (code : Handler σ) (r : Run σ) :
    handle x (Code.seeing x code) r = handle x code r := by
  rw [handle, handle, enter_seeing]

end Run

end Trellis
