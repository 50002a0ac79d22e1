import Trellis.Serving.Run
/-!
Which code a run enters.  Hooks and middleware are stages: each one is entered in the state that the stage before
it has left, up to the first that does not go on.  What a run notes as visited is exactly the stages that are
entered.
-/

namespace Trellis

variable {σ α S : Type}

/-- The moment after effects of code, which leaves its own state. -/
def Moment.after (m : Moment σ) (effects : List Effect) (own : σ) : Moment σ :=
  { m with
    desk := effects.foldl Desk.apply m.desk
    state := effects.foldl Effect.onState m.state
    own }

/-- How code ends that is entered in a moment, and the moment after it. -/
def Code.turn (code : Code σ α) (m : Moment σ) : Outcome α × Moment σ :=
  let launch := code m
  let called := m.after launch.effects launch.own
  match launch.action with
  | .error text => (.panicked text, called)
  | .ok action =>
    let turn := action called
    (turn.outcome, called.after turn.effects turn.own)

/-- Code leaves the exchange of its moment as it is. -/
theorem Code.turn_exchange (code : Code σ α) (m : Moment σ) :
    (Code.turn code m).2.exchange = m.exchange := by
  unfold Code.turn
  dsimp only
  split <;> rfl

/-- Code in a row: its place, and the state after it if it goes on to the code
behind it. -/
structure Stage (S : Type) where
  place : Place
  goOn : S → Option S

namespace Stage

/-- The stages that are entered, and the states that they see: in order, up to
the first that does not go on. -/
def entered : List (Stage S) → S → List (Place × S)
  | [], _ => []
  | stage :: rest, s =>
    (stage.place, s) :: match stage.goOn s with
      | some after => entered rest after
      | none => []

/-- The state after stages that all go on. -/
def passed : List (Stage S) → S → Option S
  | [], s => some s
  | stage :: rest, s => (stage.goOn s).bind (passed rest)

theorem entered_append (stages others : List (Stage S)) (s : S) :
    entered (stages ++ others) s =
      entered stages s ++ match passed stages s with
        | some after => entered others after
        | none => [] := by
  induction stages generalizing s with
  | nil => rfl
  | cons stage rest ih =>
      simp only [List.cons_append, entered, passed]
      cases stage.goOn s with
      | none => rfl
      | some after => exact congrArg (List.cons _) (ih after)

theorem passed_append (stages others : List (Stage S)) (s : S) :
    passed (stages ++ others) s = (passed stages s).bind (passed others) := by
  induction stages generalizing s with
  | nil => rfl
  | cons stage rest ih =>
      simp only [List.cons_append, passed]
      cases stage.goOn s with
      | none => rfl
      | some after => exact ih after

/-- What is entered is a first part of the row. -/
theorem entered_prefix (stages : List (Stage S)) (s : S) :
    (entered stages s).map (·.1) <+: stages.map Stage.place := by
  induction stages generalizing s with
  | nil => exact List.prefix_refl _
  | cons stage rest ih =>
      rw [entered, List.map_cons, List.map_cons, List.prefix_cons_inj]
      cases stage.goOn s with
      | none => exact List.nil_prefix
      | some after => exact ih after

/-- A stage that goes on keeps a property of states. -/
def Keeps (P : S → Prop) (stage : Stage S) : Prop :=
  ∀ s after, P s → stage.goOn s = some after → P after

/-- What all stages keep holds in every state that one of them sees. -/
theorem of_mem_entered {P : S → Prop} {stages : List (Stage S)}
    (hkeeps : ∀ stage ∈ stages, stage.Keeps P) {s : S} (hs : P s)
    {entry : Place × S} (hentry : entry ∈ entered stages s) : P entry.2 := by
  induction stages generalizing s with
  | nil => exact absurd hentry List.not_mem_nil
  | cons stage rest ih =>
      obtain ⟨hstage, hrest⟩ := List.forall_mem_cons.mp hkeeps
      rcases List.mem_cons.mp hentry with rfl | hlater
      · exact hs
      · cases hgone : stage.goOn s with
        | none =>
            rw [hgone] at hlater
            exact absurd hlater List.not_mem_nil
        | some after =>
            rw [hgone] at hlater
            exact ih hrest (hstage s after hs hgone) hlater

/-- Code of one kind as stages, in order; the first has number `i`. -/
def numbered {γ : Type} (stage : Place → γ → Stage S) (place : Nat → Place) :
    Nat → List γ → List (Stage S)
  | _, [] => []
  | i, code :: rest => stage (place i) code :: numbered stage place (i + 1) rest

theorem places_numbered {γ : Type} {stage : Place → γ → Stage S}
    (hstage : ∀ p code, (stage p code).place = p) (place : Nat → Place) (i : Nat)
    (codes : List γ) : (numbered stage place i codes).map Stage.place =
      (List.range' i codes.length).map place := by
  induction codes generalizing i with
  | nil => rfl
  | cons code rest ih => simp [numbered, hstage, ih, List.range'_succ]

theorem keeps_numbered {γ : Type} {P : S → Prop} {stage : Place → γ → Stage S}
    (hkeeps : ∀ place code, (stage place code).Keeps P) (place : Nat → Place)
    (i : Nat) (codes : List γ) :
    ∀ s ∈ numbered stage place i codes, s.Keeps P := by
  induction codes generalizing i with
  | nil => exact fun s hs => absurd hs List.not_mem_nil
  | cons code rest ih => exact List.forall_mem_cons.mpr ⟨hkeeps _ code, ih (i + 1)⟩

/-- A before hook or an error hook, which goes on if it gives no response. -/
def hook (place : Place) (code : Code σ (Option Response)) : Stage (Moment σ) where
  place
  goOn m := match Code.turn code m with
    | (.done none, after) => some after
    | _ => none

/-- Before hooks or error hooks. -/
abbrev hooks (place : Nat → Place) (i : Nat)
    (codes : List (Code σ (Option Response))) : List (Stage (Moment σ)) :=
  numbered hook place i codes

/-- Middleware, which goes on if it proceeds to what it wraps. -/
def middleware (i left : Nat) (m : Middleware σ) : Stage (Moment σ) where
  place := .middleware i
  goOn moment := match Code.turn (m.enter left) moment with
    | (.done (.proceed _), after) => some after
    | _ => none

/-- A chain of middleware, in order, each told how much comes after it; the
first has number `i`. -/
def chain : Nat → List (Middleware σ) → List (Stage (Moment σ))
  | _, [] => []
  | i, m :: rest => middleware i rest.length m :: chain (i + 1) rest

theorem places_chain (i : Nat) (codes : List (Middleware σ)) :
    (chain i codes).map Stage.place =
      (List.range' i codes.length).map Place.middleware := by
  induction codes generalizing i with
  | nil => rfl
  | cons code rest ih => simp [chain, middleware, ih, List.range'_succ]

theorem keeps_chain {P : Moment σ → Prop}
    (hkeeps : ∀ i left (m : Middleware σ), (middleware i left m).Keeps P) (i : Nat)
    (codes : List (Middleware σ)) : ∀ s ∈ chain i codes, s.Keeps P := by
  induction codes generalizing i with
  | nil => exact fun s hs => absurd hs List.not_mem_nil
  | cons m rest ih =>
      exact List.forall_mem_cons.mpr ⟨hkeeps i rest.length m, ih (i + 1)⟩

/-- The handler, which nothing comes after. -/
def handler : Stage (Moment σ) := ⟨.handler, fun _ => none⟩

theorem handler_keeps (P : Moment σ → Prop) : handler.Keeps P := by
  simp [Keeps, handler]

/-- An after hook, which gets a response and goes on with the one that it
gives. -/
def afterHook (place : Place) (code : AfterHook σ) :
    Stage (Response × Moment σ) where
  place
  goOn s := match Code.turn (code s.1) s.2 with
    | (.done response, after) => some (response, after)
    | _ => none

abbrev afterHooks (place : Nat → Place) (i : Nat)
    (codes : List (AfterHook σ)) : List (Stage (Response × Moment σ)) :=
  numbered afterHook place i codes

/-! All stages keep the exchange. -/

theorem hook_keeps (x : Exchange) (place : Place) (code : Code σ (Option Response)) :
    (hook place code).Keeps fun m => m.exchange = x := by
  intro m after hm hgone
  have hsame := Code.turn_exchange code m
  simp only [hook] at hgone
  split at hgone
  · next next hturn =>
      obtain rfl := Option.some.inj hgone
      rw [hturn] at hsame
      exact hsame.trans hm
  · contradiction

theorem middleware_keeps (x : Exchange) (i left : Nat) (m : Middleware σ) :
    (middleware i left m).Keeps fun m => m.exchange = x := by
  intro s after hs hgone
  have hsame := Code.turn_exchange (m.enter left) s
  simp only [middleware] at hgone
  split at hgone
  · next resume next hturn =>
      obtain rfl := Option.some.inj hgone
      rw [hturn] at hsame
      exact hsame.trans hs
  · contradiction

theorem afterHook_keeps (x : Exchange) (place : Place) (code : AfterHook σ) :
    (afterHook place code).Keeps fun s => s.2.exchange = x := by
  intro s after hs hgone
  have hsame := Code.turn_exchange (code s.1) s.2
  simp only [afterHook] at hgone
  split at hgone
  · next response next hturn =>
      obtain rfl := Option.some.inj hgone
      rw [hturn] at hsame
      exact hsame.trans hs
  · contradiction

end Stage

namespace Run

/-- Entering code notes its place.  How it ends, and the moment after it,
depend on the moment before it alone. -/
theorem enter_eq (x : Exchange) (place : Place) (code : Code σ α) (r : Run σ) :
    ∃ outcome after, enter x place code r = (outcome, after) ∧
      Code.turn code (r.moment x) = (outcome, after.moment x) ∧
      after.visits = r.visits ++ [place] := by
  unfold enter call Code.turn
  simp only
  cases haction : (code ((r.visit place).moment x)).action with
  | ok action =>
      have hsame : (code (r.moment x)).action = .ok action := haction
      rw [hsame]
      exact ⟨_, _, rfl, rfl, rfl⟩
  | error text =>
      have hsame : (code (r.moment x)).action = .error text := haction
      rw [hsame]
      exact ⟨_, _, rfl, rfl, rfl⟩

/-- What is run notes exactly the stages that are entered. -/
def Enters (x : Exchange) (run : Run σ → α × Run σ)
    (stages : List (Stage (Moment σ))) : Prop :=
  ∀ r, (run r).2.visits =
    r.visits ++ (Stage.entered stages (r.moment x)).map (·.1)

/-- Before hooks give no response exactly if all of them go on. -/
theorem before_eq (x : Exchange) (place : Nat → Place) (i : Nat)
    (codes : List (BeforeHook σ)) (r : Run σ) :
    ∃ outcome after, before x place i codes r = (outcome, after) ∧
      after.visits = r.visits ++ (Stage.entered (Stage.hooks place i codes)
        (r.moment x)).map (·.1) ∧
      (outcome = .done none ∧ Stage.passed (Stage.hooks place i codes)
          (r.moment x) = some (after.moment x) ∨
        outcome ≠ .done none ∧
          Stage.passed (Stage.hooks place i codes) (r.moment x) = none) := by
  induction codes generalizing i r with
  | nil => exact ⟨_, r, rfl, by simp [Stage.numbered, Stage.entered], Or.inl ⟨rfl, rfl⟩⟩
  | cons code rest ih =>
      obtain ⟨outcome, after, henter, hturn, hvisits⟩ :=
        enter_eq x (place i) code r
      simp only [before, henter, Stage.numbered, Stage.entered, Stage.passed,
        Stage.hook, hturn]
      cases outcome with
      | failed e => exact ⟨_, after, rfl, hvisits, Or.inr ⟨by simp, rfl⟩⟩
      | panicked text => exact ⟨_, after, rfl, hvisits, Or.inr ⟨by simp, rfl⟩⟩
      | done given =>
          cases given with
          | some response =>
              exact ⟨_, after, rfl, hvisits, Or.inr ⟨by simp, rfl⟩⟩
          | none =>
              obtain ⟨ended, last, hrest, hplaces, hgone⟩ := ih (i + 1) after
              refine ⟨ended, last, hrest, ?_, hgone⟩
              rw [hplaces, hvisits, List.append_assoc]
              rfl

/-- Run what comes behind before hooks, unless one of them does not go on. -/
def behind (x : Exchange) (place : Nat → Place) (codes : List (BeforeHook σ))
    (next : Run σ → Outcome Response × Run σ) (r : Run σ) : Outcome Response × Run σ :=
  match before x place 0 codes r with
  | (.done none, r) => next r
  | (.done (some response), r) => (.done response, r)
  | (.failed e, r) => (.failed e, r)
  | (.panicked text, r) => (.panicked text, r)

/-- What runs behind before hooks is entered past all of them. -/
theorem Enters.behind {x : Exchange} {next : Run σ → Outcome Response × Run σ}
    {inner : List (Stage (Moment σ))} (hnext : Enters x next inner)
    (place : Nat → Place) (codes : List (BeforeHook σ)) :
    Enters x (Run.behind x place codes next) (Stage.hooks place 0 codes ++ inner) := by
  intro r
  obtain ⟨outcome, after, hbefore, hvisits, hends⟩ := before_eq x place 0 codes r
  rw [Run.behind, hbefore, Stage.entered_append]
  rcases hends with ⟨rfl, hpassed⟩ | ⟨hstopped, hpassed⟩
  · dsimp only
    rw [hnext after, hvisits, hpassed, List.map_append, List.append_assoc]
  · rw [hpassed, List.append_nil, ← hvisits]
    rcases outcome with (_ | response) | e | text
    · exact absurd rfl hstopped
    all_goals rfl

/-- A chain enters its middleware, and past the last of it what the endpoint
enters.  What middleware does after that notes nothing. -/
theorem chain_enters {x : Exchange} {endpoint : Run σ → Outcome Response × Run σ}
    {inner : List (Stage (Moment σ))} (hendpoint : Enters x endpoint inner)
    (i : Nat) (codes : List (Middleware σ)) :
    Enters x (chain x endpoint i codes) (Stage.chain i codes ++ inner) := by
  intro r
  induction codes generalizing i r with
  | nil => exact hendpoint (r.log endpointEvent)
  | cons m rest ih =>
      obtain ⟨outcome, after, henter, hturn, hvisits⟩ :=
        enter_eq x (.middleware i) (m.enter rest.length)
          (r.log (middlewareEvent m.name i))
      have hmoment : Code.turn (m.enter rest.length) (r.moment x) =
          (outcome, after.moment x) := hturn
      have hnoted : after.visits = r.visits ++ [.middleware i] := hvisits
      simp only [chain, henter, Stage.chain, List.cons_append, Stage.entered,
        Stage.middleware, hmoment]
      cases outcome with
      | failed e => exact hnoted
      | panicked text => exact hnoted
      | done entry =>
          cases entry with
          | answer response => exact hnoted
          | proceed resume =>
              have hrest := ih (i + 1) after
              rw [hnoted, List.append_assoc] at hrest
              dsimp only
              cases hchain : chain x endpoint (i + 1) rest after with
              | mk ended last =>
                  rw [hchain] at hrest
                  cases ended <;> exact hrest

theorem handle_enters (x : Exchange) (code : Handler σ) :
    Enters x (handle x code) [Stage.handler] := by
  intro r
  obtain ⟨outcome, after, henter, -, hvisits⟩ := enter_eq x .handler code r
  simp only [handle, henter, Stage.entered, Stage.handler]
  cases outcome with
  | done reply =>
      dsimp only
      split <;> exact hvisits
  | failed e => exact hvisits
  | panicked text => exact hvisits

/-- After hooks give a response exactly if all of them go on, the one that the
last of them has given. -/
theorem afterHooks_eq (x : Exchange) (place : Nat → Place) (i : Nat)
    (codes : List (AfterHook σ)) (response : Response) (r : Run σ) :
    ∃ outcome after, afterHooks x place i codes response r = (outcome, after) ∧
      after.visits = r.visits ++ (Stage.entered (Stage.afterHooks place i codes)
        (response, r.moment x)).map (·.1) ∧
      ((∃ last, outcome = .done last ∧
          Stage.passed (Stage.afterHooks place i codes) (response, r.moment x) =
            some (last, after.moment x)) ∨
        (∀ last, outcome ≠ .done last) ∧
          Stage.passed (Stage.afterHooks place i codes)
            (response, r.moment x) = none) := by
  induction codes generalizing i response r with
  | nil =>
      exact ⟨_, r, rfl, by simp [Stage.numbered, Stage.entered],
        Or.inl ⟨response, rfl, rfl⟩⟩
  | cons code rest ih =>
      obtain ⟨outcome, after, henter, hturn, hvisits⟩ :=
        enter_eq x (place i) (code response) r
      simp only [afterHooks, henter, Stage.numbered, Stage.entered,
        Stage.passed, Stage.afterHook, hturn]
      cases outcome with
      | failed e => exact ⟨_, after, rfl, hvisits, Or.inr ⟨by simp, rfl⟩⟩
      | panicked text => exact ⟨_, after, rfl, hvisits, Or.inr ⟨by simp, rfl⟩⟩
      | done next =>
          obtain ⟨ended, last, hrest, hplaces, hgone⟩ := ih (i + 1) next after
          refine ⟨ended, last, hrest, ?_, hgone⟩
          rw [hplaces, hvisits, List.append_assoc]
          rfl

end Run

end Trellis
