import Trellis.App.Handle
import Trellis.App.Register
/-!
When serving a request ends with a response.  Everything that goes wrong outside of the error hooks comes to
them as an error.  What is not caught is a panic in the call of an error hook or of the not-found hook, before
there is anything to run.
-/

namespace Trellis

/-- The error that code ends with; a panic counts as one. -/
def Outcome.error? {α : Type} : Outcome α → Option Error
  | .done _ => none
  | .failed e => some e
  | .panicked text => some (.fault .panic text)

/-- What a request is matched to. -/
inductive Matched (σ : Type)
  | route (route : Route σ) (segments : List String) (x : Exchange)
  | nothing (allowed : List Method) (x : Exchange)

namespace App

variable {σ : Type}

/-- The segments of a request's path, below the base path if it lies there. -/
def segmentsOf (app : App σ) (request : Request) : List String :=
  (app.relative? (Path.split request.path)).getD (Path.split request.path)

def resolution (app : App σ) (request : Request) : Resolution (Route σ) :=
  match Method.ofRequest? request.method, app.relative? (Path.split request.path) with
  | some m, some segments => app.resolve m segments
  | _, _ => .notFound

/-- The route of a request and its exchange, or the methods that its path is
known with. -/
def matched (app : App σ) (request : Request) : Matched σ :=
  let path := Path.join (app.segmentsOf request)
  match app.resolution request with
  | .found found =>
    .route found.value ((app.relative? (Path.split request.path)).getD [])
      (app.exchange request path (some found.pattern.raw) found.params)
  | .methodNotAllowed allowed =>
    .nothing allowed (app.exchange request path none Params.empty)
  | .notFound => .nothing [] (app.exchange request path none Params.empty)

theorem handle_eq (app : App σ) (request : Request) (own : σ) :
    app.handle request own =
      match app.matched request with
      | .route route segments x =>
        let ended := app.pipeline route segments x (Run.start app.state own)
        app.conclude ended.2.1 (ended.1, ended.2.2)
      | .nothing allowed x => app.notFound x allowed (Run.start app.state own) := by
  have hserve : app.handle request own =
      match app.resolution request with
      | .found found =>
        let ended := app.pipeline found.value
          ((app.relative? (Path.split request.path)).getD [])
          (app.exchange request (Path.join (app.segmentsOf request))
            (some found.pattern.raw) found.params) (Run.start app.state own)
        app.conclude ended.2.1 (ended.1, ended.2.2)
      | .methodNotAllowed allowed =>
        app.notFound (app.exchange request (Path.join (app.segmentsOf request))
          none Params.empty) allowed (Run.start app.state own)
      | .notFound =>
        app.notFound (app.exchange request (Path.join (app.segmentsOf request))
          none Params.empty) [] (Run.start app.state own) := rfl
  rw [hserve, matched]
  cases app.resolution request <;> rfl

theorem conclude_of_error {app : App σ} {x : Exchange}
    {outcome : Outcome Response} {e : Error} (herror : outcome.error? = some e)
    (r : Run σ) : app.conclude x (outcome, r) = app.handleError x e r := by
  cases outcome with
  | done response => contradiction
  | failed e =>
      obtain rfl := Option.some.inj herror
      rfl
  | panicked text =>
      obtain rfl := Option.some.inj herror
      rfl

theorem conclude_of_done {app : App σ} {x : Exchange}
    {ended : Outcome Response × Run σ} {response : Response}
    (hdone : ended.1 = .done response) :
    app.conclude x ended = (.response response, ended.2) := by
  obtain ⟨outcome, r⟩ := ended
  obtain rfl : outcome = .done response := hdone
  rfl

/-- The run in which the not-found hook is called. -/
def unmatchedRun (app : App σ) (x : Exchange) (own : σ) : Run σ :=
  (Run.start app.state own).log ⟨.debug, "No route matched", [("path", x.path)]⟩

section Serving

variable (app : App σ) (request : Request) (own : σ)

/-- Serving a request comes to an error: some code of the pipeline fails or
panics, or what the not-found hook has started does. -/
inductive Raises : Exchange → Error → Run σ → Prop
  | pipeline {route segments x₀ outcome x e r} :
      app.matched request = .route route segments x₀ →
      app.pipeline route segments x₀ (Run.start app.state own) = (outcome, x, r) →
      outcome.error? = some e → Raises x e r
  | notFoundHook {allowed x hook action r₀ outcome e r} :
      app.matched request = .nothing allowed x →
      app.hooks.notFound = some hook →
      Run.call x .notFoundHook hook (app.unmatchedRun x own) = (.ok action, r₀) →
      Run.perform x action r₀ = (outcome, r) →
      outcome.error? = some e → Raises x e r

end Serving

/-- Error hooks that run and give no response, from one run to another. -/
inductive Deferred (x : Exchange) (e : Error) :
    Nat → List (ErrorHook σ) → Run σ → Run σ → Prop
  | nil {i r} : Deferred x e i [] r r
  | cons {i hook rest action r r₁ r₂ last} :
      Run.call x (.errorHook i) (hook e) r = (.ok action, r₁) →
      Run.perform x action r₁ = (.done none, r₂) →
      Deferred x e (i + 1) rest r₂ last → Deferred x e i (hook :: rest) r last

/-- An error hook is asked: serving comes to an error, and the hooks before it
give no response. -/
def Asks (app : App σ) (request : Request) (own : σ) (i : Nat)
    (hook : ErrorHook σ) (x : Exchange) (e : Error) (r : Run σ) : Prop :=
  ∃ earlier later raised, app.hooks.error = earlier ++ hook :: later ∧
    earlier.length = i ∧ app.Raises request own x e raised ∧
    Deferred x e 0 earlier (raised.log (errorEvent e)) r

/-- The call of an error hook or of the not-found hook panics. -/
inductive CallPanics (app : App σ) (request : Request) (own : σ) : String → Prop
  | errorHook {i hook x e r text} :
      app.Asks request own i hook x e r →
      (Run.call x (.errorHook i) (hook e) r).1 = .error text →
      CallPanics app request own text
  | notFoundHook {allowed x hook text} :
      app.matched request = .nothing allowed x →
      app.hooks.notFound = some hook →
      (Run.call x .notFoundHook hook (app.unmatchedRun x own)).1 = .error text →
      CallPanics app request own text

theorem notFound_eq {app : App σ} {hook : NotFoundHook σ}
    (hhook : app.hooks.notFound = some hook) (x : Exchange)
    (allowed : List Method) (own : σ) :
    app.notFound x allowed (Run.start app.state own) =
      match Run.call x .notFoundHook hook (app.unmatchedRun x own) with
      | (.error text, r) => (.escaped text, r)
      | (.ok action, r) => app.conclude x (Run.perform x action r) := by
  unfold notFound
  rw [hhook]
  rfl

/-- Whatever goes wrong in the pipeline or in the not-found hook goes to the
error hooks. -/
theorem handle_of_raises {app : App σ} {request : Request} {own : σ}
    {x : Exchange} {e : Error} {r : Run σ} (hraises : app.Raises request own x e r) :
    app.handle request own = app.handleError x e r := by
  rw [handle_eq]
  cases hraises with
  | pipeline hmatched hpipeline herror =>
      rw [hmatched]
      dsimp only
      rw [hpipeline]
      exact conclude_of_error herror r
  | notFoundHook hmatched hhook hcall hperform herror =>
      rw [hmatched]
      dsimp only
      rw [notFound_eq hhook, hcall]
      dsimp only
      rw [hperform]
      exact conclude_of_error herror r

/-- What comes of an error hook, as what its call has started ends. -/
theorem askErrorHooks_of_call {x : Exchange} {e : Error} {i : Nat} {hook : ErrorHook σ}
    {r called after : Run σ} {action : Action σ (Option Response)}
    {outcome : Outcome (Option Response)} (rest : List (ErrorHook σ))
    (hcall : Run.call x (.errorHook i) (hook e) r = (.ok action, called)) :
    Run.perform x action called = (outcome, after) →
      askErrorHooks x e i (hook :: rest) r =
        match outcome with
        | .done (some response) => (.response response, after)
        | .done none => askErrorHooks x e (i + 1) rest after
        | .failed fault => (.response bareFailure, after.log (hookFailedEvent fault))
        | .panicked text => (.response bareFailure, after.log (hookPanickedEvent text)) := by
  intro hperform
  rw [askErrorHooks, hcall]
  dsimp only
  rw [hperform]
  rcases outcome with (_ | response) | fault | text <;> rfl

/-- Error hooks that give no response leave the error to the hooks after
them. -/
theorem askErrorHooks_of_deferred {x : Exchange} {e : Error} {i : Nat}
    {earlier : List (ErrorHook σ)} {r last : Run σ}
    (hdeferred : Deferred x e i earlier r last) (later : List (ErrorHook σ)) :
    askErrorHooks x e i (earlier ++ later) r =
      askErrorHooks x e (i + earlier.length) later last := by
  induction hdeferred with
  | nil => rfl
  | @cons i hook rest _ _ _ _ _ hcall hperform _ ih =>
      rw [List.cons_append, askErrorHooks_of_call _ hcall hperform]
      dsimp only
      rw [ih, List.length_cons, Nat.add_right_comm, Nat.add_assoc]

theorem handle_of_asks {app : App σ} {request : Request} {own : σ} {i : Nat}
    {hook : ErrorHook σ} {x : Exchange} {e : Error} {r : Run σ}
    (hasks : app.Asks request own i hook x e r) :
    ∃ later, app.handle request own =
      askErrorHooks x e i (hook :: later) r := by
  obtain ⟨earlier, later, raised, hhooks, rfl, hraises, hdeferred⟩ := hasks
  refine ⟨later, ?_⟩
  rw [handle_of_raises hraises, handleError, hhooks,
    askErrorHooks_of_deferred hdeferred, Nat.zero_add]

/-- An error hook that fails or panics while it runs gives the bare response. -/
theorem handle_of_failing_hook {app : App σ} {request : Request} {own : σ}
    {i : Nat} {hook : ErrorHook σ} {x : Exchange} {e fault : Error} {r r₁ : Run σ}
    (hasks : app.Asks request own i hook x e r)
    {action : Action σ (Option Response)}
    (hcall : Run.call x (.errorHook i) (hook e) r = (.ok action, r₁))
    (hfault : (Run.perform x action r₁).1.error? = some fault) :
    (app.handle request own).1 = .response (Response.bare 500) := by
  obtain ⟨later, hhandle⟩ := handle_of_asks hasks
  cases hperform : Run.perform x action r₁ with
  | mk outcome last =>
      rw [hperform] at hfault
      rw [hhandle, askErrorHooks_of_call _ hcall hperform]
      cases outcome with
      | done response => contradiction
      | failed e => rfl
      | panicked text => rfl

/-- What comes of asking one error hook: its call panics, or there is a
response, or the hooks after it are asked. -/
theorem askErrorHooks_cases (x : Exchange) (e : Error) (i : Nat)
    (hook : ErrorHook σ) (rest : List (ErrorHook σ)) (r : Run σ) :
    (∃ text last, Run.call x (.errorHook i) (hook e) r = (.error text, last) ∧
      askErrorHooks x e i (hook :: rest) r = (.escaped text, last)) ∨
    (∃ response last,
      askErrorHooks x e i (hook :: rest) r = (.response response, last)) ∨
    ∃ action r₁ r₂, Run.call x (.errorHook i) (hook e) r = (.ok action, r₁) ∧
      Run.perform x action r₁ = (.done none, r₂) ∧
      askErrorHooks x e i (hook :: rest) r = askErrorHooks x e (i + 1) rest r₂ := by
  rw [askErrorHooks]
  obtain ⟨launched, r₁⟩ := Run.call x (.errorHook i) (hook e) r
  cases launched with
  | error text => exact Or.inl ⟨text, r₁, rfl, rfl⟩
  | ok action =>
      dsimp only
      cases hperform : Run.perform x action r₁ with
      | mk outcome r₂ =>
          cases outcome with
          | failed e => exact Or.inr (Or.inl ⟨_, _, rfl⟩)
          | panicked text => exact Or.inr (Or.inl ⟨_, _, rfl⟩)
          | done answer =>
              cases answer with
              | some response => exact Or.inr (Or.inl ⟨response, r₂, rfl⟩)
              | none =>
                  exact Or.inr (Or.inr ⟨action, r₁, r₂, rfl, hperform, rfl⟩)

/-- A panic that leaves the error hooks comes from the call of one of them. -/
theorem askErrorHooks_escaped {x : Exchange} {e : Error} {i : Nat}
    {hooks : List (ErrorHook σ)} {r : Run σ} {text : String}
    (hescaped : (askErrorHooks x e i hooks r).1 = .escaped text) :
    ∃ earlier hook later last, hooks = earlier ++ hook :: later ∧
      Deferred x e i earlier r last ∧
      (Run.call x (.errorHook (i + earlier.length)) (hook e) last).1 =
        .error text := by
  induction hooks generalizing i r with
  | nil => contradiction
  | cons hook rest ih =>
      rcases askErrorHooks_cases x e i hook rest r with
        ⟨panic, last, hcall, hask⟩ | ⟨response, last, hask⟩ |
        ⟨action, r₁, r₂, hcall, hperform, hask⟩
      · rw [hask] at hescaped
        obtain rfl := Answer.escaped.inj hescaped
        refine ⟨[], hook, rest, r, rfl, Deferred.nil, ?_⟩
        rw [List.length_nil, Nat.add_zero, hcall]
      · rw [hask] at hescaped
        contradiction
      · rw [hask] at hescaped
        obtain ⟨earlier, asked, later, last, rfl, hdeferred, hpanic⟩ :=
          ih hescaped
        refine ⟨hook :: earlier, asked, later, last, rfl,
          Deferred.cons hcall hperform hdeferred, ?_⟩
        rw [List.length_cons, Nat.add_comm earlier.length, ← Nat.add_assoc]
        exact hpanic

theorem callPanics_of_raises {app : App σ} {request : Request} {own : σ}
    {x : Exchange} {e : Error} {r : Run σ} (hraises : app.Raises request own x e r)
    {text : String} (hescaped : (app.handleError x e r).1 = .escaped text) :
    app.CallPanics request own text := by
  obtain ⟨earlier, hook, later, last, hhooks, hdeferred, hpanic⟩ :=
    askErrorHooks_escaped hescaped
  rw [Nat.zero_add] at hpanic
  exact CallPanics.errorHook
    ⟨earlier, later, r, hhooks, rfl, hraises, hdeferred⟩ hpanic

theorem conclude_escaped {app : App σ} {x : Exchange}
    {outcome : Outcome Response} {r : Run σ} {text : String}
    (hescaped : (app.conclude x (outcome, r)).1 = .escaped text) :
    ∃ e, outcome.error? = some e ∧ (app.handleError x e r).1 = .escaped text := by
  cases outcome with
  | done response => contradiction
  | failed e => exact ⟨e, rfl, hescaped⟩
  | panicked panic => exact ⟨.fault .panic panic, rfl, hescaped⟩

/-- The panics that leave the service of a request are those of the calls of
error hooks and of the not-found hook. -/
theorem handle_escaped_iff {app : App σ} {request : Request} {own : σ}
    {text : String} :
    (app.handle request own).1 = .escaped text ↔
      app.CallPanics request own text := by
  constructor
  · intro hescaped
    rw [handle_eq] at hescaped
    cases hmatched : app.matched request with
    | route route segments x =>
        rw [hmatched] at hescaped
        obtain ⟨e, herror, hescaped⟩ := conclude_escaped hescaped
        exact callPanics_of_raises (Raises.pipeline hmatched rfl herror) hescaped
    | nothing allowed x =>
        rw [hmatched] at hescaped
        dsimp only at hescaped
        cases hhook : app.hooks.notFound with
        | none =>
            unfold notFound at hescaped
            rw [hhook] at hescaped
            contradiction
        | some hook =>
            rw [notFound_eq hhook] at hescaped
            cases hcall : Run.call x .notFoundHook hook
                (app.unmatchedRun x own) with
            | mk launched r =>
                rw [hcall] at hescaped
                cases launched with
                | error panic =>
                    obtain rfl := Answer.escaped.inj hescaped
                    exact CallPanics.notFoundHook hmatched hhook (by rw [hcall])
                | ok action =>
                    obtain ⟨e, herror, hescaped⟩ := conclude_escaped hescaped
                    exact callPanics_of_raises
                      (Raises.notFoundHook hmatched hhook hcall rfl herror)
                      hescaped
  · intro hpanics
    cases hpanics with
    | @errorHook i hook x e r _ hasks hpanic =>
        obtain ⟨later, hhandle⟩ := handle_of_asks hasks
        rw [hhandle, askErrorHooks]
        generalize Run.call x (.errorHook i) (hook e) r = called at hpanic
        obtain ⟨launched, last⟩ := called
        obtain rfl : launched = .error text := hpanic
        rfl
    | @notFoundHook allowed x hook _ hmatched hhook hpanic =>
        rw [handle_eq, hmatched]
        dsimp only
        rw [notFound_eq hhook]
        generalize Run.call x .notFoundHook hook (app.unmatchedRun x own) =
          called at hpanic
        obtain ⟨launched, last⟩ := called
        obtain rfl : launched = .error text := hpanic
        rfl

/-- An application whose error hooks and not-found hook never panic in their
calls answers every request. -/
theorem handle_answers {app : App σ}
    (herror : ∀ hook ∈ app.hooks.error, ∀ e m text,
      (hook e m).action ≠ .error text)
    (hnotFound : ∀ hook, app.hooks.notFound = some hook → ∀ m text,
      (hook m).action ≠ .error text)
    (request : Request) (own : σ) :
    ∃ response, (app.handle request own).1 = .response response := by
  cases hanswer : (app.handle request own).1 with
  | response response => exact ⟨response, rfl⟩
  | escaped text =>
      cases handle_escaped_iff.mp hanswer with
      | errorHook hasks hpanic =>
          obtain ⟨earlier, later, _, hhooks, _⟩ := hasks
          have hmem : _ ∈ app.hooks.error := hhooks ▸ List.mem_append_cons_self
          exact absurd hpanic (herror _ hmem _ _ _)
      | notFoundHook _ hhook hpanic =>
          exact absurd hpanic (hnotFound _ hhook _ _)

/-- When serving ends with a response: exactly if no call of an error hook or
of the not-found hook panics.  In any case an error hook that fails or panics
while it runs gives a bare 500 without body, and what goes wrong in the
pipeline or in the not-found hook is put to the error hooks. -/
theorem handle_answers_iff (app : App σ) (request : Request) (own : σ) :
    ((∃ response, (app.handle request own).1 = .response response) ↔
      ∀ text, ¬ app.CallPanics request own text) ∧
    (∀ i hook x e r action r₁ fault, app.Asks request own i hook x e r →
      Run.call x (.errorHook i) (hook e) r = (.ok action, r₁) →
        (Run.perform x action r₁).1.error? = some fault →
          (app.handle request own).1 = .response (Response.bare 500)) ∧
    (∀ x e r, app.Raises request own x e r →
      app.handle request own = app.handleError x e r) := by
  refine ⟨?_, ?_, fun x e r hraises => handle_of_raises hraises⟩
  · constructor
    · rintro ⟨response, hresponse⟩ text hpanics
      rw [handle_escaped_iff.mpr hpanics] at hresponse
      contradiction
    · intro hquiet
      cases hanswer : (app.handle request own).1 with
      | response response => exact ⟨response, rfl⟩
      | escaped text => exact absurd (handle_escaped_iff.mp hanswer) (hquiet text)
  · intro i hook x e r action r₁ fault hasks hcall hfault
    exact handle_of_failing_hook hasks hcall hfault

/-- Without routes a request is matched to nothing. -/
theorem matched_of_no_routes (app : App σ) (hrouter : app.router = Router.empty)
    (hcompiled : app.isCompiled = false) (request : Request) :
    ∃ x, app.matched request = .nothing [] x := by
  have hresolve : ∀ m segments, app.resolve m segments = .notFound := by
    intro m segments
    simp only [resolve, hcompiled, hrouter]
    cases segments <;> rfl
  have hresolution : app.resolution request = .notFound := by
    unfold resolution
    split
    · exact hresolve _ _
    · rfl
  rw [matched, hresolution]
  exact ⟨_, rfl⟩

/-- A not-found hook and an error hook that panic when they are called: the
request has no answer. -/
theorem handle_escapes :
    let unmatched : App Unit :=
      (App.new .standard).onNotFound fun m => ⟨[], m.own, .error "boom"⟩
    let failing : App Unit :=
      ((App.new .standard).onNotFound fun m =>
        ⟨[], m.own, .ok fun m => ⟨[], m.own, .panicked "down"⟩⟩).onError
          fun _ m => ⟨[], m.own, .error "boom"⟩
    (unmatched.handle (Request.new "GET" "/missing") ()).1 = .escaped "boom" ∧
      (failing.handle (Request.new "GET" "/missing") ()).1 = .escaped "boom" := by
  intro unmatched failing
  constructor
  · obtain ⟨x, hx⟩ := matched_of_no_routes unmatched rfl rfl
      (Request.new "GET" "/missing")
    rw [handle_eq, hx]
    rfl
  · obtain ⟨x, hx⟩ := matched_of_no_routes failing rfl rfl
      (Request.new "GET" "/missing")
    rw [handle_eq, hx]
    rfl

end App

end Trellis
