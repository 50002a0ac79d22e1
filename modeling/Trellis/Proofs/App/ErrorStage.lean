import Trellis.Proofs.App.Answer
/-!
The way of an error.  It is put to the error hooks in order, up to the first that does not defer, and what that
one gives is the answer.  An error that all hooks leave is answered by the framework: if it is the server's fault
the answer tells nothing of it but the status code.
-/

namespace Trellis

namespace Run

variable {σ α : Type} {x : Exchange} {r after : Run σ}

/-- A call notes its place. -/
theorem visits_of_call {place : Place} {code : Code σ α}
    {launched : Except String (Action σ α)} (hcall : call x place code r = (launched, after)) :
    after.visits = r.visits ++ [place] := by
  obtain rfl : (call x place code r).2 = after := by rw [hcall]
  rfl

/-- What a call has started notes nothing. -/
theorem visits_of_perform {action : Action σ α} {outcome : Outcome α}
    (hperform : perform x action r = (outcome, after)) : after.visits = r.visits := by
  obtain rfl : (perform x action r).2 = after := by rw [hperform]
  rfl

end Run

namespace App

variable {σ : Type}

/-- The first error hook that does not defer once it runs: how many hooks are before
it, and how it ends. -/
inductive Stops (x : Exchange) (e : Error) :
    Nat → List (ErrorHook σ) → Run σ → Nat → Outcome (Option Response) → Prop
  | here {i hook rest action r r₁ outcome last} :
      Run.call x (.errorHook i) (hook e) r = (.ok action, r₁) →
      Run.perform x action r₁ = (outcome, last) → outcome ≠ .done none →
      Stops x e i (hook :: rest) r 0 outcome
  | later {i hook rest action r r₁ r₂ n outcome} :
      Run.call x (.errorHook i) (hook e) r = (.ok action, r₁) →
      Run.perform x action r₁ = (.done none, r₂) →
      Stops x e (i + 1) rest r₂ n outcome → Stops x e i (hook :: rest) r (n + 1) outcome

/-- Error hooks whose calls do not panic all defer, or one is the first that does
not. -/
theorem deferred_or_stops {e : Error} {hooks : List (ErrorHook σ)}
    (hcalls : ∀ hook ∈ hooks, ∀ m text, (hook e m).action ≠ .error text) (x : Exchange)
    (i : Nat) (r : Run σ) :
    (∃ last, Deferred x e i hooks r last) ∨
      ∃ n outcome, Stops x e i hooks r n outcome := by
  induction hooks generalizing i r with
  | nil => exact Or.inl ⟨r, Deferred.nil⟩
  | cons hook rest ih =>
      obtain ⟨hhook, hrest⟩ := List.forall_mem_cons.mp hcalls
      cases hcall : Run.call x (.errorHook i) (hook e) r with
      | mk launched called =>
          cases launched with
          | error text => exact absurd (congrArg Prod.fst hcall) (hhook _ text)
          | ok action =>
              cases hperform : Run.perform x action called with
              | mk outcome after =>
                  by_cases hdefers : outcome = .done none
                  · subst hdefers
                    rcases ih hrest (i + 1) after with
                      ⟨last, hdeferred⟩ | ⟨n, outcome, hstops⟩
                    · exact Or.inl ⟨last, Deferred.cons hcall hperform hdeferred⟩
                    · exact Or.inr ⟨n + 1, outcome, Stops.later hcall hperform hstops⟩
                  · exact Or.inr ⟨0, outcome, Stops.here hcall hperform hdefers⟩

/-- Hooks that defer are entered once each, in order. -/
theorem Deferred.visits {x : Exchange} {e : Error} {i : Nat} {hooks : List (ErrorHook σ)}
    {r last : Run σ} (hdeferred : Deferred x e i hooks r last) :
    last.visits = r.visits ++ (List.range' i hooks.length).map .errorHook := by
  induction hdeferred with
  | nil => simp
  | cons hcall hperform _ ih =>
      rw [ih, Run.visits_of_perform hperform, Run.visits_of_call hcall, List.append_assoc,
        List.length_cons, List.range'_succ]
      rfl

/-- The hooks up to the first that does not defer are entered, and what that one
gives is the answer. -/
theorem askErrorHooks_of_stops {x : Exchange} {e : Error} {i n : Nat}
    {hooks : List (ErrorHook σ)} {r : Run σ} {outcome : Outcome (Option Response)}
    (hstops : Stops x e i hooks r n outcome) :
    (askErrorHooks x e i hooks r).2.visits =
      r.visits ++ (List.range' i (n + 1)).map .errorHook ∧
    (∀ response, outcome = .done (some response) →
      (askErrorHooks x e i hooks r).1 = .response response) ∧
    (∀ fault, outcome.error? = some fault →
      (askErrorHooks x e i hooks r).1 = .response (Response.bare 500)) := by
  induction hstops with
  | @here _ hook _ _ _ called outcome last hcall hperform hstopped =>
      have hvisits : last.visits = _ :=
        (Run.visits_of_perform hperform).trans (Run.visits_of_call hcall)
      rw [askErrorHooks_of_call _ hcall hperform]
      rcases outcome with (_ | response) | fault | text
      · exact absurd rfl hstopped
      · refine ⟨hvisits, fun given hgiven => ?_, fun _ hfault => ?_⟩
        · obtain rfl := Option.some.inj (Outcome.done.inj hgiven)
          rfl
        · contradiction
      · exact ⟨hvisits, fun _ hgiven => by contradiction, fun _ _ => rfl⟩
      · exact ⟨hvisits, fun _ hgiven => by contradiction, fun _ _ => rfl⟩
  | later hcall hperform _ ih =>
      rw [askErrorHooks_of_call _ hcall hperform]
      dsimp only
      obtain ⟨hvisits, hends⟩ := ih
      refine ⟨?_, hends⟩
      rw [hvisits, Run.visits_of_perform hperform, Run.visits_of_call hcall,
        List.append_assoc, List.range'_succ]
      rfl

end App

/-! The answers of the framework itself. -/

theorem defaultErrorResponse_of_isServerError {e : Error} (hserver : e.isServerError) :
    defaultErrorResponse e = Response.json e.status.code
      (Json.ofFields [("error", .string "Internal Server Error")]) := by
  unfold defaultErrorResponse
  split
  · exact absurd hserver Bool.false_ne_true
  · exact if_pos hserver

theorem Status.not_isServerError {status : Status} (hclient : status.isClientError) :
    ¬ status.isServerError := by
  simp only [isClientError, isServerError, Bool.and_eq_true, decide_eq_true_eq] at hclient ⊢
  omega

/-- The faults that are told by their text alone are those whose status is the
client's fault. -/
theorem Error.clientMessage_fault (kind : Fault) (text : String) :
    (fault kind text).clientMessage =
      if kind.status.isClientError then text else (fault kind text).message := by
  cases kind <;> rfl

/-- A client is told what is wrong with its request: what validation found, or the
text of the error. -/
theorem defaultErrorResponse_of_isClientError {e : Error} (hclient : e.isClientError) :
    (∃ errors, e = .validation errors ∧ defaultErrorResponse e =
      Response.json e.status.code (Json.ofFields
        [("details", errors.toJson), ("error", .string "Validation Error")])) ∨
    ∃ kind text, e = .fault kind text ∧ defaultErrorResponse e =
      Response.json e.status.code (Json.ofFields
        [("error", .string e.status.reason), ("message", .string text)]) := by
  cases e with
  | validation errors => exact Or.inl ⟨errors, rfl, rfl⟩
  | fault kind text =>
      have hmessage : (Error.fault kind text).clientMessage = text := by
        rw [Error.clientMessage_fault]
        exact if_pos hclient
      have hserver : ¬ (Error.fault kind text).isServerError :=
        Status.not_isServerError hclient
      refine Or.inr ⟨kind, text, rfl, (if_neg hserver).trans ?_⟩
      rw [hmessage]
  | _ => exact absurd hclient Bool.false_ne_true

namespace App

variable {σ : Type}

/-- What becomes of an error.  Error hooks whose calls do not panic all defer, or one
is the first that does not, and no other hook is entered after it.  If all defer the
framework answers; otherwise the response of that hook is the answer as it is, and if
the hook fails or panics the answer is a bare 500.  Errors of the server with one
status code are answered alike by the framework, and errors of a client by what they
say. -/
theorem handleError_in_order (app : App σ) (x : Exchange) (e : Error) (r : Run σ) :
    let start := r.log (errorEvent e)
    let ended := app.handleError x e r
    ((∀ hook ∈ app.hooks.error, ∀ m text, (hook e m).action ≠ .error text) →
      (∃ last, Deferred x e 0 app.hooks.error start last) ∨
        ∃ n outcome, Stops x e 0 app.hooks.error start n outcome) ∧
    (∀ last, Deferred x e 0 app.hooks.error start last →
      ended.2.visits =
          r.visits ++ (List.range app.hooks.error.length).map .errorHook ∧
        ended.1 = .response (defaultErrorResponse e)) ∧
    (∀ n outcome, Stops x e 0 app.hooks.error start n outcome →
      ended.2.visits = r.visits ++ (List.range (n + 1)).map .errorHook ∧
        (∀ response, outcome = .done (some response) → ended.1 = .response response) ∧
        ∀ fault, outcome.error? = some fault →
          ended.1 = .response (Response.bare 500)) ∧
    (∀ other : Error, e.isServerError → other.isServerError →
      e.status.code = other.status.code →
        defaultErrorResponse e = defaultErrorResponse other) ∧
    (e.isClientError →
      (∃ errors, e = .validation errors ∧ defaultErrorResponse e =
        Response.json e.status.code (Json.ofFields
          [("details", errors.toJson), ("error", .string "Validation Error")])) ∨
      ∃ kind text, e = .fault kind text ∧ defaultErrorResponse e =
        Response.json e.status.code (Json.ofFields
          [("error", .string e.status.reason), ("message", .string text)])) := by
  intro start ended
  refine ⟨fun hcalls => deferred_or_stops hcalls x 0 start, ?deferred, ?stops, ?server,
    defaultErrorResponse_of_isClientError⟩
  case deferred =>
    intro last hdeferred
    have hask := askErrorHooks_of_deferred hdeferred []
    rw [List.append_nil] at hask
    have hended : ended = (.response (defaultErrorResponse e), last) := hask
    rw [hended, List.range_eq_range']
    exact ⟨hdeferred.visits, rfl⟩
  case stops =>
    intro n outcome hstops
    rw [List.range_eq_range']
    exact askErrorHooks_of_stops hstops
  case server =>
    intro other hserver hother hcode
    rw [defaultErrorResponse_of_isServerError hserver,
      defaultErrorResponse_of_isServerError hother, hcode]

/-- The second of three hooks fails: its error is not told, and the third is not
entered. -/
theorem handleError_in_order_failing :
    let ends := fun (outcome : Outcome (Option Response)) (_ : Error) (m : Moment Unit) =>
      Launch.mk [] m.own (.ok fun m => ⟨[], m.own, outcome⟩)
    let app := (((App.new .standard).onError (ends (.done none))).onError
      (ends (.failed (.fault .internal "hook broke")))).onError
        (ends (.done (some (Response.bare 418))))
    let x := app.exchange (Request.new "GET" "/") "/" none Params.empty
    let e := Error.fault .forbidden "no"
    let ended := app.handleError x e (Run.start app.state ())
    ended.1 = .response (Response.bare 500) ∧
      ended.2.visits = [.errorHook 0, .errorHook 1] ∧
      defaultErrorResponse e = Response.json 403 (Json.ofFields
        [("error", .string "Forbidden"), ("message", .string "no")]) ∧
      defaultErrorResponse (.custom "disk") = defaultErrorResponse (.fault .panic "boom") := by
  intro ends app x e ended
  obtain ⟨-, -, hstops, -, hclient⟩ := handleError_in_order app x e (Run.start app.state ())
  obtain ⟨hvisits, -, hfails⟩ := hstops 1 (.failed (.fault .internal "hook broke"))
    (Stops.later rfl rfl (Stops.here rfl rfl (by simp)))
  obtain ⟨-, -, -, hserver, -⟩ :=
    handleError_in_order app x (.custom "disk") (Run.start app.state ())
  refine ⟨hfails _ rfl, hvisits, ?_, hserver (.fault .panic "boom") rfl rfl rfl⟩
  rcases hclient rfl with ⟨errors, hvalidation, -⟩ | ⟨kind, text, hfault, hresponse⟩
  · contradiction
  · obtain ⟨rfl, rfl⟩ := Error.fault.inj hfault
    exact hresponse

end App

end Trellis
