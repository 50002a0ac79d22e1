import Trellis.Proofs.App.Matched
import Trellis.Proofs.App.Seeing
/-!
Validation as a gate.  It judges params, query and body in this order, up to the first that does not pass.  Code of
the application is entered only behind it, and sees what it has left.
-/

namespace Trellis

/-- An input passes its check; the checker, if there is one, gives its value. -/
inductive Passes (label : String) (input : Option Json) :
    Option Checker → Option Json → Prop
  | unchecked : Passes label input none none
  | checked {c : Checker} {value : Json}
      (hvalue : c.checkInput input label = .ok value) :
      Passes label input (some c) (some value)

/-- A checker rejects an input. -/
inductive Rejects (label : String) (input : Option Json) :
    Option Checker → ValidationErrors → Prop
  | checked {c : Checker} {errors : ValidationErrors}
      (herrors : c.checkInput input label = .error errors) :
      Rejects label input (some c) errors

theorem Rejects.isSome {label : String} {input : Option Json}
    {checker : Option Checker} {errors : ValidationErrors}
    (hrejects : Rejects label input checker errors) : checker.isSome := by
  cases hrejects
  rfl

theorem Rejects.not_passes {label : String} {input : Option Json}
    {checker : Option Checker} {errors : ValidationErrors}
    (hrejects : Rejects label input checker errors) (value : Option Json) :
    ¬Passes label input checker value := by
  intro hpasses
  cases hrejects with
  | checked herrors =>
      cases hpasses with
      | checked hvalue =>
          rw [herrors] at hvalue
          contradiction

namespace Exchange

def PassesParams (x : Exchange) (checkers : RouteCheckers) (value : Option Json) :
    Prop := Passes "params" (some x.params.toJson) checkers.params value

def PassesQuery (x : Exchange) (checkers : RouteCheckers) (value : Option Json) :
    Prop := Passes "query" (some (.object x.query)) checkers.query value

/-- The body passes: without a checker it is not looked at, and with one it has
a value, which the checker takes. -/
inductive PassesBody (x : Exchange) : Option Checker → Option Json → Prop
  | unchecked : PassesBody x none none
  | checked {c : Checker} {body : Body} {value : Option Json}
      (hbody : x.parsedBody = .ok body) (hvalue : ∀ bytes, body ≠ .binary bytes)
      (hpasses : Passes "body" body.toJson? (some c) value) :
      PassesBody x (some c) value

/-- Why a checker cannot be asked about the body: it does not decode, or has no
value. -/
inductive Unreadable (x : Exchange) : Error → Prop
  | undecodable {fault : BodyFault} (hbody : x.parsedBody = .error fault) :
      Unreadable x (.fault .badRequest fault.message)
  | binary {bytes : Bytes} (hbody : x.parsedBody = .ok (.binary bytes)) :
      Unreadable x (Validation.binaryBody x)

theorem Unreadable.status {x : Exchange} {e : Error} (hfault : x.Unreadable e) :
    (∃ fault, x.parsedBody = .error fault) ∧ e.status.code = 400 ∨
      (∃ bytes, x.parsedBody = .ok (.binary bytes)) ∧ e.status.code = 415 := by
  cases hfault with
  | undecodable hbody => exact Or.inl ⟨⟨_, hbody⟩, rfl⟩
  | binary hbody => exact Or.inr ⟨⟨_, hbody⟩, rfl⟩

theorem Unreadable.response {x : Exchange} {e : Error} (hfault : x.Unreadable e) :
    defaultErrorResponse e = Response.json e.status.code (Json.ofFields
      [("error", .string e.status.reason), ("message", .string e.clientMessage)]) := by
  cases hfault with
  | undecodable hbody => rfl
  | binary hbody => rfl

/-- Validation has not been at the exchange. -/
structure Fresh (x : Exchange) : Prop where
  decoded : x.decoded = none
  params : x.validParams = none
  query : x.validQuery = none
  body : x.validBody = none

theorem bodyValue_of_parsedBody {x y : Exchange} (hx : x.validBody = none)
    (hy : y.validBody = none) (hparsed : y.parsedBody = x.parsedBody) :
    y.bodyValue = x.bodyValue := by
  rw [bodyValue, bodyValue, hx, hy, body, body, hparsed]

end Exchange

namespace Validation

/-- The exchange as validation leaves it. -/
def exchange : Validation → Exchange
  | .passed x => x
  | .rejected _ x => x
  | .failed _ x => x

/-- What validation of a fresh exchange comes to.  An input is looked at only if
those before it have passed, and is kept with its value if it passes too; the
body is decoded only for its checker. -/
inductive Judges (checkers : RouteCheckers) (x : Exchange) : Validation → Prop
  | params {errors : ValidationErrors}
      (hparams : Rejects "params" (some x.params.toJson) checkers.params errors) :
      Judges checkers x (.rejected errors x)
  | query {p : Option Json} {errors : ValidationErrors}
      (hparams : x.PassesParams checkers p)
      (hquery : Rejects "query" (some (.object x.query)) checkers.query errors) :
      Judges checkers x (.rejected errors { x with validParams := p })
  | unreadable {p q : Option Json} {e : Error}
      (hparams : x.PassesParams checkers p) (hquery : x.PassesQuery checkers q)
      (hbody : checkers.body.isSome) (hfault : x.Unreadable e) :
      Judges checkers x (.failed e
        { x with validParams := p, validQuery := q, decoded := some x.parsedBody })
  | body {p q : Option Json} {body : Body} {errors : ValidationErrors}
      (hparams : x.PassesParams checkers p) (hquery : x.PassesQuery checkers q)
      (hbody : x.parsedBody = .ok body) (hvalue : ∀ bytes, body ≠ .binary bytes)
      (hrejects : Rejects "body" body.toJson? checkers.body errors) :
      Judges checkers x (.rejected errors
        { x with validParams := p, validQuery := q, decoded := some x.parsedBody })
  | passed {p q b : Option Json}
      (hparams : x.PassesParams checkers p) (hquery : x.PassesQuery checkers q)
      (hbody : x.PassesBody checkers.body b) :
      Judges checkers x (.passed
        { x with
          validParams := p, validQuery := q, validBody := b
          decoded := checkers.body.map fun _ => x.parsedBody })

/-- A check passes or rejects its input; `put` is where the value is kept. -/
theorem check_cases (checker : Option Checker) (label : String)
    (input : Option Json) {x : Exchange} (set : Exchange → Json → Exchange)
    (put : Option Json → Exchange) (hnone : put none = x)
    (hsome : ∀ value, put (some value) = set x value) :
    (∃ value, Passes label input checker value ∧
      check checker label input set x = .passed (put value)) ∨
    ∃ errors, Rejects label input checker errors ∧
      check checker label input set x = .rejected errors x := by
  cases checker with
  | none => exact Or.inl ⟨none, .unchecked, by rw [hnone]; rfl⟩
  | some c =>
      rw [check]
      cases hcheck : c.checkInput input label with
      | ok value => exact Or.inl ⟨some value, .checked hcheck, by rw [hsome]⟩
      | error errors => exact Or.inr ⟨errors, .checked hcheck, rfl⟩

/-- A checker is asked about a body that decodes and has a value. -/
theorem checkBody_some (c : Checker) (x : Exchange) :
    checkBody (some c) x =
      let decoded := { x with decoded := some x.parsedBody }
      match x.parsedBody with
      | .error fault => .failed (.fault .badRequest fault.message) decoded
      | .ok (.binary _) => .failed (binaryBody x) decoded
      | .ok body => check (some c) "body" body.toJson?
          (fun x value => { x with validBody := some value }) decoded := by
  have hparsed : Exchange.parsedBody { x with decoded := some x.parsedBody } =
      x.parsedBody := rfl
  rw [checkBody, Exchange.body, hparsed]
  cases x.parsedBody with
  | error fault => rfl
  | ok body => cases body <;> rfl

/-- A body with a value is judged by its checker. -/
theorem check_judges {checkers : RouteCheckers} {c : Checker}
    (hchecker : checkers.body = some c) {x : Exchange} (hfresh : x.Fresh)
    {p q : Option Json} (hparams : x.PassesParams checkers p)
    (hquery : x.PassesQuery checkers q) {body : Body}
    (hparsed : x.parsedBody = .ok body) (hvalue : ∀ bytes, body ≠ .binary bytes) :
    Judges checkers x (check (some c) "body" body.toJson?
      (fun x value => { x with validBody := some value })
      { x with validParams := p, validQuery := q, decoded := some x.parsedBody }) := by
  rcases check_cases (some c) "body" body.toJson?
    (fun x value => { x with validBody := some value })
    (fun b => { x with
      validParams := p, validQuery := q, validBody := b
      decoded := some x.parsedBody })
    (by rw [← hfresh.body]) (fun _ => rfl) with
    ⟨b, hb, hdone⟩ | ⟨errors, hrejects, hrejected⟩
  · have hbody : x.PassesBody checkers.body b := by
      rw [hchecker]
      exact .checked hparsed hvalue hb
    have hjudged := Judges.passed hparams hquery hbody
    rw [hchecker] at hjudged
    rw [hdone]
    exact hjudged
  · rw [← hchecker] at hrejects
    rw [hrejected]
    exact .body hparams hquery hparsed hvalue hrejects

/-- The body as it is judged behind params and query. -/
theorem checkBody_judges {checkers : RouteCheckers} {x : Exchange}
    (hfresh : x.Fresh) {p q : Option Json} (hparams : x.PassesParams checkers p)
    (hquery : x.PassesQuery checkers q) :
    Judges checkers x (checkBody checkers.body
      { x with validParams := p, validQuery := q }) := by
  cases hchecker : checkers.body with
  | none =>
      have hbody : x.PassesBody checkers.body none := by
        rw [hchecker]
        exact .unchecked
      have hjudged := Judges.passed hparams hquery hbody
      rw [hchecker] at hjudged
      rw [checkBody, hfresh.decoded, hfresh.body]
      exact hjudged
  | some c =>
      have hsome : checkers.body.isSome := Option.isSome_of_mem hchecker
      have hchecked := fun body =>
        @check_judges checkers c hchecker x hfresh p q hparams hquery body
      rw [checkBody_some]
      change Judges checkers x (match x.parsedBody with
        | .error fault => .failed _ _
        | .ok (.binary _) => .failed (binaryBody x) _
        | .ok body => check (some c) "body" body.toJson? _ _)
      cases hparsed : x.parsedBody with
      | error fault =>
          exact .unreadable hparams hquery hsome (.undecodable hparsed)
      | ok body =>
          cases body with
          | binary bytes => exact .unreadable hparams hquery hsome (.binary hparsed)
          | empty => exact hchecked _ hparsed (by simp)
          | json value => exact hchecked _ hparsed (by simp)
          | form value => exact hchecked _ hparsed (by simp)
          | text content => exact hchecked _ hparsed (by simp)

/-- The checks of a fresh exchange come to its judgement. -/
theorem run_judges {schemas : RouteSchemas} {checkers : RouteCheckers}
    (hcompile : schemas.compile = .ok checkers) {x : Exchange} (hfresh : x.Fresh) :
    Judges checkers x (run schemas x) := by
  rw [run, hcompile]
  dsimp only
  rcases check_cases checkers.params "params" (some x.params.toJson)
    (fun x value => { x with validParams := some value })
    (fun p => { x with validParams := p }) (by rw [← hfresh.params])
    (fun _ => rfl) with ⟨p, hparams, hpassed⟩ | ⟨errors, hrejects, hrejected⟩
  · rw [checkParams, hpassed, andThen]
    rcases check_cases checkers.query "query" (some (.object x.query))
      (fun x value => { x with validQuery := some value })
      (fun q => { x with validParams := p, validQuery := q })
      (by rw [← hfresh.query]) (fun _ => rfl) with
      ⟨q, hquery, hpassed⟩ | ⟨errors, hrejects, hrejected⟩
    · rw [checkQuery, hpassed, andThen]
      exact checkBody_judges hfresh hparams hquery
    · rw [checkQuery, hrejected]
      exact .query hparams hrejects
  · rw [checkParams, hrejected]
    exact .params hrejects

/-- The body is decoded for its checker alone, behind params and query. -/
theorem Judges.decoded_iff {checkers : RouteCheckers} {x : Exchange}
    {verdict : Validation} (hjudges : Judges checkers x verdict) (hfresh : x.Fresh) :
    verdict.exchange.decoded.isSome ↔ checkers.body.isSome ∧
      (∃ p, x.PassesParams checkers p) ∧ ∃ q, x.PassesQuery checkers q := by
  have hnone : ¬x.decoded.isSome := by simp [hfresh.decoded]
  cases hjudges with
  | params hparams =>
      refine ⟨fun hsome => absurd hsome hnone, ?_⟩
      rintro ⟨-, ⟨p, hp⟩, -⟩
      exact absurd hp (hparams.not_passes p)
  | query hparams hquery =>
      refine ⟨fun hsome => absurd hsome hnone, ?_⟩
      rintro ⟨-, -, q, hq⟩
      exact absurd hq (hquery.not_passes q)
  | unreadable hparams hquery hbody hfault =>
      exact ⟨fun _ => ⟨hbody, ⟨_, hparams⟩, _, hquery⟩, fun _ => rfl⟩
  | body hparams hquery hbody hvalue hrejects =>
      exact ⟨fun _ => ⟨hrejects.isSome, ⟨_, hparams⟩, _, hquery⟩, fun _ => rfl⟩
  | passed hparams hquery hbody =>
      simp only [exchange, Option.isSome_map]
      exact ⟨fun hsome => ⟨hsome, ⟨_, hparams⟩, _, hquery⟩, And.left⟩

theorem Judges.unreadable_of_failed {checkers : RouteCheckers} {x y : Exchange}
    {e : Error} (hjudges : Judges checkers x (.failed e y)) : x.Unreadable e := by
  cases hjudges with
  | unreadable _ _ _ hfault => exact hfault

/-- What can be read of inputs that have passed: the values of the checkers, and
where there is none the input itself. -/
theorem Judges.values_of_passed {checkers : RouteCheckers} {x y : Exchange}
    (hjudges : Judges checkers x (.passed y)) (hfresh : x.Fresh) :
    ∃ p q b, x.PassesParams checkers p ∧ x.PassesQuery checkers q ∧
      x.PassesBody checkers.body b ∧
      y.paramsValue = p.getD x.params.toJson ∧
      y.queryValue = q.getD (.object x.query) ∧
      y.bodyValue = b.elim x.bodyValue .ok := by
  cases hjudges with
  | @passed p q b hparams hquery hbody =>
      refine ⟨p, q, b, hparams, hquery, hbody, rfl, rfl, ?_⟩
      cases b with
      | some value => rfl
      | none =>
          have hparsed : (checkers.body.map fun _ => x.parsedBody).getD
              (Body.parse (x.header? MediaType.name) x.rawBody) = x.parsedBody := by
            cases checkers.body with
            | none => rw [Exchange.parsedBody, hfresh.decoded]; rfl
            | some c => rfl
          exact Exchange.bodyValue_of_parsedBody hfresh.body rfl hparsed

/-- Validation leaves what came with the request as it was. -/
theorem Judges.raw_of_passed {checkers : RouteCheckers} {x y : Exchange}
    (hjudges : Judges checkers x (.passed y)) :
    y.params = x.params ∧ y.query = x.query ∧ y.rawBody = x.rawBody := by
  cases hjudges with
  | passed => exact ⟨rfl, rfl, rfl⟩

end Validation

namespace App

variable {σ : Type} {app : App σ} {request : Request} {route : Route σ}
  {segments : List String} {x : Exchange}

theorem fresh_of_matched (hmatched : app.matched request = .route route segments x) :
    x.Fresh ∧ x.rawBody = request.body := by
  obtain ⟨-, found, -, -, rfl, -⟩ := exists_found_of_matched hmatched
  exact ⟨⟨rfl, rfl, rfl, rfl⟩, rfl⟩

theorem handle_of_rejected {errors : ValidationErrors} {y : Exchange}
    (hmatched : app.matched request = .route route segments x)
    (hrejected : Validation.run route.schemas x = .rejected errors y) (own : σ) :
    (app.handle request own).1 = .response (validationResponse errors) ∧
      (app.handle request own).2.visits = [] := by
  rw [handle_eq, hmatched]
  simp only [pipeline, hrejected]
  exact ⟨rfl, rfl⟩

theorem handle_of_failed {e : Error} {y : Exchange}
    (hmatched : app.matched request = .route route segments x)
    (hfailed : Validation.run route.schemas x = .failed e y) (own : σ) :
    app.handle request own = app.handleError y e (Run.start app.state own) := by
  rw [handle_eq, hmatched]
  simp only [pipeline, hfailed]
  rfl

/-- Validation gates the code of the application.  It judges the inputs of a
matched request in order, and decodes the body only for its checker, behind
params and query.  A rejected input is answered with the errors of its checker,
and no code is entered.  For a body that cannot be read the error hooks are
entered, and no other code; unless one of them answers, the status is 400, or
415 for a body without a value.  If all inputs pass, the code that is entered
sees the values of the checkers, and beside them the request as it came. -/
theorem gate_of_matched {checkers : RouteCheckers}
    (hmatched : app.matched request = .route route segments x)
    (hcompile : route.schemas.compile = .ok checkers) (own : σ) :
    let verdict := Validation.run route.schemas x
    let start := Run.start app.state own
    let served := app.handle request own
    Validation.Judges checkers x verdict ∧
      (verdict.exchange.decoded.isSome ↔ checkers.body.isSome ∧
        (∃ p, x.PassesParams checkers p) ∧ ∃ q, x.PassesQuery checkers q) ∧
      (∀ errors y, verdict = .rejected errors y →
        served.1 = .response (Response.json 400 (Json.ofFields
          [("details", errors.toJson), ("error", .string "Validation Error")])) ∧
        served.2.visits = []) ∧
      (∀ e y, verdict = .failed e y →
        ((∃ fault, x.parsedBody = .error fault) ∧ e.status.code = 400 ∨
          (∃ bytes, x.parsedBody = .ok (.binary bytes)) ∧ e.status.code = 415) ∧
        served.2.visits =
          (Stage.entered (app.errorStages e) (start.moment y)).map (·.1) ∧
        (∀ place ∈ served.2.visits, ∃ i, place = .errorHook i) ∧
        ((Stage.passed (app.errorStages e) (start.moment y)).isSome →
          served.1 = .response (Response.json e.status.code (Json.ofFields
            [("error", .string e.status.reason),
              ("message", .string e.clientMessage)])))) ∧
      ∀ y, verdict = .passed y →
        served.2.visits = (app.course route segments y start).map (·.1) ∧
        (∀ entry ∈ app.course route segments y start, entry.2.exchange = y) ∧
        served = (app.seeing y).respond (route.seeing y) segments y start ∧
        (∃ p q b, x.PassesParams checkers p ∧ x.PassesQuery checkers q ∧
          x.PassesBody checkers.body b ∧
          y.paramsValue = p.getD x.params.toJson ∧
          y.queryValue = q.getD (.object x.query) ∧
          y.bodyValue = b.elim x.bodyValue .ok) ∧
        (∀ name, y.param? name = x.param? name ∧ y.query? name = x.query? name ∧
          y.queryAll name = x.queryAll name) ∧
        y.rawBody = request.body := by
  intro verdict start served
  obtain ⟨hfresh, hraw⟩ := fresh_of_matched hmatched
  have hjudges : Validation.Judges checkers x verdict :=
    Validation.run_judges hcompile hfresh
  refine ⟨hjudges, hjudges.decoded_iff hfresh, ?_, ?_, ?_⟩
  · intro errors y hrejected
    exact handle_of_rejected hmatched hrejected own
  · intro e y hfailed
    have hserved := handle_of_failed hmatched hfailed own
    have hvisits : served.2.visits =
        (Stage.entered (app.errorStages e) (start.moment y)).map (·.1) := by
      rw [show served = _ from hserved]
      exact askErrorHooks_enters y e 0 app.hooks.error (start.log (errorEvent e))
    rw [hfailed] at hjudges
    have hfault := hjudges.unreadable_of_failed
    refine ⟨hfault.status, hvisits, ?_, ?_⟩
    · intro place hplace
      rw [hvisits] at hplace
      exact errorHook_of_mem hplace
    · intro hthrough
      rw [← hfault.response, show served = _ from hserved]
      exact askErrorHooks_of_passed hthrough
  · intro y hpassed
    rw [hpassed] at hjudges
    obtain ⟨hparams, hquery, hbody⟩ := hjudges.raw_of_passed
    refine ⟨visits_of_passed hmatched hpassed own,
      fun entry hentry => exchange_of_mem_course hentry, ?_,
      hjudges.values_of_passed hfresh, ?_, hbody.trans hraw⟩
    · rw [respond_seeing]
      exact handle_of_passed hmatched hpassed own
    · intro name
      rw [Exchange.param?, Exchange.query?, Exchange.queryAll, hparams, hquery]
      exact ⟨rfl, rfl, rfl⟩

open Schema in
/-- The id is read as an integer before the body is looked at.  The body is
missing, so neither the before hook nor the handler is entered. -/
theorem gate_of_matched_missing_body :
    let pass : BeforeHook Unit := fun m =>
      ⟨[], m.own, .ok fun m => ⟨[], m.own, .done none⟩⟩
    let reply : Handler Unit := fun m =>
      ⟨[], m.own, .ok fun m => ⟨[], m.own, .done .nothing⟩⟩
    let schemas : RouteSchemas :=
      ⟨some (object [("id", integer)]), none, some string⟩
    let app := (((new .standard).onBefore pass).route .put "/items/:id" reply
      ⟨schemas, [], [], []⟩).app
    let request := Request.new "PUT" "/items/7"
    let missing : ValidationErrors :=
      [⟨"body", "body is required", "string", "missing"⟩]
    ∃ route segments x y checkers,
      app.matched request = .route route segments x ∧
      route.schemas.compile = .ok checkers ∧
      Validation.run route.schemas x = .rejected missing y ∧
      y.validParams =
        some (.object [("id", .number (.whole ⟨7, by decide, by decide⟩))]) ∧
      (app.handle request ()).1 = .response (Response.json 400 (Json.ofFields
        [("details", missing.toJson), ("error", .string "Validation Error")])) ∧
      (app.handle request ()).2.visits = [] := by
  intro pass reply schemas app request missing
  have hmethod : Method.ofRequest? "PUT" = some .put := by decide +kernel
  have hsplit : Path.split (Request.new "PUT" "/items/7").path = ["items", "7"] :=
    rfl
  have hdecode : Percent.decodeText "7" = "7" := by decide +kernel
  obtain ⟨found, hfound, hschemas, hparams⟩ :
      ∃ found, app.resolve .put ["items", "7"] = .found found ∧
        found.value.schemas = schemas ∧
        found.params = ⟨[("id", Percent.decodeText "7")]⟩ :=
    ⟨_, rfl, rfl, rfl⟩
  rw [hdecode] at hparams
  have hmatched : app.matched request = .route found.value ["items", "7"] _ :=
    matched_of_resolve hmethod hsplit hfound
  rw [hparams] at hmatched
  obtain ⟨checkers, hcompile⟩ :
      ∃ checkers, found.value.schemas.compile = .ok checkers := by
    rw [hschemas]
    exact ⟨_, rfl⟩
  obtain ⟨y, hrejected, hvalid⟩ : ∃ y, Validation.run found.value.schemas
      (app.exchange request (Path.join ["items", "7"]) (some found.pattern.raw)
        ⟨[("id", "7")]⟩) = .rejected missing y ∧ y.validParams =
        some (.object [("id", .number (.whole ⟨7, by decide, by decide⟩))]) := by
    rw [hschemas]
    exact ⟨_, rfl, rfl⟩
  obtain ⟨-, -, hanswer, -, -⟩ := gate_of_matched hmatched hcompile ()
  obtain ⟨hresponse, hvisits⟩ := hanswer missing y hrejected
  exact ⟨_, _, _, y, checkers, hmatched, hcompile, hrejected, hvalid, hresponse,
    hvisits⟩

end App

end Trellis
