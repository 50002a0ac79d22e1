import Trellis.Proofs.App.Ledger
import Trellis.Proofs.Routing.Group
import Trellis.Proofs.Routing.Pattern
/-!
Groups of routes.  They leave nothing behind but routes: each one below the paths of the groups around it, under the
middleware that these groups had when it was registered.
-/

namespace Trellis

/-- A call that is made in a group. -/
inductive GroupCall (σ : Type)
  | use (m : Middleware σ)
  | route (method : Method) (path : String) (handler : Handler σ)
    (options : RouteOptions σ) (accepted : Bool)
  /-- A group inside the group, and the calls made in it. -/
  | group (path : String) (calls : List (GroupCall σ))

/-- The calls that the body of a group makes, in order. -/
def GroupBody.calls {σ : Type} :
    GroupBody σ → RouteGroup (Middleware σ) → App σ → List (GroupCall σ)
  | .finish _, _, _ => []
  | .use m next, g, app => .use m :: next.calls (g.use m) app
  | .route method path handler options next, g, app =>
    let step := app.insertRoute method (g.applyBase path) handler options g.middleware
    .route method path handler options step.error.isNone ::
      (next step.error).calls g step.app
  | .group path body next, g, app =>
    let inner := (RouteGroup.top.withBase path).within g
    let step := body.run inner app
    .group path (body.calls inner app) :: (next step.error).calls g step.app

/-- The middleware that calls add to the group in which they are made. -/
def GroupCall.used {σ : Type} (calls : List (GroupCall σ)) : List (Middleware σ) :=
  calls.filterMap fun
    | .use m => some m
    | _ => none

/-- A group after calls that are made in it. -/
def GroupScope.after {σ : Type} (own : GroupScope σ) (calls : List (GroupCall σ)) :
    GroupScope σ :=
  { own with middleware := own.middleware ++ GroupCall.used calls }

namespace GroupScope

variable {σ : Type}

theorem after_nil (own : GroupScope σ) : own.after [] = own := by
  simp [after, GroupCall.used]

/-- A route leaves the group as it is. -/
theorem after_route (own : GroupScope σ) (method : Method) (path : String)
    (handler : Handler σ) (options : RouteOptions σ) (accepted : Bool) :
    own.after [.route method path handler options accepted] = own :=
  after_nil own

/-- A group leaves the group around it as it is. -/
theorem after_group (own : GroupScope σ) (path : String) (calls : List (GroupCall σ)) :
    own.after [.group path calls] = own :=
  after_nil own

theorem after_after (own : GroupScope σ) (earlier later : List (GroupCall σ)) :
    (own.after earlier).after later = own.after (earlier ++ later) := by
  simp [after, GroupCall.used]

end GroupScope

theorem Ledger.routes_append {σ : Type} (earlier later : Ledger σ) :
    Ledger.routes (earlier ++ later) = earlier.routes ++ later.routes :=
  List.filterMap_append

theorem Ledger.routes_ite {σ : Type} (accepted : Bool) (declared : DeclaredRoute σ) :
    Ledger.routes (if accepted then [.route declared] else []) =
      if accepted then [declared] else [] := by
  cases accepted <;> rfl

namespace DeclaredRoute

variable {σ : Type}

/-- A declared route with further groups around it. -/
def below (outer : List (GroupScope σ)) (declared : DeclaredRoute σ) : DeclaredRoute σ :=
  { declared with groups := outer ++ declared.groups }

theorem below_nil (declared : DeclaredRoute σ) : declared.below [] = declared := rfl

theorem below_below (outer inner : List (GroupScope σ)) (declared : DeclaredRoute σ) :
    (declared.below inner).below outer = declared.below (outer ++ inner) := by
  simp [below]

/-- The segments of a declared route: those of the paths of its groups, the
outer ones first, and then its own. -/
def segments (declared : DeclaredRoute σ) : List String :=
  declared.groups.flatMap (fun scope => Path.split scope.path) ++ Path.split declared.path

end DeclaredRoute

namespace GroupCall

variable {σ : Type}

/-- A route is accepted among the calls in a group.  The groups around it, the
outer ones first, have the middleware that was added to them before. -/
inductive Declares : GroupScope σ → List (GroupCall σ) → DeclaredRoute σ → Prop
  | route (own : GroupScope σ) (before after : List (GroupCall σ)) (method : Method)
      (path : String) (handler : Handler σ) (options : RouteOptions σ) :
      Declares own (before ++ .route method path handler options true :: after)
        ⟨[own.after before], method, path, handler, options⟩
  | group (own : GroupScope σ) (before after : List (GroupCall σ)) {path : String}
      {calls : List (GroupCall σ)} {declared : DeclaredRoute σ} :
      Declares ⟨path, []⟩ calls declared →
        Declares own (before ++ .group path calls :: after)
          (declared.below [own.after before])

/-- A call in a list of calls that is cut in two is in the later part or in the
earlier one. -/
theorem cut {earlier later before after : List (GroupCall σ)} {call : GroupCall σ}
    (hcalls : earlier ++ later = before ++ call :: after) :
    (∃ middle, before = earlier ++ middle ∧ later = middle ++ call :: after) ∨
      ∃ middle, earlier = before ++ call :: middle := by
  rcases List.append_eq_append_iff.mp hcalls with
    ⟨middle, hbefore, hlater⟩ | ⟨tail, hearlier, htail⟩
  · exact Or.inl ⟨middle, hbefore, hlater⟩
  · rcases List.append_eq_cons_iff.mp htail.symm with ⟨rfl, hlater⟩ | ⟨middle, rfl, -⟩
    · exact Or.inl ⟨[], by rw [hearlier, List.append_nil, List.append_nil], hlater⟩
    · exact Or.inr ⟨middle, hearlier⟩

/-- Later calls change nothing about the routes of earlier ones, and see only
the middleware that these have added to the group itself. -/
theorem declares_append_iff {own : GroupScope σ} {earlier later : List (GroupCall σ)}
    {declared : DeclaredRoute σ} :
    Declares own (earlier ++ later) declared ↔
      Declares own earlier declared ∨ Declares (own.after earlier) later declared := by
  constructor
  · intro hdeclares
    -- Where the declaring call stands is an append as well, so the cuts are compared.
    generalize hcalls : earlier ++ later = calls at hdeclares
    cases hdeclares with
    | route _ before after method path handler options =>
        rcases cut hcalls with ⟨middle, rfl, rfl⟩ | ⟨middle, rfl⟩
        · rw [← GroupScope.after_after]
          exact Or.inr (.route _ middle after method path handler options)
        · exact Or.inl (.route _ before middle method path handler options)
    | group _ before after hinner =>
        rcases cut hcalls with ⟨middle, rfl, rfl⟩ | ⟨middle, rfl⟩
        · rw [← GroupScope.after_after]
          exact Or.inr (.group _ middle after hinner)
        · exact Or.inl (.group _ before middle hinner)
  · rintro (hearlier | hlater)
    · cases hearlier with
      | route _ before after method path handler options =>
          rw [List.append_assoc]
          exact .route _ before (after ++ later) method path handler options
      | group _ before after hinner =>
          rw [List.append_assoc]
          exact .group _ before (after ++ later) hinner
    · cases hlater with
      | route _ before after method path handler options =>
          rw [GroupScope.after_after, ← List.append_assoc]
          exact .route _ (earlier ++ before) after method path handler options
      | group _ before after hinner =>
          rw [GroupScope.after_after, ← List.append_assoc]
          exact .group _ (earlier ++ before) after hinner

theorem not_declares_nil (own : GroupScope σ) (declared : DeclaredRoute σ) :
    ¬ Declares own [] declared := by
  intro hdeclares
  generalize hcalls : ([] : List (GroupCall σ)) = calls at hdeclares
  cases hdeclares with
  | route _ before after => exact absurd hcalls (by simp)
  | group _ before after => exact absurd hcalls (by simp)

theorem eq_of_singleton_eq {call other : GroupCall σ} {before after : List (GroupCall σ)}
    (hcalls : [call] = before ++ other :: after) : before = [] ∧ call = other := by
  cases before with
  | nil => exact ⟨rfl, (List.cons.inj hcalls).1⟩
  | cons first rest => simp at hcalls

/-- The routes of a single call in a group. -/
def DeclaresHere (own : GroupScope σ) (declared : DeclaredRoute σ) : GroupCall σ → Prop
  | .use _ => False
  | .route method path handler options accepted =>
    accepted = true ∧ declared = ⟨[own], method, path, handler, options⟩
  | .group path calls =>
    ∃ inner, Declares ⟨path, []⟩ calls inner ∧ declared = inner.below [own]

theorem declares_singleton_iff {own : GroupScope σ} {call : GroupCall σ}
    {declared : DeclaredRoute σ} :
    Declares own [call] declared ↔ DeclaresHere own declared call := by
  constructor
  · intro hdeclares
    generalize hcalls : [call] = calls at hdeclares
    cases hdeclares with
    | route _ before after method path handler options =>
        obtain ⟨rfl, rfl⟩ := eq_of_singleton_eq hcalls
        rw [GroupScope.after_nil]
        exact ⟨rfl, rfl⟩
    | group _ before after hinner =>
        obtain ⟨rfl, rfl⟩ := eq_of_singleton_eq hcalls
        rw [GroupScope.after_nil]
        exact ⟨_, hinner, rfl⟩
  · intro hhere
    cases call with
    | use m => contradiction
    | route method path handler options accepted =>
        obtain ⟨rfl, rfl⟩ := hhere
        have hroute := Declares.route (own.after []) [] [] method path handler options
        rwa [GroupScope.after_nil, GroupScope.after_nil] at hroute
    | group path calls =>
        obtain ⟨inner, hinner, rfl⟩ := hhere
        have hgroup := Declares.group (own.after []) [] [] hinner
        rwa [GroupScope.after_nil, GroupScope.after_nil] at hgroup

theorem declares_cons_iff {own : GroupScope σ} {call : GroupCall σ}
    {later : List (GroupCall σ)} {declared : DeclaredRoute σ} :
    Declares own (call :: later) declared ↔
      DeclaresHere own declared call ∨ Declares (own.after [call]) later declared := by
  rw [← declares_singleton_iff, ← declares_append_iff, List.singleton_append]

end GroupCall

/-- The ledger of a group lists the routes that its calls declare. -/
theorem GroupBody.mem_routes_ledger {σ : Type} (body : GroupBody σ)
    (g : RouteGroup (Middleware σ)) (outer : List (GroupScope σ)) (own : GroupScope σ)
    (app : App σ) (declared : DeclaredRoute σ) :
    declared ∈ (body.ledger g outer own app).routes ↔
      ∃ inner, GroupCall.Declares own (body.calls g app) inner ∧
        declared = inner.below outer := by
  induction body generalizing g outer own app with
  | finish error =>
      constructor
      · intro hmem
        exact absurd hmem List.not_mem_nil
      · rintro ⟨inner, hinner, -⟩
        exact absurd hinner (GroupCall.not_declares_nil own inner)
  | use m next ih =>
      simp only [ledger, calls, GroupCall.declares_cons_iff, GroupCall.DeclaresHere,
        false_or]
      exact ih _ _ _ _
  | route method path handler options next ih =>
      simp only [ledger, calls, Ledger.routes_append, List.mem_append,
        GroupCall.declares_cons_iff, GroupCall.DeclaresHere, GroupScope.after_route, ih,
        or_and_right, exists_or]
      apply or_congr_left
      split
      · next haccepted => simp [Ledger.routes, haccepted, DeclaredRoute.below]
      · next hrejected => simp [Ledger.routes, hrejected]
  | group path body next ihBody ihNext =>
      simp only [ledger, calls, Ledger.routes_append, List.mem_append,
        GroupCall.declares_cons_iff, GroupCall.DeclaresHere, GroupScope.after_group, ihBody,
        ihNext, or_and_right, exists_or]
      apply or_congr_left
      constructor
      · rintro ⟨inner, hinner, rfl⟩
        exact ⟨_, ⟨inner, hinner, rfl⟩, (DeclaredRoute.below_below _ _ _).symm⟩
      · rintro ⟨_, ⟨inner, hinner, rfl⟩, rfl⟩
        exact ⟨inner, hinner, DeclaredRoute.below_below _ _ _⟩

theorem GroupScope.split_base {σ : Type} (groups : List (GroupScope σ)) :
    Path.split (base groups) = groups.flatMap fun scope => Path.split scope.path := by
  induction groups using List.reverseRecOn with
  | nil => exact Path.split_empty
  | append_singleton outer own ih =>
      have hbase : base (outer ++ [own]) = base outer ++ RouteGroup.cleanBase own.path := by
        simp [base]
      rw [hbase, RouteGroup.split_append_cleanBase, ih, List.flatMap_append,
        List.flatMap_singleton]

namespace DeclaredRoute

variable {σ : Type}

/-- However the texts of the paths place slashes, the pattern of a declared
route has its segments. -/
theorem split_pattern (declared : DeclaredRoute σ) :
    Path.split declared.pattern = declared.segments := by
  rw [pattern, RouteGroup.split_applyBase, GroupScope.split_base]
  rfl

example (handler : Handler Unit) :
    Path.split (pattern ⟨[⟨"api/", []⟩, ⟨"", []⟩, ⟨"//v1//", []⟩], .get,
      "/users/:id/", handler, RouteOptions.none⟩) = ["api", "v1", "users", ":id"] := by
  cbv

/-- A registration enters a declared route: for its method, at the pattern that
is read from its segments, and with all that it declares. -/
structure Registers (declared : DeclaredRoute σ) (c : Registration (Route σ)) : Prop where
  method : c.method = declared.method
  pattern : ∃ p, Pattern.parse (Path.join declared.segments) = .ok p ∧
    c.pattern.segments = p.segments
  route : declared.Gives c.value

end DeclaredRoute

namespace App

variable {σ : Type}

/-- An application has accepted declared routes, and nothing else about it has
changed. -/
structure Accepts (app grown : App σ) (declared : List (DeclaredRoute σ))
    (added : List (Registration (Route σ))) : Prop where
  router : ∀ accepted, added.foldl Registry.attempt ⟨app.router, accepted⟩ =
    ⟨grown.router, accepted ++ added⟩
  rest : grown = { app with
    router := grown.router
    entries := app.entries ++ added.map (·.value)
    generation := app.generation + added.length }
  registers : List.Forall₂ DeclaredRoute.Registers declared added

namespace Accepts

theorem refl (app : App σ) : app.Accepts app [] [] where
  router := by simp
  rest := by simp
  registers := .nil

theorem trans {first second third : App σ} {earlier later : List (DeclaredRoute σ)}
    {some more : List (Registration (Route σ))}
    (hfirst : first.Accepts second earlier some)
    (hsecond : second.Accepts third later more) :
    first.Accepts third (earlier ++ later) (some ++ more) where
  router := by
    intro accepted
    rw [List.foldl_append, hfirst.router, hsecond.router, List.append_assoc]
  rest := by
    rw [hsecond.rest, hfirst.rest]
    simp only [List.map_append, List.length_append, List.append_assoc, Nat.add_assoc]
  registers := List.rel_append hfirst.registers hsecond.registers

end Accepts

/-- A registration enters the declared route, or ends with an error and enters
nothing. -/
theorem insertRoute_accepts (app : App σ) {declared : DeclaredRoute σ} {full : String}
    (hfull : full = declared.pattern) :
    let step := app.insertRoute declared.method full declared.handler declared.options
      (declared.groups.flatMap GroupScope.middleware)
    ∃ added, app.Accepts step.app (if step.error.isNone then [declared] else []) added := by
  unfold insertRoute
  split
  · exact ⟨[], Accepts.refl app⟩
  · next pattern hparse =>
    have hraw := (Pattern.raw_of_parse hparse).trans hfull
    have hread := Pattern.parse_join_of_parse hparse
    rw [hfull, declared.split_pattern] at hread
    dsimp only
    split
    · exact ⟨[], Accepts.refl app⟩
    · next router hinsert =>
      refine ⟨[⟨declared.method, pattern, _⟩], ?_, rfl, ?_⟩
      · intro accepted
        simp only [List.foldl_cons, List.foldl_nil, Registry.attempt, hinsert]
      · exact .cons ⟨rfl, ⟨_, hread, rfl⟩, rfl, hraw, rfl, rfl, rfl, rfl, rfl⟩ .nil

end App

/-- The body of a group enters the routes of its ledger.  The induction is on the
body, and the group at hand has the paths and the middleware of the groups around
it. -/
theorem GroupBody.run_accepts {σ : Type} (body : GroupBody σ)
    (g : RouteGroup (Middleware σ)) (outer : List (GroupScope σ)) (own : GroupScope σ)
    (hwithin : g.Within (outer ++ [own])) (app : App σ) :
    ∃ added, app.Accepts (body.run g app).app
      (body.ledger g outer own app).routes added := by
  induction body generalizing g outer own app with
  | finish error => exact ⟨[], App.Accepts.refl app⟩
  | use m next ih => exact ih _ _ _ (hwithin.use m) app
  | route method path handler options next ih =>
      let declared : DeclaredRoute σ := ⟨outer ++ [own], method, path, handler, options⟩
      have hfull : g.applyBase path = declared.pattern := hwithin.applyBase path
      obtain ⟨added, hstep⟩ := app.insertRoute_accepts hfull
      rw [← hwithin.middleware] at hstep
      let step := app.insertRoute method (g.applyBase path) handler options g.middleware
      obtain ⟨more, hrest⟩ := ih step.error g outer own hwithin step.app
      refine ⟨added ++ more, ?_⟩
      simp only [ledger, Ledger.routes_append, Ledger.routes_ite]
      exact hstep.trans hrest
  | group path body next ihBody ihNext =>
      let step := body.run ((RouteGroup.top.withBase path).within g) app
      obtain ⟨added, hbody⟩ := ihBody _ _ _ (hwithin.inner path) app
      obtain ⟨more, hrest⟩ := ihNext step.error g outer own hwithin step.app
      refine ⟨added ++ more, ?_⟩
      simp only [ledger, Ledger.routes_append]
      exact hbody.trans hrest

/-- Groups flatten.  A group registers the routes that its calls declare, those of
the groups inside it included, and nothing else about the application changes.
Each one is at the pattern that is read from the segments of the groups around
it and its own, and has the middleware that was added to these groups before it,
the outer ones first, and then its own.  At any point of the calls, the routes
before it have nothing of what follows, and those after it have of what came
before only the middleware that was added to the group itself.  A route that is
registered outside afterwards has nothing of the group. -/
theorem App.groups_flatten {σ : Type} (app : App σ) (path : String)
    (body : GroupBody σ) :
    let own : GroupScope σ := ⟨path, []⟩
    let calls := body.calls (RouteGroup.top.withBase path) app
    let grown := (app.group path body).app
    (∃ declared added,
      (∀ d, d ∈ declared ↔ GroupCall.Declares own calls d) ∧
      app.Accepts grown declared added) ∧
    (∀ point d, GroupCall.Declares own calls d ↔
      GroupCall.Declares own (calls.take point) d ∨
        GroupCall.Declares (own.after (calls.take point)) (calls.drop point) d) ∧
    ∀ method path handler options,
      let step := grown.route method path handler options
      ∃ added, grown.Accepts step.app
        (if step.error.isNone then [⟨[], method, path, handler, options⟩] else [])
        added := by
  intro own calls grown
  refine ⟨?_, ?_, ?_⟩
  · obtain ⟨added, haccepts⟩ := body.run_accepts (RouteGroup.top.withBase path) [] own
      (RouteGroup.Within.outermost path) app
    refine ⟨_, added, fun d => ?_, haccepts⟩
    rw [body.mem_routes_ledger]
    simp only [DeclaredRoute.below_nil, exists_eq_right']
    rfl
  · intro point d
    rw [← GroupCall.declares_append_iff, List.take_append_drop]
  · intro method path handler options step
    let declared : DeclaredRoute σ := ⟨[], method, path, handler, options⟩
    have hfull : path = declared.pattern := rfl
    exact grown.insertRoute_accepts hfull

end Trellis
