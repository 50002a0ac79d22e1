import Mathlib.Data.List.Forall2
import Trellis.Proofs.App.Compile
/-!
What a setup registers.  The ledger of a setup lists its registrations in the order in which they are made, and
each route with the groups around it.  The application after the setup holds what it held before, and after that
what the ledger lists.
-/

namespace Trellis

/-- A group around a route: its path, and the middleware added in it so far. -/
structure GroupScope (σ : Type) where
  path : String
  middleware : List (Middleware σ)

/-- The path of nested groups, the outer ones first. -/
def GroupScope.base {σ : Type} (groups : List (GroupScope σ)) : String :=
  groups.foldl (fun base scope => base ++ RouteGroup.cleanBase scope.path) ""

/-- An accepted route as it is declared, with the groups around it, the outer
ones first. -/
structure DeclaredRoute (σ : Type) where
  groups : List (GroupScope σ)
  method : Method
  path : String
  handler : Handler σ
  options : RouteOptions σ

/-- A registration that counts for the service of requests. -/
inductive LedgerEntry (σ : Type)
  | use (m : Middleware σ)
  | useAt (path : String) (m : Middleware σ)
  | onBefore (hook : BeforeHook σ)
  | onAfter (hook : AfterHook σ)
  | route (declared : DeclaredRoute σ)

/-- Registrations in the order in which they are made. -/
abbrev Ledger (σ : Type) := List (LedgerEntry σ)

namespace Ledger

variable {σ : Type}

/-- The middleware around all routes. -/
def middleware (ledger : Ledger σ) : List (Middleware σ) :=
  ledger.filterMap fun
    | .use m => some m
    | _ => none

/-- The middleware for the paths below a path, with the segments of that
path. -/
def scopes (ledger : Ledger σ) : List (List String × Middleware σ) :=
  ledger.filterMap fun
    | .useAt path m => some (Path.split path, m)
    | _ => none

def before (ledger : Ledger σ) : List (BeforeHook σ) :=
  ledger.filterMap fun
    | .onBefore hook => some hook
    | _ => none

def after (ledger : Ledger σ) : List (AfterHook σ) :=
  ledger.filterMap fun
    | .onAfter hook => some hook
    | _ => none

def routes (ledger : Ledger σ) : List (DeclaredRoute σ) :=
  ledger.filterMap fun
    | .route declared => some declared
    | _ => none

end Ledger

namespace DeclaredRoute

variable {σ : Type}

/-- The middleware of a declared route: that of the groups around it, as far as
it was added before the route, the outer groups first, and then its own. -/
def middleware (declared : DeclaredRoute σ) : List (Middleware σ) :=
  declared.groups.flatMap GroupScope.middleware ++ declared.options.middleware

/-- The pattern of a declared route, below the paths of its groups. -/
def pattern (declared : DeclaredRoute σ) : String :=
  (RouteGroup.mk (GroupScope.base declared.groups)
    ([] : List (Middleware σ))).applyBase declared.path

/-- A registered route is the declared one. -/
structure Gives (declared : DeclaredRoute σ) (route : Route σ) : Prop where
  method : route.method = declared.method
  pattern : route.pattern = declared.pattern
  handler : route.handler = declared.handler
  schemas : route.schemas = declared.options.schemas
  before : route.before = declared.options.before
  after : route.after = declared.options.after
  middleware : route.middleware = declared.middleware

end DeclaredRoute

/-- A group as it is while its body is run, with the groups around it. -/
structure RouteGroup.Within {σ : Type} (g : RouteGroup (Middleware σ))
    (groups : List (GroupScope σ)) : Prop where
  base : g.base = GroupScope.base groups
  middleware : g.middleware = groups.flatMap GroupScope.middleware

/-- What the body of a group registers, given the groups around its steps: the
outer ones, and the group itself with what was added so far. -/
def GroupBody.ledger {σ : Type} : GroupBody σ → RouteGroup (Middleware σ) →
    List (GroupScope σ) → GroupScope σ → App σ → Ledger σ
  | .finish _, _, _, _, _ => []
  | .use m next, g, outer, own, app =>
    next.ledger (g.use m) outer { own with middleware := own.middleware ++ [m] } app
  | .route method path handler options next, g, outer, own, app =>
    let step := app.insertRoute method (g.applyBase path) handler options g.middleware
    (if step.error.isNone then [.route ⟨outer ++ [own], method, path, handler, options⟩]
      else []) ++
      (next step.error).ledger g outer own step.app
  | .group path body next, g, outer, own, app =>
    let inner := (RouteGroup.top.withBase path).within g
    let step := body.run inner app
    body.ledger inner (outer ++ [own]) ⟨path, []⟩ app ++
      (next step.error).ledger g outer own step.app

/-- A plugin of this name is set up: it was not before, and the ones that it
depends on were. -/
def App.admits {σ : Type} (app : App σ) (name : String) (dependencies : List String) : Bool :=
  !app.hasPlugin name && dependencies.all app.hasPlugin

/-- What a setup registers, in order. -/
def Setup.ledger {σ : Type} : Setup σ → App σ → Ledger σ
  | .finish _, _ => []
  | .route method path handler options next, app =>
    let step := app.route method path handler options
    (if step.error.isNone then [.route ⟨[], method, path, handler, options⟩] else []) ++
      (next step.error).ledger step.app
  | .group path body next, app =>
    let step := app.group path body
    body.ledger (RouteGroup.top.withBase path) [] ⟨path, []⟩ app ++
      (next step.error).ledger step.app
  | .use m next, app => .use m :: next.ledger (app.use m)
  | .useAt path m next, app => .useAt path m :: next.ledger (app.useAt path m)
  | .onBefore hook next, app => .onBefore hook :: next.ledger (app.onBefore hook)
  | .onAfter hook next, app => .onAfter hook :: next.ledger (app.onAfter hook)
  | .onError hook next, app => next.ledger (app.onError hook)
  | .onNotFound hook next, app => next.ledger (app.onNotFound hook)
  | .setState key value next, app => next.ledger (app.setState key value)
  | .decorate key value next, app => next.ledger (app.decorate key value).app
  | .compile next, app =>
    let step := app.compile
    (next step.error).ledger step.app
  | .register name dependencies setup next, app =>
    let step := app.registerWith name dependencies setup.run
    (if app.admits name dependencies then setup.ledger app else []) ++
      (next step.error).ledger step.app
  | .inspect next, app => (next app).ledger app

namespace App

variable {σ : Type}

/-- An application has grown by what a ledger lists. -/
structure Grown (app grown : App σ) (ledger : Ledger σ) : Prop where
  config : grown.config = app.config
  middleware : grown.middleware = app.middleware ++ ledger.middleware
  scopes : grown.scopes = app.scopes ++ ledger.scopes
  before : grown.hooks.before = app.hooks.before ++ ledger.before
  after : grown.hooks.after = app.hooks.after ++ ledger.after
  routes : ∃ added, grown.entries = app.entries ++ added ∧
    List.Forall₂ DeclaredRoute.Gives ledger.routes added

namespace Grown

theorem refl (app : App σ) : app.Grown app [] where
  config := rfl
  middleware := by simp [Ledger.middleware]
  scopes := by simp [Ledger.scopes]
  before := by simp [Ledger.before]
  after := by simp [Ledger.after]
  routes := ⟨[], by simp, .nil⟩

theorem trans {first second third : App σ} {earlier later : Ledger σ}
    (hfirst : first.Grown second earlier) (hsecond : second.Grown third later) :
    first.Grown third (earlier ++ later) where
  config := hsecond.config.trans hfirst.config
  middleware := by
    rw [hsecond.middleware, hfirst.middleware, List.append_assoc]
    simp [Ledger.middleware]
  scopes := by
    rw [hsecond.scopes, hfirst.scopes, List.append_assoc]
    simp [Ledger.scopes]
  before := by
    rw [hsecond.before, hfirst.before, List.append_assoc]
    simp [Ledger.before]
  after := by
    rw [hsecond.after, hfirst.after, List.append_assoc]
    simp [Ledger.after]
  routes := by
    obtain ⟨some, hsome, hgives⟩ := hfirst.routes
    obtain ⟨more, hmore, hothers⟩ := hsecond.routes
    refine ⟨some ++ more, by rw [hmore, hsome, List.append_assoc], ?_⟩
    simpa [Ledger.routes] using List.rel_append hgives hothers

/-- A step that registers nothing. -/
theorem unchanged {app grown : App σ} (hconfig : grown.config = app.config)
    (hmiddleware : grown.middleware = app.middleware)
    (hscopes : grown.scopes = app.scopes)
    (hbefore : grown.hooks.before = app.hooks.before)
    (hafter : grown.hooks.after = app.hooks.after)
    (hentries : grown.entries = app.entries) : app.Grown grown [] where
  config := hconfig
  middleware := by simp [hmiddleware, Ledger.middleware]
  scopes := by simp [hscopes, Ledger.scopes]
  before := by simp [hbefore, Ledger.before]
  after := by simp [hafter, Ledger.after]
  routes := ⟨[], by simp [hentries], .nil⟩

end Grown

theorem use_grown (app : App σ) (m : Middleware σ) :
    app.Grown (app.use m) [.use m] := by
  refine ⟨rfl, rfl, ?_, ?_, ?_, [], ?_, .nil⟩
  · simp [use, Ledger.scopes]
  · simp [use, Ledger.before]
  · simp [use, Ledger.after]
  · simp [use]

theorem useAt_grown (app : App σ) (path : String) (m : Middleware σ) :
    app.Grown (app.useAt path m) [.useAt path m] := by
  refine ⟨rfl, ?_, rfl, ?_, ?_, [], ?_, .nil⟩
  · simp [useAt, Ledger.middleware]
  · simp [useAt, Ledger.before]
  · simp [useAt, Ledger.after]
  · simp [useAt]

theorem onBefore_grown (app : App σ) (hook : BeforeHook σ) :
    app.Grown (app.onBefore hook) [.onBefore hook] := by
  refine ⟨rfl, ?_, ?_, rfl, ?_, [], ?_, .nil⟩
  · simp [onBefore, Ledger.middleware]
  · simp [onBefore, Ledger.scopes]
  · simp [onBefore, Ledger.after]
  · simp [onBefore]

theorem onAfter_grown (app : App σ) (hook : AfterHook σ) :
    app.Grown (app.onAfter hook) [.onAfter hook] := by
  refine ⟨rfl, ?_, ?_, ?_, rfl, [], ?_, .nil⟩
  · simp [onAfter, Ledger.middleware]
  · simp [onAfter, Ledger.scopes]
  · simp [onAfter, Ledger.before]
  · simp [onAfter]

theorem compile_grown (app : App σ) : app.Grown app.compile.app [] := by
  rcases app.compile_cases with ⟨-, happ, -⟩ | ⟨happ, -⟩ | ⟨happ, -⟩
  · rw [happ]
    exact Grown.refl app
  · rw [happ]
    exact Grown.refl app
  · rw [happ]
    exact Grown.unchanged rfl rfl rfl rfl rfl rfl

/-- A plugin registers what its setup does, if it is set up. -/
theorem registerWith_grown {setup : App σ → Registered σ} {ledger : Ledger σ}
    {app : App σ} (hsetup : app.Grown (setup app).app ledger) (name : String)
    (dependencies : List String) :
    app.Grown (app.registerWith name dependencies setup).app
      (if app.admits name dependencies then ledger else []) := by
  unfold registerWith admits
  by_cases hplugin : app.hasPlugin name
  · rw [if_pos hplugin, hplugin]
    exact Grown.refl app
  · rw [if_neg hplugin, Bool.eq_false_iff.mpr hplugin]
    cases hmissing : dependencies.find? fun name => !app.hasPlugin name with
    | some missing =>
        have hall : dependencies.all app.hasPlugin = false := by
          rw [List.all_eq_false]
          exact ⟨missing, List.mem_of_find?_eq_some hmissing,
            by simpa using List.find?_some hmissing⟩
        rw [hall]
        exact Grown.refl app
    | none =>
        have hall : dependencies.all app.hasPlugin = true := by
          simpa [List.all_eq_true] using hmissing
        rw [hall]
        dsimp only
        split
        · exact hsetup
        · have hdone : (setup app).app.Grown { (setup app).app with
              plugins := (setup app).app.plugins ++ [name] } [] :=
            Grown.unchanged rfl rfl rfl rfl rfl rfl
          have hboth := hsetup.trans hdone
          rw [List.append_nil] at hboth
          exact hboth

/-- A registration adds the declared route, or changes nothing. -/
theorem insertRoute_grown (app : App σ) {declared : DeclaredRoute σ} {full : String}
    (hfull : full = declared.pattern) :
    let step := app.insertRoute declared.method full declared.handler declared.options
      (declared.groups.flatMap GroupScope.middleware)
    app.Grown step.app
      (if step.error.isNone then [.route declared] else []) := by
  unfold insertRoute
  split
  · exact Grown.refl app
  · next pattern hparse =>
    have hraw := (Pattern.raw_of_parse hparse).trans hfull
    dsimp only
    split
    · exact Grown.refl app
    · refine ⟨rfl, ?_, ?_, ?_, ?_, ⟨_, rfl, ?_⟩⟩
      · simp [Ledger.middleware]
      · simp [Ledger.scopes]
      · simp [Ledger.before]
      · simp [Ledger.after]
      · exact .cons ⟨rfl, hraw, rfl, rfl, rfl, rfl, rfl⟩ .nil

end App

namespace RouteGroup.Within

variable {σ : Type} {g : RouteGroup (Middleware σ)} {outer : List (GroupScope σ)}
  {own : GroupScope σ}

theorem use (hwithin : g.Within (outer ++ [own])) (m : Middleware σ) :
    (g.use m).Within
      (outer ++ [{ own with middleware := own.middleware ++ [m] }]) where
  base := by simp [hwithin.base, RouteGroup.use, GroupScope.base]
  middleware := by simp [hwithin.middleware, RouteGroup.use]

theorem inner {groups : List (GroupScope σ)} (hwithin : g.Within groups)
    (path : String) :
    ((RouteGroup.top.withBase path).within g).Within (groups ++ [⟨path, []⟩]) where
  base := by simp [hwithin.base, RouteGroup.within, RouteGroup.withBase, GroupScope.base]
  middleware := by
    simp [hwithin.middleware, RouteGroup.within, RouteGroup.withBase, RouteGroup.top]

theorem outermost (path : String) :
    (RouteGroup.top.withBase path : RouteGroup (Middleware σ)).Within
      ([] ++ [⟨path, []⟩]) where
  base := by simp [RouteGroup.withBase, GroupScope.base]
  middleware := rfl

theorem applyBase {groups : List (GroupScope σ)} (hwithin : g.Within groups)
    (path : String) : g.applyBase path =
      (RouteGroup.mk (GroupScope.base groups)
        ([] : List (Middleware σ))).applyBase path := by
  rw [RouteGroup.applyBase, RouteGroup.applyBase, hwithin.base]

end RouteGroup.Within

section Run

variable {σ : Type}

/-- The group at hand gives routes the middleware of the groups around them. -/
theorem GroupBody.run_grown (body : GroupBody σ) (g : RouteGroup (Middleware σ))
    (outer : List (GroupScope σ)) (own : GroupScope σ)
    (hwithin : g.Within (outer ++ [own])) (app : App σ) :
    app.Grown (body.run g app).app (body.ledger g outer own app) := by
  induction body generalizing g outer own app with
  | finish error => exact App.Grown.refl app
  | use m next ih => exact ih _ _ _ (hwithin.use m) app
  | route method path handler options next ih =>
      let declared : DeclaredRoute σ := ⟨outer ++ [own], method, path, handler, options⟩
      have hfull : g.applyBase path = declared.pattern := hwithin.applyBase path
      have hstep := app.insertRoute_grown hfull
      rw [← hwithin.middleware] at hstep
      exact hstep.trans (ih _ g outer own hwithin _)
  | group path body next ihBody ihNext =>
      exact (ihBody _ _ _ (hwithin.inner path) app).trans
        (ihNext _ g outer own hwithin _)

/-- An application after a setup holds what it held before, and what the setup
registers. -/
theorem Setup.run_grown (setup : Setup σ) (app : App σ) :
    app.Grown (setup.run app).app (setup.ledger app) := by
  induction setup generalizing app with
  | finish error => exact App.Grown.refl app
  | route method path handler options next ih =>
      let declared : DeclaredRoute σ := ⟨[], method, path, handler, options⟩
      have hfull : path = declared.pattern := rfl
      have hstep := app.insertRoute_grown hfull
      exact hstep.trans (ih _ _)
  | group path body next ih =>
      have hstep := body.run_grown (RouteGroup.top.withBase path) [] ⟨path, []⟩
        (RouteGroup.Within.outermost path) app
      exact hstep.trans (ih _ _)
  | use m next ih => exact (app.use_grown m).trans (ih _)
  | useAt path m next ih => exact (app.useAt_grown path m).trans (ih _)
  | onBefore hook next ih => exact (app.onBefore_grown hook).trans (ih _)
  | onAfter hook next ih => exact (app.onAfter_grown hook).trans (ih _)
  | onError hook next ih =>
      have hstep : app.Grown (app.onError hook) [] :=
        App.Grown.unchanged rfl rfl rfl rfl rfl rfl
      exact hstep.trans (ih _)
  | onNotFound hook next ih =>
      have hstep : app.Grown (app.onNotFound hook) [] :=
        App.Grown.unchanged rfl rfl rfl rfl rfl rfl
      exact hstep.trans (ih _)
  | setState key value next ih =>
      have hstep : app.Grown (app.setState key value) [] :=
        App.Grown.unchanged rfl rfl rfl rfl rfl rfl
      exact hstep.trans (ih _)
  | decorate key value next ih =>
      have hstep : app.Grown (app.decorate key value).app [] :=
        App.Grown.unchanged rfl rfl rfl rfl rfl rfl
      exact hstep.trans (ih _)
  | compile next ih => exact app.compile_grown.trans (ih _ _)
  | register name dependencies inner next ihInner ihNext =>
      exact (App.registerWith_grown (ihInner app) name dependencies).trans
        (ihNext _ _)
  | inspect next ih => exact ih app app

end Run

end Trellis
