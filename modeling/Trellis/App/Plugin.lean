import Trellis.App.Register
/-!
Plugins: named pieces of setup. A plugin is applied once, after the plugins that it depends on; its setup may
register further plugins.
-/

namespace Trellis

/-- What a plugin does to the application: one step after the other, each of which may look at the
application as it is then and sees the error that the step before ended with, if any. -/
inductive Setup (σ : Type)
  | finish (error : Option Error)
  | route (method : Method) (path : String) (handler : Handler σ) (options : RouteOptions σ)
    (next : Option Error → Setup σ)
  | group (path : String) (body : GroupBody σ) (next : Option Error → Setup σ)
  | use (m : Middleware σ) (next : Setup σ)
  | useAt (path : String) (m : Middleware σ) (next : Setup σ)
  | onBefore (hook : BeforeHook σ) (next : Setup σ)
  | onAfter (hook : AfterHook σ) (next : Setup σ)
  | onError (hook : ErrorHook σ) (next : Setup σ)
  | onNotFound (hook : NotFoundHook σ) (next : Setup σ)
  | setState (key : String) (value : Stored) (next : Setup σ)
  | decorate (key : String) (value : Stored) (next : Setup σ)
  | compile (next : Option Error → Setup σ)
  | register (name : String) (dependencies : List String) (setup : Setup σ)
    (next : Option Error → Setup σ)
  | inspect (next : App σ → Setup σ)

/-- A plugin: its name, the names of the plugins that it depends on, and its setup. -/
structure Plugin (σ : Type) where
  name : String
  dependencies : List String
  setup : Setup σ

namespace App

variable {σ : Type}

/-- Register a plugin, given what its setup does to the application. -/
def registerWith (app : App σ) (name : String) (dependencies : List String)
    (setup : App σ → Registered σ) : Registered σ :=
  if app.hasPlugin name then
    ⟨app, [⟨.debug, "Plugin already registered, skipping", [("plugin", name)]⟩], none⟩
  else match dependencies.find? fun dependency => !app.hasPlugin dependency with
    | some missing => ⟨app, [], some (.pluginDependency name missing)⟩
    | none =>
      let step := setup app
      match step.error with
      | some _ => step
      | none =>
        ⟨{ step.app with plugins := step.app.plugins ++ [name] },
          step.events ++ [⟨.info, "Registered plugin", [("plugin", name)]⟩], none⟩

end App

namespace Setup

variable {σ : Type}

/-- Run a setup. -/
def run : Setup σ → App σ → Registered σ
  | .finish error, app => ⟨app, [], error⟩
  | .route method path handler options next, app =>
    let step := app.route method path handler options
    step.andThen (next step.error).run
  | .group path body next, app =>
    let step := app.group path body
    step.andThen (next step.error).run
  | .use m next, app => next.run (app.use m)
  | .useAt path m next, app => next.run (app.useAt path m)
  | .onBefore hook next, app => next.run (app.onBefore hook)
  | .onAfter hook next, app => next.run (app.onAfter hook)
  | .onError hook next, app => next.run (app.onError hook)
  | .onNotFound hook next, app => next.run (app.onNotFound hook)
  | .setState key value next, app => next.run (app.setState key value)
  | .decorate key value next, app => (app.decorate key value).andThen next.run
  | .compile next, app =>
    let step := app.compile
    step.andThen (next step.error).run
  | .register name dependencies setup next, app =>
    let step := app.registerWith name dependencies setup.run
    step.andThen (next step.error).run
  | .inspect next, app => (next app).run app

end Setup

/-- Register a plugin. -/
def App.register {σ : Type} (app : App σ) (p : Plugin σ) : Registered σ :=
  app.registerWith p.name p.dependencies p.setup.run

end Trellis
