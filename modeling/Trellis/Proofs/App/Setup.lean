import Trellis.App.Plugin
/-!
What setting up an application does to its routes.  Every setup is made of accepted registrations,
successful compilations, and steps that leave the routes alone.
-/

namespace Trellis

/-- The part of an application that finds routes. -/
structure Routing (σ : Type) where
  router : Router (Route σ)
  staticTable : StaticTable (Route σ)
  entries : List (Route σ)
  generation : Nat
  compiledGeneration : Option Nat

namespace App

variable {σ : Type}

def routing (app : App σ) : Routing σ :=
  ⟨app.router, app.staticTable, app.entries, app.generation,
    app.compiledGeneration⟩

theorem isCompiled_iff {app : App σ} :
    app.isCompiled ↔ app.compiledGeneration = some app.generation :=
  decide_eq_true_iff

/-- A registration enters one route, under a pattern that was read, or ends
with an error and changes nothing. -/
theorem insertRoute_cases (app : App σ) (method : Method) (path : String)
    (handler : Handler σ) (options : RouteOptions σ)
    (outer : List (Middleware σ)) :
    (∃ pattern router route,
      Pattern.parse path = .ok pattern ∧
      app.router.insert method pattern route = .ok router ∧
      (app.insertRoute method path handler options outer).app =
        { app with
          router
          entries := app.entries ++ [route]
          generation := app.generation + 1 } ∧
      (app.insertRoute method path handler options outer).error = none) ∨
    ((app.insertRoute method path handler options outer).app = app ∧
      (app.insertRoute method path handler options outer).error ≠ none) := by
  unfold insertRoute
  cases hparse : Pattern.parse path with
  | error e => exact Or.inr ⟨rfl, by simp⟩
  | ok pattern =>
      dsimp only
      split
      · exact Or.inr ⟨rfl, by simp⟩
      · next router hinsert =>
          exact Or.inl ⟨pattern, router, _, rfl, hinsert, rfl, rfl⟩

/-- A compilation of compiled routes does nothing, one that meets a bad schema
ends with an error and changes nothing, and any other one builds the table of
the router. -/
theorem compile_cases (app : App σ) :
    (app.isCompiled ∧ app.compile.app = app ∧ app.compile.error = none) ∨
    (app.compile.app = app ∧ app.compile.error ≠ none) ∨
    (app.compile.app =
        { app with
          staticTable := StaticTable.build app.router
          compiledGeneration := some app.generation } ∧
      app.compile.error = none) := by
  unfold compile
  split
  · next hcompiled => exact Or.inl ⟨hcompiled, rfl, rfl⟩
  · split
    · exact Or.inr (Or.inl ⟨rfl, by simp⟩)
    · exact Or.inr (Or.inr ⟨rfl, rfl⟩)

/-- After a compilation without error the routes are compiled. -/
theorem isCompiled_compile {app : App σ} (hdone : app.compile.error = none) :
    app.compile.app.isCompiled := by
  rcases app.compile_cases with ⟨hcompiled, happ, -⟩ | ⟨-, herror⟩ | ⟨happ, -⟩
  · rw [happ]
    exact hcompiled
  · exact absurd hdone herror
  · rw [happ, isCompiled_iff]

theorem compile_of_isCompiled {app : App σ} (hcompiled : app.isCompiled) :
    app.compile.app = app ∧ app.compile.error = none := by
  simp [compile, hcompiled]

end App

/-- What a property of the routes must satisfy to hold after any setup. -/
structure Routing.Kept {σ : Type} (motive : Routing σ → Prop) : Prop where
  insert : ∀ (app : App σ) method path handler options outer,
    motive app.routing →
      motive (app.insertRoute method path handler options outer).app.routing
  compile : ∀ app : App σ, motive app.routing → motive app.compile.app.routing

namespace Routing.Kept

variable {σ : Type} {motive : Routing σ → Prop}

theorem groupBody (hkept : Kept motive) (body : GroupBody σ)
    (g : RouteGroup (Middleware σ)) (app : App σ)
    (happ : motive app.routing) : motive (body.run g app).app.routing := by
  induction body generalizing g app with
  | finish error => exact happ
  | use m next ih => exact ih (g.use m) app happ
  | route method path handler options next ih =>
      exact ih _ g _ (hkept.insert app _ _ _ _ _ happ)
  | group path body next ihBody ihNext =>
      exact ihNext _ g _ (ihBody _ app happ)

theorem group (hkept : Kept motive) (path : String) (body : GroupBody σ)
    (app : App σ) (happ : motive app.routing) :
    motive (app.group path body).app.routing :=
  hkept.groupBody body _ app happ

/-- A plugin changes the routes as its setup does, or not at all. -/
theorem registerWith {setup : App σ → Registered σ}
    (hsetup : ∀ app : App σ, motive app.routing →
      motive (setup app).app.routing)
    (name : String) (dependencies : List String) (app : App σ)
    (happ : motive app.routing) :
    motive (app.registerWith name dependencies setup).app.routing := by
  unfold App.registerWith
  split
  · exact happ
  · split
    · exact happ
    · dsimp only
      split
      · exact hsetup app happ
      · exact hsetup app happ

/-- The routes after a setup.  The induction is on the setup, and a setup
within a plugin is a part of it. -/
theorem setup (hkept : Kept motive) (setup : Setup σ) (app : App σ)
    (happ : motive app.routing) : motive (setup.run app).app.routing := by
  induction setup generalizing app with
  | finish error => exact happ
  | route method path handler options next ih =>
      exact ih _ _ (hkept.insert app _ _ _ _ _ happ)
  | group path body next ih => exact ih _ _ (hkept.group path body app happ)
  | use m next ih => exact ih _ happ
  | useAt path m next ih => exact ih _ happ
  | onBefore hook next ih => exact ih _ happ
  | onAfter hook next ih => exact ih _ happ
  | onError hook next ih => exact ih _ happ
  | onNotFound hook next ih => exact ih _ happ
  | setState key value next ih => exact ih _ happ
  | decorate key value next ih => exact ih _ happ
  | compile next ih => exact ih _ _ (hkept.compile app happ)
  | register name dependencies inner next ihInner ihNext =>
      exact ihNext _ _ (registerWith ihInner name dependencies app happ)
  | inspect next ih => exact ih app app happ

end Routing.Kept

end Trellis
