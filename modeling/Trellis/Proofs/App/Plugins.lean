import Mathlib.Data.List.Nodup
import Trellis.Proofs.App.Setup
/-!
Plugins that register further plugins.  The calls of `register` during a setup are listed with what comes of them;
each step of the list fits the names that the steps before it have recorded, and the names of all steps are those
that the application has in the end.
-/

namespace Trellis

/-- A call of `register`: the application as the call finds it, and the plugin. -/
structure PluginCall (σ : Type) where
  app : App σ
  plugin : Plugin σ

/-- What happens in a call.  If the plugin is set up, there is a step before its
setup and one after it, and the steps within the setup lie between them. -/
inductive PluginStep (σ : Type)
  | skipped (call : PluginCall σ)
  | refused (call : PluginCall σ) (missing : String)
  | began (call : PluginCall σ)
  | failed (call : PluginCall σ) (error : Error)
  | recorded (call : PluginCall σ)

namespace PluginCall

variable {σ : Type}

/-- What comes of the call. -/
def result (call : PluginCall σ) : Registered σ := call.app.register call.plugin

/-- What the plugin's setup makes of the application. -/
def setUp (call : PluginCall σ) : Registered σ := call.plugin.setup.run call.app

/-- The setup of the plugin has recorded a plugin of the same name. -/
def RecordsOwnName (call : PluginCall σ) : Prop :=
  call.plugin.name ∈ call.setUp.app.plugins

/-- The steps of a call, given those within the setup. -/
def steps (call : PluginCall σ) (inner : List (PluginStep σ)) : List (PluginStep σ) :=
  if call.app.hasPlugin call.plugin.name then [.skipped call]
  else match call.plugin.dependencies.find? fun dependency => !call.app.hasPlugin dependency with
    | some missing => [.refused call missing]
    | none => match call.setUp.error with
      | some error => .began call :: inner ++ [.failed call error]
      | none => .began call :: inner ++ [.recorded call]

end PluginCall

/-- The steps of all calls during a setup, in order. -/
def Setup.pluginSteps {σ : Type} : Setup σ → App σ → List (PluginStep σ)
  | .finish _, _ => []
  | .route method path handler options next, app =>
    let step := app.route method path handler options
    (next step.error).pluginSteps step.app
  | .group path body next, app =>
    let step := app.group path body
    (next step.error).pluginSteps step.app
  | .use m next, app => next.pluginSteps (app.use m)
  | .useAt path m next, app => next.pluginSteps (app.useAt path m)
  | .onBefore hook next, app => next.pluginSteps (app.onBefore hook)
  | .onAfter hook next, app => next.pluginSteps (app.onAfter hook)
  | .onError hook next, app => next.pluginSteps (app.onError hook)
  | .onNotFound hook next, app => next.pluginSteps (app.onNotFound hook)
  | .setState key value next, app => next.pluginSteps (app.setState key value)
  | .decorate key value next, app => next.pluginSteps (app.decorate key value).app
  | .compile next, app =>
    let step := app.compile
    (next step.error).pluginSteps step.app
  | .register name dependencies setup next, app =>
    let call : PluginCall σ := ⟨app, ⟨name, dependencies, setup⟩⟩
    call.steps (setup.pluginSteps app) ++
      (next call.result.error).pluginSteps call.result.app
  | .inspect next, app => (next app).pluginSteps app

namespace PluginStep

variable {σ : Type}

/-- The name that a step records. -/
def recorded? : PluginStep σ → Option String
  | .recorded call => some call.plugin.name
  | _ => none

/-- The names that steps record, in order. -/
def names (steps : List (PluginStep σ)) : List String := steps.filterMap recorded?

theorem names_append (first second : List (PluginStep σ)) :
    names (first ++ second) = names first ++ names second :=
  List.filterMap_append

theorem names_cons (step : PluginStep σ) (rest : List (PluginStep σ)) :
    names (step :: rest) = step.recorded?.toList ++ names rest := by
  cases step <;> rfl

/-- A step is right where these names are known. -/
def Fits (known : List String) : PluginStep σ → Prop
  | .skipped call =>
    call.app.plugins = known ∧ call.plugin.name ∈ known ∧
      call.result.app = call.app ∧ call.result.error = none
  | .refused call missing =>
    call.app.plugins = known ∧ missing ∈ call.plugin.dependencies ∧ missing ∉ known ∧
      call.result = ⟨call.app, [], some (.pluginDependency call.plugin.name missing)⟩
  | .began call =>
    call.app.plugins = known ∧ call.plugin.name ∉ known ∧
      ∀ dependency ∈ call.plugin.dependencies, dependency ∈ known
  | .failed call error =>
    call.setUp.app.plugins = known ∧ call.setUp.error = some error ∧ call.result = call.setUp
  | .recorded call =>
    call.setUp.app.plugins = known ∧ call.result.error = none ∧
      ∀ dependency ∈ call.plugin.dependencies, dependency ∈ known

/-- Steps that are right one after the other, if these names are known at first. -/
def Replays : List String → List (PluginStep σ) → Prop
  | _, [] => True
  | known, step :: rest => step.Fits known ∧ Replays (known ++ step.recorded?.toList) rest

theorem replays_append_iff {known : List String} {first second : List (PluginStep σ)} :
    Replays known (first ++ second) ↔
      Replays known first ∧ Replays (known ++ names first) second := by
  induction first generalizing known with
  | nil => simp [Replays, names]
  | cons step rest ih =>
      rw [List.cons_append, Replays, Replays, ih, names_cons, List.append_assoc, and_assoc]

/-- A step of a replay fits the names that were recorded before it. -/
theorem Replays.fits {known : List String} {earlier later : List (PluginStep σ)}
    {step : PluginStep σ} (hreplays : Replays known (earlier ++ step :: later)) :
    step.Fits (known ++ names earlier) :=
  (replays_append_iff.mp hreplays).2.1

/-- A replay records a name twice just if it records a plugin whose setup has
recorded its name. -/
theorem Replays.nodup_iff {known : List String} {steps : List (PluginStep σ)}
    (hreplays : Replays known steps) (hknown : known.Nodup) :
    (known ++ names steps).Nodup ↔
      ∀ call, .recorded call ∈ steps → ¬ call.RecordsOwnName := by
  induction steps generalizing known with
  | nil => simpa [names] using hknown
  | cons step rest ih =>
      obtain ⟨hfits, hrest⟩ := hreplays
      rw [names_cons, ← List.append_assoc]
      cases step with
      | recorded call =>
          have hown : call.RecordsOwnName ↔ call.plugin.name ∈ known := by
            rw [PluginCall.RecordsOwnName, hfits.1]
          have hnext : (known ++ [call.plugin.name]).Nodup ↔ call.plugin.name ∉ known := by
            rw [← List.concat_eq_append, List.nodup_concat, and_iff_left hknown]
          by_cases hmem : call.plugin.name ∈ known
          · refine iff_of_false (fun hnodup => ?_) fun hall => ?_
            · exact hnext.mp hnodup.of_append_left hmem
            · exact hall call List.mem_cons_self (hown.mpr hmem)
          · rw [ih hrest (hnext.mpr hmem)]
            constructor
            · intro hall other hother
              rcases List.mem_cons.mp hother with hsame | hlater
              · obtain rfl := PluginStep.recorded.inj hsame
                exact fun hrecords => hmem (hown.mp hrecords)
              · exact hall other hlater
            · exact fun hall other hother => hall other (List.mem_cons_of_mem _ hother)
      | skipped _ | refused _ _ | began _ | failed _ _ =>
          simp only [recorded?, Option.toList_none, List.append_nil] at hrest ⊢
          rw [ih hrest hknown]
          simp

end PluginStep

namespace App

variable {σ : Type}

/-- An application has grown by the steps of calls of `register`. -/
structure Replayed (app grown : App σ) (steps : List (PluginStep σ)) : Prop where
  replays : PluginStep.Replays app.plugins steps
  plugins : grown.plugins = app.plugins ++ PluginStep.names steps

theorem Replayed.refl (app : App σ) : app.Replayed app [] :=
  ⟨trivial, (List.append_nil _).symm⟩

/-- What leaves the recorded names alone may come before. -/
theorem Replayed.of_plugins_eq {first second third : App σ} {steps : List (PluginStep σ)}
    (hrest : second.Replayed third steps) (hplugins : second.plugins = first.plugins) :
    first.Replayed third steps :=
  ⟨hplugins ▸ hrest.replays, hplugins ▸ hrest.plugins⟩

theorem Replayed.trans {first second third : App σ} {earlier later : List (PluginStep σ)}
    (hfirst : first.Replayed second earlier) (hsecond : second.Replayed third later) :
    first.Replayed third (earlier ++ later) where
  replays := by
    rw [PluginStep.replays_append_iff, ← hfirst.plugins]
    exact ⟨hfirst.replays, hsecond.replays⟩
  plugins := by
    rw [hsecond.plugins, hfirst.plugins, PluginStep.names_append, List.append_assoc]

theorem plugins_insertRoute (app : App σ) (method : Method) (path : String)
    (handler : Handler σ) (options : RouteOptions σ) (outer : List (Middleware σ)) :
    (app.insertRoute method path handler options outer).app.plugins = app.plugins := by
  rcases app.insertRoute_cases method path handler options outer with
    ⟨pattern, router, route, -, -, happ, -⟩ | ⟨happ, -⟩
  · rw [happ]
  · rw [happ]

theorem plugins_compile (app : App σ) : app.compile.app.plugins = app.plugins := by
  rcases app.compile_cases with ⟨-, happ, -⟩ | ⟨happ, -⟩ | ⟨happ, -⟩
  · rw [happ]
  · rw [happ]
  · rw [happ]

end App

theorem GroupBody.plugins_run {σ : Type} (body : GroupBody σ)
    (g : RouteGroup (Middleware σ)) (app : App σ) :
    (body.run g app).app.plugins = app.plugins := by
  induction body generalizing g app with
  | finish error => rfl
  | use m next ih => exact ih (g.use m) app
  | route method path handler options next ih =>
      exact (ih _ g _).trans (app.plugins_insertRoute method _ handler options _)
  | group path body next ihBody ihNext =>
      exact (ihNext _ g _).trans (ihBody _ app)

section Run

variable {σ : Type}

theorem App.hasPlugin_iff {app : App σ} {name : String} :
    app.hasPlugin name ↔ name ∈ app.plugins :=
  List.contains_iff_mem

namespace PluginCall

variable {call : PluginCall σ} {inner : List (PluginStep σ)}

theorem replayed_of_known (hname : call.app.hasPlugin call.plugin.name) :
    call.app.Replayed call.result.app [.skipped call] := by
  have hresult : call.result = ⟨call.app,
      [⟨.debug, "Plugin already registered, skipping", [("plugin", call.plugin.name)]⟩],
      none⟩ := if_pos hname
  refine ⟨⟨⟨rfl, App.hasPlugin_iff.mp hname, ?_, ?_⟩, trivial⟩, ?_⟩
  · rw [hresult]
  · rw [hresult]
  · rw [hresult]
    exact (List.append_nil _).symm

theorem replayed_of_missing {missing : String}
    (hname : ¬ call.app.hasPlugin call.plugin.name)
    (hmissing : (call.plugin.dependencies.find? fun dependency =>
      !call.app.hasPlugin dependency) = some missing) :
    call.app.Replayed call.result.app [.refused call missing] := by
  have hresult : call.result =
      ⟨call.app, [], some (.pluginDependency call.plugin.name missing)⟩ := by
    rw [result, App.register, App.registerWith, if_neg hname, hmissing]
  have habsent : missing ∉ call.app.plugins := by
    rw [← App.hasPlugin_iff]
    simpa using List.find?_some hmissing
  refine ⟨⟨⟨rfl, List.mem_of_find?_eq_some hmissing, habsent, hresult⟩, trivial⟩, ?_⟩
  rw [hresult]
  exact (List.append_nil _).symm

theorem dependencies_of_none
    (hnone : (call.plugin.dependencies.find? fun dependency =>
      !call.app.hasPlugin dependency) = none) :
    ∀ dependency ∈ call.plugin.dependencies, dependency ∈ call.app.plugins := by
  intro dependency hmem
  rw [← App.hasPlugin_iff]
  simpa using List.find?_eq_none.mp hnone dependency hmem

section SetUp

variable (hname : ¬ call.app.hasPlugin call.plugin.name)
  (hnone : (call.plugin.dependencies.find? fun dependency =>
    !call.app.hasPlugin dependency) = none)
include hname hnone

theorem replayed_began : call.app.Replayed call.app [.began call] := by
  refine ⟨⟨⟨rfl, ?_, dependencies_of_none hnone⟩, trivial⟩, (List.append_nil _).symm⟩
  rwa [← App.hasPlugin_iff]

theorem result_of_none : call.result =
    match call.setUp.error with
    | some _ => call.setUp
    | none =>
      ⟨{ call.setUp.app with plugins := call.setUp.app.plugins ++ [call.plugin.name] },
        call.setUp.events ++
          [⟨.info, "Registered plugin", [("plugin", call.plugin.name)]⟩], none⟩ := by
  rw [result, App.register, App.registerWith, if_neg hname, hnone]
  rfl

theorem replayed_failed {error : Error} (herror : call.setUp.error = some error) :
    call.setUp.app.Replayed call.result.app [.failed call error] := by
  have hresult : call.result = call.setUp := by
    rw [result_of_none hname hnone, herror]
  refine ⟨⟨⟨rfl, herror, hresult⟩, trivial⟩, ?_⟩
  rw [hresult]
  exact (List.append_nil _).symm

theorem replayed_recorded (hdone : call.setUp.error = none)
    (hinner : call.app.Replayed call.setUp.app inner) :
    call.setUp.app.Replayed call.result.app [.recorded call] := by
  have hresult := result_of_none hname hnone
  rw [hdone] at hresult
  refine ⟨⟨⟨rfl, by rw [hresult], fun dependency hmem => ?_⟩, trivial⟩, ?_⟩
  · rw [hinner.plugins]
    exact List.mem_append_left _ (dependencies_of_none hnone dependency hmem)
  · rw [hresult]
    rfl

end SetUp

/-- A call grows the application by its steps, if the setup of the plugin grows it
by those within.  There is one case for each way in which the call ends. -/
theorem replayed (call : PluginCall σ) (hinner : call.app.Replayed call.setUp.app inner) :
    call.app.Replayed call.result.app (call.steps inner) := by
  unfold steps
  split
  · next hname => exact replayed_of_known hname
  · next hname =>
      split
      · next missing hmissing => exact replayed_of_missing hname hmissing
      · next hnone =>
          have hbegan := (replayed_began hname hnone).trans hinner
          split
          · next error herror => exact hbegan.trans (replayed_failed hname hnone herror)
          · next hdone => exact hbegan.trans (replayed_recorded hname hnone hdone hinner)

end PluginCall

/-- An application after a setup has grown by the steps of the setup. -/
theorem Setup.run_replayed (setup : Setup σ) (app : App σ) :
    app.Replayed (setup.run app).app (setup.pluginSteps app) := by
  induction setup generalizing app with
  | finish error => exact .refl app
  | route method path handler options next ih =>
      exact (ih _ _).of_plugins_eq (app.plugins_insertRoute method path handler options [])
  | group path body next ih => exact (ih _ _).of_plugins_eq (body.plugins_run _ app)
  | use m next ih => exact (ih _).of_plugins_eq rfl
  | useAt path m next ih => exact (ih _).of_plugins_eq rfl
  | onBefore hook next ih => exact (ih _).of_plugins_eq rfl
  | onAfter hook next ih => exact (ih _).of_plugins_eq rfl
  | onError hook next ih => exact (ih _).of_plugins_eq rfl
  | onNotFound hook next ih => exact (ih _).of_plugins_eq rfl
  | setState key value next ih => exact (ih _).of_plugins_eq rfl
  | decorate key value next ih => exact (ih _).of_plugins_eq rfl
  | compile next ih => exact (ih _ _).of_plugins_eq app.plugins_compile
  | register name dependencies inner next ihInner ihNext =>
      let call : PluginCall σ := ⟨app, ⟨name, dependencies, inner⟩⟩
      exact (call.replayed (ihInner app)).trans (ihNext _ _)
  | inspect next ih => exact ih app app

end Run

namespace App

/-- Plugins are recorded in order.  The recorded names are those of the plugins
whose setup ended without error, each after the plugins that it depends on.  A
setup is only run while its name is not recorded, and a call for a recorded name,
or without one of the dependencies, changes nothing.  Nothing is recorded for a
plugin whose setup fails.  A name is recorded twice just if a plugin is recorded
whose setup has recorded a plugin of the same name. -/
theorem plugins_in_order {σ : Type} (config : AppConfig) (setup : Setup σ) :
    let app := (setup.run (new config)).app
    let steps := setup.pluginSteps (new config)
    app.plugins = PluginStep.names steps ∧
    (app.plugins.Nodup ↔ ∀ call, .recorded call ∈ steps → ¬ call.RecordsOwnName) ∧
    (∀ earlier call later, steps = earlier ++ .recorded call :: later →
      app.plugins = PluginStep.names earlier ++ call.plugin.name :: PluginStep.names later ∧
      ∀ dependency ∈ call.plugin.dependencies, dependency ∈ PluginStep.names earlier) ∧
    (∀ earlier call later, steps = earlier ++ .began call :: later →
      call.plugin.name ∉ PluginStep.names earlier) ∧
    (∀ call, .skipped call ∈ steps →
      call.result.app = call.app ∧ call.result.error = none) ∧
    (∀ call missing, .refused call missing ∈ steps →
      call.result = ⟨call.app, [], some (.pluginDependency call.plugin.name missing)⟩) ∧
    ∀ call error, .failed call error ∈ steps →
      call.result = call.setUp ∧ call.result.error = some error ∧
      (call.plugin.name ∈ call.result.app.plugins ↔ call.RecordsOwnName) := by
  intro app steps
  obtain ⟨hreplays, hplugins⟩ := setup.run_replayed (new config)
  have hnames : app.plugins = PluginStep.names steps := hplugins
  have hfits : ∀ earlier step later, steps = earlier ++ step :: later →
      step.Fits (PluginStep.names earlier) := by
    intro earlier step later hsteps
    rw [show setup.pluginSteps (new config) = earlier ++ step :: later from hsteps] at hreplays
    exact hreplays.fits
  have hmember : ∀ step ∈ steps, ∃ earlier : List (PluginStep σ),
      step.Fits (PluginStep.names earlier) := by
    intro step hmem
    obtain ⟨earlier, later, hsteps⟩ := List.append_of_mem hmem
    exact ⟨earlier, hfits earlier step later hsteps⟩
  refine ⟨hnames, ?_, ?_, ?_, ?_, ?_, ?_⟩
  · rw [hnames]
    exact hreplays.nodup_iff List.nodup_nil
  · intro earlier call later hsteps
    refine ⟨?_, (hfits earlier _ later hsteps).2.2⟩
    rw [hnames, hsteps, PluginStep.names_append, PluginStep.names_cons]
    rfl
  · intro earlier call later hsteps
    exact (hfits earlier _ later hsteps).2.1
  · intro call hmem
    obtain ⟨earlier, hskipped⟩ := hmember _ hmem
    exact hskipped.2.2
  · intro call missing hmem
    obtain ⟨earlier, hrefused⟩ := hmember _ hmem
    exact hrefused.2.2.2
  · intro call error hmem
    obtain ⟨earlier, -, herror, hresult⟩ := hmember _ hmem
    refine ⟨hresult, hresult ▸ herror, ?_⟩
    rw [hresult]
    exact Iff.rfl

/-- A plugin is refused until the one that it depends on is there; then its setup
registers a third, and the two are recorded in this order. -/
theorem plugins_in_order_metrics :
    let health : Setup Unit := .finish none
    let metrics : Setup Unit := .register "counters" [] (.finish none) fun _ => .finish none
    let setup : Setup Unit :=
      .register "metrics" ["health"] metrics fun _ => .register "health" [] health fun _ =>
        .register "metrics" ["health"] metrics fun _ => .finish none
    let app := (setup.run (new .standard)).app
    app.plugins = ["health", "counters", "metrics"] ∧
      ∃ call : PluginCall Unit, call.plugin = ⟨"metrics", ["health"], metrics⟩ ∧
        call.result = ⟨call.app, [], some (.pluginDependency "metrics" "health")⟩ := by
  intro health metrics setup app
  obtain ⟨hnames, -, -, -, -, hrefused, -⟩ := plugins_in_order .standard setup
  let refused : PluginCall Unit := ⟨new .standard, ⟨"metrics", ["health"], metrics⟩⟩
  have hmem : .refused refused "health" ∈ setup.pluginSteps (new .standard) :=
    List.mem_cons_self
  exact ⟨hnames, refused, rfl, hrefused refused "health" hmem⟩

/-- The check of the name comes before the setup, and the name is recorded after
it: a plugin whose setup registers another of the same name is there twice. -/
theorem plugins_twice :
    let inner : Setup Unit := .register "a" [] (.finish none) fun _ => .finish none
    let setup : Setup Unit := .register "a" [] inner fun _ => .finish none
    let app := (setup.run (new .standard)).app
    app.plugins = ["a", "a"] ∧ ¬ app.plugins.Nodup := by
  intro inner setup app
  have hplugins : app.plugins = ["a", "a"] := rfl
  refine ⟨hplugins, ?_⟩
  rw [hplugins]
  decide

end App

end Trellis
