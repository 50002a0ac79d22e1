import Trellis.App.Handle
import Trellis.Proofs.App.Setup
import Trellis.Proofs.Routing.StaticTable
/-!
Compiling routes.  While the static table is in use it is the table of the router at hand, whatever was
registered and compiled in which order; so a request finds the same with it and without it.
-/

namespace Trellis

/-- What holds of the routes at any time.  The router holds the accepted
routes, and a static table that counts as compiled for all of them is theirs. -/
structure Routing.Consistent {σ : Type} (routing : Routing σ) : Prop where
  registered : ∃ accepted : List (Registration (Route σ)),
    (Registry.mk routing.router accepted).Valid ∧
    (Registry.mk routing.router accepted).Listed ∧
    (Registry.mk routing.router accepted).Parsed
  compiled_le : ∀ generation, routing.compiledGeneration = some generation →
    generation ≤ routing.generation
  table_eq : routing.compiledGeneration = some routing.generation →
    routing.staticTable = StaticTable.build routing.router

namespace App

variable {σ : Type}

theorem new_consistent (config : AppConfig) :
    (new config : App σ).routing.Consistent where
  registered := ⟨[], Registry.empty_valid, Registry.empty_listed,
    fun _ hmem => absurd hmem List.not_mem_nil⟩
  compiled_le := fun _ hcompiled => nomatch hcompiled
  table_eq := fun hcompiled => nomatch hcompiled

/-- An accepted registration makes the table stale: no earlier compilation was
for as many routes. -/
theorem insertRoute_consistent (app : App σ) (method : Method) (path : String)
    (handler : Handler σ) (options : RouteOptions σ)
    (outer : List (Middleware σ)) (hconsistent : app.routing.Consistent) :
    (app.insertRoute method path handler options outer).app.routing.Consistent
    := by
  rcases app.insertRoute_cases method path handler options outer with
    ⟨pattern, router, route, hparse, hinsert, happ, -⟩ | ⟨happ, -⟩
  · rw [happ]
    obtain ⟨accepted, hvalid, hlisted, hparsed⟩ := hconsistent.registered
    let call := Registration.mk method pattern route
    refine ⟨⟨accepted ++ [call], hvalid.accept (c := call) hinsert,
      hlisted.accept (c := call) hinsert, ?_⟩, ?_, ?_⟩
    · intro c hmem
      rcases List.mem_append.mp hmem with hold | hnew
      · exact hparsed c hold
      · rw [List.mem_singleton.mp hnew]
        exact ⟨path, hparse⟩
    · intro generation hcompiled
      exact Nat.le_succ_of_le (hconsistent.compiled_le generation hcompiled)
    · intro hcompiled
      have hle := hconsistent.compiled_le (app.generation + 1) hcompiled
      exact absurd hle (Nat.not_succ_le_self app.generation)
  · rw [happ]
    exact hconsistent

theorem compile_consistent (app : App σ)
    (hconsistent : app.routing.Consistent) :
    app.compile.app.routing.Consistent := by
  rcases app.compile_cases with ⟨-, happ, -⟩ | ⟨happ, -⟩ | ⟨happ, -⟩
  · rw [happ]
    exact hconsistent
  · rw [happ]
    exact hconsistent
  · rw [happ]
    refine ⟨hconsistent.registered, ?_, fun _ => rfl⟩
    intro generation hcompiled
    exact Nat.le_of_eq (Option.some.inj hcompiled).symm

theorem consistent_kept : Routing.Kept (Routing.Consistent (σ := σ)) :=
  ⟨insertRoute_consistent, compile_consistent⟩

/-- The static table gives nothing that the router does not give. -/
theorem resolve_eq {app : App σ} (hconsistent : app.routing.Consistent)
    (m : Method) {segments : List String}
    (hsegments : ∀ s ∈ segments, Path.IsSegment s) :
    app.resolve m segments = app.router.resolveSegments m segments := by
  obtain ⟨accepted, hvalid, hlisted, hparsed⟩ := hconsistent.registered
  unfold resolve
  by_cases hcompiled : app.isCompiled
  · have htable : app.staticTable = StaticTable.build app.router :=
      hconsistent.table_eq (isCompiled_iff.mp hcompiled)
    rw [if_pos hcompiled, htable]
    cases hlookup : (StaticTable.build app.router).lookup m
        (Path.join segments) with
    | none => rfl
    | some leaf =>
        exact (Registry.resolveSegments_of_lookup hvalid hlisted hparsed
          hsegments hlookup).symm
  · simp [hcompiled]

end App

/-- What holds of the routes from a compilation without error on.  A later
compilation counts for at least as many routes, and the routes only grow. -/
structure Routing.Since {σ : Type} (base routing : Routing σ) : Prop where
  generation_eq : routing.generation + base.entries.length =
    base.generation + routing.entries.length
  entries_le : base.entries.length ≤ routing.entries.length
  compiled : ∃ generation, routing.compiledGeneration = some generation ∧
    base.generation ≤ generation ∧ generation ≤ routing.generation

namespace App

variable {σ : Type}

theorem since_refl {app : App σ} (hcompiled : app.isCompiled) :
    app.routing.Since app.routing where
  generation_eq := rfl
  entries_le := Nat.le_refl _
  compiled := ⟨app.generation, isCompiled_iff.mp hcompiled, Nat.le_refl _,
    Nat.le_refl _⟩

theorem since_kept (base : Routing σ) : Routing.Kept base.Since where
  insert := by
    intro app method path handler options outer hsince
    rcases app.insertRoute_cases method path handler options outer with
      ⟨pattern, router, route, -, -, happ, -⟩ | ⟨happ, -⟩
    · rw [happ]
      obtain ⟨heq, hle, generation, hcompiled, hfrom, hto⟩ := hsince
      refine ⟨?_, ?_, generation, hcompiled, hfrom, Nat.le_succ_of_le hto⟩
      · simp only [routing, List.length_append, List.length_singleton] at heq ⊢
        omega
      · simp only [routing, List.length_append, List.length_singleton] at hle ⊢
        omega
    · rw [happ]
      exact hsince
  compile := by
    intro app hsince
    rcases app.compile_cases with ⟨-, happ, -⟩ | ⟨happ, -⟩ | ⟨happ, -⟩
    · rw [happ]
      exact hsince
    · rw [happ]
      exact hsince
    · rw [happ]
      obtain ⟨heq, hle, generation, -, hfrom, hto⟩ := hsince
      exact ⟨heq, hle, app.generation, rfl, Nat.le_trans hfrom hto,
        Nat.le_refl _⟩

/-- Routes that were compiled stay so while none is added. -/
theorem isCompiled_of_since {base app : App σ}
    (hsince : base.routing.Since app.routing)
    (hentries : app.entries = base.entries) : app.isCompiled := by
  obtain ⟨heq, -, generation, hcompiled, hfrom, hto⟩ := hsince
  have hgeneration : generation = app.generation := by
    simp only [routing, hentries] at heq hfrom hto
    omega
  exact isCompiled_iff.mpr (hgeneration ▸ hcompiled)

/-- Compiling routes is invisible.  After any setup of a new application a
method and a path are resolved to what the router alone gives.  A compilation
after one without error changes nothing, whatever was set up in between, if no
route was added; and a compilation that ends with an error leaves the table,
and whether it is in use, as they were. -/
theorem compile_invisible (config : AppConfig) (setup : Setup σ) :
    let app := (setup.run (new config)).app
    (∀ (m : Method) (segments : List String),
      (∀ s ∈ segments, Path.IsSegment s) →
        app.resolve m segments = app.router.resolveSegments m segments) ∧
    (app.compile.error = none → ∀ later : Setup σ,
      let grown := (later.run app.compile.app).app
      grown.entries = app.compile.app.entries →
        grown.compile.app = grown ∧ grown.compile.error = none) ∧
    (app.compile.error ≠ none →
      app.compile.app.staticTable = app.staticTable ∧
      app.compile.app.isCompiled = app.isCompiled) := by
  intro app
  refine ⟨?_, ?_, ?_⟩
  · intro m segments hsegments
    have hconsistent := consistent_kept.setup setup (new config)
      (new_consistent config)
    exact resolve_eq hconsistent m hsegments
  · intro hdone later grown hentries
    have hbase := since_refl (isCompiled_compile hdone)
    have hsince := (since_kept app.compile.app.routing).setup later
      app.compile.app hbase
    exact compile_of_isCompiled (isCompiled_of_since hsince hentries)
  · intro herror
    rcases app.compile_cases with ⟨-, -, hdone⟩ | ⟨happ, -⟩ | ⟨-, hdone⟩
    · exact absurd hdone herror
    · rw [happ]
      exact ⟨rfl, rfl⟩
    · exact absurd hdone herror

end App

end Trellis
