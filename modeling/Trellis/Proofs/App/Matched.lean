import Trellis.Proofs.App.Answer
import Trellis.Proofs.App.Ledger
import Trellis.Proofs.App.Placed
/-!
The route that a request is matched to.  It is one of the routes that were registered, and was found for the
segments of the request's path below the base path.
-/

namespace Trellis

/-- The router holds the registered routes. -/
def Routing.Holds {σ : Type} (routing : Routing σ) : Prop :=
  ∃ accepted : List (Registration (Route σ)),
    (Registry.mk routing.router accepted).Valid ∧
    accepted.map (·.value) = routing.entries

namespace App

variable {σ : Type}

theorem holds_of_placed {app : App σ} (hplaced : app.routing.Placed) :
    app.routing.Holds := by
  obtain ⟨accepted, hvalid, hentries, -⟩ := hplaced
  exact ⟨accepted, hvalid, hentries⟩

/-- A route that is found was registered. -/
theorem mem_entries_of_resolve {app : App σ} (hconsistent : app.routing.Consistent)
    (hholds : app.routing.Holds) {m : Method} {segments : List String}
    (hsegments : ∀ s ∈ segments, Path.IsSegment s) {found : Match (Route σ)}
    (hfound : app.resolve m segments = .found found) :
    found.value ∈ app.entries := by
  obtain ⟨accepted, hvalid, hentries⟩ := hholds
  rw [resolve_eq hconsistent m hsegments, Router.resolveSegments] at hfound
  cases hsearch : app.router.root.search m segments with
  | miss allowed =>
      rw [hsearch] at hfound
      cases allowed <;> contradiction
  | hit leaf captures =>
      rw [hsearch] at hfound
      obtain ⟨c, hmatching, -, rfl, -⟩ := hvalid.search_hit hsearch
      obtain rfl := Resolution.found.inj hfound
      have hmem : c.value ∈ accepted.map (·.value) :=
        List.mem_map_of_mem hmatching.1
      rw [hentries] at hmem
      exact hmem

/-- The part of a path below the base path: the base path and this part are
the path. -/
theorem relative?_eq_some_iff {app : App σ} {segments rest : List String} :
    app.relative? segments = some rest ↔
      segments = Path.split app.config.basePath ++ rest := by
  unfold relative?
  dsimp only
  constructor
  · intro hrest
    split at hrest
    · next hcovers =>
        obtain ⟨tail, htail⟩ := Path.covers_iff.mp hcovers
        obtain rfl := Option.some.inj hrest
        rw [← htail, List.drop_left]
    · contradiction
  · rintro rfl
    rw [if_pos (Path.covers_iff.mpr (List.prefix_append _ _)),
      List.drop_left]

theorem relative?_eq_none_iff {app : App σ} {segments : List String} :
    app.relative? segments = none ↔
      ¬ Path.split app.config.basePath <+: segments := by
  rw [Option.eq_none_iff_forall_ne_some]
  constructor
  · rintro hnone ⟨rest, hrest⟩
    exact hnone rest (relative?_eq_some_iff.mpr hrest.symm)
  · rintro houtside rest hrest
    exact houtside ⟨rest, (relative?_eq_some_iff.mp hrest).symm⟩

/-- What is left of a path below the base path are segments. -/
theorem isSegment_of_below {app : App σ} {request : Request} {rest : List String}
    (hpath : Path.split request.path = Path.split app.config.basePath ++ rest) :
    ∀ s ∈ rest, Path.IsSegment s := by
  intro s hmem
  have hsplit : s ∈ Path.split request.path := by
    rw [hpath]
    exact List.mem_append_right _ hmem
  exact Path.isSegment_of_mem_split hsplit

/-- A request is matched to the route that is found for the part of its path
below the base path. -/
theorem matched_of_resolve {app : App σ} {request : Request} {m : Method}
    {segments : List String} {found : Match (Route σ)}
    (hmethod : Method.ofRequest? request.method = some m)
    (hpath : Path.split request.path = Path.split app.config.basePath ++ segments)
    (hfound : app.resolve m segments = .found found) :
    app.matched request = .route found.value segments
      (app.exchange request (Path.join segments) (some found.pattern.raw)
        found.params) := by
  have hbelow : app.relative? (Path.split request.path) = some segments :=
    relative?_eq_some_iff.mpr hpath
  have hresolution : app.resolution request = .found found := by
    rw [resolution, hmethod, hbelow]
    exact hfound
  rw [matched, hresolution, segmentsOf, hbelow]
  rfl

/-- A matched request has a path below the base path, and its route was found
for the rest of the path. -/
theorem exists_found_of_matched {app : App σ} {request : Request}
    {route : Route σ} {segments : List String} {x : Exchange}
    (hmatched : app.matched request = .route route segments x) :
    ∃ m found, app.resolve m segments = .found found ∧ found.value = route ∧
      x = app.exchange request (Path.join segments) (some found.pattern.raw)
        found.params ∧
      Path.split request.path = Path.split app.config.basePath ++ segments := by
  unfold matched at hmatched
  cases hresolution : app.resolution request with
  | methodNotAllowed allowed =>
      rw [hresolution] at hmatched
      contradiction
  | notFound =>
      rw [hresolution] at hmatched
      contradiction
  | found found =>
      rw [hresolution] at hmatched
      obtain ⟨rfl, hsegments, rfl⟩ := Matched.route.inj hmatched
      unfold resolution at hresolution
      split at hresolution
      · next m below _ hbelow =>
          rw [hbelow] at hsegments
          obtain rfl : below = segments := hsegments
          have hjoin : app.segmentsOf request = below := by
            rw [segmentsOf, hbelow]
            rfl
          exact ⟨m, found, hresolution, rfl, by rw [hjoin],
            relative?_eq_some_iff.mp hbelow⟩
      · contradiction

/-- Of two lists that are related in order, what is in the second is related to
something in the first. -/
theorem exists_related_of_mem {α β : Type} {R : α → β → Prop} {first : List α}
    {second : List β} (hrelated : List.Forall₂ R first second) {b : β}
    (hmem : b ∈ second) : ∃ a ∈ first, R a b := by
  induction hrelated with
  | nil => exact absurd hmem List.not_mem_nil
  | cons hhead _ ih =>
      rcases List.mem_cons.mp hmem with rfl | htail
      · exact ⟨_, List.mem_cons_self, hhead⟩
      · obtain ⟨a, ha, hb⟩ := ih htail
        exact ⟨a, List.mem_cons_of_mem _ ha, hb⟩

/-- The route of a matched request was declared in the setup. -/
theorem exists_declared_of_matched {config : AppConfig} {setup : Setup σ}
    {request : Request} {route : Route σ} {segments : List String} {x : Exchange}
    (hmatched : (setup.run (new config)).app.matched request =
      .route route segments x) :
    ∃ declared ∈ (setup.ledger (new config)).routes, declared.Gives route := by
  obtain ⟨m, found, hfound, rfl, -, hpath⟩ := exists_found_of_matched hmatched
  have hmem := mem_entries_of_resolve
    (consistent_kept.setup setup (new config) (new_consistent config))
    (holds_of_placed (placed_kept.setup setup (new config) (new_placed config)))
    (isSegment_of_below hpath) hfound
  obtain ⟨added, hentries, hgives⟩ := (setup.run_grown (new config)).routes
  rw [hentries] at hmem
  exact exists_related_of_mem hgives hmem

end App

end Trellis
