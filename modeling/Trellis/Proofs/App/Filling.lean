import Trellis.Proofs.App.Matched
import Trellis.Proofs.Http.Target
import Trellis.Proofs.Routing.Filling
/-!
Captures of encoded paths.  What is put into a pattern comes back as captures, in the router and in the application:
no encoded character divides a segment or ends the path, and nothing is decoded twice.
-/

namespace Trellis

namespace App

/-- A route alone in its application is found for each path that its pattern is filled to,
below the base path and before any query. -/
theorem matched_write {σ : Type} {app : App σ} (hconsistent : app.routing.Consistent)
    {raw : String} {p : Pattern} (hparse : Pattern.parse raw = .ok p) (f : Filling)
    {m asked : Method} (hserves : m = asked ∨ m = .any) {route : Route σ}
    (hinsert : Router.empty.insert m p route = .ok app.router) {request : Request}
    (hmethod : Method.ofRequest? request.method = some asked)
    (hpath : request.path = Path.join (Path.split app.config.basePath ++ p.written f)) :
    app.matched request = .route route (p.written f)
      (app.exchange request (p.write f) (some raw) (p.filled f)) := by
  have hwritten : ∀ s ∈ p.written f, Path.IsSegment s :=
    fun s hmem => Pattern.isSegment_of_mem_written hparse hmem
  have hall : ∀ s ∈ Path.split app.config.basePath ++ p.written f, Path.IsSegment s :=
    List.forall_mem_append.mpr ⟨fun _ => Path.isSegment_of_mem_split, hwritten⟩
  have hfound : app.resolve asked (p.written f) = .found ⟨route, p, p.filled f⟩ := by
    rw [resolve_eq hconsistent asked hwritten, ← Pattern.split_write hparse f]
    exact Registry.resolve_write hparse f hinsert hserves
  have hsegments : Path.split request.path =
      Path.split app.config.basePath ++ p.written f := by
    rw [hpath, Path.split_join hall]
  have hmatched := matched_of_resolve hmethod hsegments hfound
  rwa [Pattern.raw_of_parse hparse] at hmatched

/-- Captures take back what was put into a pattern.  The path that a pattern is filled to has
the segments that were written: the literals, one for each parameter, and one for each text of
the wildcard.  A router with one route finds it for this path, and the captures are the texts that were put
in: by the names of the pattern, in order, and for the wildcard its texts joined by slashes.
So does an application whose router it is, below its base path and whatever query follows; a
question mark can end the path early only if the base path or a literal of the pattern has
one. -/
theorem filled_path_read_back {raw : String} {p : Pattern} (hparse : Pattern.parse raw = .ok p)
    (f : Filling) {m asked : Method} (hserves : m = asked ∨ m = .any) :
    Path.split (p.write f) = p.written f ∧
    (p.filled f).entries.map (·.1) = p.paramNames ∧
    (p.filled f).entries.map (·.2) = p.captured f ∧
    (∀ {α : Type} (value : α), ∃ router, Router.empty.insert m p value = .ok router ∧
      router.resolve asked (p.write f) = .found ⟨value, p, p.filled f⟩) ∧
    ∀ {σ : Type} (config : AppConfig) (setup : Setup σ) (route : Route σ) (request : Request),
      let app := (setup.run (new config)).app
      let base := Path.split app.config.basePath
      let given := request.atPath (base ++ p.written f)
      Router.empty.insert m p route = .ok app.router →
      Method.ofRequest? request.method = some asked →
      (∀ s ∈ base, '?' ∉ s.toList) →
      (∀ text, .literal text ∈ p.segments → '?' ∉ text.toList) →
        given.path = Path.join (base ++ p.written f) ∧ given.query? = request.query? ∧
        app.matched given = .route route (p.written f)
          (app.exchange given (p.write f) (some raw) (p.filled f)) := by
  refine ⟨Pattern.split_write hparse f, p.names_filled f, p.values_filled f,
    fun value => ?_, ?_⟩
  · obtain ⟨router, hinsert⟩ := Registry.exists_insert_empty m p value
    exact ⟨router, hinsert, Registry.resolve_write hparse f hinsert hserves⟩
  · intro σ config setup route request app base given hinsert hmethod hbase hliterals
    have hmark : ∀ s ∈ base ++ p.written f, '?' ∉ s.toList :=
      List.forall_mem_append.mpr ⟨hbase, fun _ => Pattern.mark_not_mem_written hliterals⟩
    have hsame : request.SameButPath given := request.sameButPath_atPath hmark
    have hconsistent : app.routing.Consistent :=
      consistent_kept.setup setup (new config) (new_consistent config)
    rw [← hsame.method] at hmethod
    have hpath := request.path_atPath hmark
    exact ⟨hpath, hsame.query,
      matched_write hconsistent hparse f hserves hinsert hmethod hpath⟩

/-- Slashes, a question mark, signs and letters beyond ASCII in a parameter and in a wildcard,
below a base path and before a query. -/
theorem filled_path_read_back_files :
    let p : Pattern := ⟨"/files/:name/*", [.literal "files", .param "name", .wildcard]⟩
    let f : Filling := ⟨fun _ => "a/b?c%41+é", ["x/y", "ü%"],
      fun _ => by decide, by decide, by decide⟩
    let params : Params := ⟨[("name", "a/b?c%41+é"), ("*", "x/y/ü%")]⟩
    let reply : Handler Unit := fun m => ⟨[], m.own, .ok fun m => ⟨[], m.own, .done .nothing⟩⟩
    let setup : Setup Unit :=
      .route .get "/files/:name/*" reply RouteOptions.none fun _ => .compile fun _ => .finish none
    let app := (setup.run (new { AppConfig.standard with basePath := "/api" })).app
    let given := (Request.new "GET" "/?page=2").atPath ("api" :: p.written f)
    Pattern.parse "/files/:name/*" = .ok p ∧
      p.write f = "/files/a%2Fb%3Fc%2541%2B%C3%A9/x%2Fy/%C3%BC%25" ∧
      (∃ router, Router.empty.insert .get p 1 = .ok router ∧
        router.resolve .get (p.write f) = .found ⟨1, p, params⟩) ∧
      given.target = "/api/files/a%2Fb%3Fc%2541%2B%C3%A9/x%2Fy/%C3%BC%25?page=2" ∧
      given.query? = some "page=2" ∧
      ∃ route, app.matched given = .route route (p.written f)
        (app.exchange given (p.write f) (some "/files/:name/*") params) := by
  intro p f params reply setup app given
  have hparse : Pattern.parse "/files/:name/*" = .ok p := rfl
  have hmethod : Method.ofRequest? "GET" = some .get := by decide +kernel
  have hfilled : p.filled f = params := rfl
  have hbase : app.config.basePath = "/api" := rfl
  have hsplit : Path.split app.config.basePath = ["api"] := by
    rw [hbase]
    rfl
  have hfree : ∀ s ∈ Path.split app.config.basePath, '?' ∉ s.toList := by
    rw [hsplit]
    decide
  have hliterals : ∀ text, .literal text ∈ p.segments → '?' ∉ text.toList := by
    intro text hmem
    obtain rfl : text = "files" := by simpa [p] using hmem
    decide
  let route : Route Unit := routeOf .get p reply RouteOptions.none []
  have hinsert : Router.empty.insert .get p route = .ok app.router := rfl
  obtain ⟨-, -, -, hrouter, hserved⟩ := filled_path_read_back hparse f (Or.inl (Eq.refl Method.get))
  have hall := hserved { AppConfig.standard with basePath := "/api" } setup route
    (Request.new "GET" "/?page=2") hinsert hmethod hfree hliterals
  rw [hfilled, show Path.split (setup.run _).app.config.basePath = ["api"] from hsplit] at hall
  rw [hfilled] at hrouter
  exact ⟨hparse, by decide +kernel, hrouter 1, by decide +kernel, hall.2.1, route, hall.2.2⟩

end App

end Trellis
