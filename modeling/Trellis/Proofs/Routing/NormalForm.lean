import Trellis.Config.Environment
import Trellis.Proofs.Routing.Group
import Trellis.Proofs.Routing.Pattern
/-!
Normal forms.  A path is known by its segments, and its normal form writes them; so the normal form of a pattern's
text is read as the pattern again, and a base path that is cleaned has the segments that were given.
-/

namespace Trellis

namespace Path

theorem split_normalize (path : String) : split (normalize path) = split path :=
  split_join_split path

theorem normalize_normalize (path : String) :
    normalize (normalize path) = normalize path := by
  rw [normalize, split_normalize, normalize]

/-- Paths with the same segments have one normal form. -/
theorem normalize_eq_iff {first second : String} :
    normalize first = normalize second ↔ split first = split second :=
  ⟨join_injective (fun _ hs => isSegment_of_mem_split hs)
    (fun _ hs => isSegment_of_mem_split hs), congrArg join⟩

end Path

namespace Pattern

/-- The segments of a pattern are written as the parts that they were read
from. -/
theorem Reads.texts_eq {seen parts : List String} {segments : List Segment}
    (hreads : Reads seen parts segments) : segments.map Segment.text = parts := by
  induction hreads with
  | nil => rfl
  | wildcard => rfl
  | @param seen rest segments part name hpart _ _ _ ih =>
      have htext : (Segment.param (String.ofList name)).text = part := by
        rw [Segment.text, String.toList_ofList, ← hpart, String.ofList_toList]
      rw [List.map_cons, htext, ih]
  | literal _ _ _ ih => rw [List.map_cons, Segment.text, ih]

variable {raw other : String} {p q : Pattern}

theorem canonical_of_parse (hparse : parse raw = .ok p) :
    p.canonical = Path.normalize raw := by
  obtain ⟨-, -, hreads⟩ := parse_eq_ok_iff.mp hparse
  rw [canonical, hreads.texts_eq, Path.normalize]

/-- The canonical form of a pattern is read as its segments. -/
theorem parse_canonical (hparse : parse raw = .ok p) :
    parse p.canonical = .ok ⟨p.canonical, p.segments⟩ := by
  rw [canonical_of_parse hparse]
  exact parse_join_of_parse hparse

theorem canonical_eq_iff (hparse : parse raw = .ok p) (hother : parse other = .ok q) :
    p.canonical = q.canonical ↔ p.segments = q.segments := by
  constructor
  · intro heq
    have hsame := parse_canonical hparse
    rw [heq, parse_canonical hother] at hsame
    exact (congrArg Pattern.segments (Except.ok.inj hsame)).symm
  · intro heq
    rw [canonical, canonical, heq]

end Pattern

namespace AppConfig

/-- A base path is kept clean for the text that was given: it is empty or a normal
form, it has the segments of the text, and to clean it again changes nothing. -/
structure Cleans (given base : String) : Prop where
  normal : base = "" ∨ Path.normalize base = base
  split_eq : Path.split base = Path.split given
  stable : cleanBasePath base = base

theorem cleans_cleanBasePath (given : String) : Cleans given (cleanBasePath given) := by
  unfold cleanBasePath
  dsimp only
  split
  · next hroot =>
      have hsplit := Path.split_normalize given
      rw [hroot] at hsplit
      exact ⟨Or.inl rfl, hsplit, rfl⟩
  · next hroot =>
      have hnormal := Path.normalize_normalize given
      refine ⟨Or.inr hnormal, Path.split_normalize given, ?_⟩
      rw [cleanBasePath, hnormal]
      exact if_neg hroot

/-- A value of a key changes the configuration, and without one it stays. -/
theorem setFrom_cases {vars : KeyMap String} {key : String}
    {set : AppConfig → String → Except ConfigError AppConfig} {c d : AppConfig}
    (hset : setFrom vars key set c = .ok d) :
    (∃ value, vars.get? key = some value ∧ set c value = .ok d) ∨
      vars.get? key = none ∧ d = c := by
  unfold setFrom at hset
  split at hset
  · next value hvalue => exact Or.inl ⟨value, hvalue, hset⟩
  · next hnone => exact Or.inr ⟨hnone, (Except.ok.inj hset).symm⟩

theorem basePath_of_setFrom {vars : KeyMap String} {key : String} {α : Type}
    {read : String → Except ConfigError α} (update : AppConfig → α → AppConfig)
    (hkeeps : ∀ c value, (update c value).basePath = c.basePath) {c d : AppConfig}
    (hset : setFrom vars key (fun c v => (read v).map (update c)) c = .ok d) :
    d.basePath = c.basePath := by
  rcases setFrom_cases hset with ⟨text, -, hread⟩ | ⟨-, rfl⟩
  · obtain ⟨value, -, rfl⟩ := Except.map_eq_ok_iff.mp hread
    exact hkeeps c value
  · rfl

/-- Of the variables one alone counts for the base path. -/
theorem basePath_of_ofVariables {vars : KeyMap String} {c : AppConfig}
    (hvars : ofVariables vars = .ok c) :
    c.basePath = cleanBasePath ((vars.get? "base_path").getD "") := by
  obtain ⟨afterMode, hmode, hvars⟩ := Except.bind_eq_ok_iff.mp hvars
  obtain ⟨afterBase, hbase, hvars⟩ := Except.bind_eq_ok_iff.mp hvars
  obtain ⟨afterStrict, hstrict, hwarn⟩ := Except.bind_eq_ok_iff.mp hvars
  rw [basePath_of_setFrom withWarnLateRoutes (fun _ _ => rfl) hwarn,
    basePath_of_setFrom withStrictMethods (fun _ _ => rfl) hstrict]
  rcases setFrom_cases hbase with ⟨text, htext, hset⟩ | ⟨hnone, rfl⟩
  · rw [← Except.ok.inj hset, htext]
    rfl
  · rw [basePath_of_setFrom withMode (fun _ _ => rfl) hmode, hnone]
    rfl

end AppConfig

namespace Path

/-- Paths, patterns and base paths have normal forms.  Segments that are joined are
split again.  The normal form of a path is one, it has the segments of the path,
and paths have one normal form exactly if they have the same segments.  The
canonical form of a pattern that is read is the normal form of its text, it is read
as the same segments with the same canonical form, and patterns have one canonical
form exactly if they have the same segments.  Base paths are kept clean, whether
they are given in code or by variables. -/
theorem normal_forms :
    (∀ segments, (∀ s ∈ segments, IsSegment s) → split (join segments) = segments) ∧
    (∀ first second : String,
      normalize (normalize first) = normalize first ∧
      split (normalize first) = split first ∧
      (normalize first = normalize second ↔ split first = split second)) ∧
    (∀ raw p, Pattern.parse raw = .ok p →
      p.canonical = normalize raw ∧
      (∃ again, Pattern.parse p.canonical = .ok again ∧
        again.segments = p.segments ∧ again.canonical = p.canonical) ∧
      ∀ other q, Pattern.parse other = .ok q →
        (p.canonical = q.canonical ↔ p.segments = q.segments)) ∧
    (∀ (c : AppConfig) given, AppConfig.Cleans given (c.withBasePath given).basePath) ∧
    ∀ vars c, AppConfig.ofVariables vars = .ok c →
      AppConfig.Cleans ((vars.get? "base_path").getD "") c.basePath := by
  refine ⟨fun segments => split_join, fun first second => ?_, fun raw p hparse => ?_,
    fun c given => AppConfig.cleans_cleanBasePath given, fun vars c hvars => ?_⟩
  · exact ⟨normalize_normalize first, split_normalize first, normalize_eq_iff⟩
  · exact ⟨Pattern.canonical_of_parse hparse,
      ⟨_, Pattern.parse_canonical hparse, rfl, rfl⟩,
      fun other q hother => Pattern.canonical_eq_iff hparse hother⟩
  · rw [AppConfig.basePath_of_ofVariables hvars]
    exact AppConfig.cleans_cleanBasePath _

/-- Slashes placed in three ways: around a pattern, in it, and in a base path. -/
theorem normal_forms_items :
    let vars : KeyMap String := [("base_path", "/api//v1/")]
    let c := { AppConfig.standard with basePath := "/api/v1" }
    let p : Pattern := ⟨"//items//:id/", [.literal "items", .param "id"]⟩
    let q : Pattern := ⟨"/items/:id", [.literal "items", .param "id"]⟩
    split (join ["items", ":id"]) = ["items", ":id"] ∧
      Pattern.parse "//items//:id/" = .ok p ∧ Pattern.parse "/items/:id" = .ok q ∧
      p.canonical = normalize "//items//:id/" ∧
      (p.canonical = q.canonical ↔ p.segments = q.segments) ∧
      AppConfig.ofVariables vars = .ok c ∧ AppConfig.Cleans "/api//v1/" c.basePath := by
  intro vars c p q
  have hp : Pattern.parse "//items//:id/" = .ok p := rfl
  have hq : Pattern.parse "/items/:id" = .ok q := rfl
  have hvars : AppConfig.ofVariables vars = .ok c := rfl
  obtain ⟨hjoin, -, hpatterns, -, hclean⟩ := normal_forms
  obtain ⟨hcanonical, -, hsame⟩ := hpatterns _ p hp
  have hsegments : ∀ s ∈ ["items", ":id"], IsSegment s := by
    simp [IsSegment]
  exact ⟨hjoin _ hsegments, hp, hq, hcanonical, hsame _ q hq, hvars, hclean vars c hvars⟩

end Path

end Trellis
