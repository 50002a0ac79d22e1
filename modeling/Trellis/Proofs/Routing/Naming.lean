import Trellis.Proofs.KeyMap
import Trellis.Proofs.Routing.Captures
import Trellis.Proofs.Routing.Pattern
import Trellis.Proofs.Routing.StaticTable
/-!
The names of captures.  No two parameters of a pattern have one name, and a wildcard has the star for its name.  So
what a route has captured is read back by name, one by one and as an object, unless a parameter of its pattern has
the name of the wildcard.
-/

namespace Trellis

/-- The name that a pattern gives a parameter. -/
def Segment.given? : Segment → Option String
  | .param name => some name
  | _ => none

namespace Pattern

/-- A parameter has the name of the wildcard. -/
def SharesStar (p : Pattern) : Prop :=
  .param "*" ∈ p.segments ∧ .wildcard ∈ p.segments

/-- The names of parameters differ from each other and from those seen
before. -/
theorem Reads.given_nodup {seen parts : List String} {segments : List Segment}
    (hreads : Reads seen parts segments) :
    (segments.filterMap Segment.given?).Nodup ∧
      ∀ name ∈ segments.filterMap Segment.given?, name ∉ seen := by
  induction hreads with
  | nil => simp
  | wildcard => exact ⟨List.nodup_nil, fun _ hname => absurd hname List.not_mem_nil⟩
  | @param seen rest segments part name _ _ hseen _ ih =>
      obtain ⟨hnodup, hfresh⟩ := ih
      simp only [List.filterMap_cons, Segment.given?, List.nodup_cons, List.forall_mem_cons]
      refine ⟨⟨fun hmem => hfresh _ hmem List.mem_cons_self, hnodup⟩, hseen, ?_⟩
      exact fun other hother hmem => hfresh other hother (List.mem_cons_of_mem _ hmem)
  | literal _ _ _ ih => exact ih

/-- The name of a wildcard comes after those of the parameters. -/
theorem Reads.names_eq {seen parts : List String} {segments : List Segment}
    (hreads : Reads seen parts segments) :
    segments.filterMap Segment.name? = segments.filterMap Segment.given? ++
      if .wildcard ∈ segments then ["*"] else [] := by
  induction hreads with
  | nil => rfl
  | wildcard => rfl
  | param _ _ _ _ ih => simp [Segment.name?, Segment.given?, ih]
  | literal _ _ _ ih =>
      rw [List.filterMap_cons_none rfl, List.filterMap_cons_none rfl, ih]
      simp

variable {raw : String} {p : Pattern}

theorem mem_given_iff {name : String} :
    name ∈ p.segments.filterMap Segment.given? ↔ .param name ∈ p.segments := by
  rw [List.mem_filterMap]
  constructor
  · rintro ⟨segment, hmem, hname⟩
    cases segment with
    | param given =>
        obtain rfl := Option.some.inj hname
        exact hmem
    | literal text => contradiction
    | wildcard => contradiction
  · exact fun hmem => ⟨_, hmem, rfl⟩

/-- The names of a pattern that is read: those of the parameters, all different,
and after them the star for a wildcard. -/
theorem paramNames_of_parse (hparse : parse raw = .ok p) :
    ∃ names : List String, names.Nodup ∧ (∀ name, name ∈ names ↔ .param name ∈ p.segments) ∧
      p.paramNames = names ++ if .wildcard ∈ p.segments then ["*"] else [] := by
  obtain ⟨-, -, hreads⟩ := parse_eq_ok_iff.mp hparse
  exact ⟨_, hreads.given_nodup.1, fun name => mem_given_iff, hreads.names_eq⟩

theorem paramNames_nodup_iff (hparse : parse raw = .ok p) :
    p.paramNames.Nodup ↔ ¬ p.SharesStar := by
  obtain ⟨names, hnodup, hmem, hnames⟩ := paramNames_of_parse hparse
  rw [hnames, SharesStar, ← hmem]
  by_cases hwildcard : .wildcard ∈ p.segments
  · simp [hwildcard, hnodup, List.nodup_append']
  · simp [hwildcard, hnodup]

/-- Apart from the star, the names of a pattern are all different. -/
theorem filter_paramNames_nodup (hparse : parse raw = .ok p) :
    (p.paramNames.filter (· ≠ "*")).Nodup := by
  obtain ⟨names, hnodup, -, hnames⟩ := paramNames_of_parse hparse
  have hstar : (if .wildcard ∈ p.segments then ["*"] else []).filter (· ≠ "*") = [] := by
    split <;> rfl
  rw [hnames, List.filter_append, hstar, List.append_nil]
  exact hnodup.filter _

end Pattern

namespace Params

/-- The fields of the object of parameters. -/
def fields (params : Params) : KeyMap Json :=
  KeyMap.ofList (params.entries.map fun entry => (entry.1, .string entry.2))

variable {params : Params}

/-- As an object, the parameters have the last value under a name. -/
theorem get?_fields (params : Params) (name : String) :
    params.fields.get? name =
      (KeyMap.get? params.entries.reverse name).map .string := by
  rw [fields, KeyMap.get?_ofList, ← List.map_reverse, KeyMap.get?, KeyMap.get?,
    List.find?_map, Option.map_map, Option.map_map]
  rfl

/-- An object loses a capture exactly if two of them have one name. -/
theorem length_fields_eq_iff :
    params.fields.length = params.size ↔ (params.entries.map (·.1)).Nodup := by
  have hnames : (params.entries.map fun entry => (entry.1, Json.string entry.2)).map (·.1) =
      params.entries.map (·.1) := List.map_map
  have hsize : params.size = (params.entries.map (·.1)).length :=
    (List.length_map _).symm
  rw [fields, KeyMap.length_ofList, hnames, hsize, ← List.dedup_eq_self]
  constructor
  · exact fun hlength => (List.dedup_sublist _).eq_of_length hlength
  · exact fun hsame => congrArg List.length hsame

/-- A capture whose name no other one has is read back under it. -/
theorem read_of_unique {entry : String × String} (hmem : entry ∈ params.entries)
    (hone : ∀ other ∈ params.entries, other.1 = entry.1 → other = entry) :
    params.get? entry.1 = some entry.2 ∧
      params.fields.get? entry.1 = some (.string entry.2) := by
  have hreverse := KeyMap.get?_of_unique (List.mem_reverse.mpr hmem)
    fun other hother => hone other (List.mem_reverse.mp hother)
  exact ⟨KeyMap.get?_of_unique hmem hone, by rw [get?_fields, hreverse]; rfl⟩

/-- Of a parameter with the name of the wildcard after it, the parameters give
the value of the parameter, and their object that of the wildcard. -/
theorem read_shared {names : List String} (hnodup : names.Nodup) (hstar : "*" ∈ names)
    (hentries : params.entries.map (·.1) = names ++ ["*"]) :
    ∃ before between taken rest,
      params.entries = before ++ ("*", taken) :: between ++ [("*", rest)] ∧
      params.get? "*" = some taken ∧ params.fields.get? "*" = some (.string rest) := by
  obtain ⟨given, last, hsplit, rfl, hlast⟩ := List.map_eq_append_iff.mp hentries
  obtain ⟨⟨_, rest⟩, rfl, rfl⟩ := List.map_eq_singleton_iff.mp hlast
  obtain ⟨⟨_, taken⟩, hmem, rfl⟩ := List.mem_map.mp hstar
  have hgiven : KeyMap.get? given "*" = some taken :=
    KeyMap.get?_of_unique hmem fun other hother heq =>
      List.inj_on_of_nodup_map hnodup hother hmem heq
  obtain ⟨before, between, rfl⟩ := List.append_of_mem hmem
  refine ⟨before, between, taken, rest, hsplit, ?_, ?_⟩
  · change KeyMap.get? params.entries "*" = some taken
    rw [hsplit, KeyMap.get?_append, hgiven, Option.some_or]
  · rw [get?_fields, hsplit, List.reverse_append, KeyMap.get?_append]
    rfl

end Params

namespace Registry

variable {α : Type}

/-- The pattern of a found route has been accepted. -/
theorem exists_accepted_of_found {g : Registry α} (hvalid : g.Valid) {m : Method}
    {path : String} {route : Match α} (hfound : g.router.resolve m path = .found route) :
    ∃ c ∈ g.accepted, c.pattern = route.pattern := by
  unfold Router.resolve Router.resolveSegments at hfound
  cases hsearch : g.router.root.search m (Path.split path) with
  | miss allowed =>
      rw [hsearch] at hfound
      cases allowed <;> contradiction
  | hit leaf captures =>
      rw [hsearch] at hfound
      obtain rfl := Resolution.found.inj hfound
      obtain ⟨_, _, -, hat, hleaf, -⟩ := Node.search_eq_hit hsearch
      obtain ⟨c, hmem, -, rfl, -⟩ := hvalid.exists_of_leafFor hat hleaf
      exact ⟨c, hmem, rfl⟩

/-- Captures are named apart.  The names of a pattern that is read are all
different if and only if no parameter has the name of a wildcard, the star; and
apart from the star they always are.  So of a found route every capture is read
back under its name, and the object of the parameters has a field for each.  If
a parameter has the name of the wildcard, the object is short of a field: under
the star it has what the wildcard has taken, and the parameters themselves give
what the parameter has. -/
theorem captures_named_apart {calls : List (Registration α)}
    (hparsed : (run calls).Parsed) :
    (∀ raw p, Pattern.parse raw = .ok p →
      (p.paramNames.Nodup ↔ ¬ p.SharesStar) ∧ (p.paramNames.filter (· ≠ "*")).Nodup) ∧
    ∀ m path route, (run calls).router.resolve m path = .found route →
      ∃ fields : KeyMap Json, route.params.toJson = .object fields ∧
        (fields.length = route.params.size ↔ ¬ route.pattern.SharesStar) ∧
        (∀ entry ∈ route.params.entries,
          ¬ route.pattern.SharesStar ∨ entry.1 ≠ "*" →
            route.params.get? entry.1 = some entry.2 ∧
              fields.get? entry.1 = some (.string entry.2)) ∧
        (route.pattern.SharesStar → ∃ before between taken rest,
          route.params.entries = before ++ ("*", taken) :: between ++ [("*", rest)] ∧
            route.params.get? "*" = some taken ∧
              fields.get? "*" = some (.string rest)) := by
  refine ⟨fun raw p hparse => ⟨Pattern.paramNames_nodup_iff hparse,
    Pattern.filter_paramNames_nodup hparse⟩, fun m path route hfound => ?_⟩
  obtain ⟨c, hmem, hpattern⟩ := exists_accepted_of_found (run_valid calls) hfound
  obtain ⟨raw, hparse⟩ := hparsed c hmem
  rw [hpattern] at hparse
  obtain ⟨hentries, -⟩ := params_of_found hfound
  refine ⟨route.params.fields, rfl, ?_, fun entry hentry happart => ?_, fun hshares => ?_⟩
  · rw [Params.length_fields_eq_iff, hentries, Pattern.paramNames_nodup_iff hparse]
  · apply Params.read_of_unique hentry
    intro other hother hname
    rcases happart with hapart | hstar
    · have hnodup := (Pattern.paramNames_nodup_iff hparse).mpr hapart
      rw [← hentries] at hnodup
      exact List.inj_on_of_nodup_map hnodup hother hentry hname
    · have hnodup := Pattern.filter_paramNames_nodup hparse
      rw [← hentries, List.filter_map] at hnodup
      have hdiffers : other.1 ≠ "*" := by rwa [hname]
      apply List.inj_on_of_nodup_map hnodup _ _ hname
      · exact List.mem_filter.mpr ⟨hother, decide_eq_true hdiffers⟩
      · exact List.mem_filter.mpr ⟨hentry, decide_eq_true hstar⟩
  · obtain ⟨names, hnodup, hnames, hall⟩ := Pattern.paramNames_of_parse hparse
    rw [if_pos hshares.2] at hall
    exact Params.read_shared hnodup ((hnames "*").mpr hshares.1) (hentries.trans hall)

/-- A parameter and a wildcard, each read back under its own name. -/
theorem captures_named_apart_files :
    let pattern : Pattern := ⟨"/users/:id/*", [.literal "users", .param "id", .wildcard]⟩
    let calls : List (Registration Nat) := [⟨.get, pattern, 1⟩]
    let route : Match Nat := ⟨1, pattern, ⟨[("id", "7"), ("*", "files/a")]⟩⟩
    (run calls).Parsed ∧ (run calls).router.resolve .get "/users/7/files/a" = .found route ∧
      ∃ fields : KeyMap Json, route.params.toJson = .object fields ∧ fields.length = 2 ∧
        fields.get? "id" = some (.string "7") ∧ fields.get? "*" = some (.string "files/a") := by
  intro pattern calls route
  have hparsed : (run calls).Parsed := by
    intro c hc
    obtain rfl := List.mem_singleton.mp hc
    exact ⟨"/users/:id/*", rfl⟩
  have hfound : (run calls).router.resolve .get "/users/7/files/a" = .found ⟨1, pattern,
      ⟨[("id", Percent.decodeText "7"), ("*", Percent.decodeText "files/a")]⟩⟩ := rfl
  rw [show Percent.decodeText "7" = "7" by decide +kernel,
    show Percent.decodeText "files/a" = "files/a" by decide +kernel] at hfound
  obtain ⟨-, hroutes⟩ := captures_named_apart hparsed
  obtain ⟨fields, hobject, hlength, hread, -⟩ := hroutes .get "/users/7/files/a" route hfound
  have hapart : ¬ pattern.SharesStar := fun hshares => by
    simpa [pattern] using hshares.1
  refine ⟨hparsed, hfound, fields, hobject, hlength.mpr hapart, ?_, ?_⟩
  · exact (hread ("id", "7") (by simp [route]) (Or.inl hapart)).2
  · exact (hread ("*", "files/a") (by simp [route]) (Or.inl hapart)).2

/-- A parameter that is named by the star before a wildcard: the pattern is read,
both captures have one name, and the object keeps one of them. -/
theorem star_shared :
    let pattern : Pattern := ⟨"/:*/*", [.param "*", .wildcard]⟩
    let params : Params := ⟨[("*", "a"), ("*", "b")]⟩
    Pattern.parse "/:*/*" = .ok pattern ∧ ¬ pattern.paramNames.Nodup ∧
      (run [⟨.get, pattern, 1⟩]).router.resolve .get "/a/b" = .found ⟨1, pattern, params⟩ ∧
      params.get? "*" = some "a" ∧ params.toJson = .object [("*", .string "b")] := by
  intro pattern params
  have hfound : (run [⟨.get, pattern, 1⟩]).router.resolve .get "/a/b" = .found ⟨1, pattern,
      ⟨[("*", Percent.decodeText "a"), ("*", Percent.decodeText "b")]⟩⟩ := rfl
  rw [show Percent.decodeText "a" = "a" by decide +kernel,
    show Percent.decodeText "b" = "b" by decide +kernel] at hfound
  exact ⟨rfl, by decide, hfound, rfl, rfl⟩

end Registry

end Trellis
