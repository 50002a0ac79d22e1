import Trellis.Proofs.Routing.Path
import Trellis.Proofs.Routing.Resolve
import Trellis.Routing.StaticTable
/-!
The static table of a router.  It holds the accepted routes without parameter and wildcard, and what it
finds for a path the tree finds too, before anything else.
-/

namespace Trellis

namespace Node

variable {α : Type}

/-- Putting a child in place exchanges what is listed of it for what was listed
of the child that was there. -/
theorem flatMap_setLiteral {β : Type} {list : Node α → List β} (hempty : list empty = [])
    (text : String) (child : Node α) (literals : List (String × Node α)) :
    ((setLiteral text child literals).flatMap (fun entry => list entry.2) ++
        list (((literals.find? fun entry => entry.1 = text).map (·.2)).getD empty)).Perm
      (literals.flatMap (fun entry => list entry.2) ++ list child) := by
  induction literals with
  | nil => simp [setLiteral, hempty]
  | cons entry rest ih =>
      obtain ⟨key, old⟩ := entry
      by_cases hkey : key = text
      · simp only [setLiteral, hkey, ↓reduceIte, List.flatMap_cons,
          List.find?_cons, decide_true, Option.map_some, Option.getD_some]
        rw [List.append_assoc]
        exact List.perm_append_comm.trans
          (List.Perm.append_right _ List.perm_append_comm)
      · simp only [setLiteral, hkey, ↓reduceIte, List.flatMap_cons,
          List.find?_cons, decide_false]
        rw [List.append_assoc, List.append_assoc]
        exact List.Perm.append_left _ ih

theorem collectStaticAll_eq_flatMap (literals : List (String × Node α)) :
    collectStaticAll literals = literals.flatMap fun entry => entry.2.collectStatic := by
  induction literals with
  | nil => rfl
  | cons entry rest ih => rw [collectStaticAll, ih, List.flatMap_cons]

theorem perm_append_of_exchange {β : Type} {grown old base child new : List β}
    (hexchange : (grown ++ old).Perm (base ++ child))
    (hchild : child.Perm (old ++ new)) : grown.Perm (base ++ new) := by
  apply (List.perm_append_right_iff old).mp
  have hmoved : (base ++ (old ++ new)).Perm (base ++ new ++ old) := by
    rw [List.append_assoc]
    exact List.Perm.append_left base List.perm_append_comm
  exact hexchange.trans ((List.Perm.append_left base hchild).trans hmoved)

/-- An insertion adds its route to the static ones if its pattern is static,
and changes nothing else about them. -/
theorem collectStatic_insert? {m : Method} {leaf : Leaf α}
    {segments : List Segment} {n grown : Node α}
    (hinsert : insert? m leaf segments n = some grown) :
    grown.collectStatic.Perm (n.collectStatic ++
      if segments.all Segment.isLiteral ∧ leaf.pattern.isStatic then [(m, leaf)]
      else []) := by
  induction segments generalizing n grown with
  | nil =>
      cases n with
      | mk literals param wildcard leaves =>
          simp only [insert?] at hinsert
          split at hinsert
          · contradiction
          · obtain rfl := Option.some.inj hinsert
            simp only [collectStatic, List.filter_append, List.all_nil,
              true_and]
            rw [List.append_assoc, List.append_assoc]
            apply List.Perm.append_left
            by_cases hstatic : leaf.pattern.isStatic
            · simpa [hstatic] using (List.perm_append_singleton (m, leaf) _).symm
            · simp [hstatic]
  | cons segment rest ih =>
      rw [insert?_cons, Option.map_eq_some_iff] at hinsert
      obtain ⟨child, hchild, rfl⟩ := hinsert
      cases n with
      | mk literals param wildcard leaves =>
          cases segment with
          | literal text =>
              have hgrown := perm_append_of_exchange
                (flatMap_setLiteral rfl text child literals) (ih hchild)
              simp only [Segment.edge, setChild, collectStatic, Node.literals, Node.leaves,
                collectStaticAll_eq_flatMap, List.all_cons, Segment.isLiteral, Bool.true_and]
              rw [List.append_assoc]
              exact List.Perm.append_left _ hgrown
          | param name => simp [Segment.edge, setChild, collectStatic,
              Node.literals, Node.leaves, Segment.isLiteral]
          | wildcard => simp [Segment.edge, setChild, collectStatic,
              Node.literals, Node.leaves, Segment.isLiteral]

end Node

namespace Registration

variable {α : Type}

/-- The route as the tree lists it. -/
def entry (c : Registration α) : Method × Leaf α := (c.method, c.leaf)

end Registration

namespace Registry

variable {α : Type}

/-- The static routes of the router are the accepted routes without parameter
and wildcard, each once. -/
def Listed (g : Registry α) : Prop :=
  g.router.staticRoutes.Perm
    ((g.accepted.filter fun c => c.pattern.isStatic).map Registration.entry)

theorem empty_listed : (empty : Registry α).Listed := List.Perm.refl _

theorem Listed.accept {g : Registry α} (hlisted : g.Listed)
    {c : Registration α} {grown : Router α}
    (hinsert : g.router.insert c.method c.pattern c.value = .ok grown) :
    (Registry.mk grown (g.accepted ++ [c])).Listed := by
  obtain ⟨root, hroot, rfl⟩ :=
    (insert_eq_ok_iff g.router grown c.method c.pattern c.value).mp hinsert
  have hgrown := Node.collectStatic_insert? hroot
  have hstatic : (c.pattern.segments.all Segment.isLiteral = true ∧
      c.pattern.isStatic = true) ↔ c.pattern.isStatic = true :=
    ⟨And.right, fun h => ⟨h, h⟩⟩
  simp only [hstatic] at hgrown
  unfold Listed at hlisted ⊢
  simp only [List.filter_append, List.map_append]
  refine hgrown.trans (List.Perm.append hlisted ?_)
  by_cases h : c.pattern.isStatic
  · simp [h, Registration.entry, Registration.leaf]
  · simp [h]

end Registry

namespace Pattern

/-- The segments as a pattern writes them. -/
def texts (p : Pattern) : List String := p.segments.map Segment.text

theorem map_edge_eq_iff {segments : List Segment} {texts : List String} :
    segments.map Segment.edge = texts.map Edge.literal ↔
      segments = texts.map Segment.literal := by
  induction segments generalizing texts with
  | nil => cases texts <;> simp
  | cons segment rest ih =>
      cases texts with
      | nil => simp
      | cons text others =>
          simp only [List.map_cons, List.cons.injEq, ih]
          cases segment <;> simp [Segment.edge]

theorem segments_eq_of_isStatic {p : Pattern} (hstatic : p.isStatic) :
    p.segments = p.texts.map Segment.literal := by
  have hall : ∀ segment ∈ p.segments, segment.isLiteral := by
    simpa [isStatic] using hstatic
  have hmap : p.segments.map (Segment.literal ∘ Segment.text) =
      p.segments.map id := by
    apply List.map_congr_left
    intro segment hsegment
    cases segment with
    | literal text => rfl
    | param name => exact absurd (hall _ hsegment) (by simp [Segment.isLiteral])
    | wildcard => exact absurd (hall _ hsegment) (by simp [Segment.isLiteral])
  simpa [texts] using hmap.symm

/-- A pattern is static with these texts exactly if its shape is made of the
literals for them. -/
theorem shape_eq_literals_iff {p : Pattern} {texts : List String} :
    p.shape = texts.map Edge.literal ↔ p.isStatic ∧ p.texts = texts := by
  rw [shape, map_edge_eq_iff]
  constructor
  · intro hsegments
    constructor
    · simp [isStatic, hsegments, Segment.isLiteral]
    · simp [Pattern.texts, hsegments, Function.comp_def, Segment.text]
  · rintro ⟨hstatic, rfl⟩
    exact segments_eq_of_isStatic hstatic

end Pattern

/-- If only one element of a list passes a test, that is the one found. -/
theorem find?_eq_some_iff_of_unique {β : Type} {l : List β} {test : β → Bool}
    (hunique : ∀ a ∈ l, ∀ b ∈ l, test a → test b → a = b) {a : β} :
    l.find? test = some a ↔ a ∈ l ∧ test a := by
  refine ⟨fun hfind => ⟨List.mem_of_find?_eq_some hfind, List.find?_some hfind⟩, ?_⟩
  rintro ⟨hmem, htest⟩
  cases hfind : l.find? test with
  | none => exact absurd htest (List.find?_eq_none.mp hfind a hmem)
  | some found =>
      rw [hunique found (List.mem_of_find?_eq_some hfind) a hmem (List.find?_some hfind) htest]

namespace StaticTable

variable {α : Type}

/-- The route that a table holds for a path and exactly this method. -/
def held? (t : StaticTable α) (m : Method) (path : String) : Option (Method × Leaf α) :=
  ((t.paths.get? path).getD []).find? fun route => route.1 = m

theorem lookup_eq (t : StaticTable α) (m : Method) (path : String) :
    t.lookup m path =
      ((t.held? m path).map (·.2)).orElse fun _ => (t.held? .any path).map (·.2) := by
  unfold lookup held?
  cases t.paths.get? path <;> rfl

theorem find?_put (route : Method × Leaf α) (routes : List (Method × Leaf α))
    (m : Method) :
    ((put route routes).find? fun other => other.1 = m) =
      if route.1 = m then some route else routes.find? fun other => other.1 = m := by
  induction routes with
  | nil => by_cases hroute : route.1 = m <;> simp [put, hroute]
  | cons other rest ih =>
      rw [put]
      by_cases hsame : other.1 = route.1
      · rw [if_pos hsame, List.find?_cons, List.find?_cons, hsame]
        by_cases hroute : route.1 = m <;> simp [hroute]
      · rw [if_neg hsame, List.find?_cons, List.find?_cons, ih]
        by_cases hother : other.1 = m
        · have hroute : route.1 ≠ m := fun hroute => hsame (hother.trans hroute.symm)
          simp [hother, hroute]
        · simp [hother]

/-- Of the routes that are entered for one path and one method the last one
counts. -/
theorem held?_foldl_add (routes : List (Method × Leaf α))
    (paths : KeyMap (List (Method × Leaf α))) (m : Method) (path : String) :
    held? ⟨routes.foldl add paths⟩ m path =
      (routes.reverse.find? fun route =>
        route.2.pattern.canonical = path ∧ route.1 = m).or (held? ⟨paths⟩ m path) := by
  induction routes generalizing paths with
  | nil => rfl
  | cons route rest ih =>
      have hadded : held? ⟨add paths route⟩ m path =
          if route.2.pattern.canonical = path ∧ route.1 = m then some route
          else held? ⟨paths⟩ m path := by
        simp only [held?, add, KeyMap.get?_insert]
        by_cases hpath : route.2.pattern.canonical = path
        · subst hpath
          simp [find?_put]
        · simp [hpath]
      rw [List.foldl_cons, ih, hadded, List.reverse_cons, List.find?_append,
        Option.or_assoc]
      by_cases hroute : route.2.pattern.canonical = path ∧ route.1 = m <;> simp [hroute]

/-- The table of routes that are given in any order. -/
def ofRoutes (routes : List (Method × Leaf α)) : StaticTable α := ⟨routes.foldl add []⟩

/-- A table holds for a path and a method the route that was entered for them, if
there is only one. -/
theorem held?_ofRoutes_eq_some_iff {routes : List (Method × Leaf α)}
    (hapart : ∀ first ∈ routes, ∀ second ∈ routes,
      first.2.pattern.canonical = second.2.pattern.canonical → first.1 = second.1 →
        first = second) {m : Method} {path : String} {route : Method × Leaf α} :
    (ofRoutes routes).held? m path = some route ↔
      route ∈ routes ∧ route.2.pattern.canonical = path ∧ route.1 = m := by
  have hlast : (ofRoutes routes).held? m path = routes.reverse.find? fun route =>
      route.2.pattern.canonical = path ∧ route.1 = m :=
    (held?_foldl_add routes [] m path).trans (Option.or_none)
  rw [hlast, find?_eq_some_iff_of_unique, List.mem_reverse, decide_eq_true_eq]
  intro first hfirst second hsecond hone htwo
  obtain ⟨hpath, hmethod⟩ := of_decide_eq_true hone
  obtain ⟨hsame, hboth⟩ := of_decide_eq_true htwo
  exact hapart first (List.mem_reverse.mp hfirst) second (List.mem_reverse.mp hsecond)
    (hpath.trans hsame.symm) (hmethod.trans hboth.symm)

end StaticTable

namespace Node

variable {α : Type}

/-- A route at the literals of a path is found before any other. -/
theorem search_of_literals {m : Method} {segments : List String}
    {n node : Node α} {leaf : Leaf α}
    (hat : n.at? (segments.map Edge.literal) = some node)
    (hleaf : node.leafFor m = some leaf) :
    n.search m segments = .hit leaf [] := by
  induction segments generalizing n with
  | nil =>
      obtain rfl := Option.some.inj hat
      simp [search, here, hleaf]
  | cons segment rest ih =>
      obtain ⟨child, hchild, hbelow⟩ := Option.bind_eq_some_iff.mp hat
      change n.literal? segment = some child at hchild
      simp [search, hchild, ih hbelow, Search.orElse]

end Node

namespace Registry

variable {α : Type}

/-- The accepted patterns have been read from texts. -/
def Parsed (g : Registry α) : Prop :=
  ∀ c ∈ g.accepted, ∃ raw, Pattern.parse raw = .ok c.pattern

theorem Parsed.isSegment {g : Registry α} (hparsed : g.Parsed)
    {c : Registration α} (hmem : c ∈ g.accepted)
    (hstatic : c.pattern.isStatic) : ∀ text ∈ c.pattern.texts,
      Path.IsSegment text := by
  intro text htext
  obtain ⟨raw, hraw⟩ := hparsed c hmem
  apply Pattern.isSegment_of_parse hraw
  rw [Pattern.segments_eq_of_isStatic hstatic]
  exact List.mem_map_of_mem htext

/-- The static route of a path is what the tree holds at its literals. -/
theorem mem_staticRoutes_iff {g : Registry α} (hvalid : g.Valid)
    (hlisted : g.Listed) (hparsed : g.Parsed) {segments : List String}
    (hsegments : ∀ s ∈ segments, Path.IsSegment s) {m : Method}
    {leaf : Leaf α} :
    (m, leaf) ∈ g.router.staticRoutes ∧ leaf.pattern.canonical = Path.join segments ↔
      g.router.root.leafAt? m (segments.map Edge.literal) = some leaf := by
  rw [hlisted.mem_iff, hvalid]
  simp only [List.mem_map, List.mem_filter]
  constructor
  · rintro ⟨⟨c, ⟨hmem, hstatic⟩, hentry⟩, hcanonical⟩
    obtain ⟨rfl, rfl⟩ := Prod.mk.inj hentry
    refine ⟨c, hmem, rfl, Pattern.shape_eq_literals_iff.mpr ⟨hstatic, ?_⟩, rfl⟩
    exact Path.join_injective (hparsed.isSegment hmem hstatic) hsegments
      hcanonical
  · rintro ⟨c, hmem, rfl, hshape, rfl⟩
    obtain ⟨hstatic, rfl⟩ := Pattern.shape_eq_literals_iff.mp hshape
    exact ⟨⟨c, ⟨hmem, hstatic⟩, rfl⟩, rfl⟩

/-- Static routes with one path and one method are the same. -/
theorem Listed.apart {g : Registry α} (hlisted : g.Listed) (hvalid : g.Valid)
    (hparsed : g.Parsed) :
    ∀ first ∈ g.router.staticRoutes, ∀ second ∈ g.router.staticRoutes,
      first.2.pattern.canonical = second.2.pattern.canonical → first.1 = second.1 →
        first = second := by
  rintro ⟨m, leaf⟩ hfirst ⟨_, other⟩ hsecond hcanonical rfl
  obtain ⟨c, hc, hentry⟩ := List.mem_map.mp (hlisted.mem_iff.mp hfirst)
  obtain ⟨rfl, rfl⟩ := Prod.mk.inj hentry
  obtain ⟨hmem, hstatic⟩ := List.mem_filter.mp hc
  have hat := fun leaf => @mem_staticRoutes_iff α g hvalid hlisted hparsed
    c.pattern.texts (hparsed.isSegment hmem hstatic) c.method leaf
  have hone := (hat c.leaf).mp ⟨hfirst, rfl⟩
  have htwo := (hat other).mp ⟨hsecond, hcanonical.symm⟩
  rw [Option.some.inj (hone.symm.trans htwo)]

/-- The table holds for a path what the tree holds at its literals. -/
theorem held?_build {g : Registry α} (hvalid : g.Valid)
    (hlisted : g.Listed) (hparsed : g.Parsed) {segments : List String}
    (hsegments : ∀ s ∈ segments, Path.IsSegment s) (m : Method) :
    ((StaticTable.build g.router).held? m (Path.join segments)).map (·.2) =
      g.router.root.leafAt? m (segments.map Edge.literal) := by
  have hheld : ∀ route,
      (StaticTable.build g.router).held? m (Path.join segments) = some route ↔ _ :=
    fun route => StaticTable.held?_ofRoutes_eq_some_iff (hlisted.apart hvalid hparsed)
  ext leaf
  rw [← mem_staticRoutes_iff hvalid hlisted hparsed hsegments, Option.map_eq_some_iff]
  constructor
  · rintro ⟨route, hroute, rfl⟩
    obtain ⟨hmem, hcanonical, rfl⟩ := (hheld route).mp hroute
    exact ⟨hmem, hcanonical⟩
  · rintro ⟨hmem, hcanonical⟩
    exact ⟨(m, leaf), (hheld _).mpr ⟨hmem, hcanonical, rfl⟩, rfl⟩

/-- The table finds what stands at the literals of a path in the tree. -/
theorem lookup_build {g : Registry α} (hvalid : g.Valid)
    (hlisted : g.Listed) (hparsed : g.Parsed) {segments : List String}
    (hsegments : ∀ s ∈ segments, Path.IsSegment s) (m : Method) :
    (StaticTable.build g.router).lookup m (Path.join segments) =
      (g.router.root.at? (segments.map Edge.literal)).bind
        fun node => node.leafFor m := by
  rw [StaticTable.lookup_eq, held?_build hvalid hlisted hparsed hsegments,
    held?_build hvalid hlisted hparsed hsegments]
  unfold Node.leafAt? Node.leafFor
  cases g.router.root.at? (segments.map Edge.literal) <;> rfl

/-- What the table finds is what the tree answers, without parameters. -/
theorem resolveSegments_of_lookup {g : Registry α} (hvalid : g.Valid)
    (hlisted : g.Listed) (hparsed : g.Parsed) {segments : List String}
    (hsegments : ∀ s ∈ segments, Path.IsSegment s) {m : Method}
    {leaf : Leaf α}
    (hlookup : (StaticTable.build g.router).lookup m (Path.join segments) =
      some leaf) :
    g.router.resolveSegments m segments =
      .found ⟨leaf.value, leaf.pattern, Params.empty⟩ := by
  rw [lookup_build hvalid hlisted hparsed hsegments] at hlookup
  obtain ⟨node, hat, hleaf⟩ := Option.bind_eq_some_iff.mp hlookup
  simp [Router.resolveSegments, Node.search_of_literals hat hleaf,
    Params.empty]

/-- At the canonical path of an accepted static route, with a method that it serves,
an accepted static route with this path is found. -/
theorem Valid.resolve_canonical {g : Registry α} (hvalid : g.Valid)
    (hparsed : g.Parsed) {c : Registration α} (hmem : c ∈ g.accepted)
    (hstatic : c.pattern.isStatic) {m : Method} (hserves : c.Serves m) :
    ∃ other ∈ g.accepted, other.pattern.isStatic ∧
      other.pattern.canonical = c.pattern.canonical ∧
      g.router.resolve m c.pattern.canonical =
        .found ⟨other.value, other.pattern, Params.empty⟩ := by
  obtain ⟨node, hat, hown⟩ := hvalid.exists_at? hmem
  obtain ⟨leaf, hleaf⟩ := Option.isSome_iff_exists.mp (leafFor_isSome_of_serves hown hserves)
  obtain ⟨other, hother, hshape, rfl, -⟩ := hvalid.exists_of_leafFor hat hleaf
  have hliterals := Pattern.shape_eq_literals_iff.mpr ⟨hstatic, rfl⟩
  obtain ⟨hotherStatic, htexts⟩ := Pattern.shape_eq_literals_iff.mp (hshape.trans hliterals)
  rw [hliterals] at hat
  refine ⟨other, hother, hotherStatic, congrArg Path.join htexts, ?_⟩
  change g.router.resolveSegments m (Path.split (Path.join c.pattern.texts)) = _
  rw [Path.split_join (hparsed.isSegment hmem hstatic)]
  simp [Router.resolveSegments, Node.search_of_literals hat hleaf, Params.empty,
    Registration.leaf]

end Registry

end Trellis
