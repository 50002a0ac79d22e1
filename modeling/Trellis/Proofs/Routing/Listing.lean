import Mathlib.Data.Prod.Basic
import Trellis.Proofs.KeyMap
import Trellis.Proofs.Routing.NormalForm
import Trellis.Proofs.Routing.StaticTable
/-!
Listings of a router.  The tree holds each accepted route at one place, so a walk through it meets each once.  A
listing is sorted strictly by text and method, so it does not depend on the order of the walk or of the
registrations, and the table of the static routes has one entry for each of their paths.
-/

namespace Trellis

theorem Method.all_getElem?_index (m : Method) : Method.all[m.index]? = some m := by
  cases m <;> rfl

theorem Method.index_injective {first second : Method} (heq : first.index = second.index) :
    first = second := by
  have hat := first.all_getElem?_index
  rw [heq, second.all_getElem?_index] at hat
  exact (Option.some.inj hat).symm

namespace Node

variable {α : Type}

theorem collectAll_eq_flatMap (literals : List (String × Node α)) :
    collectAll literals = literals.flatMap fun entry => entry.2.collect := by
  induction literals with
  | nil => rfl
  | cons entry rest ih => rw [collectAll, ih, List.flatMap_cons]

theorem collectOption_eq (child : Option (Node α)) :
    collectOption child = (child.getD empty).collect := by
  cases child <;> rfl

theorem perm_append_between {β : Type} {grown old new : List β} (hgrown : grown.Perm (old ++ new))
    (before after : List β) :
    (before ++ grown ++ after).Perm (before ++ old ++ after ++ new) := by
  simp only [List.append_assoc]
  apply List.Perm.append_left
  refine (hgrown.append_right after).trans ?_
  rw [List.append_assoc]
  exact List.Perm.append_left _ List.perm_append_comm

/-- An insertion adds its route to those of the tree, and changes nothing else
about them. -/
theorem collect_insert? {m : Method} {leaf : Leaf α} {segments : List Segment}
    {n grown : Node α} (hinsert : insert? m leaf segments n = some grown) :
    grown.collect.Perm (n.collect ++ [(m, leaf)]) := by
  induction segments generalizing n grown with
  | nil =>
      cases n with
      | mk literals param wildcard leaves =>
          simp only [insert?] at hinsert
          split at hinsert
          · contradiction
          · obtain rfl := Option.some.inj hinsert
            have hleaves := perm_append_between (List.Perm.refl (leaves ++ [(m, leaf)])) []
              (collectAll literals ++ collectOption param ++ collectOption wildcard)
            simpa only [collect, List.append_assoc, List.nil_append] using hleaves
  | cons segment rest ih =>
      rw [insert?_cons, Option.map_eq_some_iff] at hinsert
      obtain ⟨child, hchild, rfl⟩ := hinsert
      have hbelow := ih hchild
      cases n with
      | mk literals param wildcard leaves =>
          cases segment with
          | literal text =>
              have hgrown := perm_append_of_exchange
                (flatMap_setLiteral rfl text child literals) hbelow
              have hall := perm_append_between hgrown leaves
                (collectOption param ++ collectOption wildcard)
              simpa only [Segment.edge, setChild, collect, collectAll_eq_flatMap, Node.literals,
                Node.param, Node.wildcard, Node.leaves, List.append_assoc] using hall
          | param name =>
              change child.collect.Perm ((param.getD empty).collect ++ _) at hbelow
              rw [← collectOption_eq] at hbelow
              exact perm_append_between hbelow (leaves ++ collectAll literals)
                (collectOption wildcard)
          | wildcard =>
              change child.collect.Perm ((wildcard.getD empty).collect ++ _) at hbelow
              rw [← collectOption_eq] at hbelow
              have hlast := hbelow.append_left
                (leaves ++ collectAll literals ++ collectOption param)
              rwa [← List.append_assoc] at hlast

end Node

/-- A route as a listing has it. -/
def Registration.key {α : Type} (c : Registration α) : Method × Pattern := (c.method, c.pattern)

namespace Router

variable {α : Type}

/-- The order of a listing: by pattern text and then by method. -/
def Before (first second : Method × Pattern) : Prop :=
  Prod.Lex (· < ·) (· < ·) (first.2.raw, first.1.index) (second.2.raw, second.1.index)

instance : Std.Asymm Before :=
  ⟨fun _ _ hone => asymm_of (Prod.Lex (· < ·) (· < ·)) hone⟩

/-- The listing of routes that are given in any order. -/
def listing (routes : List (Method × Leaf α)) : List (Method × Pattern) :=
  (routes.mergeSort precedes).map fun route => (route.1, route.2.pattern)

theorem routes_eq_listing (r : Router α) : r.routes = listing r.root.collect := rfl

theorem precedes_iff {first second : Method × Leaf α} :
    precedes first second ↔ Prod.Lex (· < ·) (· ≤ ·)
      (first.2.pattern.raw, first.1.index) (second.2.pattern.raw, second.1.index) := by
  simp [precedes, Prod.lex_def]

theorem precedes_trans (first second third : Method × Leaf α) (hone : precedes first second)
    (htwo : precedes second third) : precedes first third := by
  rw [precedes_iff] at hone htwo ⊢
  exact Prod.Lex.trans hone htwo

theorem precedes_total (first second : Method × Leaf α) :
    precedes first second || precedes second first := by
  rw [Bool.or_eq_true, precedes_iff, precedes_iff]
  exact Std.Total.total _ _

theorem listing_perm (routes : List (Method × Leaf α)) :
    (listing routes).Perm (routes.map fun route => (route.1, route.2.pattern)) :=
  (List.mergeSort_perm routes precedes).map _

/-- If no two routes have one text and one method, their listing increases
strictly. -/
theorem listing_pairwise {routes : List (Method × Leaf α)}
    (hapart : routes.Pairwise fun first second =>
      ¬ (first.2.pattern.raw = second.2.pattern.raw ∧ first.1 = second.1)) :
    (listing routes).Pairwise Before := by
  have hsorted := List.pairwise_mergeSort precedes_trans precedes_total routes
  have hdiffer := ((List.mergeSort_perm routes precedes).pairwise_iff
    fun hne => fun ⟨htext, hmethod⟩ => hne ⟨htext.symm, hmethod.symm⟩).mpr hapart
  rw [listing, List.pairwise_map]
  refine (hsorted.and hdiffer).imp fun {first second} ⟨hprecedes, hne⟩ => ?_
  refine Prod.lex_def.mpr ((Prod.lex_def.mp (precedes_iff.mp hprecedes)).imp_right ?_)
  rintro ⟨htext, hle⟩
  refine ⟨htext, ?_⟩
  refine Nat.lt_of_le_of_ne hle fun hindex => ?_
  exact hne ⟨htext, Method.index_injective hindex⟩

end Router

namespace StaticTable

variable {α : Type}

theorem sorted_foldl_add (routes : List (Method × Leaf α))
    {paths : KeyMap (List (Method × Leaf α))} (hsorted : paths.Sorted) :
    KeyMap.Sorted (routes.foldl add paths) := by
  induction routes generalizing paths with
  | nil => exact hsorted
  | cons route rest ih => exact ih (hsorted.insert _ _)

theorem mem_keys_foldl_add (routes : List (Method × Leaf α))
    (paths : KeyMap (List (Method × Leaf α))) (path : String) :
    path ∈ KeyMap.keys (routes.foldl add paths) ↔
      path ∈ routes.map (fun route => route.2.pattern.canonical) ∨ path ∈ paths.keys := by
  induction routes generalizing paths with
  | nil => simp
  | cons route rest ih =>
      rw [List.foldl_cons, ih, add, KeyMap.mem_keys_insert, List.map_cons, List.mem_cons,
        or_left_comm, or_assoc]

/-- A table has one entry for each canonical path of some routes, and each of the
routes is found at its path for its own method. -/
structure Indexes (t : StaticTable α) (routes : List (Registration α)) : Prop where
  nodup_keys : t.paths.keys.Nodup
  mem_keys_iff : ∀ path, path ∈ t.paths.keys ↔ ∃ c ∈ routes, c.pattern.canonical = path
  size_eq : t.size = (routes.map fun c => c.pattern.canonical).dedup.length
  lookup_eq : ∀ c ∈ routes, t.lookup c.method c.pattern.canonical = some c.leaf

/-- If no two routes have one path and one method, their table finds each of
them. -/
theorem ofRoutes_indexes {order : List (Method × Leaf α)} {routes : List (Registration α)}
    (horder : order.Perm (routes.map Registration.entry))
    (hapart : ∀ first ∈ order, ∀ second ∈ order,
      first.2.pattern.canonical = second.2.pattern.canonical → first.1 = second.1 →
        first = second) :
    (ofRoutes order).Indexes routes := by
  have hpaths : (order.map fun route => route.2.pattern.canonical).Perm
      (routes.map fun c => c.pattern.canonical) := by
    have hmap := horder.map fun route => route.2.pattern.canonical
    rwa [List.map_map] at hmap
  have hnodup : (ofRoutes order).paths.keys.Nodup :=
    (sorted_foldl_add order List.Pairwise.nil).nodup_keys
  have hmem : ∀ path, path ∈ (ofRoutes order).paths.keys ↔
      path ∈ routes.map fun c => c.pattern.canonical := by
    intro path
    rw [ofRoutes, mem_keys_foldl_add, hpaths.mem_iff]
    simp [KeyMap.keys]
  refine ⟨hnodup, fun path => (hmem path).trans List.mem_map, ?_, fun c hc => ?_⟩
  · have hkeys : (ofRoutes order).paths.keys.Perm
        (routes.map fun c => c.pattern.canonical).dedup := by
      apply (List.perm_ext_iff_of_nodup hnodup (List.nodup_dedup _)).mpr
      exact fun path => (hmem path).trans List.mem_dedup.symm
    rw [← hkeys.length_eq, KeyMap.keys, List.length_map, size]
  · have hfound : (ofRoutes order).held? c.method c.pattern.canonical = some c.entry :=
      (held?_ofRoutes_eq_some_iff hapart).mpr
        ⟨horder.mem_iff.mpr (List.mem_map_of_mem hc), rfl, rfl⟩
    rw [StaticTable.lookup_eq, hfound]
    rfl

end StaticTable

namespace Registry

variable {α : Type}

/-- What a router lists is what it has accepted.  The tree holds each accepted
route once, and static ones also among its static routes; the size counts them; and
no two of them are for one method and one shape. -/
structure Gathered (g : Registry α) : Prop where
  valid : g.Valid
  collected : g.router.root.collect.Perm (g.accepted.map Registration.entry)
  listed : g.Listed
  size_eq : g.router.size = g.accepted.length
  apart : g.accepted.Pairwise fun first second =>
    ¬ (first.pattern.shape = second.pattern.shape ∧ first.method = second.method)

theorem empty_gathered : (empty : Registry α).Gathered :=
  ⟨empty_valid, List.Perm.refl _, empty_listed, rfl, List.Pairwise.nil⟩

theorem Gathered.accept {g : Registry α} (hgathered : g.Gathered)
    {c : Registration α} {grown : Router α}
    (hinsert : g.router.insert c.method c.pattern c.value = .ok grown) :
    (Registry.mk grown (g.accepted ++ [c])).Gathered := by
  have hvalid := hgathered.valid.accept hinsert
  have hlisted := hgathered.listed.accept hinsert
  have hfree := free_of_insert hinsert
  obtain ⟨root, hroot, rfl⟩ :=
    (insert_eq_ok_iff g.router grown c.method c.pattern c.value).mp hinsert
  refine ⟨hvalid, ?_, hlisted, ?_, ?_⟩
  · rw [List.map_append]
    exact (Node.collect_insert? hroot).trans (hgathered.collected.append_right _)
  · simp [hgathered.size_eq]
  · rw [List.pairwise_append]
    refine ⟨hgathered.apart, List.pairwise_singleton _ _, ?_⟩
    rintro old hold _ hnew ⟨hshape, hmethod⟩
    obtain rfl := List.mem_singleton.mp hnew
    have htaken := (hgathered.valid _ _ _).mpr ⟨old, hold, hmethod, hshape, rfl⟩
    exact Option.some_ne_none _ (htaken.symm.trans hfree)

theorem run_gathered (calls : List (Registration α)) : (run calls).Gathered :=
  run_kept empty_gathered fun _ _ hgathered _ _ hinsert => hgathered.accept hinsert

theorem run_parsed {calls : List (Registration α)}
    (hparsed : ∀ c ∈ calls, ∃ raw, Pattern.parse raw = .ok c.pattern) :
    (run calls).Parsed := by
  refine run_kept (fun c hc => absurd hc List.not_mem_nil) fun g grown hg c hc _ other hother => ?_
  rcases List.mem_append.mp hother with hold | hnew
  · exact hg other hold
  · rw [List.mem_singleton.mp hnew]
    exact hparsed c hc

/-- Patterns that were read from one text have one shape. -/
theorem Parsed.shape_eq {g : Registry α} (hparsed : g.Parsed) {first second : Registration α}
    (hfirst : first ∈ g.accepted) (hsecond : second ∈ g.accepted)
    (htext : first.pattern.raw = second.pattern.raw) :
    first.pattern.shape = second.pattern.shape := by
  obtain ⟨one, hone⟩ := hparsed first hfirst
  obtain ⟨two, htwo⟩ := hparsed second hsecond
  rw [Pattern.raw_of_parse hone, Pattern.raw_of_parse htwo] at htext
  rw [htext, htwo] at hone
  rw [Except.ok.inj hone]

/-- A listing of the routes in any order has each accepted route once, and
increases strictly. -/
theorem Gathered.listing {g : Registry α} (hgathered : g.Gathered) (hparsed : g.Parsed)
    {order : List (Method × Leaf α)} (horder : order.Perm g.router.root.collect) :
    (Router.listing order).Perm (g.accepted.map Registration.key) ∧
      (Router.listing order).Pairwise Router.Before := by
  have hentries := horder.trans hgathered.collected
  constructor
  · have hkeys := hentries.map fun route => (route.1, route.2.pattern)
    rw [List.map_map] at hkeys
    exact (Router.listing_perm order).trans hkeys
  · apply Router.listing_pairwise
    refine (hentries.pairwise_iff
      fun hne => fun ⟨htext, hmethod⟩ => hne ⟨htext.symm, hmethod.symm⟩).mpr ?_
    rw [List.pairwise_map]
    refine hgathered.apart.imp_of_mem fun hfirst hsecond hne => ?_
    exact fun ⟨htext, hmethod⟩ => hne ⟨hparsed.shape_eq hfirst hsecond htext, hmethod⟩

theorem Gathered.keys_nodup {g : Registry α} (hgathered : g.Gathered) :
    (g.accepted.map Registration.key).Nodup := by
  rw [List.nodup_iff_pairwise_ne, List.pairwise_map]
  refine hgathered.apart.imp fun hne hkey => hne ?_
  obtain ⟨hmethod, hpattern⟩ := Prod.mk.inj hkey
  exact ⟨congrArg Pattern.shape hpattern, hmethod⟩

/-- The listings of a router lose and repeat nothing.  The routes are the accepted
ones, each once, and increase strictly by text and then by method; they are the same
in whatever order the tree is walked, and after any other calls of which the same
routes are accepted.  The size counts them.  The static routes are the accepted ones
without parameter and wildcard, each once and with its value.  The static table, in
whatever order it is filled, has one entry for each of their canonical paths, and
finds each of them there for its own method. -/
theorem listings_exact {calls : List (Registration α)}
    (hcalls : ∀ c ∈ calls, ∃ raw, Pattern.parse raw = .ok c.pattern) :
    let g := run calls
    let r := g.router
    let statics := g.accepted.filter fun c => c.pattern.isStatic
    (r.routes.Perm (g.accepted.map Registration.key) ∧ r.routes.Pairwise Router.Before ∧
      (∀ order, order.Perm r.root.collect → Router.listing order = r.routes) ∧
      ∀ others : List (Registration α),
        (∀ c ∈ others, ∃ raw, Pattern.parse raw = .ok c.pattern) →
        (∀ route, route ∈ (run others).accepted.map Registration.key ↔
          route ∈ g.accepted.map Registration.key) →
        (run others).router.routes = r.routes) ∧
    (r.size = r.routes.length ∧ (r.isEmpty ↔ r.routes = [])) ∧
    (r.staticRoutes.Perm (statics.map Registration.entry) ∧
      (r.staticRoutes.map fun route => (route.1, route.2.pattern)).Nodup) ∧
    (StaticTable.build r).Indexes statics ∧
      ∀ order, order.Perm r.staticRoutes → (StaticTable.ofRoutes order).Indexes statics := by
  intro g r statics
  have hgathered : g.Gathered := run_gathered calls
  have hparsed : g.Parsed := run_parsed hcalls
  obtain ⟨hperm, hbefore⟩ := hgathered.listing hparsed (List.Perm.refl r.root.collect)
  have hlength : r.size = r.routes.length := by
    rw [Router.routes_eq_listing, hperm.length_eq, List.length_map]
    exact hgathered.size_eq
  have hindexes : ∀ order, order.Perm r.staticRoutes →
      (StaticTable.ofRoutes order).Indexes statics := by
    intro order horder
    apply StaticTable.ofRoutes_indexes (horder.trans hgathered.listed)
    intro first hfirst second hsecond
    exact hgathered.listed.apart hgathered.valid hparsed first (horder.mem_iff.mp hfirst)
      second (horder.mem_iff.mp hsecond)
  refine ⟨⟨hperm, hbefore, fun order horder => ?_, fun others hothers hsame => ?_⟩,
    ⟨hlength, ?_⟩, ⟨hgathered.listed, ?_⟩, hindexes _ (List.Perm.refl _), hindexes⟩
  · obtain ⟨hother, hsorted⟩ := hgathered.listing hparsed horder
    exact List.Pairwise.eq_of_mem_iff hsorted hbefore fun route =>
      hother.mem_iff.trans hperm.mem_iff.symm
  · obtain ⟨hother, hsorted⟩ :=
      (run_gathered others).listing (run_parsed hothers) (List.Perm.refl _)
    exact List.Pairwise.eq_of_mem_iff hsorted hbefore fun route =>
      hother.mem_iff.trans ((hsame route).trans hperm.mem_iff.symm)
  · rw [Router.isEmpty, beq_iff_eq, hlength, List.length_eq_zero_iff]
  · have hkeys := hgathered.listed.map fun route => (route.1, route.2.pattern)
    rw [List.map_map] at hkeys
    exact hkeys.nodup_iff.mpr (hgathered.keys_nodup.sublist (List.filter_sublist.map _))

/-- Two routes on one path that is written in two ways, one with a parameter, and a
call that is rejected.  With the first call made last, the routes are the same. -/
theorem listings_exact_reordered :
    let create : Registration Nat := ⟨.post, ⟨"/b//c", [.literal "b", .literal "c"]⟩, 1⟩
    let read : Registration Nat := ⟨.get, ⟨"/b/c/", [.literal "b", .literal "c"]⟩, 2⟩
    let item : Registration Nat := ⟨.get, ⟨"/a/:id", [.literal "a", .param "id"]⟩, 3⟩
    let again : Registration Nat := ⟨.get, ⟨"/a/:name", [.literal "a", .param "name"]⟩, 4⟩
    let calls := [create, read, item, again]
    (∀ c ∈ calls, ∃ raw, Pattern.parse raw = .ok c.pattern) ∧
      (run calls).router.routes = (run [read, item, again, create]).router.routes ∧
      (run calls).router.size = 3 ∧
      (StaticTable.build (run calls).router).lookup .get "/b/c" = some read.leaf ∧
      (StaticTable.build (run calls).router).size = 1 := by
  intro create read item again calls
  have hparsed : ∀ c ∈ calls, ∃ raw, Pattern.parse raw = .ok c.pattern := by
    intro c hc
    simp only [calls, List.mem_cons, List.not_mem_nil, or_false] at hc
    rcases hc with rfl | rfl | rfl | rfl
    exacts [⟨"/b//c", rfl⟩, ⟨"/b/c/", rfl⟩, ⟨"/a/:id", rfl⟩, ⟨"/a/:name", rfl⟩]
  have hothers : ∀ c ∈ [read, item, again, create],
      ∃ raw, Pattern.parse raw = .ok c.pattern := by
    have hmoved : [read, item, again, create].Perm calls :=
      List.perm_append_singleton create [read, item, again]
    exact fun c hc => hparsed c (hmoved.mem_iff.mp hc)
  obtain ⟨⟨-, -, -, hsame⟩, -, -, hindexes, -⟩ := listings_exact hparsed
  have hcalls : (run calls).accepted = [create, read, item] := rfl
  have hreordered : (run [read, item, again, create]).accepted = [read, item, create] := rfl
  refine ⟨hparsed, (hsame _ hothers fun route => ?_).symm, rfl, ?_, ?_⟩
  · rw [hcalls, hreordered]
    exact ((List.perm_append_singleton create [read, item]).map Registration.key).mem_iff
  · apply hindexes.lookup_eq read
    rw [hcalls]
    simp [create, read, Pattern.isStatic, Segment.isLiteral]
  · rw [hindexes.size_eq, hcalls]
    rfl

end Registry

end Trellis
