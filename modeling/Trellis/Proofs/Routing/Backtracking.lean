import Trellis.Routing.Router
/-!
Searching with one stack.  What is captured on the way down is pushed on a stack that all branches share, and popped
again when a branch leads to nothing; the methods that are met are collected on the way.  What is pushed are places
in the path, which are read at the end.
-/

namespace Trellis

/-- A place in a path where something is captured. -/
inductive Mark
  | segment (i : Nat)
  | remaining (start : Nat)

/-- What a path has at a mark. -/
def Mark.read (path : List String) : Mark → Capture
  | .segment i => .segment (path[i]?.getD "")
  | .remaining start => .remaining (path.drop start)

/-- What a search carries along: the stack of marks, and the methods it has met. -/
structure Trail where
  marks : List Mark
  allowed : List Method

namespace Trail

def empty : Trail := ⟨[], []⟩

def push (t : Trail) (mark : Mark) : Trail := { t with marks := t.marks ++ [mark] }

def pop (t : Trail) : Trail := { t with marks := t.marks.dropLast }

def meet (t : Trail) (methods : List Method) : Trail :=
  { t with allowed := t.allowed ++ methods }

theorem pop_push (t : Trail) (mark : Mark) (methods : List Method) :
    ((t.push mark).meet methods).pop = t.meet methods := by
  simp [pop, push, meet]

end Trail

/-- A search from a trail on: the route that it finds, if any, and the trail after
it. -/
abbrev Probe (α : Type) := Trail → Option (Leaf α) × Trail

namespace Probe

variable {α : Type}

def fail : Probe α := fun t => (none, t)

/-- The second search goes on where the first one comes back without a route. -/
def orElse (first second : Probe α) : Probe α := fun t =>
  match first t with
  | (some leaf, t) => (some leaf, t)
  | (none, t) => second t

/-- A search below a mark, which is taken from the stack if there is no route. -/
def below (mark : Mark) (inner : Probe α) : Probe α := fun t =>
  match inner (t.push mark) with
  | (some leaf, t) => (some leaf, t)
  | (none, t) => (none, t.pop)

/-- A search finds the route of an outcome, with its captures on top of the stack;
or it finds none, restores the stack, and has met the methods of the outcome. -/
def Finds (path : List String) (probe : Probe α) : Search α → Prop
  | .hit leaf captures => ∀ t, ∃ marks allowed,
      probe t = (some leaf, ⟨t.marks ++ marks, allowed⟩) ∧
        marks.map (Mark.read path) = captures
  | .miss allowed => ∀ t, probe t = (none, t.meet allowed)

theorem finds_fail (path : List String) : Finds path (fail : Probe α) (.miss []) := by
  intro t
  simp [fail, Trail.meet]

theorem Finds.orElse {path : List String} {first second : Probe α} {s s' : Search α}
    (hfirst : Finds path first s) (hsecond : Finds path second s') :
    Finds path (first.orElse second) (s.orElse s') := by
  cases s with
  | hit leaf captures =>
      intro t
      obtain ⟨marks, allowed, hprobe, hmarks⟩ := hfirst t
      exact ⟨marks, allowed, by rw [Probe.orElse, hprobe], hmarks⟩
  | miss met =>
      have hgoes : ∀ t, first.orElse second t = second (t.meet met) := by
        intro t
        rw [Probe.orElse, hfirst t]
      cases s' with
      | hit leaf captures =>
          intro t
          rw [hgoes]
          exact hsecond (t.meet met)
      | miss others =>
          intro t
          rw [hgoes, hsecond, Trail.meet, Trail.meet, Trail.meet, List.append_assoc]

theorem Finds.below {path : List String} {inner : Probe α} {s : Search α}
    (hinner : Finds path inner s) (mark : Mark) :
    Finds path (inner.below mark) (s.capture (mark.read path)) := by
  cases s with
  | hit leaf captures =>
      intro t
      obtain ⟨marks, allowed, hprobe, rfl⟩ := hinner (t.push mark)
      refine ⟨mark :: marks, allowed, ?_, rfl⟩
      rw [Probe.below, hprobe, Trail.push, List.append_assoc]
      rfl
  | miss allowed =>
      intro t
      rw [Probe.below, hinner, ← Trail.pop_push t mark]

end Probe

namespace Node

variable {α : Type}

/-- The route that ends at this node, or else the methods that do. -/
def stop (n : Node α) (m : Method) : Probe α := fun t =>
  match n.leafFor m with
  | some leaf => (some leaf, t)
  | none => (none, t.meet n.methods)

/-- The route of a wildcard, whose mark is pushed only if there is one. -/
def stopAt (n : Node α) (m : Method) (mark : Mark) : Probe α := fun t =>
  match n.leafFor m with
  | some leaf => (some leaf, t.push mark)
  | none => (none, t.meet n.methods)

/-- Look for a route below a node, for what is left of a path at a depth. -/
def probe (m : Method) : Nat → List String → Node α → Probe α
  | _, [], n => n.stop m
  | depth, segment :: rest, n =>
    let exact := match n.literal? segment with
      | some child => probe m (depth + 1) rest child
      | none => .fail
    let single := match n.param with
      | some child => (probe m (depth + 1) rest child).below (.segment depth)
      | none => .fail
    let many := match n.wildcard with
      | some child => child.stopAt m (.remaining depth)
      | none => .fail
    exact.orElse (single.orElse many)

theorem stop_finds (path : List String) (n : Node α) (m : Method) :
    Probe.Finds path (n.stop m) (n.here m) := by
  unfold here
  split
  · next leaf hleaf =>
      intro t
      exact ⟨[], t.allowed, by rw [stop, hleaf, List.append_nil], rfl⟩
  · next hleaf =>
      intro t
      rw [stop, hleaf]

theorem stopAt_finds (path : List String) (n : Node α) (m : Method) (mark : Mark) :
    Probe.Finds path (n.stopAt m mark) ((n.here m).capture (mark.read path)) := by
  unfold here
  split
  · next leaf hleaf =>
      intro t
      exact ⟨[mark], t.allowed, by rw [stopAt, hleaf]; rfl, rfl⟩
  · next hleaf =>
      intro t
      rw [stopAt, hleaf]

/-- The search with one stack finds what `search` finds. -/
theorem probe_finds {path : List String} (m : Method) {depth : Nat}
    {segments : List String} (hdepth : path.drop depth = segments) (n : Node α) :
    Probe.Finds path (probe m depth segments n) (search m segments n) := by
  induction segments generalizing depth n with
  | nil => exact stop_finds path n m
  | cons segment rest ih =>
      have hrest : path.drop (depth + 1) = rest := by
        rw [← List.drop_drop, hdepth, List.drop_one, List.tail_cons]
      have hsegment : Mark.read path (.segment depth) = .segment segment := by
        rw [Mark.read, ← List.head?_drop, hdepth]
        rfl
      have hremaining :
          Mark.read path (.remaining depth) = .remaining (segment :: rest) := by
        rw [Mark.read, hdepth]
      rw [probe, search, ← hsegment, ← hremaining]
      refine .orElse ?_ (.orElse ?_ ?_)
      · cases n.literal? segment with
        | some child => exact ih hrest child
        | none => exact Probe.finds_fail path
      · cases n.param with
        | some child => exact (ih hrest child).below (.segment depth)
        | none => exact Probe.finds_fail path
      · cases n.wildcard with
        | some child => exact stopAt_finds path child m (.remaining depth)
        | none => exact Probe.finds_fail path

end Node

namespace Router

variable {α : Type}

/-- The route for a path, with the marks of the search read at its end. -/
def probeSegments (r : Router α) (m : Method) (segments : List String) : Resolution α :=
  match r.root.probe m 0 segments Trail.empty with
  | (some leaf, t) =>
    .found ⟨leaf.value, leaf.pattern,
      ⟨leaf.pattern.paramNames.zip (t.marks.map fun mark => (mark.read segments).value)⟩⟩
  | (none, t) =>
    if t.allowed.isEmpty then .notFound
    else .methodNotAllowed (Method.sorted t.allowed)

/-- The search with one stack resolves a path as `resolveSegments` does. -/
theorem probeSegments_eq (r : Router α) (m : Method) (segments : List String) :
    r.probeSegments m segments = r.resolveSegments m segments := by
  have hfinds := Node.probe_finds m (List.drop_zero (l := segments)) r.root
  rw [probeSegments, resolveSegments]
  cases hsearch : r.root.search m segments with
  | hit leaf captures =>
      rw [hsearch] at hfinds
      obtain ⟨marks, allowed, hprobe, rfl⟩ := hfinds Trail.empty
      rw [hprobe]
      simp only [Trail.empty, List.nil_append, List.map_map]
      rfl
  | miss allowed =>
      rw [hsearch] at hfinds
      rw [hfinds Trail.empty]
      cases allowed <;> rfl

end Router

end Trellis
