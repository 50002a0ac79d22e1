import Trellis.Proofs.Routing.Tree
/-!
A router together with the calls of `insert` that it has accepted.  After any sequence of calls the tree
holds exactly the accepted routes, each at the shape of its pattern, and a call is rejected if its place is taken.
-/

namespace Trellis

/-- A call of `insert`, and the route that it registers if it is accepted. -/
structure Registration (α : Type) where
  method : Method
  pattern : Pattern
  value : α

namespace Registration

variable {α : Type}

def leaf (c : Registration α) : Leaf α := ⟨c.pattern, c.value⟩

theorem eq_of_method_eq_of_leaf_eq {first second : Registration α}
    (hmethod : first.method = second.method)
    (hleaf : first.leaf = second.leaf) : first = second := by
  cases first
  cases second
  simp only [leaf, Leaf.mk.injEq] at hleaf
  simp_all

end Registration

namespace Router

variable {α : Type}

/-- A registration is rejected exactly where the method is taken. -/
theorem insert_eq_error_iff {r : Router α} {m : Method} {pattern : Pattern} {value : α}
    {e : DuplicateRoute} :
    r.insert m pattern value = .error e ↔
      (r.root.leafAt? m pattern.shape).isSome ∧ e = ⟨m, pattern.raw⟩ := by
  rw [Pattern.shape, ← Node.insert?_eq_none_iff m ⟨pattern, value⟩, insert]
  cases r.root.insert? m ⟨pattern, value⟩ pattern.segments with
  | none => simp [eq_comm]
  | some root => simp

end Router

/-- A router and the calls that it has accepted, the latest last. -/
structure Registry (α : Type) where
  router : Router α
  accepted : List (Registration α)

namespace Registry

variable {α : Type}

def empty : Registry α := ⟨Router.empty, []⟩

/-- Make a call.  A rejected one changes nothing. -/
def attempt (g : Registry α) (c : Registration α) : Registry α :=
  match g.router.insert c.method c.pattern c.value with
  | .ok router => ⟨router, g.accepted ++ [c]⟩
  | .error _ => g

/-- A new router after calls, made in order. -/
def run (calls : List (Registration α)) : Registry α :=
  calls.foldl attempt empty

theorem run_append (earlier later : List (Registration α)) :
    run (earlier ++ later) = later.foldl attempt (run earlier) :=
  List.foldl_append

/-- The tree holds exactly the accepted routes. -/
def Valid (g : Registry α) : Prop :=
  ∀ (m : Method) (path : Shape) (leaf : Leaf α),
    g.router.root.leafAt? m path = some leaf ↔
      ∃ c ∈ g.accepted, c.method = m ∧ c.pattern.shape = path ∧ c.leaf = leaf

theorem empty_valid : (empty : Registry α).Valid := by
  intro m path leaf
  change (Node.empty : Node α).leafAt? m path = some leaf ↔ _
  simp [empty]

theorem insert_eq_ok_iff (r grown : Router α) (m : Method) (pattern : Pattern)
    (value : α) :
    r.insert m pattern value = .ok grown ↔
      ∃ root, r.root.insert? m ⟨pattern, value⟩ pattern.segments = some root ∧
        grown = ⟨root, r.size + 1⟩ := by
  unfold Router.insert
  cases r.root.insert? m ⟨pattern, value⟩ pattern.segments with
  | none => simp
  | some root => simp [eq_comm]

/-- What is accepted goes to a place that was free for the method. -/
theorem free_of_insert {r grown : Router α} {m : Method} {pattern : Pattern} {value : α}
    (hinsert : r.insert m pattern value = .ok grown) :
    r.root.leafAt? m pattern.shape = none := by
  rw [← Option.not_isSome_iff_eq_none]
  intro htaken
  have hrejected : r.insert m pattern value = .error ⟨m, pattern.raw⟩ :=
    Router.insert_eq_error_iff.mpr ⟨htaken, rfl⟩
  rw [hinsert] at hrejected
  contradiction

theorem Valid.accept {g : Registry α} (hvalid : g.Valid) {c : Registration α}
    {grown : Router α}
    (hinsert : g.router.insert c.method c.pattern c.value = .ok grown) :
    (Registry.mk grown (g.accepted ++ [c])).Valid := by
  obtain ⟨root, hroot, rfl⟩ :=
    (insert_eq_ok_iff g.router grown c.method c.pattern c.value).mp hinsert
  have hfree := free_of_insert hinsert
  intro m path leaf
  change root.leafAt? m path = some leaf ↔ _
  rw [Node.leafAt?_insert? hroot]
  by_cases hplace : path = c.pattern.segments.map Segment.edge ∧ m = c.method
  · obtain ⟨rfl, rfl⟩ := hplace
    simp only [and_self, ↓reduceIte, Option.some.injEq]
    constructor
    · rintro rfl
      exact ⟨c, by simp, rfl, rfl, rfl⟩
    · rintro ⟨other, hother, hmethod, hshape, rfl⟩
      rcases List.mem_append.mp hother with hold | hnew
      · have htaken := (hvalid c.method c.pattern.shape other.leaf).mpr
          ⟨other, hold, hmethod, hshape, rfl⟩
        exact absurd (hfree.symm.trans htaken) (by simp)
      · rw [List.mem_singleton.mp hnew]
        rfl
  · rw [if_neg hplace, hvalid m path leaf]
    constructor
    · rintro ⟨other, hother, heq⟩
      exact ⟨other, List.mem_append.mpr (Or.inl hother), heq⟩
    · rintro ⟨other, hother, hmethod, hshape, hleaf⟩
      rcases List.mem_append.mp hother with hold | hnew
      · exact ⟨other, hold, hmethod, hshape, hleaf⟩
      · obtain rfl := List.mem_singleton.mp hnew
        exact absurd ⟨hshape.symm, hmethod.symm⟩ hplace

/-- What holds of a new router and is kept by each call that is accepted holds after
any calls. -/
theorem run_kept {motive : Registry α → Prop} {calls : List (Registration α)}
    (hempty : motive empty)
    (haccept : ∀ (g : Registry α) (grown : Router α), motive g → ∀ c ∈ calls,
      g.router.insert c.method c.pattern c.value = .ok grown →
        motive ⟨grown, g.accepted ++ [c]⟩) : motive (run calls) := by
  have hstep : ∀ g : Registry α, motive g → motive (calls.foldl attempt g) := by
    induction calls with
    | nil => exact fun g hg => hg
    | cons c rest ih =>
        intro g hg
        refine ih (fun h grown hh d hd => haccept h grown hh d (List.mem_cons_of_mem c hd)) _ ?_
        unfold attempt
        split
        · next grown hinsert => exact haccept g grown hg c List.mem_cons_self hinsert
        · exact hg
  exact hstep empty hempty

theorem run_valid (calls : List (Registration α)) : (run calls).Valid :=
  run_kept empty_valid fun _ _ hvalid _ _ hinsert => hvalid.accept hinsert

/-- A method and a shape have at most one accepted route. -/
theorem Valid.eq_of_mem {g : Registry α} (hvalid : g.Valid)
    {first second : Registration α} (hfirst : first ∈ g.accepted)
    (hsecond : second ∈ g.accepted) (hmethod : first.method = second.method)
    (hshape : first.pattern.shape = second.pattern.shape) : first = second := by
  have hone := (hvalid _ _ _).mpr ⟨first, hfirst, rfl, rfl, rfl⟩
  have htwo := (hvalid _ _ _).mpr ⟨second, hsecond, rfl, rfl, rfl⟩
  rw [hmethod, hshape] at hone
  exact Registration.eq_of_method_eq_of_leaf_eq hmethod
    (Option.some.inj (hone.symm.trans htwo))

/-- A call is for a method and a shape that an accepted route has. -/
def Taken (g : Registry α) (m : Method) (path : Shape) : Prop :=
  ∃ old ∈ g.accepted, old.method = m ∧ old.pattern.shape = path

theorem Valid.taken_iff {g : Registry α} (hvalid : g.Valid) {m : Method} {path : Shape} :
    g.Taken m path ↔ (g.router.root.leafAt? m path).isSome := by
  rw [Option.isSome_iff_exists]
  constructor
  · rintro ⟨old, hmem, hmethod, hshape⟩
    exact ⟨old.leaf, (hvalid m path old.leaf).mpr ⟨old, hmem, hmethod, hshape, rfl⟩⟩
  · rintro ⟨leaf, hleaf⟩
    obtain ⟨old, hmem, hmethod, hshape, -⟩ := (hvalid m path leaf).mp hleaf
    exact ⟨old, hmem, hmethod, hshape⟩

theorem Valid.insert_of_taken {g : Registry α} (hvalid : g.Valid) {m : Method}
    {pattern : Pattern} (htaken : g.Taken m pattern.shape) (value : α) :
    g.router.insert m pattern value = .error ⟨m, pattern.raw⟩ :=
  Router.insert_eq_error_iff.mpr ⟨hvalid.taken_iff.mp htaken, rfl⟩

theorem Valid.exists_insert {g : Registry α} (hvalid : g.Valid) {m : Method}
    {pattern : Pattern} (hfree : ¬ g.Taken m pattern.shape) (value : α) :
    ∃ grown, g.router.insert m pattern value = .ok grown := by
  cases hinsert : g.router.insert m pattern value with
  | ok grown => exact ⟨grown, rfl⟩
  | error e =>
      obtain ⟨htaken, -⟩ := Router.insert_eq_error_iff.mp hinsert
      exact absurd (hvalid.taken_iff.mpr htaken) hfree

end Registry

end Trellis
