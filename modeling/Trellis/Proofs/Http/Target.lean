import Trellis.Http.Message
import Trellis.Proofs.Routing.Path
/-!
Targets of requests.  A path can be put in place of the one that a target has, and the query stays; a request
is known by its method, path, query, fields and body.
-/

namespace Trellis

namespace Text

/-- Without the separator there is nothing to cut. -/
theorem cutChars_of_not_mem {separator : Char} {cs : List Char}
    (hcs : separator ∉ cs) : cutChars separator cs = (cs, none) := by
  induction cs with
  | nil => rfl
  | cons c rest ih =>
      have hc : c ≠ separator := fun h => hcs (by simp [h])
      have hrest : separator ∉ rest := fun h => hcs (by simp [h])
      rw [cutChars, if_neg hc, ih hrest]

/-- The cut is at the first separator. -/
theorem cutChars_append {separator : Char} {first : List Char}
    (hfirst : separator ∉ first) (second : List Char) :
    cutChars separator (first ++ separator :: second) = (first, some second) := by
  induction first with
  | nil => simp [cutChars]
  | cons c rest ih =>
      have hc : c ≠ separator := fun h => hfirst (by simp [h])
      have hrest : separator ∉ rest := fun h => hfirst (by simp [h])
      rw [List.cons_append, cutChars, if_neg hc, ih hrest]

theorem not_mem_cutChars_fst (separator : Char) (cs : List Char) :
    separator ∉ (cutChars separator cs).1 := by
  induction cs with
  | nil => simp [cutChars]
  | cons c rest ih =>
      unfold cutChars
      split
      · simp
      · next hc => simp [ih, Ne.symm hc]

/-- The pieces are made of the characters of the text. -/
theorem mem_of_mem_splitChars {separator c : Char} {cs piece : List Char}
    (hpiece : piece ∈ splitChars separator cs) (hc : c ∈ piece) : c ∈ cs := by
  induction cs generalizing piece with
  | nil =>
      obtain rfl : piece = [] := by simpa [splitChars] using hpiece
      exact absurd hc List.not_mem_nil
  | cons first rest ih =>
      unfold splitChars at hpiece
      split at hpiece
      · rcases List.mem_cons.mp hpiece with rfl | hrest
        · exact absurd hc List.not_mem_nil
        · exact List.mem_cons_of_mem first (ih hrest hc)
      · split at hpiece
        · obtain rfl : piece = [first] := by simpa using hpiece
          exact List.mem_cons.mpr (Or.inl (List.mem_singleton.mp hc))
        · next start others hsplit =>
            rcases List.mem_cons.mp hpiece with rfl | hother
            · rcases List.mem_cons.mp hc with rfl | hstart
              · exact List.mem_cons_self
              · exact List.mem_cons_of_mem first
                  (ih (hsplit ▸ List.mem_cons_self) hstart)
            · exact List.mem_cons_of_mem first
                (ih (hsplit ▸ List.mem_cons_of_mem start hother) hc)

end Text

namespace Path

theorem mem_of_mem_split {path s : String} (hmem : s ∈ split path) {c : Char}
    (hc : c ∈ s.toList) : c ∈ path.toList := by
  simp only [split, List.mem_map, List.mem_filter] at hmem
  obtain ⟨piece, ⟨hpiece, -⟩, rfl⟩ := hmem
  exact Text.mem_of_mem_splitChars hpiece (by simpa using hc)

/-- A joined path has the characters of its segments and slashes. -/
theorem mem_join {segments : List String} {c : Char}
    (hc : c ∈ (join segments).toList) : c = '/' ∨ ∃ s ∈ segments, c ∈ s.toList := by
  unfold join at hc
  split at hc
  · exact Or.inl (by simpa using hc)
  · rw [String.toList_ofList, List.mem_flatMap] at hc
    obtain ⟨s, hs, hc⟩ := hc
    exact (List.mem_cons.mp hc).imp_right fun h => ⟨s, hs, h⟩

end Path

namespace Request

/-- Requests that differ at most in their path. -/
structure SameButPath (first second : Request) : Prop where
  method : second.method = first.method
  query : second.query? = first.query?
  headers : second.headers = first.headers
  body : second.body = first.body

/-- The request with the path of the given segments. -/
def atPath (request : Request) (segments : List String) : Request :=
  let query := match request.query? with
    | none => []
    | some query => '?' :: query.toList
  { request with
    target := String.ofList ((Path.join segments).toList ++ query) }

/-- The path of a request ends before the first question mark. -/
theorem not_mem_path (request : Request) : '?' ∉ request.path.toList := by
  simpa [path, Text.cut] using Text.not_mem_cutChars_fst '?' request.target.toList

theorem cut_atPath (request : Request) {segments : List String}
    (hsegments : ∀ s ∈ segments, '?' ∉ s.toList) :
    Text.cut '?' (request.atPath segments).target =
      (Path.join segments, request.query?) := by
  have hjoin : '?' ∉ (Path.join segments).toList := by
    intro hmem
    rcases Path.mem_join hmem with hslash | ⟨s, hs, hmark⟩
    · exact absurd hslash (by decide)
    · exact hsegments s hs hmark
  unfold Text.cut atPath
  cases hquery : request.query? with
  | none => simp [Text.cutChars_of_not_mem hjoin]
  | some query => simp [Text.cutChars_append hjoin]

theorem path_atPath (request : Request) {segments : List String}
    (hsegments : ∀ s ∈ segments, '?' ∉ s.toList) :
    (request.atPath segments).path = Path.join segments :=
  congrArg Prod.fst (request.cut_atPath hsegments)

theorem sameButPath_atPath (request : Request) {segments : List String}
    (hsegments : ∀ s ∈ segments, '?' ∉ s.toList) :
    request.SameButPath (request.atPath segments) where
  method := rfl
  query := by
    have hcut := congrArg Prod.snd (request.cut_atPath hsegments)
    exact hcut
  headers := rfl
  body := rfl

/-- Segments of the path of a request can be its path. -/
theorem exists_sameButPath {request : Request} {segments : List String}
    (hsegments : ∀ s ∈ segments, s ∈ Path.split request.path) :
    ∃ other, request.SameButPath other ∧ Path.split other.path = segments := by
  have hmark : ∀ s ∈ segments, '?' ∉ s.toList := fun s hs hmem =>
    request.not_mem_path (Path.mem_of_mem_split (hsegments s hs) hmem)
  refine ⟨request.atPath segments, request.sameButPath_atPath hmark, ?_⟩
  rw [request.path_atPath hmark,
    Path.split_join fun s hs => Path.isSegment_of_mem_split (hsegments s hs)]

end Request

end Trellis
