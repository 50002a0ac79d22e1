import Mathlib.Data.Finset.Card
import Trellis.Proofs.Except
import Trellis.Schema.Cache
/-!
Runs of calls on a cache of checkers.  The invariant is that each entry holds a checker of its own schema, and that
no two entries have one schema or one checker.  Calls only add entries, so what was answered during a run can be read
off the entries at its end.
-/

namespace Trellis

/-- A call: the identity of the schema that was asked for, and the answer. -/
structure CacheCall where
  id : Nat
  answer : Except SchemaError SharedChecker

namespace SchemaCache

/-- What a call may do: find a checker, make the first one, or fail. -/
theorem getOrCompile_cases (cache : SchemaCache) (s : SharedSchema) :
    (∃ kept, cache.find? s = some kept ∧ cache.getOrCompile s = (.ok kept, cache)) ∨
    (∃ checker, cache.find? s = none ∧ s.schema.compile = .ok checker ∧
      cache.getOrCompile s = (.ok ⟨cache.next, checker⟩,
        ⟨cache.entries ++ [⟨s, ⟨cache.next, checker⟩⟩], cache.next + 1⟩)) ∨
    ∃ e, s.schema.compile = .error e ∧ cache.find? s = none ∧
      cache.getOrCompile s = (.error e, cache) := by
  cases hfind : cache.find? s with
  | some kept =>
      refine .inl ⟨kept, rfl, ?_⟩
      rw [getOrCompile, hfind]
  | none =>
      cases hcompile : s.schema.compile with
      | error e =>
          refine .inr (.inr ⟨e, rfl, rfl, ?_⟩)
          simp only [getOrCompile, hfind, make, hcompile, Except.map]
      | ok checker =>
          refine .inr (.inl ⟨checker, rfl, rfl, ?_⟩)
          -- the second look finds what the first one found, since nothing was kept in between
          have hagain : SchemaCache.find? { cache with next := cache.next + 1 } s = none := hfind
          simp only [getOrCompile, hfind, make, hcompile, Except.map, keep, hagain]

section Run

-- the schema that stands under each identity
variable (schemas : Nat → Schema)

/-- The entries are what they should be. -/
structure Valid (cache : SchemaCache) : Prop where
  made : ∀ entry ∈ cache.entries,
    (schemas entry.shared.id).compile = .ok entry.kept.checker
  fresh : ∀ entry ∈ cache.entries, entry.kept.id < cache.next
  oneSchema : (cache.entries.map (·.shared.id)).Nodup
  oneChecker : (cache.entries.map (·.kept.id)).Nodup

/-- Ask for the checker of the schema under an identity. -/
def ask (cache : SchemaCache) (id : Nat) : Except SchemaError SharedChecker × SchemaCache :=
  cache.getOrCompile ⟨id, schemas id⟩

/-- The cache after calls. -/
def after (cache : SchemaCache) : List Nat → SchemaCache
  | [] => cache
  | id :: later => after (cache.ask schemas id).2 later

/-- Calls with what they were answered. -/
def log (cache : SchemaCache) : List Nat → List CacheCall
  | [] => []
  | id :: later => ⟨id, (cache.ask schemas id).1⟩ :: log (cache.ask schemas id).2 later

variable {schemas} {cache : SchemaCache}

theorem after_append (calls later : List Nat) :
    cache.after schemas (calls ++ later) = (cache.after schemas calls).after schemas later := by
  induction calls generalizing cache with
  | nil => rfl
  | cons id rest ih => exact ih

theorem log_append (calls later : List Nat) :
    cache.log schemas (calls ++ later) =
      cache.log schemas calls ++ (cache.after schemas calls).log schemas later := by
  induction calls generalizing cache with
  | nil => rfl
  | cons id rest ih => exact congrArg (List.cons _) ih

theorem map_id_log (calls : List Nat) : (cache.log schemas calls).map (·.id) = calls := by
  induction calls generalizing cache with
  | nil => rfl
  | cons id rest ih => exact congrArg (List.cons id) ih

theorem empty_valid : empty.Valid schemas :=
  ⟨by simp [empty], by simp [empty], List.nodup_nil, List.nodup_nil⟩

namespace Valid

variable (hvalid : cache.Valid schemas)
include hvalid

theorem eq_of_oneSchema {a b : CacheEntry} (ha : a ∈ cache.entries) (hb : b ∈ cache.entries)
    (hid : a.shared.id = b.shared.id) : a = b :=
  List.inj_on_of_nodup_map hvalid.oneSchema ha hb hid

theorem eq_of_oneChecker {a b : CacheEntry} (ha : a ∈ cache.entries) (hb : b ∈ cache.entries)
    (hid : a.kept.id = b.kept.id) : a = b :=
  List.inj_on_of_nodup_map hvalid.oneChecker ha hb hid

/-- A checker that is found is the one of the only entry of the schema. -/
theorem find?_eq_some_iff {s : SharedSchema} {kept : SharedChecker} :
    cache.find? s = some kept ↔
      ∃ entry ∈ cache.entries, entry.shared.id = s.id ∧ entry.kept = kept := by
  rw [find?, Option.map_eq_some_iff]
  constructor
  · rintro ⟨entry, hentry, rfl⟩
    have hid := List.find?_some hentry
    exact ⟨entry, List.mem_of_find?_eq_some hentry, of_decide_eq_true hid, rfl⟩
  · rintro ⟨entry, hmem, hid, rfl⟩
    cases hfind : cache.entries.find? fun entry => entry.shared.id = s.id with
    | none =>
        have hnone := List.find?_eq_none.mp hfind entry hmem
        exact absurd (decide_eq_true hid) hnone
    | some found =>
        have hgiven := List.find?_some hfind
        have hfound : found.shared.id = s.id := of_decide_eq_true hgiven
        have hsame : found = entry := hvalid.eq_of_oneSchema
          (List.mem_of_find?_eq_some hfind) hmem (hfound.trans hid.symm)
        exact ⟨found, rfl, congrArg _ hsame⟩

theorem contains_iff {s : SharedSchema} :
    cache.contains s ↔ ∃ entry ∈ cache.entries, entry.shared.id = s.id := by
  rw [contains, Option.isSome_iff_exists]
  constructor
  · rintro ⟨kept, hfind⟩
    obtain ⟨entry, hmem, hid, -⟩ := hvalid.find?_eq_some_iff.mp hfind
    exact ⟨entry, hmem, hid⟩
  · rintro ⟨entry, hmem, hid⟩
    exact ⟨entry.kept, hvalid.find?_eq_some_iff.mpr ⟨entry, hmem, hid, rfl⟩⟩

theorem ask_valid (id : Nat) : (cache.ask schemas id).2.Valid schemas := by
  obtain ⟨kept, -, hcall⟩ | ⟨checker, hfind, hcompile, hcall⟩ | ⟨e, -, -, hcall⟩ :=
    cache.getOrCompile_cases ⟨id, schemas id⟩
  · rwa [ask, hcall]
  · rw [ask, hcall]
    have hother : ∀ entry ∈ cache.entries, entry.shared.id ≠ id := by
      intro entry hmem hid
      have hfound := (hvalid.find?_eq_some_iff (s := ⟨id, schemas id⟩)).mpr
        ⟨entry, hmem, hid, rfl⟩
      exact absurd (hfind.symm.trans hfound) (by simp)
    refine ⟨?_, ?_, ?_, ?_⟩
    · intro entry hmem
      rcases List.mem_append.mp hmem with hold | hnew
      · exact hvalid.made entry hold
      · obtain rfl := List.mem_singleton.mp hnew
        exact hcompile
    · intro entry hmem
      rcases List.mem_append.mp hmem with hold | hnew
      · exact Nat.lt_succ_of_lt (hvalid.fresh entry hold)
      · obtain rfl := List.mem_singleton.mp hnew
        exact Nat.lt_succ_self _
    · rw [List.map_append, List.map_singleton]
      refine hvalid.oneSchema.append (List.nodup_singleton _) ?_
      rw [List.disjoint_singleton]
      intro hmem
      obtain ⟨entry, hentry, hid⟩ := List.mem_map.mp hmem
      exact hother entry hentry hid
    · rw [List.map_append, List.map_singleton]
      refine hvalid.oneChecker.append (List.nodup_singleton _) ?_
      rw [List.disjoint_singleton]
      intro hmem
      obtain ⟨entry, hentry, hid⟩ := List.mem_map.mp hmem
      exact Nat.ne_of_lt (hvalid.fresh entry hentry) hid
  · rwa [ask, hcall]

theorem after_valid (calls : List Nat) : (cache.after schemas calls).Valid schemas := by
  induction calls generalizing cache with
  | nil => exact hvalid
  | cons id rest ih => exact ih (hvalid.ask_valid id)

/-- A call is answered with an error if the schema has no checker, and the error
is the one of the schema. -/
theorem ask_eq_error_iff {id : Nat} {e : SchemaError} :
    (cache.ask schemas id).1 = .error e ↔ (schemas id).compile = .error e := by
  obtain ⟨kept, hfind, hcall⟩ | ⟨checker, -, hcompile, hcall⟩ | ⟨e', hcompile, -, hcall⟩ :=
    cache.getOrCompile_cases ⟨id, schemas id⟩
  · obtain ⟨entry, hmem, hid, -⟩ := hvalid.find?_eq_some_iff.mp hfind
    have hmade := hvalid.made entry hmem
    rw [hid] at hmade
    rw [ask, hcall, hmade]
    exact iff_of_false (by simp) (by simp)
  · rw [ask, hcall]
    exact iff_of_false (by simp) (by simp [hcompile])
  · change (schemas id).compile = .error e' at hcompile
    rw [ask, hcall, hcompile, Except.error.injEq, Except.error.injEq]

end Valid

/-- A call that fails leaves the cache as it is. -/
theorem ask_of_error {id : Nat} {e : SchemaError}
    (herror : (cache.ask schemas id).1 = .error e) : (cache.ask schemas id).2 = cache := by
  obtain ⟨kept, -, hcall⟩ | ⟨checker, -, -, hcall⟩ | ⟨e', -, -, hcall⟩ :=
    cache.getOrCompile_cases ⟨id, schemas id⟩
  · rw [ask, hcall]
  · rw [ask, hcall] at herror
    contradiction
  · rw [ask, hcall]

theorem entries_kept_ask (id : Nat) : cache.entries <+: (cache.ask schemas id).2.entries := by
  obtain ⟨kept, -, hcall⟩ | ⟨checker, -, -, hcall⟩ | ⟨e, -, -, hcall⟩ :=
    cache.getOrCompile_cases ⟨id, schemas id⟩
  · rw [ask, hcall]
  · rw [ask, hcall]
    exact List.prefix_append _ _
  · rw [ask, hcall]

/-- Calls only add entries. -/
theorem entries_kept (calls : List Nat) :
    cache.entries <+: (cache.after schemas calls).entries := by
  induction calls generalizing cache with
  | nil => exact List.prefix_refl _
  | cons id rest ih => exact (entries_kept_ask id).trans ih

/-- After a call that was answered with a checker, there is an entry with it. -/
theorem Valid.exists_entry_of_ask (hvalid : cache.Valid schemas) {id : Nat}
    {kept : SharedChecker} (hok : (cache.ask schemas id).1 = .ok kept) :
    ∃ entry ∈ (cache.ask schemas id).2.entries, entry.shared.id = id ∧ entry.kept = kept := by
  obtain ⟨found, hfind, hcall⟩ | ⟨checker, -, -, hcall⟩ | ⟨e, -, -, hcall⟩ :=
    cache.getOrCompile_cases ⟨id, schemas id⟩
  · rw [ask, hcall] at hok ⊢
    obtain rfl := Except.ok.inj hok
    exact hvalid.find?_eq_some_iff.mp hfind
  · rw [ask, hcall] at hok ⊢
    exact ⟨_, List.mem_append_right _ List.mem_cons_self, rfl, Except.ok.inj hok⟩
  · rw [ask, hcall] at hok
    contradiction

/-- The entry that a call adds is the one of its answer. -/
theorem mem_entries_ask {id : Nat} {entry : CacheEntry}
    (hmem : entry ∈ (cache.ask schemas id).2.entries) :
    entry ∈ cache.entries ∨
      entry.shared.id = id ∧ (cache.ask schemas id).1 = .ok entry.kept := by
  obtain ⟨kept, -, hcall⟩ | ⟨checker, -, -, hcall⟩ | ⟨e, -, -, hcall⟩ :=
    cache.getOrCompile_cases ⟨id, schemas id⟩
  · rw [ask, hcall] at hmem
    exact .inl hmem
  · rw [ask, hcall] at hmem ⊢
    rcases List.mem_append.mp hmem with hold | hnew
    · exact .inl hold
    · obtain rfl := List.mem_singleton.mp hnew
      exact .inr ⟨rfl, rfl⟩
  · rw [ask, hcall] at hmem
    exact .inl hmem

/-- Whatever checker was given during a run is in an entry at its end. -/
theorem Valid.exists_entry_of_mem_log (hvalid : cache.Valid schemas) {calls : List Nat}
    {call : CacheCall} (hcall : call ∈ cache.log schemas calls) {kept : SharedChecker}
    (hok : call.answer = .ok kept) :
    ∃ entry ∈ (cache.after schemas calls).entries,
      entry.shared.id = call.id ∧ entry.kept = kept := by
  induction calls generalizing cache with
  | nil => exact absurd hcall List.not_mem_nil
  | cons id rest ih =>
      rcases List.mem_cons.mp hcall with rfl | hlater
      · obtain ⟨entry, hmem, hentry⟩ := hvalid.exists_entry_of_ask hok
        exact ⟨entry, (entries_kept rest).subset hmem, hentry⟩
      · exact ih (hvalid.ask_valid id) hlater

/-- Whatever is in an entry at the end of a run was there before, or was given
during the run. -/
theorem exists_call_of_mem_entries {calls : List Nat} {entry : CacheEntry}
    (hmem : entry ∈ (cache.after schemas calls).entries) :
    entry ∈ cache.entries ∨ ∃ call ∈ cache.log schemas calls,
      call.id = entry.shared.id ∧ call.answer = .ok entry.kept := by
  induction calls generalizing cache with
  | nil => exact .inl hmem
  | cons id rest ih =>
      rcases ih hmem with hfirst | ⟨call, hcall, hgiven⟩
      · rcases mem_entries_ask hfirst with hold | ⟨hid, hok⟩
        · exact .inl hold
        · exact .inr ⟨_, List.mem_cons_self, hid.symm, hok⟩
      · exact .inr ⟨call, List.mem_cons_of_mem _ hcall, hgiven⟩

/-- Every call of a run is answered as the schema is compiled. -/
theorem Valid.answer_eq_error_iff (hvalid : cache.Valid schemas) {calls : List Nat}
    {call : CacheCall} (hcall : call ∈ cache.log schemas calls) {e : SchemaError} :
    call.answer = .error e ↔ (schemas call.id).compile = .error e := by
  induction calls generalizing cache with
  | nil => exact absurd hcall List.not_mem_nil
  | cons id rest ih =>
      rcases List.mem_cons.mp hcall with rfl | hlater
      · exact hvalid.ask_eq_error_iff
      · exact ih (hvalid.ask_valid id) hlater

/-- The entries at the end of a run on a new cache hold what the run was answered
with, no less and no more. -/
theorem exists_entry_iff_exists_call {calls : List Nat} {id : Nat} {kept : SharedChecker} :
    (∃ entry ∈ (empty.after schemas calls).entries, entry.shared.id = id ∧ entry.kept = kept) ↔
      ∃ call ∈ empty.log schemas calls, call.id = id ∧ call.answer = .ok kept := by
  constructor
  · rintro ⟨entry, hmem, rfl, rfl⟩
    rcases exists_call_of_mem_entries hmem with hold | hgiven
    · exact absurd hold List.not_mem_nil
    · exact hgiven
  · rintro ⟨call, hmem, rfl, hok⟩
    exact empty_valid.exists_entry_of_mem_log hmem hok

end Run

/-- The identities that were answered with a checker. -/
def compiledIn (calls : List CacheCall) : Finset Nat :=
  ((calls.filter (·.answer.isOk)).map (·.id)).toFinset

theorem mem_compiledIn {calls : List CacheCall} {id : Nat} :
    id ∈ compiledIn calls ↔ ∃ call ∈ calls, call.id = id ∧ ∃ kept, call.answer = .ok kept := by
  simp only [compiledIn, List.mem_toFinset, List.mem_map, List.mem_filter]
  constructor
  · rintro ⟨call, ⟨hmem, hok⟩, rfl⟩
    cases hanswer : call.answer with
    | ok kept => exact ⟨call, hmem, rfl, kept, hanswer⟩
    | error e => simp [hanswer, Except.isOk, Except.toBool] at hok
  · rintro ⟨call, hmem, rfl, kept, hanswer⟩
    exact ⟨call, ⟨hmem, by simp [hanswer, Except.isOk, Except.toBool]⟩, rfl⟩

/-- The schemas of the entries at the end of a run are those that were answered
with a checker. -/
theorem shared_ids_after {schemas : Nat → Schema} {calls : List Nat} :
    ((empty.after schemas calls).entries.map (·.shared.id)).toFinset =
      compiledIn (empty.log schemas calls) := by
  ext id
  rw [mem_compiledIn, List.mem_toFinset, List.mem_map]
  constructor
  · rintro ⟨entry, hmem, hid⟩
    obtain ⟨call, hlog, hcall⟩ := exists_entry_iff_exists_call.mp ⟨entry, hmem, hid, rfl⟩
    exact ⟨call, hlog, hcall.1, _, hcall.2⟩
  · rintro ⟨call, hlog, hid, kept, hok⟩
    obtain ⟨entry, hmem, hsame, -⟩ := exists_entry_iff_exists_call.mpr ⟨call, hlog, hid, hok⟩
    exact ⟨entry, hmem, hsame⟩

/-- A cache is keyed by identity, and it is transparent.  In a run of calls on a new
cache two calls are given one checker if they ask for one schema, and two if they
ask for two, which may be equal.  A checker that is given checks every input like
the one that the schema has without the cache, and a schema without a checker is
answered with its error every time; such a call changes nothing for later ones.
The cache contains what a call was given a checker for, and its size is their
number, which never falls. -/
theorem checkers_by_identity (schemas : Nat → Schema) (calls : List Nat) :
    let log := empty.log schemas calls
    let cache := empty.after schemas calls
    log.map (·.id) = calls ∧
    (∀ a ∈ log, ∀ b ∈ log, ∀ x y, a.answer = .ok x → b.answer = .ok y →
      (x.id = y.id ↔ a.id = b.id) ∧ (a.id = b.id → x = y)) ∧
    (∀ call ∈ log, ∀ given, call.answer = .ok given →
      ∃ checker, (schemas call.id).compile = .ok checker ∧
        ∀ input label, given.checker.checkInput input label = checker.checkInput input label) ∧
    (∀ call ∈ log, ∀ e, call.answer = .error e ↔ (schemas call.id).compile = .error e) ∧
    (∀ id e, (cache.ask schemas id).1 = .error e →
      (∀ s, (empty.after schemas (calls ++ [id])).contains s = cache.contains s) ∧
      (empty.after schemas (calls ++ [id])).size = cache.size ∧
      ∀ later, empty.log schemas (calls ++ id :: later) =
        log ++ ⟨id, .error e⟩ :: cache.log schemas later) ∧
    (∀ id, cache.contains ⟨id, schemas id⟩ ↔
      ∃ call ∈ log, call.id = id ∧ ∃ given, call.answer = .ok given) ∧
    cache.size = (compiledIn log).card ∧
    ∀ later, cache.size ≤ (empty.after schemas (calls ++ later)).size := by
  intro log cache
  have hvalid : cache.Valid schemas := empty_valid.after_valid calls
  have hentry : ∀ call ∈ log, ∀ kept, call.answer = .ok kept →
      ∃ entry ∈ cache.entries, entry.shared.id = call.id ∧ entry.kept = kept :=
    fun call hcall kept hok => exists_entry_iff_exists_call.mpr ⟨call, hcall, rfl, hok⟩
  refine ⟨map_id_log calls, ?_, ?_, ?_, ?_, ?_, ?_, ?_⟩
  · intro a ha b hb x y hx hy
    obtain ⟨first, hfirst, hfirstId, rfl⟩ := hentry a ha x hx
    obtain ⟨second, hsecond, hsecondId, rfl⟩ := hentry b hb y hy
    rw [← hfirstId, ← hsecondId]
    refine ⟨⟨fun hid => ?_, fun hid => ?_⟩, fun hid => ?_⟩
    · rw [hvalid.eq_of_oneChecker hfirst hsecond hid]
    · rw [hvalid.eq_of_oneSchema hfirst hsecond hid]
    · rw [hvalid.eq_of_oneSchema hfirst hsecond hid]
  · intro call hmem given hok
    obtain ⟨entry, hentries, hid, rfl⟩ := hentry call hmem given hok
    exact ⟨_, hid ▸ hvalid.made entry hentries, fun _ _ => rfl⟩
  · exact fun call hmem e => empty_valid.answer_eq_error_iff hmem
  · intro id e herror
    have hsame : empty.after schemas (calls ++ [id]) = cache := by
      rw [after_append]
      exact ask_of_error herror
    refine ⟨fun s => by rw [hsame], by rw [hsame], fun later => ?_⟩
    rw [log_append, SchemaCache.log, herror, ask_of_error herror]
  · intro id
    rw [hvalid.contains_iff, ← mem_compiledIn, ← shared_ids_after, List.mem_toFinset,
      List.mem_map]
  · rw [← shared_ids_after, List.toFinset_card_of_nodup hvalid.oneSchema, List.length_map, size]
  · intro later
    rw [after_append]
    exact (entries_kept later).length_le

end SchemaCache

end Trellis
