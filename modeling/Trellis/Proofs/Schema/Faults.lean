import Trellis.Proofs.Schema.Complete
import Trellis.Proofs.Schema.Parts
/-!
Which schemas have a checker, and what is said of those that have none.  A schema can be at fault in its patterns
and its defaults.  They are looked at in order, the parts of a schema before itself, and the first one that is at
fault is reported, with its place.
-/

namespace Trellis

namespace Schema

/-- The pattern of a string schema. -/
def pattern? : Schema → Option String
  | .text _ rules => rules.pattern
  | _ => none

def withoutDefault (s : Schema) : Schema :=
  s.withPresence { s.presence with default := none }

/-- A pattern can be read, anchored at both ends. -/
def Readable (text : String) : Prop :=
  ∃ regex, Regex.parse? (Regex.anchoredText text) = some regex

/-- The checker of a schema accepts a value as the default of the schema.  The
defaults inside the schema count. -/
def AcceptsDefault (s : Schema) (value : Json) : Prop :=
  ∃ c, s.withoutDefault.compile = .ok c ∧ ∃ out, c.check value = .ok out

/-- A schema is not itself at fault; its parts may be. -/
structure Faultless (s : Schema) : Prop where
  pattern_readable : ∀ text, s.pattern? = some text → Readable text
  default_accepted : ∀ value, s.presence.default = some value → s.AcceptsDefault value

/-- What can be at fault in a schema: the pattern of a string schema, or the
default of a schema, at its place. -/
inductive Site
  | pattern (path : FieldPath) (text : String)
  | default (path : FieldPath) (s : Schema) (value : Json)

namespace Site

def Sound : Site → Prop
  | pattern _ text => Readable text
  | default _ s value => s.AcceptsDefault value

/-- What is said of a site at fault.  A pattern is named.  Of a default the first
failure is told, as the check of its schema finds it. -/
def Reports : Site → SchemaError → Prop
  | pattern path text, e =>
    Regex.parse? (Regex.anchoredText text) = none ∧
      e = .invalidPattern (path.render "value") text
  | default path s value, e =>
    ∃ c f rest, s.withoutDefault.compile = .ok c ∧ c.failures (some value) = f :: rest ∧
      e = .invalidDefault (path.render "value") ((f.below path).message "default")

theorem Reports.not_sound {site : Site} {e : SchemaError} (hreports : site.Reports e) :
    ¬ site.Sound := by
  cases site with
  | pattern path text =>
      rintro ⟨regex, hregex⟩
      exact Option.some_ne_none regex (hregex.symm.trans hreports.1)
  | default path s value =>
      rintro ⟨c, hc, haccepted⟩
      obtain ⟨d, f, rest, hd, hfailures, -⟩ := hreports
      obtain rfl := Except.ok.inj (hc.symm.trans hd)
      rw [← Checker.failures_eq_nil_iff, hfailures] at haccepted
      contradiction

theorem Reports.unique {site : Site} {e other : SchemaError} (hreports : site.Reports e)
    (hother : site.Reports other) : e = other := by
  cases site with
  | pattern path text => exact hreports.2.trans hother.2.symm
  | default path s value =>
      obtain ⟨c, f, rest, hc, hfailures, rfl⟩ := hreports
      obtain ⟨d, g, others, hd, hgailures, rfl⟩ := hother
      obtain rfl := Except.ok.inj (hc.symm.trans hd)
      obtain ⟨rfl, -⟩ := List.cons.inj (hfailures.symm.trans hgailures)
      rfl

end Site

/-- What a schema itself can be at fault for, its pattern before its default. -/
def ownSites (path : FieldPath) (s : Schema) : List Site :=
  s.pattern?.toList.map (.pattern path) ++ s.presence.default.toList.map (.default path s)

mutual

/-- What can be at fault in a schema at a place, parts before the whole. -/
def sites (path : FieldPath) (s : Schema) : List Site :=
  (match s with
    | .list _ items _ => sites (path ++ [.index 0]) items
    | .record _ properties _ => sitesIn path properties
    | _ => []) ++ s.ownSites path

/-- What can be at fault in the schemas of properties, in order. -/
def sitesIn (path : FieldPath) : List (String × Schema) → List Site
  | [] => []
  | (name, s) :: rest => sites (path ++ [.key name]) s ++ sitesIn path rest

end

theorem ownSites_sound_iff {path : FieldPath} {s : Schema} :
    (∀ site ∈ s.ownSites path, site.Sound) ↔ s.Faultless := by
  simp only [ownSites, List.mem_append, List.mem_map, Option.mem_toList]
  constructor
  · intro hsound
    exact ⟨fun text htext => hsound _ (Or.inl ⟨text, htext, rfl⟩),
      fun value hvalue => hsound _ (Or.inr ⟨value, hvalue, rfl⟩)⟩
  · rintro hfaultless site (⟨text, htext, rfl⟩ | ⟨value, hvalue, rfl⟩)
    · exact hfaultless.pattern_readable text htext
    · exact hfaultless.default_accepted value hvalue

theorem sitesIn_sound_iff {path : FieldPath} {properties : List (String × Schema)}
    (hparts : ∀ property ∈ properties, ∀ path : FieldPath,
      (∀ site ∈ property.2.sites path, site.Sound) ↔ property.2.Everywhere Faultless) :
    (∀ site ∈ sitesIn path properties, site.Sound) ↔
      SchemaOf.EverywhereIn Faultless properties := by
  induction properties with
  | nil => simp [sitesIn, SchemaOf.EverywhereIn]
  | cons property rest ih =>
      rw [sitesIn, List.forall_mem_append, SchemaOf.EverywhereIn,
        hparts property List.mem_cons_self,
        ih fun other hother => hparts other (List.mem_cons_of_mem property hother)]

/-- The sites of a schema are those of all schemas in it. -/
theorem sites_sound_iff {path : FieldPath} {s : Schema} :
    (∀ site ∈ s.sites path, site.Sound) ↔ s.Everywhere Faultless := by
  induction s using SchemaOf.induction generalizing path with
  | list p items count ih =>
      rw [sites, List.forall_mem_append, ownSites_sound_iff, ih, and_comm]
      rfl
  | record p properties strict ih =>
      rw [sites, List.forall_mem_append, ownSites_sound_iff,
        sitesIn_sound_iff fun property hmem _ => ih property hmem, and_comm]
      rfl
  | text p rules => exact @ownSites_sound_iff path (.text p rules)
  | numeric p rules => exact @ownSites_sound_iff path (.numeric p rules)
  | truth p => exact @ownSites_sound_iff path (.truth p)
  | anything p => exact @ownSites_sound_iff path (.anything p)

/-! The first fault. -/

/-- An error is what is said of the first site at fault. -/
inductive FirstFault : List Site → SchemaError → Prop
  | here {site : Site} {rest : List Site} {e : SchemaError} (hreports : site.Reports e) :
      FirstFault (site :: rest) e
  | later {site : Site} {rest : List Site} {e : SchemaError} (hsound : site.Sound)
      (hrest : FirstFault rest e) : FirstFault (site :: rest) e

namespace FirstFault

theorem append {first : List Site} {e : SchemaError} (hfirst : FirstFault first e)
    (second : List Site) : FirstFault (first ++ second) e := by
  induction hfirst with
  | here hreports => exact here hreports
  | later hsound _ ih => exact later hsound ih

theorem append_of_sound {first second : List Site} {e : SchemaError}
    (hsound : ∀ site ∈ first, site.Sound) (hsecond : FirstFault second e) :
    FirstFault (first ++ second) e := by
  induction first with
  | nil => exact hsecond
  | cons site rest ih =>
      rw [List.forall_mem_cons] at hsound
      exact later hsound.1 (ih hsound.2)

theorem not_sound {sites : List Site} {e : SchemaError} (hfault : FirstFault sites e) :
    ¬ ∀ site ∈ sites, site.Sound := by
  induction hfault with
  | here hreports => exact fun hsound => hreports.not_sound (hsound _ List.mem_cons_self)
  | later _ _ ih => exact fun hsound => ih (List.forall_mem_cons.mp hsound).2

theorem unique {sites : List Site} {e other : SchemaError} (hfault : FirstFault sites e)
    (hother : FirstFault sites other) : e = other := by
  induction hfault with
  | here hreports =>
      cases hother with
      | here hagain => exact hreports.unique hagain
      | later hsound _ => exact absurd hsound hreports.not_sound
  | later hsound _ ih =>
      cases hother with
      | here hreports => exact absurd hsound hreports.not_sound
      | later _ hrest => exact ih hrest

end FirstFault

/-- A result is decided by sites: it is a value if all are sound, and else the
error of the first that is not. -/
structure DecidedBy {α : Type} (sites : List Site) (result : Except SchemaError α) :
    Prop where
  sound_of_ok : ∀ a, result = .ok a → ∀ site ∈ sites, site.Sound
  fault_of_error : ∀ e, result = .error e → FirstFault sites e

namespace DecidedBy

variable {α β : Type} {sites : List Site} {result : Except SchemaError α}

theorem ok_iff (hdecided : DecidedBy sites result) :
    (∃ a, result = .ok a) ↔ ∀ site ∈ sites, site.Sound := by
  constructor
  · rintro ⟨a, hresult⟩
    exact hdecided.sound_of_ok a hresult
  · intro hsound
    cases hresult : result with
    | ok a => exact ⟨a, rfl⟩
    | error e => exact absurd hsound (hdecided.fault_of_error e hresult).not_sound

theorem error_iff (hdecided : DecidedBy sites result) {e : SchemaError} :
    result = .error e ↔ FirstFault sites e := by
  refine ⟨hdecided.fault_of_error e, fun hfault => ?_⟩
  cases hresult : result with
  | ok a => exact absurd (hdecided.sound_of_ok a hresult) hfault.not_sound
  | error other => rw [(hdecided.fault_of_error other hresult).unique hfault]

theorem ok (a : α) : DecidedBy [] (.ok a) := by
  refine ⟨fun _ _ => ?_, fun e herror => ?_⟩
  · simp
  · contradiction

theorem map (hdecided : DecidedBy sites result) (f : α → β) :
    DecidedBy sites (result.map f) := by
  cases result with
  | ok a =>
      refine ⟨fun _ _ => hdecided.sound_of_ok a rfl, fun e herror => ?_⟩
      contradiction
  | error first =>
      refine ⟨fun a hok => ?_, fun e herror => ?_⟩
      · contradiction
      · obtain rfl := Except.error.inj herror
        exact hdecided.fault_of_error first rfl

/-- What is done with a value is decided by the sites that come after. -/
theorem bind (hdecided : DecidedBy sites result) {others : List Site}
    {next : α → Except SchemaError β}
    (hnext : ∀ a, result = .ok a → DecidedBy others (next a)) :
    DecidedBy (sites ++ others) (result.bind next) := by
  cases result with
  | ok a =>
      have hothers := hnext a rfl
      have hsound := hdecided.sound_of_ok a rfl
      refine ⟨fun b hok => ?_, fun e herror => ?_⟩
      · exact List.forall_mem_append.mpr ⟨hsound, hothers.sound_of_ok b hok⟩
      · exact (hothers.fault_of_error e herror).append_of_sound hsound
  | error first =>
      refine ⟨fun b hok => ?_, fun e herror => ?_⟩
      · contradiction
      · obtain rfl := Except.error.inj herror
        exact (hdecided.fault_of_error first rfl).append others

end DecidedBy

/-! Each step of making a checker is decided by its own sites. -/

theorem compileRules_decided (path : FieldPath) (rules : StringRules String) :
    DecidedBy (rules.pattern.toList.map (.pattern path)) (compileRules path rules) := by
  unfold compileRules
  split
  · next hnone =>
      rw [hnone]
      exact DecidedBy.ok _
  · next text hsome =>
      rw [hsome]
      apply DecidedBy.map
      unfold compilePattern
      split
      · next regex hregex =>
          refine ⟨fun _ _ => ?_, fun e herror => ?_⟩
          · exact List.forall_mem_singleton.mpr ⟨regex, hregex⟩
          · contradiction
      · next hunread =>
          refine ⟨fun _ hok => ?_, fun e herror => ?_⟩
          · contradiction
          · exact FirstFault.here ⟨hunread, (Except.error.inj herror).symm⟩

theorem compile_withoutDefault {path : FieldPath} {s : Schema} {bare : Checker}
    (hbare : compileBare path s = .ok bare) : s.withoutDefault.compile = .ok bare := by
  have hsame : compileBare path s.withoutDefault = compileBare path s := by
    cases s <;> rfl
  have hnone : s.withoutDefault.presence.default = none := by
    cases s <;> rfl
  have hcompile : compileAt path s.withoutDefault = .ok bare := by
    rw [compileAt_eq, hsame, hbare, Except.bind, compileDefault, hnone]
  exact compileAt_relocate hcompile []

theorem compileDefault_decided {path : FieldPath} {s : Schema} {bare : Checker}
    (hbare : compileBare path s = .ok bare) :
    DecidedBy (s.presence.default.toList.map (.default path s))
      (compileDefault path s.presence bare) := by
  unfold compileDefault
  split
  · next hnone =>
      rw [hnone]
      exact DecidedBy.ok _
  · next value hsome =>
      -- the visit is made at the place of the schema, and reports what a check alone does
      rw [hsome, Checker.visit_eq_alone]
      dsimp only
      have hcompile := compile_withoutDefault hbare
      cases hfailures : bare.failures (some value) with
      | nil =>
          refine ⟨fun _ _ => ?_, fun e herror => ?_⟩
          · exact List.forall_mem_singleton.mpr
              ⟨bare, hcompile, Checker.failures_eq_nil_iff.mp hfailures⟩
          · contradiction
      | cons f rest =>
          refine ⟨fun _ hok => ?_, fun e herror => ?_⟩
          · contradiction
          · exact FirstFault.here
              ⟨bare, f, rest, hcompile, hfailures, (Except.error.inj herror).symm⟩

/-- The checker of properties is decided by what can be at fault in them, if that
of each one is. -/
theorem compileProperties_decided {properties : List (String × Schema)}
    (hparts : ∀ property ∈ properties, ∀ path : FieldPath,
      DecidedBy (property.2.sites path) (compileAt path property.2)) (path : FieldPath) :
    DecidedBy (sitesIn path properties) (compileProperties path properties) := by
  induction properties with
  | nil => exact DecidedBy.ok []
  | cons property rest ih =>
      rw [sitesIn, compileProperties]
      refine (hparts property List.mem_cons_self _).bind fun c _ => ?_
      exact (ih fun other hother => hparts other (List.mem_cons_of_mem property hother)).map _

/-- Parts and pattern are looked at before the default. -/
theorem compileAt_decided_of_bare {path : FieldPath} {s : Schema} {before : List Site}
    (hbare : DecidedBy before (compileBare path s)) :
    DecidedBy (before ++ s.presence.default.toList.map (.default path s))
      (compileAt path s) := by
  rw [compileAt_eq]
  exact hbare.bind fun bare hok => compileDefault_decided hok

/-- Making a checker is decided by what can be at fault in the schema.  The
induction is on the schema, for all places. -/
theorem compileAt_decided (s : Schema) (path : FieldPath) :
    DecidedBy (s.sites path) (compileAt path s) := by
  induction s using SchemaOf.induction generalizing path with
  | text p rules => exact compileAt_decided_of_bare ((compileRules_decided path rules).map _)
  | numeric p rules => exact compileAt_decided_of_bare (DecidedBy.ok _)
  | truth p => exact compileAt_decided_of_bare (DecidedBy.ok _)
  | list p items count ih => exact compileAt_decided_of_bare ((ih _).map _)
  | record p properties strict ih =>
      exact compileAt_decided_of_bare ((compileProperties_decided ih path).map _)
  | anything p => exact compileAt_decided_of_bare (DecidedBy.ok _)

/-- The default of a schema stands for an absent input, as the value that a check
gives for it. -/
theorem checkInput_default {s : Schema} {c : Checker} (hcompile : s.compile = .ok c)
    {value : Json} (hdefault : s.presence.default = some value) :
    ∃ out, c.check value = .ok out ∧ ∀ label, c.checkInput none label = .ok out := by
  obtain ⟨hkept, -⟩ := compileAt_eq_ok hcompile
  have hvisit := hkept.default_some value hdefault
  obtain ⟨out, hout⟩ := Checker.visit_quiet_isSome hvisit
  rw [hout] at hvisit
  refine ⟨out, Checker.check_eq_ok_iff.mpr hvisit, fun label => ?_⟩
  rw [Checker.checkInput, Checker.visit_none, Checker.absent, hout]
  rfl

/-- Which schemas have a checker.  A schema has one if no pattern in it and no
default in it is at fault, and else the first fault is reported: parts come before the
whole, properties in order, and a pattern before a default.  The default of a
schema with a checker stands for an absent input under every label, as a value that
the checker accepts and leaves as it is. -/
theorem compile_first_fault (s : Schema) :
    ((∃ c, s.compile = .ok c) ↔ s.Everywhere Faultless) ∧
    (∀ e, s.compile = .error e ↔ FirstFault (s.sites []) e) ∧
    ∀ c value, s.compile = .ok c → s.presence.default = some value →
      ∃ out, c.check value = .ok out ∧ (∀ label, c.checkInput none label = .ok out) ∧
        (s.DistinctNames → s.DefaultsWellFormed → c.check out = .ok out) := by
  have hdecided := compileAt_decided s []
  refine ⟨hdecided.ok_iff.trans sites_sound_iff, fun _ => hdecided.error_iff, ?_⟩
  intro c value hcompile hdefault
  obtain ⟨out, hcheck, habsent⟩ := checkInput_default hcompile hdefault
  refine ⟨out, hcheck, habsent, fun hnames hdefaults => ?_⟩
  have hvalue := hdefaults.here value hdefault
  exact (check_complete hnames hdefaults hcompile hvalue).2 out hcheck

/-- The default inside a default is in force, and an object that is absent is given
with it.  Of two defaults at fault the inner one is reported. -/
theorem compile_first_fault_nested :
    let tags := default (array string) (.string "new")
    let s := default (object [("tags", tags)]) (.object [])
    let given := Json.object [("tags", .array [.string "new"])]
    let faulty := default (object [("age", default integer (.string "old"))]) (.bool true)
    (∃ c, s.compile = .ok c ∧ (∀ label, c.checkInput none label = .ok given) ∧
      c.check given = .ok given) ∧
    FirstFault (faulty.sites []) (.invalidDefault "age" "age must be an integer") := by
  intro tags s given faulty
  have hnames : s.DistinctNames := by
    simp [s, tags, DistinctNames, object, array, string, default, SchemaOf.withPresence,
      SchemaOf.Everywhere, SchemaOf.EverywhereIn, SchemaOf.names]
  have hdefaults : s.DefaultsWellFormed := by
    simp [s, tags, DefaultsWellFormed, object, array, string, default,
      Presence.required, SchemaOf.withPresence, SchemaOf.Everywhere,
      SchemaOf.EverywhereIn, SchemaOf.presence, Json.WellFormed,
      Json.WellFormedFields, KeyMap.Sorted]
  obtain ⟨-, -, hdefault⟩ := compile_first_fault s
  obtain ⟨out, hcheck, habsent, hagain⟩ := hdefault _ _ rfl rfl
  obtain rfl : given = out := Except.ok.inj hcheck
  refine ⟨⟨_, rfl, habsent, hagain hnames hdefaults⟩, ?_⟩
  exact ((compile_first_fault faulty).2.1 _).mp rfl

end Schema

end Trellis
