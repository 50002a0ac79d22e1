import Trellis.Proofs.Http.Body
import Trellis.Proofs.Schema.Complete
import Trellis.Proofs.Schema.Parts
import Mathlib.Tactic.SplitIfs
/-!
Names of a query that a schema asks a list for.  Whether a name is given once or several times, its values are checked
as the items of one list: a single text counts as a list of one, also where an item is itself a list.
-/

namespace Trellis

/-- The entry of a name with values stands for all of them as items. -/
theorem exists_entryOf {texts : List String} (htexts : texts ≠ []) :
    ∃ entry, entryOf texts = some entry ∧ entry.isNull = false ∧
      Checker.itemsOf? entry = some (texts.map .string) := by
  match texts with
  | [] => contradiction
  | [text] => exact ⟨.string text, rfl, rfl, rfl⟩
  | first :: second :: rest => exact ⟨_, rfl, rfl, rfl⟩

theorem valuesOf_map_mk (name other : String) (texts : List String) :
    valuesOf (texts.map (name, ·)) other = if name = other then texts else [] := by
  by_cases hname : name = other
  · simp [valuesOf, hname, List.filter_map, Function.comp_def]
  · simp [valuesOf, hname, List.filter_map, Function.comp_def]

namespace Checker

theorem visitProperties_append (first second : List (String × Checker))
    (fields values : KeyMap Json) (w : Walk) :
    visitProperties (first ++ second) fields values w =
      let seen := visitProperties first fields values w
      visitProperties second seen.2.1 seen.1 seen.2.2 := by
  induction first generalizing fields values w with
  | nil => rfl
  | cons property rest ih =>
      rw [List.cons_append, visitProperties_cons, visitProperties_cons, ih]

/-- Properties that are all absent, and may be, are visited quietly. -/
theorem visitProperties_absent {properties : List (String × Checker)}
    {fields : KeyMap Json}
    (habsent : ∀ property ∈ properties, fields.get? property.1 = none)
    (hquiet : ∀ property ∈ properties, ∀ w, (visit property.2 none w).2 = w)
    (values : KeyMap Json) (w : Walk) :
    (visitProperties properties fields values w).2.2 = w := by
  induction properties generalizing fields values with
  | nil => rfl
  | cons property rest ih =>
      rw [visitProperties_cons, habsent property List.mem_cons_self,
        hquiet property List.mem_cons_self, Walk.leave_enter]
      apply ih
      · intro other hother
        rw [KeyMap.get?_erase, habsent other (List.mem_cons_of_mem property hother), ite_self]
      · exact fun other hother => hquiet other (List.mem_cons_of_mem property hother)

/-- The fields that are left are those without a declared property. -/
theorem get?_visitProperties_left (properties : List (String × Checker))
    (fields values : KeyMap Json) (w : Walk) (key : String) :
    (visitProperties properties fields values w).2.1.get? key =
      if key ∈ properties.map (·.1) then none else fields.get? key := by
  rw [visitProperties_others, KeyMap.get?_filter fields fun k => k ∉ properties.map (·.1)]
  by_cases hmem : key ∈ properties.map (·.1)
  · simp [hmem]
  · simp [hmem]

section Single

variable {before after : List (String × Checker)} {name : String} {c : Checker}
  {fields : KeyMap Json} {entry : Json}

theorem get?_of_only (honly : ∀ field ∈ fields, field.1 = name) {other : String}
    (hother : other ≠ name) : fields.get? other = none := by
  apply KeyMap.get?_eq_none_of_not_mem
  intro hmem
  obtain ⟨field, hfield, rfl⟩ := List.mem_map.mp hmem
  exact hother (honly field hfield)

/-- Of an object with one field, whose other properties may be absent, only the
field is reported, and its value is given under its name. -/
theorem visitProperties_single (hname : name ∉ (before ++ after).map (·.1))
    (hentry : fields.get? name = some entry) (honly : ∀ field ∈ fields, field.1 = name)
    (hquiet : ∀ property ∈ before ++ after, ∀ w, (visit property.2 none w).2 = w)
    (w : Walk) :
    let seen := visitProperties (before ++ (name, c) :: after) fields [] w
    let visited := visit c (some entry) (w.enter (.key name))
    seen.1.get? name = visited.1 ∧ seen.2.1 = [] ∧
      seen.2.2 = visited.2.leave := by
  intro seen visited
  rw [List.map_append, List.mem_append, not_or] at hname
  have hbefore : (visitProperties before fields [] w).2.2 = w := by
    apply visitProperties_absent
    · intro property hmem
      apply get?_of_only honly
      rintro rfl
      exact hname.1 (List.mem_map_of_mem hmem)
    · exact fun property hmem => hquiet property (List.mem_append_left after hmem)
  have hthere : (visitProperties before fields [] w).2.1.get? name = some entry := by
    rw [get?_visitProperties_left, if_neg hname.1, hentry]
  have hseen : seen = visitProperties after
      ((visitProperties before fields [] w).2.1.erase name)
      ((visitProperties before fields [] w).1.insertSome name visited.1)
      visited.2.leave := by
    change visitProperties (before ++ (name, c) :: after) fields [] w = _
    rw [visitProperties_append]
    dsimp only
    rw [visitProperties_cons, hbefore, hthere]
  refine ⟨?_, ?_, ?_⟩
  · rw [hseen, visitProperties_get?_of_not_mem hname.2, KeyMap.get?_insertSome, if_pos rfl,
      visitProperties_get?_of_not_mem hname.1, KeyMap.get?_nil, Option.or_none]
  · change (visitProperties (before ++ (name, c) :: after) fields [] w).2.1 = []
    rw [visitProperties_others, List.filter_eq_nil_iff]
    intro field hfield
    rw [honly field hfield]
    simp
  · rw [hseen]
    apply visitProperties_absent
    · intro property hmem
      have hother : property.1 ≠ name := by
        rintro rfl
        exact hname.2 (List.mem_map_of_mem hmem)
      rw [KeyMap.get?_erase, if_neg hother, get?_visitProperties_left,
        get?_of_only honly hother, ite_self]
    · exact fun property hmem => hquiet property (List.mem_append_right before hmem)

/-- The failures of an object with one field are those of the field, and without
failures the object that is given holds its value. -/
theorem visit_single {p : Presence} {strict : Bool}
    (hname : name ∉ (before ++ after).map (·.1))
    (hentry : fields.get? name = some entry) (honly : ∀ field ∈ fields, field.1 = name)
    (hquiet : ∀ property ∈ before ++ after, ∀ w, (visit property.2 none w).2 = w) :
    let object := SchemaOf.record p (before ++ (name, c) :: after) strict
    failures object (some (.object fields)) =
        (c.failures (some entry)).map (·.below [.key name]) ∧
      (c.failures (some entry) = [] →
        ∃ values : KeyMap Json, output? object (some (.object fields)) =
            some (.object values) ∧ values.get? name = c.output? (some entry)) := by
  intro object
  obtain ⟨hvalue, hothers, hwalk⟩ := visitProperties_single (c := c) hname hentry honly
    hquiet Walk.start
  have hvisited : visit c (some entry) (Walk.start.enter (.key name)) =
      (c.output? (some entry),
        ⟨[.key name], (c.failures (some entry)).map (·.below [.key name])⟩) :=
    visit_eq_alone c (some entry) _
  rw [hvisited] at hvalue hwalk
  have hvisit : visit object (some (.object fields)) Walk.start =
      let seen := visitProperties (before ++ (name, c) :: after) fields [] Walk.start
      (if (c.failures (some entry)) = [] then some (.object seen.1) else none,
        ⟨[], (c.failures (some entry)).map (·.below [.key name])⟩) := by
    rw [visit_eq_visitKind rfl]
    change visitObject (visitProperties (before ++ (name, c) :: after)) strict
      (.object fields) Walk.start = _
    rw [visitObject_object]
    simp only [hothers, hwalk, rejectFields, ite_self, Walk.leave, Walk.isClean_start,
      List.map_eq_nil_iff, fieldsLeft, List.foldl_nil, List.dropLast_singleton]
  rw [failures, output?, hvisit]
  refine ⟨rfl, fun hnone => ⟨_, if_pos hnone, hvalue⟩⟩

end Single

end Checker

namespace Schema

theorem compileProperties_append {path : FieldPath} {first second : List (String × Schema)}
    {checkers : List (String × Checker)}
    (hcompile : compileProperties path (first ++ second) = .ok checkers) :
    ∃ earlier later, compileProperties path first = .ok earlier ∧
      compileProperties path second = .ok later ∧ checkers = earlier ++ later := by
  induction first generalizing checkers with
  | nil => exact ⟨[], checkers, rfl, hcompile, rfl⟩
  | cons property rest ih =>
      rw [List.cons_append, compileProperties] at hcompile
      obtain ⟨c, hc, hrest⟩ := Except.bind_eq_ok_iff.mp hcompile
      obtain ⟨others, hothers, rfl⟩ := Except.map_eq_ok_iff.mp hrest
      obtain ⟨earlier, later, hearlier, hlater, rfl⟩ := ih hothers
      refine ⟨(property.1, c) :: earlier, later, ?_, hlater, rfl⟩
      rw [compileProperties]
      exact Except.bind_eq_ok_iff.mpr ⟨c, hc, Except.map_eq_ok_iff.mpr ⟨earlier, hearlier, rfl⟩⟩

theorem exists_around_of_compileProperties {path : FieldPath}
    {before after : List (String × Schema)} {name : String} {s : Schema}
    {checkers : List (String × Checker)}
    (hcompile : compileProperties path (before ++ (name, s) :: after) = .ok checkers) :
    ∃ earlier c later, checkers = earlier ++ (name, c) :: later ∧
      compileProperties path before = .ok earlier ∧
      compileAt (path ++ [.key name]) s = .ok c ∧
      compileProperties path after = .ok later := by
  obtain ⟨earlier, rest, hearlier, hrest, rfl⟩ := compileProperties_append hcompile
  rw [compileProperties] at hrest
  obtain ⟨c, hc, hothers⟩ := Except.bind_eq_ok_iff.mp hrest
  obtain ⟨later, hlater, rfl⟩ := Except.map_eq_ok_iff.mp hothers
  exact ⟨earlier, c, later, rfl, hearlier, hc, hlater⟩

/-- A value that may be absent is, quietly. -/
theorem visit_absent_quiet {path : FieldPath} {s : Schema} {c : Checker}
    (hcompile : compileAt path s = .ok c)
    (habsent : s.presence.default.isSome ∨ s.presence.optional) (w : Walk) :
    (Checker.visit c none w).2 = w := by
  obtain ⟨hkept, -⟩ := compileAt_eq_ok hcompile
  rw [Checker.visit_none, Checker.absent]
  cases hdefault : c.presence.default with
  | some value => rfl
  | none =>
      rcases habsent with hsome | hoptional
      · obtain ⟨value, hvalue⟩ := Option.isSome_iff_exists.mp hsome
        obtain ⟨out, hout⟩ := Checker.visit_quiet_isSome (hkept.default_some value hvalue)
        rw [hdefault] at hout
        contradiction
      · dsimp only
        rw [if_pos (hkept.optional_eq.trans hoptional)]

theorem visit_absent_quiet_of_mem {path : FieldPath} {properties : List (String × Schema)}
    {checkers : List (String × Checker)}
    (hcompile : compileProperties path properties = .ok checkers)
    (habsent : ∀ property ∈ properties,
      property.2.presence.default.isSome ∨ property.2.presence.optional)
    {part : String × Checker} (hpart : part ∈ checkers) (w : Walk) :
    (Checker.visit part.2 none w).2 = w := by
  obtain ⟨property, hmem, -, hc⟩ := exists_property_of_mem hcompile hpart
  exact visit_absent_quiet hc (habsent property hmem) w

section Query

variable {p q : Presence} {before after : List (String × Schema)} {strict : Bool}
  {item : Schema} {count : CountRules} {name query : String} {texts : List String}
  {c : Checker}

/-- A query that gives one name values has one field, which stands for all of them
as items. -/
theorem exists_field_of_query (htexts : texts ≠ [])
    (hquery : Form.decode (Utf8.encode query) = texts.map (name, ·)) :
    ∃ entry, (parseQuery query).get? name = some entry ∧ entry.isNull = false ∧
      Checker.itemsOf? entry = some (texts.map .string) ∧
      ∀ field ∈ parseQuery query, field.1 = name := by
  have hgroups : (parseQuery query).Groups (texts.map (name, ·)) := by
    rw [parseQuery_of_decode hquery]
    exact groupPairs_groups _
  obtain ⟨entry, hentry, hnull, hitems⟩ := exists_entryOf htexts
  refine ⟨entry, ?_, hnull, hitems, ?_⟩
  · rw [hgroups.get?, valuesOf_map_mk, if_pos rfl, hentry]
  · intro field hfield
    have hkey := (hgroups.mem_keys_iff field.1).mp (List.mem_map_of_mem hfield)
    simp only [List.map_map, List.mem_map, Function.comp_apply] at hkey
    obtain ⟨-, -, heq⟩ := hkey
    exact heq.symm

/-- A query that gives one name values has the failures of the list of them. -/
theorem failures_of_query (htexts : texts ≠ [])
    (hquery : Form.decode (Utf8.encode query) = texts.map (name, ·))
    (hname : name ∉ (before ++ after).map (·.1))
    (habsent : ∀ property ∈ before ++ after,
      property.2.presence.default.isSome ∨ property.2.presence.optional)
    (hcompile : compile (.record p (before ++ (name, .list q item count) :: after) strict) =
      .ok c) :
    ∃ one : Checker, item.compile = .ok one ∧
      let input := some (Json.object (parseQuery query))
      let failures := Checker.listFailures one count (texts.map .string)
      c.failures input = failures.map (·.below [.key name]) ∧
      (failures = [] → ∃ values : KeyMap Json, c.output? input = some (.object values) ∧
        values.get? name = some (.array ((texts.map .string).filterMap
          fun value => one.output? (some value)))) := by
  obtain ⟨-, bare, hbare, hsame⟩ := compileAt_eq_ok hcompile
  obtain ⟨checkers, hcheckers, rfl⟩ := Except.map_eq_ok_iff.mp hbare
  obtain ⟨earlier, list, later, rfl, hearlier, hlist, hlater⟩ :=
    exists_around_of_compileProperties hcheckers
  obtain ⟨one, hone, hvisit⟩ := exists_item_of_compile hlist
  obtain ⟨entry, hentry, hnull, hitems, honly⟩ := exists_field_of_query htexts hquery
  have hnames : name ∉ (earlier ++ later).map (·.1) := by
    rwa [List.map_append, (compileProperties_eq_ok hearlier).1,
      (compileProperties_eq_ok hlater).1, ← List.map_append]
  have hquiet : ∀ part ∈ earlier ++ later, ∀ w, (Checker.visit part.2 none w).2 = w := by
    intro part hpart w
    rcases List.mem_append.mp hpart with hfirst | hsecond
    · exact visit_absent_quiet_of_mem hearlier
        (fun property hmem => habsent property (List.mem_append_left after hmem)) hfirst w
    · exact visit_absent_quiet_of_mem hlater
        (fun property hmem => habsent property (List.mem_append_right before hmem)) hsecond w
  obtain ⟨hfailures, hvalues⟩ :=
    Checker.visit_single (p := { p with default := none }) (c := list) hnames hentry honly hquiet
  obtain ⟨hsameFailures, hsameOutput⟩ := Checker.failures_of_visit_eq (hsame _)
  have hlisted : Checker.visit (.list { q with default := none } one count) (some entry)
      Walk.start = _ := Checker.visit_list hnull hitems
  rw [← hvisit] at hlisted
  have hlistFailures : list.failures (some entry) =
      Checker.listFailures one count (texts.map .string) := by
    rw [Checker.failures, hlisted]
  refine ⟨one, hone, ?_, ?_⟩
  · rw [hsameFailures, hfailures, hlistFailures]
  · intro hnone
    obtain ⟨values, hout, hvalue⟩ := hvalues (hlistFailures.trans hnone)
    refine ⟨values, hsameOutput.trans hout, ?_⟩
    rw [hvalue, Checker.output?, hlisted, if_pos hnone]

/-- The texts that are accepted as items give the values that their checks give. -/
theorem forall₂_output {one : Checker}
    (haccepted : ∀ text ∈ texts, ∃ out, one.check (.string text) = .ok out) :
    List.Forall₂ (fun text out => one.check (.string text) = .ok out) texts
      ((texts.map .string).filterMap fun value => one.output? (some value)) := by
  induction texts with
  | nil => exact .nil
  | cons text rest ih =>
      obtain ⟨out, hcheck⟩ := haccepted text List.mem_cons_self
      have hout := (Checker.check_eq_ok_iff_failures.mp hcheck).2
      have hrest := ih fun other hother => haccepted other (List.mem_cons_of_mem text hother)
      simp only [List.map_cons, List.filterMap_cons, hout]
      exact .cons hcheck hrest

theorem listFailures_texts_eq_nil_iff {one : Checker} :
    Checker.listFailures one count (texts.map .string) = [] ↔
      count.Met texts.length ∧ ∀ text ∈ texts, ∃ out, one.check (.string text) = .ok out := by
  rw [Checker.listFailures_eq_nil_iff, List.length_map]
  constructor
  · rintro ⟨hcount, hitems⟩
    refine ⟨countViolations_met hcount, fun text hmem => ?_⟩
    exact Checker.failures_eq_nil_iff.mp (hitems _ (List.mem_map_of_mem hmem))
  · rintro ⟨hcount, hitems⟩
    refine ⟨countViolations_eq_nil hcount, fun value hmem => ?_⟩
    obtain ⟨text, htext, rfl⟩ := List.mem_map.mp hmem
    exact Checker.failures_eq_nil_iff.mpr (hitems text htext)

/-- The failures of a list of texts that stands below a name. -/
theorem listFailures_texts_below {one : Checker} :
    (Checker.listFailures one count (texts.map .string)).map (·.below [.key name]) =
      (Checker.countViolations count texts.length).map
          (fun violation => Failure.mk [.key name] violation (.items texts.length)) ++
        texts.zipIdx.flatMap fun entry => (one.failures (some (.string entry.1))).map
          (·.below [.key name, .index entry.2]) := by
  rw [Checker.listFailures, List.length_map, List.map_append, List.map_map, List.map_flatMap,
    List.zipIdx_map, List.flatMap_map]
  simp only [List.map_map]
  rfl

/-- A name that is given once or several times is one list to an array schema.
A query that gives it one or more values is accepted by an object schema with the
array under this name, whose other properties may be absent, if the number of
values lies within the bounds and each is accepted by the schema of the items;
then the name holds what comes of the values, in order.  Otherwise the errors are
those of the count, and of each value those that it has when it is checked alone,
below the name and its place in the list. -/
theorem values_listed (htexts : texts ≠ [])
    (hquery : Form.decode (Utf8.encode query) = texts.map (name, ·))
    (hname : name ∉ (before ++ after).map (·.1))
    (habsent : ∀ property ∈ before ++ after,
      property.2.presence.default.isSome ∨ property.2.presence.optional)
    (hcompile : compile (.record p (before ++ (name, .list q item count) :: after) strict) =
      .ok c) (label : String) :
    ∃ one : Checker, item.compile = .ok one ∧
      let checked := c.checkInput (some (.object (parseQuery query))) label
      ((∃ out, checked = .ok out) ↔ count.Met texts.length ∧
        ∀ text ∈ texts, ∃ out, one.check (.string text) = .ok out) ∧
      (∀ out, checked = .ok out → ∃ values : KeyMap Json, ∃ found, out = .object values ∧
        values.get? name = some (.array found) ∧
        List.Forall₂ (fun text out => one.check (.string text) = .ok out) texts found) ∧
      (∀ errors, checked = .error errors → errors =
        ((Checker.countViolations count texts.length).map
            (fun violation => Failure.mk [.key name] violation (.items texts.length)) ++
          texts.zipIdx.flatMap fun entry => (one.failures (some (.string entry.1))).map
            (·.below [.key name, .index entry.2])).map (Failure.toError label)) ∧
      ∀ text errors, one.check (.string text) = .error errors →
        errors = (one.failures (some (.string text))).map (Failure.toError "value") := by
  obtain ⟨one, hone, hfailures, hvalues⟩ :=
    failures_of_query htexts hquery hname habsent hcompile
  refine ⟨one, hone, ?_⟩
  intro checked
  have hchecked : checked = _ := Checker.checkInput_eq c _ label
  rw [hfailures] at hchecked
  have hmet : (Checker.listFailures one count (texts.map .string)).map
      (·.below [.key name]) = [] ↔ _ :=
    List.map_eq_nil_iff.trans listFailures_texts_eq_nil_iff
  refine ⟨?_, ?_, ?_, ?_⟩
  · rw [hchecked]
    split_ifs with hclean
    · exact iff_of_true ⟨_, rfl⟩ (hmet.mp hclean)
    · exact iff_of_false (fun ⟨out, hout⟩ => by contradiction) (mt hmet.mpr hclean)
  · intro out hout
    rw [hchecked] at hout
    split_ifs at hout with hclean
    obtain ⟨values, hgiven, hvalue⟩ := hvalues (List.map_eq_nil_iff.mp hclean)
    rw [hgiven] at hout
    exact ⟨values, _, (Except.ok.inj hout).symm, hvalue, forall₂_output (hmet.mp hclean).2⟩
  · intro errors herrors
    rw [hchecked] at herrors
    split_ifs at herrors with hclean
    rw [← listFailures_texts_below]
    exact (Except.error.inj herrors).symm
  · intro text errors herrors
    rw [Checker.check, Checker.checkInput_eq] at herrors
    split_ifs at herrors with hclean
    exact (Except.error.inj herrors).symm

/-- A single text stands for a list of one list of one number. -/
theorem values_listed_nested :
    let s := object [("page", integer.optional), ("ids", (array (array integer)).maxItems 2)]
    let query := Form.encodeAsText [("ids", "7")]
    ∃ c : Checker, s.compile = .ok c ∧ ∃ values : KeyMap Json,
      c.checkInput (some (.object (parseQuery query))) "query" = .ok (.object values) ∧
      values.get? "ids" =
        some (.array [.array [.number (.whole ⟨7, by decide, by decide⟩)]]) := by
  intro s query
  have hquery : Form.decode (Utf8.encode query) = [("ids", "7")] := by
    rw [Form.encode_encodeAsText, Form.decode_encode]
  obtain ⟨c, hcompile⟩ : ∃ c : Checker, s.compile = .ok c := ⟨_, rfl⟩
  have habsent : ∀ property ∈ [("page", integer.optional)] ++ [],
      property.2.presence.default.isSome ∨ property.2.presence.optional := by
    rintro property ⟨⟩
    · exact .inr rfl
    · contradiction
  obtain ⟨one, hone, haccepted, hgiven, -⟩ :=
    @values_listed .required .required [("page", integer.optional)] [] false (array integer)
      ⟨none, some 2⟩ "ids" query ["7"] c (List.cons_ne_nil _ _) hquery (by decide) habsent
      hcompile "query"
  obtain rfl : _ = one := Except.ok.inj hone
  have hmet : CountRules.Met ⟨none, some 2⟩ ["7"].length := ⟨by simp, by simp⟩
  obtain ⟨out, hout⟩ := haccepted.mpr ⟨hmet, List.forall_mem_singleton.mpr ⟨_, rfl⟩⟩
  obtain ⟨values, found, rfl, hvalue, hfound⟩ := hgiven out hout
  refine ⟨c, hcompile, values, hout, ?_⟩
  rw [hvalue]
  obtain ⟨seven, rest, hseven, hrest, rfl⟩ := List.forall₂_cons_left_iff.mp hfound
  obtain rfl := List.forall₂_nil_left_iff.mp hrest
  obtain rfl : _ = seven := Except.ok.inj hseven
  rfl

end Query

end Schema

end Trellis
