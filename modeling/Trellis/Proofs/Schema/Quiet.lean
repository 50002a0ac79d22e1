import Trellis.Proofs.Schema.Visit
/-!
Visits that stay quiet.  A value that meets the rules of its kind is visited quietly and given as it is, and an
array or an object is visited quietly if all its parts are.  A check accepts a value if the visit of it is quiet.
-/

namespace Trellis

namespace Checker

theorem visit_eq_visitKind {value : Json} (hnull : value.isNull = false)
    (c : Checker) (w : Walk) : visit c (some value) w = visitKind c value w := by
  rw [visit_some, hnull]
  rfl

theorem visit_null {c : Checker} (haccepts : c.acceptsNull) (w : Walk) :
    visit c (some .null) w = (some .null, w) := by
  rw [visit_some, haccepts]
  rfl

/-- A value that its kind leaves as it is, is left so if it is null too. -/
theorem visit_of_visitKind {c : Checker} {value : Json} {w : Walk}
    (hkind : visitKind c value w = (some value, w)) :
    visit c (some value) w = (some value, w) := by
  rw [visit_some]
  split
  · next hnull =>
      cases value with
      | null => rfl
      | _ => contradiction
  · exact hkind

theorem conclude_eq {value out : Json} {violations : List Violation}
    {received : Json} {w : Walk}
    (hvisit : conclude value violations received w = (some out, w)) :
    violations = [] ∧ value = out := by
  have hquiet : (conclude value violations received w).2 = w :=
    congrArg Prod.snd hvisit
  obtain ⟨hrules, hvalue⟩ := conclude_quiet hquiet
  exact ⟨hrules, Option.some.inj (hvalue.symm.trans (congrArg Prod.fst hvisit))⟩

theorem visitString_met {rules : StringRules CompiledPattern} {text : String}
    (hrules : textViolations rules text = []) (w : Walk) :
    visitString rules (.string text) w = (some (.string text), w) := by
  simp [visitString, conclude, hrules, Walk.failAll]

theorem visitNumber_met {rules : NumberRules} {n : Number}
    (hkind : rules.integer → ∃ whole, n = .whole whole)
    (hrules : numberViolations rules n.toDouble = []) (w : Walk) :
    visitNumber rules (.number n) w = (some (.number n), w) := by
  unfold visitNumber
  simp only [numberOf?, hrules]
  cases hinteger : rules.integer with
  | false => rfl
  | true =>
      obtain ⟨whole, rfl⟩ := hkind hinteger
      rfl

section Parts

variable {item : Option Json → Walk → Option Json × Walk}

theorem visitItems_eq {given found : List Json}
    (hitems : List.Forall₂
      (fun value out => ∀ w, item (some value) w = (some out, w)) given found)
    (index : Nat) (w : Walk) : visitItems item index given w = (found, w) := by
  induction hitems generalizing index with
  | nil => rfl
  | cons hvalue _ ih =>
      simp only [visitItems, hvalue, Walk.leave_enter, ih, Option.toList_some,
        List.singleton_append]

theorem visitArray_eq {count : CountRules} {value : Json}
    {given found : List Json} (hgiven : itemsOf? value = some given)
    (hcount : countViolations count given.length = [])
    (hitems : List.Forall₂
      (fun value out => ∀ w, item (some value) w = (some out, w)) given found)
    (w : Walk) : visitArray item count value w = (some (.array found), w) := by
  simp only [visitArray, hgiven, hcount, Walk.failAll, List.foldl_nil,
    visitItems_eq hitems, w.isClean_refl, if_true]

end Parts

/-- Properties are visited quietly if each one is.  A property that was taken
out before is another one, since no two have one name. -/
theorem visitProperties_eq {properties : List (String × Checker)}
    (hnames : (properties.map (·.1)).Nodup) {fields : KeyMap Json}
    (hvisit : ∀ property ∈ properties, ∀ w,
      (visit property.2 (fields.get? property.1) w).2 = w)
    (values : KeyMap Json) (w : Walk) :
    (visitProperties properties fields values w).2.2 = w := by
  induction properties generalizing fields values with
  | nil => rfl
  | cons head rest ih =>
      obtain ⟨hfresh, hrest⟩ := List.nodup_cons.mp hnames
      rw [visitProperties_cons, hvisit head List.mem_cons_self, Walk.leave_enter]
      apply ih hrest
      intro property hmem step
      have hname : property.1 ∈ rest.map (·.1) := List.mem_map_of_mem hmem
      have hne : property.1 ≠ head.1 := by
        intro heq
        rw [heq] at hname
        exact hfresh hname
      rw [KeyMap.get?_erase, if_neg hne]
      exact hvisit property (List.mem_cons_of_mem head hmem) step

theorem visitProperties_sorted (properties : List (String × Checker))
    (fields : KeyMap Json) {values : KeyMap Json} (hvalues : values.Sorted)
    (w : Walk) : (visitProperties properties fields values w).1.Sorted := by
  induction properties generalizing fields values w with
  | nil => exact hvalues
  | cons property rest ih =>
      rw [visitProperties_cons]
      exact ih _ (hvalues.insertSome property.1 _) _

theorem fieldsLeft_sorted {strict : Bool} {values : KeyMap Json}
    (hvalues : values.Sorted) (others : KeyMap Json) :
    (fieldsLeft strict values others).Sorted := by
  cases strict with
  | false => exact hvalues.foldl_insert others
  | true => exact hvalues

/-- The fields that a visit of an object gives are in the order of keys. -/
theorem visitObject_sorted {properties : List (String × Checker)}
    {strict : Bool} {given found : KeyMap Json} {w : Walk}
    (hout : (visitObject (visitProperties properties) strict (.object given)
      w).1 = some (.object found)) : found.Sorted := by
  rw [visitObject_object] at hout
  obtain ⟨-, hfields⟩ := Option.ite_none_right_eq_some.mp hout
  obtain rfl := Json.object.inj (Option.some.inj hfields)
  exact fieldsLeft_sorted
    (visitProperties_sorted properties given List.Pairwise.nil w) _

/-- The values that quiet visits of the properties of an object leave. -/
theorem get?_visitProperties {properties : List (String × Checker)}
    (hnames : (properties.map (·.1)).Nodup) {given found : KeyMap Json}
    (hvisit : ∀ property ∈ properties, ∀ w,
      visit property.2 (given.get? property.1) w = (found.get? property.1, w))
    (key : String) (w : Walk) :
    (visitProperties properties given [] w).1.get? key =
      if key ∈ properties.map (·.1) then found.get? key else none := by
  by_cases hkey : key ∈ properties.map (·.1)
  · obtain ⟨property, hmem, rfl⟩ := List.mem_map.mp hkey
    have hquiet : (visitProperties properties given [] w).2.2 = w :=
      visitProperties_eq hnames
        (fun property hmem step => by rw [hvisit property hmem step]) [] w
    obtain ⟨-, hget⟩ := visitProperties_quiet hnames hquiet hmem
    rw [hget, hvisit property hmem, if_pos hkey, KeyMap.get?_nil, Option.or_none]
  · rw [visitProperties_get?_of_not_mem hkey, if_neg hkey, KeyMap.get?_nil]

/-- The fields that an object is left with are the ones that it should have, if
it has them by name. -/
theorem fieldsLeft_eq {names : List String} {strict : Bool}
    {values given found : KeyMap Json} (hvalues : values.Sorted)
    (hgiven : given.Sorted) (hfound : found.Sorted)
    (hget : ∀ key, values.get? key = if key ∈ names then found.get? key else none)
    (hothers : ∀ key, key ∉ names →
      found.get? key = given.get? key ∧ (strict → given.get? key = none)) :
    fieldsLeft strict values (given.filter fun entry => entry.1 ∉ names) = found := by
  apply KeyMap.Sorted.ext (fieldsLeft_sorted hvalues _) hfound
  intro key
  cases strict with
  | false =>
      rw [get?_fieldsLeft hgiven key fun hkey => by rw [hget, if_neg hkey], hget]
      by_cases hkey : key ∈ names
      · rw [if_pos hkey, if_pos hkey]
      · rw [if_neg hkey, (hothers key hkey).1]
  | true =>
      change values.get? key = found.get? key
      rw [hget]
      by_cases hkey : key ∈ names
      · rw [if_pos hkey]
      · rw [if_neg hkey, (hothers key hkey).1, (hothers key hkey).2 rfl]

/-- An object is visited quietly if its declared properties are, and if a
strict schema finds no other field. -/
theorem visitObject_eq {properties : List (String × Checker)}
    (hnames : (properties.map (·.1)).Nodup) {strict : Bool}
    {given found : KeyMap Json} (hgiven : given.Sorted) (hfound : found.Sorted)
    (hvisit : ∀ property ∈ properties, ∀ w,
      visit property.2 (given.get? property.1) w =
        (found.get? property.1, w))
    (hothers : ∀ key, key ∉ properties.map (·.1) →
      found.get? key = given.get? key ∧ (strict → given.get? key = none))
    (w : Walk) :
    visitObject (visitProperties properties) strict (.object given) w =
      (some (.object found), w) := by
  have hquiet : (visitProperties properties given [] w).2.2 = w :=
    visitProperties_eq hnames
      (fun property hmem step => by rw [hvisit property hmem step]) [] w
  have hleft := fieldsLeft_eq
    (visitProperties_sorted properties given List.Pairwise.nil w) hgiven hfound
    (fun key => get?_visitProperties hnames hvisit key w) hothers
  rw [visitObject_object]
  simp only [hquiet, visitProperties_others, hleft]
  cases strict with
  | false => simp only [w.isClean_refl, Bool.false_eq_true, if_true, if_false]
  | true =>
      have hnone : given.filter
          (fun entry => entry.1 ∉ properties.map (·.1)) = [] := by
        rw [List.filter_eq_nil_iff]
        intro entry hentry hkey
        have hget := (hgiven.mem_iff entry).mp hentry
        rw [(hothers entry.1 (of_decide_eq_true hkey)).2 rfl] at hget
        contradiction
      simp only [hnone, rejectFields, w.isClean_refl, if_true]

/-! What is visited and what is given.  A value is given for what was visited exactly if the visit was quiet, so
nothing is left out of an array or an object that has no failures. -/

/-- A visit gives a value exactly if it leaves the walk as it was. -/
def Accounted (w : Walk) (visited : Option Json × Walk) : Prop :=
  visited.1.isSome ↔ visited.2 = w

theorem accounted_given (value : Json) (w : Walk) : Accounted w (some value, w) :=
  iff_of_true rfl rfl

theorem reject_accounted (type : TypeName) (value : Json) (w : Walk) :
    Accounted w (reject type value w) :=
  iff_of_false Bool.false_ne_true (reject_ne type value w)

theorem conclude_accounted (value : Json) (violations : List Violation) (received : Json)
    (w : Walk) : Accounted w (conclude value violations received w) := by
  cases violations with
  | nil => exact accounted_given value w
  | cons violation rest =>
      refine iff_of_false Bool.false_ne_true fun hquiet => ?_
      exact absurd (conclude_quiet hquiet).1 (List.cons_ne_nil violation rest)

/-- Comparing the numbers of failures tells whether the walk is as it was, since none is
ever taken back. -/
theorem clean_accounted {w after : Walk} (hextends : w.Extends after) (value : Json) :
    Accounted w (if w.isClean after then some value else none, after) := by
  by_cases hclean : w.isClean after
  · have hquiet : after = w :=
      hextends.eq_of_length (Nat.le_of_eq (of_decide_eq_true hclean))
    rw [if_pos hclean]
    exact iff_of_true rfl hquiet
  · rw [if_neg hclean]
    refine iff_of_false Bool.false_ne_true fun hquiet => hclean ?_
    change after = w at hquiet
    rw [hquiet]
    exact w.isClean_refl

theorem visitString_accounted (rules : StringRules CompiledPattern) (value : Json)
    (w : Walk) : Accounted w (visitString rules value w) := by
  unfold visitString
  split
  · exact conclude_accounted _ _ _ w
  · exact reject_accounted _ _ w

theorem visitNumber_accounted (rules : NumberRules) (value : Json) (w : Walk) :
    Accounted w (visitNumber rules value w) := by
  unfold visitNumber
  split
  · exact reject_accounted _ _ w
  · split
    · split
      · exact reject_accounted _ _ w
      · exact conclude_accounted _ _ _ w
    · exact conclude_accounted _ _ _ w

theorem visitBoolean_accounted (value : Json) (w : Walk) :
    Accounted w (visitBoolean value w) := by
  unfold visitBoolean
  split
  · exact accounted_given _ w
  · exact accounted_given _ w
  · exact accounted_given _ w
  · exact reject_accounted _ _ w

theorem visitArray_accounted {item : Option Json → Walk → Option Json × Walk}
    (hitem : ∀ input (w : Walk), w.Extends (item input w).2) (count : CountRules)
    (value : Json) (w : Walk) : Accounted w (visitArray item count value w) := by
  have hextends := visitArray_extends hitem count value w
  unfold visitArray at hextends ⊢
  split at hextends
  · exact reject_accounted _ _ w
  · exact clean_accounted hextends _

theorem visitObject_accounted
    {declared : KeyMap Json → KeyMap Json → Walk → KeyMap Json × KeyMap Json × Walk}
    (hdeclared : ∀ fields values (w : Walk), w.Extends (declared fields values w).2.2)
    (strict : Bool) (value : Json) (w : Walk) :
    Accounted w (visitObject declared strict value w) := by
  have hextends := visitObject_extends hdeclared strict value w
  cases value with
  | object given =>
      rw [visitObject_object] at hextends ⊢
      exact clean_accounted hextends _
  | null => exact reject_accounted _ _ w
  | bool b => exact reject_accounted _ _ w
  | number n => exact reject_accounted _ _ w
  | string text => exact reject_accounted _ _ w
  | array items => exact reject_accounted _ _ w

/-- A value is given for an input that is there exactly if nothing is reported of it. -/
theorem visit_accounted (c : Checker) (value : Json) (w : Walk) :
    Accounted w (visit c (some value) w) := by
  rw [visit_some]
  split
  · exact accounted_given _ w
  · cases c with
    | text p rules => exact visitString_accounted rules value w
    | numeric p rules => exact visitNumber_accounted rules value w
    | truth p => exact visitBoolean_accounted value w
    | list p items count => exact visitArray_accounted (visit_extends items) count value w
    | record p properties strict =>
        have hdeclared := visitProperties_extends
          fun property (_ : property ∈ properties) => visit_extends property.2
        exact visitObject_accounted hdeclared strict value w
    | anything p => exact accounted_given value w

/-- A quiet visit of a value gives a value. -/
theorem visit_quiet_isSome {c : Checker} {value : Json} {found : Option Json}
    {w : Walk} (hvisit : visit c (some value) w = (found, w)) :
    ∃ out, found = some out := by
  have hgiven := visit_accounted c value w
  rw [hvisit] at hgiven
  exact Option.isSome_iff_exists.mp (hgiven.mpr rfl)

/-- A check accepts a value if the visit of it from the start is quiet. -/
theorem check_eq_ok_iff {c : Checker} {value out : Json} :
    c.check value = .ok out ↔
      visit c (some value) Walk.start = (some out, Walk.start) := by
  constructor
  · intro hcheck
    unfold check checkInput at hcheck
    dsimp only at hcheck
    split at hcheck
    · next hclean =>
        have hquiet : (visit c (some value) Walk.start).2 = Walk.start :=
          (visit_extends c (some value) Walk.start).eq_of_failures hclean
        obtain ⟨found, hfound⟩ : ∃ found,
            (visit c (some value) Walk.start).1 = some found :=
          visit_quiet_isSome (Prod.ext rfl hquiet)
        rw [hfound] at hcheck
        obtain rfl := Except.ok.inj hcheck
        exact Prod.ext hfound hquiet
    · contradiction
  · intro hvisit
    rw [check, checkInput, hvisit]
    rfl

/-- A string schema accepts the texts that meet its rules, as they are. -/
theorem check_text_iff {p : Presence} {rules : StringRules CompiledPattern} {s : String}
    {out : Json} :
    check (.text p rules) (.string s) = .ok out ↔
      out = .string s ∧ textViolations rules s = [] := by
  rw [check_eq_ok_iff, visit_eq_visitKind rfl]
  change conclude (.string s) (textViolations rules s) (.string s) Walk.start = _ ↔ _
  constructor
  · intro hvisit
    obtain ⟨hnone, rfl⟩ := conclude_eq hvisit
    exact ⟨rfl, hnone⟩
  · rintro ⟨rfl, hnone⟩
    exact visitString_met hnone Walk.start

end Checker

end Trellis
