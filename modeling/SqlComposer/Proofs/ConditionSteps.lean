import Mathlib.Data.List.Basic
import SqlComposer.Proofs.Outcome
import SqlComposer.Proofs.TypedValues

/-! # Conditions filtered and mapped — the steps compose like functions

    A condition keeps its values without their type, so a step reads each of them back and drops
    what cannot be read.  That nothing is dropped by surprise is an invariant of the conditions that
    can be made.

    * **`ConditionKind.mapValues_bind`** — two steps are one step, also where a bound that is absent
      takes the other bound with it.
    * **`ConditionOn.Made`** — a condition as a function makes it, and every condition that
      filtering and mapping make of one; `ConditionOn.Made.readable`: all its values can be read.
    * **`ConditionOn.Equivalent`** — conditions that no criterion can tell apart.
    * **`ConditionOn.steps_compose`** — the laws.  What comes behind a mapping sees what was read
      back of its results, so these laws want results that are recovered.
    * **`ConditionOn.nested_absence_is_lost`** — a result that is not recovered: an absent value
      that is wrapped as one that is there. -/

namespace SqlComposer

/-! ## The values of a condition -/

namespace ConditionKind

/-- The values that a condition has. -/
def values : ConditionKind → List Value
  | .compare _ value => value.toList
  | .null _ => []
  | .between _ low high => low.toList ++ high.toList
  | .member _ _ values => values

/-- What one step makes absent, the next one does not see. -/
theorem mapValues_bind (f g : Value → Option Value) (kind : ConditionKind) :
    (kind.mapValues f).mapValues g = kind.mapValues fun v => (f v).bind g := by
  cases kind with
  | compare op value =>
      cases value with
      | none => rfl
      | some v => rfl
  | null negated => rfl
  | between negated low high =>
      simp only [mapValues, ← Option.bind_assoc]
      -- only where both bounds have come through the first step is there anything for the second
      cases low.bind f with
      | none => rfl
      | some l =>
          cases high.bind f with
          | none => simp
          | some h => rfl
  | member negated whenPresent values => simp only [mapValues, List.filterMap_filterMap]

/-- A step is known by what it does to the values that are there. -/
theorem mapValues_congr {f g : Value → Option Value} {kind : ConditionKind}
    (h : ∀ v ∈ kind.values, f v = g v) : kind.mapValues f = kind.mapValues g := by
  cases kind with
  | compare op value =>
      cases value with
      | none => rfl
      | some v => simp only [mapValues, Option.bind_some, h v (List.mem_cons_self ..)]
  | null negated => rfl
  | between negated low high =>
      have hlow : low.bind f = low.bind g := by
        cases low with
        | none => rfl
        | some v => exact h v (List.mem_append_left _ (List.mem_cons_self ..))
      have hhigh : high.bind f = high.bind g := by
        cases high with
        | none => rfl
        | some v => exact h v (List.mem_append_right _ (List.mem_cons_self ..))
      simp only [mapValues, hlow, hhigh]
  | member negated whenPresent values =>
      have hvalues : values.filterMap f = values.filterMap g := List.filterMap_congr h
      simp only [mapValues, hvalues]

/-- What a step leaves comes from the values that were there. -/
theorem exists_of_mem_mapValues {f : Value → Option Value} {kind : ConditionKind} {w : Value}
    (h : w ∈ (kind.mapValues f).values) : ∃ v ∈ kind.values, f v = some w := by
  cases kind with
  | compare op value =>
      cases value with
      | none => simp [mapValues, values] at h
      | some v => exact ⟨v, List.mem_cons_self .., by simpa [mapValues, values] using h⟩
  | null negated => simp [mapValues, values] at h
  | between negated low high =>
      rcases low with _ | l <;> rcases high with _ | u
      · simp [mapValues, values] at h
      · simp [mapValues, values] at h
      · cases hl : f l <;> simp [mapValues, values, hl] at h
      · cases hl : f l <;> cases hu : f u <;> simp [mapValues, values, hl, hu] at h
        rcases h with rfl | rfl
        · exact ⟨l, by simp [values], hl⟩
        · exact ⟨u, by simp [values], hu⟩
  | member negated whenPresent values => simpa [mapValues, ConditionKind.values] using h

/-- A step that keeps every value, changed or not, keeps what drops out and what does not. -/
theorem dropsOut_mapValues_some (f : Value → Value) (kind : ConditionKind) :
    (kind.mapValues fun v => some (f v)).dropsOut = kind.dropsOut := by
  cases kind with
  | compare op value => cases value <;> rfl
  | null negated => rfl
  | between negated low high => cases low <;> cases high <;> rfl
  | member negated whenPresent values => simp [mapValues, dropsOut]

/-- So does a step that keeps the values that are there. -/
theorem dropsOut_mapValues_of_isSome {f : Value → Option Value} {kind : ConditionKind}
    (h : ∀ v ∈ kind.values, (f v).isSome = true) :
    (kind.mapValues f).dropsOut = kind.dropsOut := by
  have hsome : kind.mapValues f = kind.mapValues fun v => some ((f v).getD v) := by
    refine mapValues_congr fun v hv => ?_
    obtain ⟨w, hw⟩ := Option.isSome_iff_exists.mp (h v hv)
    rw [hw, Option.getD_some]
  rw [hsome, dropsOut_mapValues_some]

/-- What drops out goes on dropping out. -/
theorem dropsOut_mapValues {kind : ConditionKind} (f : Value → Option Value)
    (h : kind.dropsOut = true) : (kind.mapValues f).dropsOut = true := by
  cases kind with
  | compare op value =>
      obtain rfl : value = none := by simpa [dropsOut] using h
      rfl
  | null negated => exact h
  | between negated low high =>
      cases low with
      | none => rfl
      | some l =>
          obtain rfl : high = none := by simpa [dropsOut] using h
          cases hl : f l <;> simp [mapValues, dropsOut, hl]
  | member negated whenPresent values =>
      obtain ⟨rfl, rfl⟩ : whenPresent = true ∧ values = [] := by simpa [dropsOut] using h
      rfl

/-- Where a step keeps all values as they are, a condition that does not drop out stays the same. -/
theorem mapValues_some_eq {kind : ConditionKind} (h : kind.dropsOut = false) :
    kind.mapValues some = kind := by
  cases kind with
  | compare op value => cases value <;> rfl
  | null negated => rfl
  | between negated low high =>
      cases low with
      | none => simp [dropsOut] at h
      | some l =>
          cases high with
          | none => simp [dropsOut] at h
          | some u => rfl
  | member negated whenPresent values => simp [mapValues]

end ConditionKind

/-! ## Conditions that can be made -/

namespace ConditionOn

variable {type : ValueType}

/-- A condition that distinguishes upper and lower case. -/
def ofKind (kind : ConditionKind) : ConditionOn type := { kind }

/-- The conditions that there are: made of values of a type, then filtered and mapped.  A value that
    need not be present may be absent from the start; the case of letters is ignored in texts
    only. -/
inductive Made : {type : ValueType} → ConditionOn type → Prop where
  | compare {type : ValueType} (op : CompareOp) (value : Option type.Carrier) :
      Made (ofKind (.compare op (value.map type.toValue)) : ConditionOn type)
  | null {type : ValueType} (negated : Bool) : Made (ofKind (.null negated) : ConditionOn type)
  | between {type : ValueType} (negated : Bool) (low high : Option type.Carrier) :
      Made (ofKind (.between negated (low.map type.toValue) (high.map type.toValue)) :
        ConditionOn type)
  | member {type : ValueType} (negated whenPresent : Bool) (values : List type.Carrier) :
      Made (ofKind (.member negated whenPresent (values.map type.toValue)) : ConditionOn type)
  | likeIgnoringCase (negated : Bool) (value : Option String) :
      Made (ofKind (.compare (if negated then .notLike else .like) (value.map .text)) :
        ConditionOn .text).ignoringCase
  | memberIgnoringCase (negated whenPresent : Bool) (values : List String) :
      Made (ofKind (.member negated whenPresent (values.map .text)) :
        ConditionOn .text).ignoringCase
  | filter {type : ValueType} {c : ConditionOn type} (made : Made c)
      (accept : type.Carrier → Bool) : Made (c.filter accept)
  | map {type target : ValueType} {c : ConditionOn type} (made : Made c)
      (f : type.Carrier → target.Carrier) : Made (c.map f)

/-- The values of a condition as its steps read them. -/
def read (c : ConditionOn type) : List type.Carrier := c.kind.values.filterMap type.ofValue?

/-- Every value of a condition can be read. -/
def Readable (c : ConditionOn type) : Prop := ∀ v ∈ c.kind.values, v.as? type = some v

/-- A condition is readable if its values are values of its type that were kept. -/
theorem readable_of_toValue {c : ConditionOn type}
    (h : ∀ v ∈ c.kind.values, ∃ x, v = type.toValue x) : c.Readable := by
  intro v hv
  obtain ⟨x, rfl⟩ := h v hv
  exact Value.as?_toValue x

/-- What is there of a value that may be absent was kept. -/
theorem exists_of_mem_toList {value : Option type.Carrier} {v : Value}
    (h : v ∈ (value.map type.toValue).toList) : ∃ x, v = type.toValue x := by
  obtain ⟨x, -, rfl⟩ := Option.map_eq_some_iff.mp (Option.mem_toList.mp h)
  exact ⟨x, rfl⟩

theorem Readable.filter {c : ConditionOn type} (h : c.Readable) (accept : type.Carrier → Bool) :
    (c.filter accept).Readable := by
  intro w hw
  obtain ⟨v, hv, hf⟩ := ConditionKind.exists_of_mem_mapValues hw
  obtain ⟨-, he⟩ := Option.ite_none_right_eq_some.mp hf
  cases he
  exact h w hv

theorem readable_map (c : ConditionOn type) {target : ValueType}
    (f : type.Carrier → target.Carrier) : (c.map f).Readable := by
  refine readable_of_toValue fun w hw => ?_
  obtain ⟨v, -, hf⟩ := ConditionKind.exists_of_mem_mapValues hw
  obtain ⟨x, -, rfl⟩ := Option.map_eq_some_iff.mp hf
  exact ⟨f x, rfl⟩

/-- No chain of steps brings in a value that cannot be read. -/
theorem Made.readable {c : ConditionOn type} (h : c.Made) : c.Readable := by
  induction h with
  | compare op value => exact readable_of_toValue fun v hv => exists_of_mem_toList hv
  | null negated =>
      intro v hv
      cases hv
  | between negated low high =>
      refine readable_of_toValue fun v hv => ?_
      rcases List.mem_append.mp hv with hl | hh
      · exact exists_of_mem_toList hl
      · exact exists_of_mem_toList hh
  | member negated whenPresent values =>
      refine readable_of_toValue fun v hv => ?_
      obtain ⟨x, -, rfl⟩ := List.mem_map.mp hv
      exact ⟨x, rfl⟩
  | likeIgnoringCase negated value => exact readable_of_toValue fun v hv => exists_of_mem_toList hv
  | memberIgnoringCase negated whenPresent values =>
      refine readable_of_toValue fun v hv => ?_
      obtain ⟨s, -, rfl⟩ := List.mem_map.mp hv
      exact ⟨s, rfl⟩
  | filter made accept ih => exact ih.filter accept
  | map made f ih => exact readable_map _ f

/-- What is read of a readable condition is all that it keeps. -/
theorem Readable.read_toValue {c : ConditionOn type} (h : c.Readable) :
    c.read.map type.toValue = c.kind.values := by
  rw [read, List.map_filterMap]
  exact (List.filterMap_congr h).trans List.filterMap_some

/-! ## Steps -/

/-- Filtering twice is filtering by both predicates. -/
theorem filter_filter (c : ConditionOn type) (p q : type.Carrier → Bool) :
    (c.filter p).filter q = c.filter fun x => p x && q x := by
  have hkind : ((c.filter p).filter q).kind = (c.filter fun x => p x && q x).kind := by
    rw [filter, filter, ConditionKind.mapValues_bind]
    refine ConditionKind.mapValues_congr fun v _ => ?_
    cases hv : type.ofValue? v with
    | none => rfl
    | some x => cases hp : p x <;> simp [hv, hp]
  exact congrArg (fun kind => ConditionOn.mk kind c.ignoreCase) hkind

/-- Mapping twice is mapping by the composition, if the first results are recovered. -/
theorem map_map (c : ConditionOn type) {first second : ValueType}
    {f : type.Carrier → first.Carrier} (g : first.Carrier → second.Carrier)
    (recovers : ∀ x ∈ c.read, first.Recovers (f x)) : (c.map f).map g = c.map (g ∘ f) := by
  have hkind : ((c.map f).map g).kind = (c.map (g ∘ f)).kind := by
    rw [map, map, ConditionKind.mapValues_bind]
    refine ConditionKind.mapValues_congr fun v hmem => ?_
    cases hv : type.ofValue? v with
    | none => rfl
    | some x =>
        have hx : first.ofValue? (first.toValue (f x)) = some (f x) :=
          recovers x (List.mem_filterMap.mpr ⟨v, hmem, hv⟩)
        simp [hx]
  exact congrArg (fun kind => ConditionOn.mk kind c.ignoreCase) hkind

/-- Values may be judged before they are mapped, by what they are mapped to, if that is
    recovered. -/
theorem map_filter (c : ConditionOn type) {target : ValueType}
    {f : type.Carrier → target.Carrier} (p : target.Carrier → Bool)
    (recovers : ∀ x ∈ c.read, target.Recovers (f x)) :
    (c.map f).filter p = (c.filter (p ∘ f)).map f := by
  have hkind : ((c.map f).filter p).kind = ((c.filter (p ∘ f)).map f).kind := by
    rw [map, map, filter, filter, ConditionKind.mapValues_bind, ConditionKind.mapValues_bind]
    refine ConditionKind.mapValues_congr fun v hmem => ?_
    cases hv : type.ofValue? v with
    | none => rfl
    | some x =>
        have hx : target.ofValue? (target.toValue (f x)) = some (f x) :=
          recovers x (List.mem_filterMap.mpr ⟨v, hmem, hv⟩)
        cases hp : p (f x) <;> simp [hv, hx, hp]
  exact congrArg (fun kind => ConditionOn.mk kind c.ignoreCase) hkind

/-- Mapping keeps what drops out and what does not. -/
theorem isEmpty_map {c : ConditionOn type} (h : c.Readable) {target : ValueType}
    (f : type.Carrier → target.Carrier) : (c.map f).isEmpty = c.isEmpty := by
  refine ConditionKind.dropsOut_mapValues_of_isSome fun v hv => ?_
  obtain ⟨x, hx, -⟩ := Option.map_eq_some_iff.mp (h v hv)
  rw [hx, Option.map_some, Option.isSome_some]

/-- Mapping a list maps what is read of it, one value after the other. -/
theorem map_kind_of_list {c : ConditionOn type} {negated whenPresent : Bool} {values : List Value}
    (h : c.kind = .member negated whenPresent values) {target : ValueType}
    (f : type.Carrier → target.Carrier) :
    (c.map f).kind = .member negated whenPresent (c.read.map fun x => target.toValue (f x)) := by
  rw [map, read, h, List.map_filterMap]
  rfl

/-! ## Conditions that cannot be told apart -/

/-- What a condition does as a criterion on an operand in a context: it gives a text, nothing or an
    error, and leaves a context with the values that it has bound. -/
def outcome (c : ConditionOn type) (operand : Expr) (context : Context) :
    Except Error (Option String) × Context :=
  (Criterion.test operand c.test).render?.outcome context

/-- Conditions that drop out together and do the same as criteria on every operand in every
    context. -/
def Equivalent (c d : ConditionOn type) : Prop :=
  c.isEmpty = d.isEmpty ∧
    ∀ (operand : Expr) (context : Context), c.outcome operand context = d.outcome operand context

theorem Equivalent.of_eq {c d : ConditionOn type} (h : c = d) : c.Equivalent d := by
  subst h
  exact ⟨rfl, fun _ _ => rfl⟩

/-- A condition that drops out gives nothing and binds nothing. -/
theorem outcome_of_isEmpty {c : ConditionOn type} (h : c.isEmpty = true) (operand : Expr)
    (context : Context) : c.outcome operand context = (.ok none, context) := by
  have hd : c.test.dropsOut = true := h
  rw [outcome, Criterion.render?, if_pos hd]
  rfl

/-- Mapping each value to itself changes nothing that can be told. -/
theorem map_id {c : ConditionOn type} (h : c.Readable) : (c.map id).Equivalent c := by
  have hkind : (c.map id).kind = c.kind.mapValues some := ConditionKind.mapValues_congr h
  cases hd : c.kind.dropsOut with
  | false =>
      refine .of_eq ?_
      show ConditionOn.mk (c.map id).kind c.ignoreCase = c
      rw [hkind, ConditionKind.mapValues_some_eq hd]
  | true =>
      -- of two bounds one may have been absent; then both are now, and nothing is rendered
      have he : (c.map id).isEmpty = true := (isEmpty_map h id).trans hd
      refine ⟨he.trans hd.symm, fun operand context => ?_⟩
      rw [outcome_of_isEmpty he, outcome_of_isEmpty hd]

/-- A list that need not have present values and has none is an error, if the operand is none. -/
theorem outcome_of_empty_list {c : ConditionOn type} {negated : Bool}
    (h : c.kind = .member negated false []) (operand : Expr) (context : Context) :
    (c.outcome operand context).1 =
      (operand.render.outcome context).1.bind fun _ => .error (.invalidSql .emptyInList) := by
  have ht : c.test = .values (.member negated false []) c.ignoreCase := by rw [test, h]
  rw [outcome, ht, Criterion.render?, if_neg (by simp [Test.dropsOut, ConditionKind.dropsOut])]
  rcases ho : operand.render.outcome context with ⟨_ | s, after⟩
  · rw [Rendering.outcome_bind_error ho]
    rfl
  · rw [Rendering.outcome_bind_ok ho, Test.render?, ConditionKind.render?]
    rfl

/-- A list whose values are all rejected is empty, and still wants a value or not as before. -/
theorem filter_kind_of_rejected {c : ConditionOn type} {p : type.Carrier → Bool}
    {negated whenPresent : Bool} {values : List Value}
    (h : c.kind = .member negated whenPresent values) (rejected : ∀ x ∈ c.read, p x = false) :
    (c.filter p).kind = .member negated whenPresent [] := by
  have hnone : values.filterMap
      (fun v => if (type.ofValue? v).any p then some v else none) = [] := by
    rw [List.filterMap_eq_nil_iff]
    intro v hmem
    cases hv : type.ofValue? v with
    | none => rfl
    | some x =>
        have hx : x ∈ c.read := List.mem_filterMap.mpr ⟨v, by rw [h]; exact hmem, hv⟩
        simp [rejected x hx]
  rw [filter, h, ConditionKind.mapValues, hnone]

/-- **Filtering and mapping compose like the functions they are given.**  For every condition that
    can be made: two filters are one by both predicates; two maps are one by the composition, and a
    filter may be moved before a map, if the results of the (first) mapping are recovered.  They are
    always recovered where the type of the results is not an optional one around a nullable one.
    Mapping by the identity changes nothing.  Mapping keeps what is empty and what is not, and each
    value of a list in its place.  Filtering makes nothing of nothing; a list that loses all its
    values drops out if its values were to be taken when present, and else is not empty and cannot
    be rendered.  No step changes whether the case of letters is ignored. -/
theorem steps_compose {c : ConditionOn type} (made : c.Made) :
    (∀ p q : type.Carrier → Bool,
      ((c.filter p).filter q).Equivalent (c.filter fun x => p x && q x)) ∧
    (∀ (first second : ValueType) (f : type.Carrier → first.Carrier)
      (g : first.Carrier → second.Carrier), (∀ x ∈ c.read, first.Recovers (f x)) →
      ((c.map f).map g).Equivalent (c.map (g ∘ f))) ∧
    (∀ (target : ValueType) (f : type.Carrier → target.Carrier) (p : target.Carrier → Bool),
      (∀ x ∈ c.read, target.Recovers (f x)) →
      ((c.map f).filter p).Equivalent ((c.filter (p ∘ f)).map f)) ∧
    (∀ target : ValueType, (∀ y, target.Recovers y) ↔
      ∀ inner, target = .optional inner → inner.isNullable = false) ∧
    (c.map id).Equivalent c ∧
    (∀ (target : ValueType) (f : type.Carrier → target.Carrier),
      (c.map f).isEmpty = c.isEmpty ∧
      ∀ negated whenPresent values, c.kind = .member negated whenPresent values →
        values = c.read.map type.toValue ∧
        (c.map f).kind =
          .member negated whenPresent (c.read.map fun x => target.toValue (f x))) ∧
    (∀ p : type.Carrier → Bool, c.isEmpty = true → (c.filter p).isEmpty = true) ∧
    (∀ (p : type.Carrier → Bool) negated whenPresent values,
      c.kind = .member negated whenPresent values → (∀ x ∈ c.read, p x = false) →
      (c.filter p).isEmpty = whenPresent ∧
      ∀ (operand : Expr) (context : Context),
        (whenPresent = true → (c.filter p).outcome operand context = (.ok none, context)) ∧
        (whenPresent = false → ((c.filter p).outcome operand context).1 =
          (operand.render.outcome context).1.bind fun _ => .error (.invalidSql .emptyInList))) ∧
    (∀ p : type.Carrier → Bool, (c.filter p).ignoreCase = c.ignoreCase) ∧
    ∀ (target : ValueType) (f : type.Carrier → target.Carrier),
      (c.map f).ignoreCase = c.ignoreCase := by
  have readable : c.Readable := made.readable
  refine ⟨?_, ?_, ?_, fun _ => ValueType.recovers_all_iff, map_id readable, ?_, ?_, ?_,
    fun _ => rfl, fun _ _ => rfl⟩
  · intro p q
    exact .of_eq (c.filter_filter p q)
  · intro first second f g recovers
    exact .of_eq (c.map_map g recovers)
  · intro target f p recovers
    exact .of_eq (c.map_filter p recovers)
  · intro target f
    refine ⟨isEmpty_map readable f, fun negated whenPresent values hkind => ⟨?_, ?_⟩⟩
    · rw [readable.read_toValue, hkind]
      rfl
    · exact map_kind_of_list hkind f
  · intro p hempty
    exact ConditionKind.dropsOut_mapValues _ hempty
  · intro p negated whenPresent values hkind rejected
    have hfiltered := filter_kind_of_rejected hkind rejected
    have hempty : (c.filter p).isEmpty = whenPresent := by
      rw [isEmpty, hfiltered, ConditionKind.dropsOut, List.isEmpty_nil, Bool.and_true]
    refine ⟨hempty, fun operand context => ⟨?_, ?_⟩⟩
    · rintro rfl
      exact outcome_of_isEmpty hempty operand context
    · rintro rfl
      exact outcome_of_empty_list hfiltered operand context

/-- One of two codes, which are whole numbers. -/
def oneOfTwo : ConditionOn .int := ofKind (.member false false [.int 1, .int 2])

/-- A code as a text. -/
def codeText : ValueType.int.Carrier → ValueType.text.Carrier := fun code => toString code

/-- The codes as texts can be judged before or after they are written, and a list of them that is
    filtered to nothing is an error and not left out. -/
theorem steps_compose_codes :
    oneOfTwo.Made ∧ (∀ x ∈ oneOfTwo.read, ValueType.text.Recovers (codeText x)) ∧
    ((oneOfTwo.map codeText).filter (· == "2")).Equivalent
      ((oneOfTwo.filter ((· == "2") ∘ codeText)).map codeText) ∧
    (oneOfTwo.filter fun _ => false).isEmpty = false := by
  have made : oneOfTwo.Made := .member false false [1, 2]
  have recovers : ∀ x ∈ oneOfTwo.read, ValueType.text.Recovers (codeText x) := fun _ _ => rfl
  obtain ⟨-, -, hmove, -, -, -, -, hlost, -⟩ := steps_compose made
  refine ⟨made, recovers, hmove _ _ _ recovers, ?_⟩
  exact (hlost (fun _ => false) false false _ rfl (fun _ _ => rfl)).1

/-! ## An absence inside of a value -/

/-- Equal to seven. -/
def equalsSeven : ConditionOn .int := ofKind (.compare .eq (some (.int 7)))

/-- An absent number, wrapped as one that is there. -/
def wrappedAbsence : ValueType.int.Carrier → (ValueType.optional (.optional .int)).Carrier :=
  fun _ => some none

/-- One for what is there, zero for what is not. -/
def presence : (ValueType.optional (.optional .int)).Carrier → ValueType.int.Carrier :=
  fun x => if x.isSome then 1 else 0

/-- The wrapped absence is kept as null and read as an absence of all.  So a second mapping and a
    filter do not get what the first mapping gave. -/
theorem nested_absence_is_lost :
    equalsSeven.Made ∧
    ¬ ((equalsSeven.map wrappedAbsence).map presence).Equivalent
        (equalsSeven.map (presence ∘ wrappedAbsence)) ∧
    ¬ ((equalsSeven.map wrappedAbsence).filter Option.isSome).Equivalent
        ((equalsSeven.filter (Option.isSome ∘ wrappedAbsence)).map wrappedAbsence) := by
  refine ⟨.compare .eq (some 7), fun h => ?_, fun h => ?_⟩
  · -- the two bind different numbers
    have hbound := congrArg (fun outcome => outcome.2.parameters.values)
      (h.2 (.column (.ofTable "Person" "id")) (.initial .postgres))
    have hzero : [Value.int 0] = [Value.int 1] := hbound
    cases hzero
  · -- the one is filtered out, the other one is not
    have hempty : true = false := h.1
    cases hempty

end ConditionOn

/-! ## Conditions with their types -/

namespace Condition

variable {type : ValueType} (c : ConditionOn type)

/-- Filtering by a predicate on kept values is filtering by the predicate on values of the type that
    it stands for. -/
theorem filter_mk {accept : Value → Bool} {p : type.Carrier → Bool}
    (h : ∀ x, accept (type.toValue x) = p x) :
    (Condition.mk type c).filter accept = ⟨type, c.filter p⟩ := by
  obtain rfl : (fun x => accept (type.toValue x)) = p := funext h
  rfl

/-- Mapping by a function on kept values is mapping by the function on values of the types that it
    stands for. -/
theorem map_mk {target : ValueType} {f : Value → Value} {g : type.Carrier → target.Carrier}
    (h : ∀ x, f (type.toValue x) = target.toValue (g x)) :
    (Condition.mk type c).map target f = ⟨target, c.map g⟩ := by
  have hstep : (fun x => f (type.toValue x)) = fun x => target.toValue (g x) := funext h
  simp only [map, hstep]
  rfl

end Condition

end SqlComposer
