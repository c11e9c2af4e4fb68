import SqlComposer.Proofs.MisuseRecord

/-! # The first misuse is the one that is reported

    Misuse is never lost on its way out of a composition.  Building fails with the first entry of
    the misuse log, whatever is nested in what, and where the log is empty it fails by the last
    checks of what is built alone.

    * **`Composition`** — all that can be composed at the outside, with what its calls build, what
      they raise and what is checked last.
    * **`Composition.build_eq`** — the step lemmas put along the calls, and the place of the first
      misuse read when building ends.
    * **`Composition.first_misuse_is_reported`** — the result. -/

namespace SqlComposer

/-! ## Everything that can be built -/

/-- Something that is composed at the outside: a statement, an expression or a connected group. -/
inductive Composition where
  | select (distinct : Bool) (columns : List Expr) (calls : List SelectCall)
  | countFrom (table : String) (calls : List SelectCall)
  | count (e : Expr) (calls : List SelectCall)
  | countDistinct (e : Expr) (calls : List SelectCall)
  | multiSelect (calls : List MultiSelectCall)
  | update (table : String) (aliasName : Option String) (calls : List UpdateCall)
  | delete (table : String) (aliasName : Option String) (calls : List DeleteCall)
  | insertSelect (table : String) (calls : List InsertSelectCall)
  | subquery (calls : List SubqueryCall)
  | searchedCase (calls : List SearchedCaseCall)
  | simpleCase (column : Column) (calls : List SimpleCaseCall)
  | link (connector : Connector) (calls : List CriteriaCall)

namespace Composition

/-- What a composition gives. -/
def Product : Composition → Type
  | .select _ _ _ | .countFrom _ _ | .count _ _ | .countDistinct _ _ => Select
  | .multiSelect _ => MultiSelect
  | .update _ _ _ => Update
  | .delete _ _ _ => Delete
  | .insertSelect _ _ => InsertSelect
  | .subquery _ | .searchedCase _ | .simpleCase _ _ => Expr
  | .link _ _ => Connector × CriteriaGroup

/-- What the calls of a composition compose. -/
def build : (p : Composition) → Except InvalidSql p.Product
  | .select distinct columns calls => Select.build distinct columns calls
  | .countFrom table calls => Select.countFrom table calls
  | .count e calls => Select.count e calls
  | .countDistinct e calls => Select.countDistinct e calls
  | .multiSelect calls => MultiSelect.build calls
  | .update table aliasName calls => Update.build table aliasName calls
  | .delete table aliasName calls => Delete.build table aliasName calls
  | .insertSelect table calls => InsertSelect.build table calls
  | .subquery calls => Expr.ofSubquery calls
  | .searchedCase calls => Expr.searchedCase calls
  | .simpleCase column calls => Expr.simpleCase column calls
  | .link connector calls => CriteriaGroup.buildLink connector calls

/-- The misuses of the calls of a composition and of what is nested in them. -/
def misuses : Composition → List InvalidSql
  | .select distinct columns calls => Select.misuses distinct columns calls
  | .countFrom table calls => Select.misuses false [.countAll] (.source table none :: calls)
  | .count e calls => Select.misuses false [.count e] calls
  | .countDistinct e calls => Select.misuses false [.countDistinct e] calls
  | .multiSelect calls =>
    misusesAlong MultiSelectCall.apply MultiSelectCall.misuses calls (.start .empty)
  | .update table aliasName calls =>
    misusesAlong UpdateCall.apply UpdateCall.misuses calls (.start (.ofTable table aliasName))
  | .delete table aliasName calls =>
    misusesAlong DeleteCall.apply DeleteCall.misuses calls (.start (.ofTable table aliasName))
  | .insertSelect _ calls =>
    misusesAlong InsertSelectCall.apply InsertSelectCall.misuses calls (.start .empty)
  | .subquery calls => Select.subqueryMisuses calls
  | .searchedCase calls =>
    misusesAlong SearchedCaseCall.apply SearchedCaseCall.misuses calls (.start .empty)
  | .simpleCase _ calls =>
    misusesAlong SimpleCaseCall.apply SimpleCaseCall.misuses calls (.start .empty)
  | .link _ calls => CriteriaGroup.misuses calls

/-- The last checks of a composition, made on what its calls leave. -/
def lastCheck : (p : Composition) → Except InvalidSql p.Product
  | .select distinct columns calls =>
    (SelectCall.applyAll calls (.start (.ofColumns distinct columns))).draft.finish
  | .countFrom table calls =>
    (SelectCall.applyAll (.source table none :: calls)
      (.start (.ofColumns false [.countAll]))).draft.finish
  | .count e calls =>
    (SelectCall.applyAll calls (.start (.ofColumns false [.count e]))).draft.finish
  | .countDistinct e calls =>
    (SelectCall.applyAll calls (.start (.ofColumns false [.countDistinct e]))).draft.finish
  | .multiSelect calls =>
    (Composing.applyAll MultiSelectCall.apply calls (.start .empty)).draft.finish
  | .update table aliasName calls =>
    (Composing.applyAll UpdateCall.apply calls (.start (.ofTable table aliasName))).draft.finish
  | .delete table aliasName calls =>
    .ok (Composing.applyAll DeleteCall.apply calls (.start (.ofTable table aliasName))).draft
  | .insertSelect table calls =>
    (Composing.applyAll InsertSelectCall.apply calls (.start .empty)).draft.finish table
  | .subquery calls =>
    (SubqueryCall.only (SubqueryCall.applyAll calls (.start none)).draft).map Expr.subquery
  | .searchedCase calls =>
    (Composing.applyAll SearchedCaseCall.apply calls (.start .empty)).draft.finish none
  | .simpleCase column calls =>
    (Composing.applyAll SimpleCaseCall.apply calls (.start .empty)).draft.finish
      (some (.column column))
  | .link connector calls => .ok (connector, (CriteriaCall.applyAll calls (.start .empty)).draft)

/-- What the last checks of a composition are about. -/
def lastCauses : Composition → List InvalidSql
  | .select _ _ _ | .countFrom _ _ | .count _ _ | .countDistinct _ _ =>
    [.selectWithoutColumns, .limitAndFetchFirst]
  | .multiSelect _ => [.multiSelectWithoutSelect, .limitAndFetchFirst]
  | .update _ _ _ => [.updateWithoutSets]
  | .insertSelect _ _ => [.insertWithoutSelect]
  | .subquery _ => [.subqueryWithoutSelect]
  | .searchedCase _ | .simpleCase _ _ => [.caseWithoutBranches]
  | .delete _ _ _ | .link _ _ => []

end Composition

/-! ## Last checks -/

theorem cause_of_requireItem {α : Type} {items : List α} {cause cause' : InvalidSql}
    (h : requireItem cause items = .error cause') : cause' = cause := by
  cases items <;> cases h
  rfl

/-- Only a limit together with a fetch clause is refused. -/
theorem Paging.cause_of_check {paging : Paging} {cause : InvalidSql}
    (h : paging.check = .error cause) : cause = .limitAndFetchFirst := by
  rw [Paging.check] at h
  split at h <;> cases h
  rfl

/-- Where the last part of a check cannot fail, the check fails by its first part. -/
theorem error_of_bind_ok {α β : Type} {first : Except InvalidSql α} {next : α → β}
    {cause : InvalidSql} (h : (do let a ← first; return next a) = .error cause) :
    first = .error cause := by
  cases first <;> cases h
  rfl

/-- The last check of a select looks at its columns and its counts. -/
theorem SelectDraft.cause_of_finish {d : SelectDraft} {cause : InvalidSql}
    (h : d.finish = .error cause) :
    cause = .selectWithoutColumns ∨ cause = .limitAndFetchFirst := by
  rw [SelectDraft.finish] at h
  split at h
  · cases h
    exact .inl rfl
  · exact .inr (Paging.cause_of_check (error_of_bind_ok h))

/-- The last check of a union of selects looks for a select and at its counts. -/
theorem MultiSelectDraft.cause_of_finish {d : MultiSelectDraft} {cause : InvalidSql}
    (h : d.finish = .error cause) :
    cause = .multiSelectWithoutSelect ∨ cause = .limitAndFetchFirst := by
  rw [MultiSelectDraft.finish] at h
  split at h
  · cases h
    exact .inl rfl
  · exact .inr (Paging.cause_of_check (error_of_bind_ok h))

/-- The last check of an insert from a select looks for the select. -/
theorem InsertSelectDraft.cause_of_finish {table : String} {d : InsertSelectDraft}
    {cause : InvalidSql} (h : d.finish table = .error cause) : cause = .insertWithoutSelect := by
  rw [InsertSelectDraft.finish] at h
  split at h <;> cases h
  rfl

/-- A subquery is refused if it has no select. -/
theorem SubqueryCall.cause_of_only {query : Option Select} {cause : InvalidSql}
    (h : (SubqueryCall.only query).map Expr.subquery = .error cause) :
    cause = .subqueryWithoutSelect := by
  cases query <;> cases h
  rfl

namespace Composition

/-- The last checks fail for what they are about. -/
theorem mem_lastCauses (p : Composition) {cause : InvalidSql} (h : p.lastCheck = .error cause) :
    cause ∈ p.lastCauses := by
  cases p with
  | select distinct columns calls => simpa [lastCauses] using SelectDraft.cause_of_finish h
  | countFrom table calls => simpa [lastCauses] using SelectDraft.cause_of_finish h
  | count e calls => simpa [lastCauses] using SelectDraft.cause_of_finish h
  | countDistinct e calls => simpa [lastCauses] using SelectDraft.cause_of_finish h
  | multiSelect calls => simpa [lastCauses] using MultiSelectDraft.cause_of_finish h
  | update table aliasName calls =>
      simpa [lastCauses] using cause_of_requireItem (error_of_bind_ok h)
  | delete table aliasName calls => cases h
  | insertSelect table calls => simpa [lastCauses] using InsertSelectDraft.cause_of_finish h
  | subquery calls => simpa [lastCauses] using SubqueryCall.cause_of_only h
  | searchedCase calls => simpa [lastCauses] using cause_of_requireItem (error_of_bind_ok h)
  | simpleCase column calls => simpa [lastCauses] using cause_of_requireItem (error_of_bind_ok h)
  | link connector calls => cases h

/-! ## The result -/

/-- Building gives the first misuse, or what the last checks give where there is none. -/
theorem build_eq (p : Composition) :
    p.build =
      match p.misuses.head? with
      | some cause => .error cause
      | none => p.lastCheck := by
  cases p with
  | select distinct columns calls => exact Composing.finish_eq _ (SelectCall.recordsAll calls _) _
  | countFrom table calls => exact Composing.finish_eq _ (SelectCall.recordsAll _ _) _
  | count e calls => exact Composing.finish_eq _ (SelectCall.recordsAll calls _) _
  | countDistinct e calls => exact Composing.finish_eq _ (SelectCall.recordsAll calls _) _
  | multiSelect calls => exact Composing.finish_applyAll MultiSelectCall.records calls _ _
  | update table aliasName calls => exact Composing.finish_applyAll UpdateCall.records calls _ _
  | delete table aliasName calls => exact Composing.finish_applyAll DeleteCall.records calls _ _
  | insertSelect table calls => exact Composing.finish_applyAll InsertSelectCall.records calls _ _
  | subquery calls =>
      rw [build, Expr.ofSubquery, Select.ofSubquery, Composing.map_finish]
      exact Composing.finish_eq _ (SubqueryCall.recordsAll calls (.start none)) _
  | searchedCase calls =>
      exact Composing.finish_applyAll SearchedCaseCall.records calls .empty (·.finish none)
  | simpleCase column calls =>
      exact Composing.finish_applyAll SimpleCaseCall.records calls .empty
        (·.finish (some (.column column)))
  | link connector calls =>
      rw [build, CriteriaGroup.buildLink, CriteriaGroup.build, Composing.map_finish]
      exact Composing.finish_eq _ (CriteriaCall.recordsAll calls (.start .empty)) _

/-- Nothing is built out of misuse, at whatever depth it is. -/
theorem exists_build_ok_iff (p : Composition) :
    (∃ product, p.build = .ok product) ↔
      p.misuses = [] ∧ ∃ product, p.lastCheck = .ok product := by
  have hbuild := p.build_eq
  cases hlog : p.misuses with
  | cons cause rest =>
      rw [hlog] at hbuild
      constructor
      · rintro ⟨product, h⟩
        rw [hbuild] at h
        cases h
      · rintro ⟨h, -⟩
        cases h
  | nil =>
      rw [hlog] at hbuild
      rw [hbuild]
      exact ⟨fun h => ⟨rfl, h⟩, fun h => h.2⟩

/-- **The first misuse is the one that is reported.**  Whatever is nested in what, building fails
    with the first of the misuses, as it was raised; where there was none, it fails by the last
    checks of what is built alone. -/
theorem first_misuse_is_reported (p : Composition) :
    match p.misuses with
    | cause :: _ => orInvalidSql p.build = .error (.invalidSql cause)
    | [] => p.build = p.lastCheck ∧ ∀ cause, p.lastCheck = .error cause → cause ∈ p.lastCauses := by
  have hbuild := p.build_eq
  cases hlog : p.misuses with
  | cons cause rest =>
      rw [hlog] at hbuild
      rw [hbuild]
      rfl
  | nil =>
      rw [hlog] at hbuild
      exact ⟨hbuild, fun cause h => p.mem_lastCauses h⟩

/-- A join without a condition, in a subquery of the criteria of an update, and what is misused
    behind it. -/
def emptyJoinInside : Composition :=
  let query : SubqueryCall :=
    ⟨false, [.countAll], [.source "orders" none, .join .inner "lines" none [], .lock .update,
      .lock .share]⟩
  .update "orders" none
    [.set (.ofTable "orders" "status") .null, .filter [.not [.exists false [query]]], .orderBy []]

theorem first_misuse_is_reported_inside :
    emptyJoinInside.misuses = [.emptyJoinCondition, .secondLock, .emptyOrderBy] ∧
    orInvalidSql emptyJoinInside.build = .error (.invalidSql .emptyJoinCondition) :=
  ⟨rfl, first_misuse_is_reported emptyJoinInside⟩

end Composition

end SqlComposer
