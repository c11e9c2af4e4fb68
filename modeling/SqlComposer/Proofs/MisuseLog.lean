import SqlComposer.Build.Case
import SqlComposer.Build.Statement

/-! # The misuses of a composition — what is raised, in order

    Every composition has its own place for a first misuse, and a call goes on behind one.  The log
    of a composition is told apart from these places: it lists each misuse where it arises.

    * **Own misuses** — what a call is refused for, read off the draft that it finds: a clause that
      is there already, a list without items, a wait without a lock.
    * **Parts** — what is raised while the criteria, the subquery or the branch of a call are
      composed comes first, then what the last check of the part finds.  The last check is made on a
      part without misuse only, and the call itself is judged on a part that could be finished only.
    * **Handing on** — a cause that climbs from a part to what holds it is not raised again.

    The last checks of what is composed at the outside are not in its log. -/

namespace SqlComposer

/-- The cause, if something holds. -/
def misuseIf (holds : Bool) (cause : InvalidSql) : List InvalidSql :=
  if holds then [cause] else []

/-- The cause of a result that failed. -/
def cause? {α : Type} : Except InvalidSql α → Option InvalidSql
  | .ok _ => none
  | .error cause => some cause

/-- What is raised with a part, if there is one. -/
def raisedWith {α : Type} (part : Except InvalidSql α) (raised : α → List InvalidSql) :
    List InvalidSql :=
  match part with
  | .ok a => raised a
  | .error _ => []

/-- What the last check of a composition raises. -/
def Composing.raisedAtEnd {σ α : Type} (c : Composing σ) (check : σ → Except InvalidSql α) :
    List InvalidSql :=
  if c.misuse.isSome then [] else (cause? (check c.draft)).toList

/-- What calls raise one after the other. -/
def misusesAlong {κ σ : Type} (apply : κ → σ → σ) (misuses : κ → σ → List InvalidSql) :
    List κ → σ → List InvalidSql
  | [], _ => []
  | call :: rest, s => misuses call s ++ misusesAlong apply misuses rest (apply call s)

/-! ## Criteria and selects -/

/-- A join whose criteria are empty. -/
def CriteriaCall.emptyJoin (on : List CriteriaCall) : List InvalidSql :=
  raisedWith (CriteriaGroup.build on) fun group => misuseIf group.isEmpty .emptyJoinCondition

/-- What the end of a subquery raises. -/
def SubqueryCall.misusesAtEnd (query : List SubqueryCall) : List InvalidSql :=
  (SubqueryCall.applyAll query (.start none)).raisedAtEnd SubqueryCall.only

/-- A second initial criterion. -/
def Composing.secondInitial (c : Composing CriteriaGroup) : List InvalidSql :=
  misuseIf c.draft.initial.isSome .secondInitialCriterion

/-- A wait without a lock, or a second one. -/
def SelectDraft.waitMisuses (d : SelectDraft) (wait : LockWait) : List InvalidSql :=
  match d.lock with
  | none => [.waitWithoutLock wait]
  | some lock => misuseIf lock.wait.isSome .secondWait

mutual

/-- What a call on the criteria of a scope raises. -/
def CriteriaCall.misuses : CriteriaCall → Composing CriteriaGroup → List InvalidSql
  | .test _ _, c => c.secondInitial
  | .compareQuery _ _ query, c =>
    SubqueryCall.misusesAll query (.start none) ++ SubqueryCall.misusesAtEnd query ++
      raisedWith (Select.ofSubquery query) fun _ => c.secondInitial
  | .memberOfQuery _ _ query, c =>
    SubqueryCall.misusesAll query (.start none) ++ SubqueryCall.misusesAtEnd query ++
      raisedWith (Select.ofSubquery query) fun _ => c.secondInitial
  | .exists _ query, c =>
    SubqueryCall.misusesAll query (.start none) ++ SubqueryCall.misusesAtEnd query ++
      raisedWith (Select.ofSubquery query) fun _ => c.secondInitial
  | .group calls, c => CriteriaCall.misusesAll calls (.start .empty) ++ c.secondInitial
  | .not calls, c => CriteriaCall.misusesAll calls (.start .empty) ++ c.secondInitial
  | .link _ calls, _ => CriteriaCall.misusesAll calls (.start .empty)
  | .groupAll _, c => c.secondInitial
  | .notAll _, c => c.secondInitial
  | .linkAll _ _, _ => []

/-- What calls on the criteria of a scope raise one after the other. -/
def CriteriaCall.misusesAll : List CriteriaCall → Composing CriteriaGroup → List InvalidSql
  | [], _ => []
  | call :: rest, c => call.misuses c ++ CriteriaCall.misusesAll rest (call.apply c)

/-- What composing the select of a call raises, its last checks included. -/
def SubqueryCall.misuses : SubqueryCall → List InvalidSql
  | ⟨distinct, columns, calls⟩ =>
    SelectCall.misusesAll calls (.start (.ofColumns distinct columns)) ++
      (SelectCall.applyAll calls (.start (.ofColumns distinct columns))).raisedAtEnd
        SelectDraft.finish

/-- What calls on a subquery raise one after the other.  A second select is a misuse unless there
    was one before. -/
def SubqueryCall.misusesAll : List SubqueryCall → Composing (Option Select) → List InvalidSql
  | [], _ => []
  | call :: rest, c =>
    call.misuses ++
      (raisedWith call.build fun _ =>
        misuseIf (c.misuse.isNone && c.draft.isSome) .subqueryWithSeveralSelects) ++
      SubqueryCall.misusesAll rest (SubqueryCall.add c call.build)

/-- What a call on a select raises. -/
def SelectCall.misuses : SelectCall → Composing SelectDraft → List InvalidSql
  | .source _ _, c => misuseIf c.draft.current.source.isSome .secondFrom
  | .sourceQuery query _, c =>
    SubqueryCall.misusesAll query (.start none) ++ SubqueryCall.misusesAtEnd query ++
      raisedWith (Select.ofSubquery query) fun _ =>
        misuseIf c.draft.current.source.isSome .secondFrom
  | .join _ _ _ on, _ =>
    CriteriaCall.misusesAll on (.start .empty) ++ CriteriaCall.emptyJoin on
  | .joinQuery _ query _ on, _ =>
    SubqueryCall.misusesAll query (.start none) ++ SubqueryCall.misusesAtEnd query ++
      raisedWith (Select.ofSubquery query) fun _ =>
        CriteriaCall.misusesAll on (.start .empty) ++ CriteriaCall.emptyJoin on
  | .filter calls, c =>
    if c.draft.current.filter.isSome then [.secondWhere .select]
    else CriteriaCall.misusesAll calls (.start .empty)
  | .groupBy columns, _ => misuseIf columns.isEmpty .emptyGroupBy
  | .having calls, c =>
    if c.draft.current.having.isSome then [.secondHaving]
    else CriteriaCall.misusesAll calls (.start .empty)
  | .union _ _ _, _ => []
  | .orderBy specs, _ => misuseIf specs.isEmpty .emptyOrderBy
  | .limit _, _ => []
  | .offset _, _ => []
  | .fetchFirst _, _ => []
  | .lock _, c => misuseIf c.draft.lock.isSome .secondLock
  | .wait wait, c => c.draft.waitMisuses wait
  | .configure _, _ => []

/-- What calls on a select raise one after the other. -/
def SelectCall.misusesAll : List SelectCall → Composing SelectDraft → List InvalidSql
  | [], _ => []
  | call :: rest, c => call.misuses c ++ SelectCall.misusesAll rest (call.apply c)

end

/-- What composing criteria raises. -/
def CriteriaGroup.misuses (calls : List CriteriaCall) : List InvalidSql :=
  CriteriaCall.misusesAll calls (.start .empty)

/-- What composing a select raises, its last checks not included. -/
def Select.misuses (distinct : Bool) (columns : List Expr) (calls : List SelectCall) :
    List InvalidSql :=
  SelectCall.misusesAll calls (.start (.ofColumns distinct columns))

/-- What composing a subquery raises, its last check not included. -/
def Select.subqueryMisuses (query : List SubqueryCall) : List InvalidSql :=
  SubqueryCall.misusesAll query (.start none)

/-! ## Case expressions -/

/-- What a call on a branch with criteria raises. -/
def WhenCall.misuses : WhenCall → WhenDraft → List InvalidSql
  | .criteria call, d => call.misuses d.criteria
  | .result _, d => misuseIf d.result.isSome .secondThen

/-- What composing a branch with criteria raises, its last checks included. -/
def CaseBranch.misuses (calls : List WhenCall) : List InvalidSql :=
  let d := WhenCall.applyAll calls .empty
  misusesAlong WhenCall.apply WhenCall.misuses calls .empty ++
    d.criteria.raisedAtEnd (CaseBranch.ofParts · d.result)

/-- What a call on a case expression with criteria raises. -/
def SearchedCaseCall.misuses : SearchedCaseCall → Composing CaseDraft → List InvalidSql
  | .branch calls, _ => CaseBranch.misuses calls
  | .otherwise _, c => misuseIf c.draft.otherwise.isSome .secondElse

/-- What a call on a case expression with values raises. -/
def SimpleCaseCall.misuses : SimpleCaseCall → Composing CaseDraft → List InvalidSql
  | .branch values _, _ => misuseIf values.isEmpty .branchWithoutValues
  | .otherwise _, c => misuseIf c.draft.otherwise.isSome .secondElse

/-! ## Statements -/

/-- What a call on a union of selects raises. -/
def MultiSelectCall.misuses : MultiSelectCall → Composing MultiSelectDraft → List InvalidSql
  | .select call, c =>
    if c.draft.first.isSome then [.multiSelectStartedTwice] else call.misuses
  | .union kind query, c =>
    if c.draft.first.isNone then [.unionWithoutSelect kind]
    else Select.subqueryMisuses query ++ SubqueryCall.misusesAtEnd query
  | .orderBy specs, _ => misuseIf specs.isEmpty .emptyOrderBy
  | .limit _, _ => []
  | .offset _, _ => []
  | .fetchFirst _, _ => []
  | .configure _, _ => []

/-- What a call on an update raises. -/
def UpdateCall.misuses : UpdateCall → Composing Update → List InvalidSql
  | .set _ _, _ => []
  | .setQuery _ query, _ => Select.subqueryMisuses query ++ SubqueryCall.misusesAtEnd query
  | .filter calls, c =>
    if c.draft.filter.isSome then [.secondWhere .update] else CriteriaGroup.misuses calls
  | .orderBy specs, _ => misuseIf specs.isEmpty .emptyOrderBy
  | .limit _, _ => []
  | .configure _, _ => []

/-- What a call on a delete raises. -/
def DeleteCall.misuses : DeleteCall → Composing Delete → List InvalidSql
  | .filter calls, c =>
    if c.draft.filter.isSome then [.secondWhere .delete] else CriteriaGroup.misuses calls
  | .orderBy specs, _ => misuseIf specs.isEmpty .emptyOrderBy
  | .limit _, _ => []
  | .configure _, _ => []

/-- What a call on an insert of rows raises: a misuse for each expression that is no column. -/
def InsertSelectCall.misuses :
    InsertSelectCall → Composing InsertSelectDraft → List InvalidSql
  | .columns exprs, _ => exprs.flatMap fun e => misuseIf (!e.isColumn) .insertSelectColumn
  | .select exprs calls, c =>
    if c.draft.select.isSome then [.secondInsertSelect]
    else SubqueryCall.misuses ⟨false, exprs, calls⟩
  | .configure _, _ => []

end SqlComposer
