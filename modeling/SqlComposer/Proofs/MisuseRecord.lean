import SqlComposer.Proofs.MisuseLog

/-! # Where misuses are kept — the first one, through every nesting

    What is in a misuse log is not all that a composition keeps: it keeps one misuse, and a part
    hands one on.  This is always the first of the log.

    * **`Records`** — what a call does to the place of the first misuse: it takes the first entry of
      the log of the call if it was free, and keeps what it had otherwise.  `Records.append` puts
      calls one after the other, and there is one rule for each thing a call does to a composition.
    * **`cause?`** — a part fails with the first entry of its log, its last check included
      (`Composing.cause?_finish`), which is what makes it a step of the composition around it
      (`Composing.records_withPart`).
    * **`CriteriaCall.records`** … — one step lemma for each kind of call, by a mutual induction
      over the calls nested in it; a run of calls follows by `Records.append`. -/

namespace SqlComposer

/-! ## The place of the first misuse -/

/-- A place of a first misuse goes from `before` to `after` while `log` is raised. -/
def Records (log : List InvalidSql) (before after : Option InvalidSql) : Prop :=
  after = before.or log.head?

/-- Calls one after the other: the log is first that of the one, then that of the other. -/
theorem Records.append {log log' : List InvalidSql} {first second third : Option InvalidSql}
    (h : Records log first second) (h' : Records log' second third) :
    Records (log ++ log') first third := by
  rw [Records, h', h, List.head?_append, Option.or_assoc]

/-- Without a misuse a place keeps what it had. -/
theorem Records.nothing (place : Option InvalidSql) : Records [] place place := by
  rw [Records, List.head?_nil, Option.or_none]

/-- From a free place, the first entry of a log is what is kept. -/
theorem Records.from_free {log : List InvalidSql} {after : Option InvalidSql}
    (h : Records log none after) : after = log.head? := by
  rw [h, Option.none_or]

/-- A run of calls raises what its calls raise along it. -/
theorem Records.along {κ σ : Type} (place : σ → Option InvalidSql) {apply : κ → σ → σ}
    {misuses : κ → σ → List InvalidSql}
    (hstep : ∀ call s, Records (misuses call s) (place s) (place (apply call s)))
    (calls : List κ) (s : σ) :
    Records (misusesAlong apply misuses calls s) (place s)
      (place (calls.foldl (fun s call => apply call s) s)) := by
  induction calls generalizing s with
  | nil => exact .nothing _
  | cons call rest ih => exact (hstep call s).append (ih (apply call s))

theorem cause?_eq_head? {α : Type} (result : Except InvalidSql α) :
    cause? result = (cause? result).toList.head? := by
  cases cause? result <;> rfl

namespace Composing

variable {σ τ α : Type} (c : Composing σ)

theorem records_fail (cause : InvalidSql) : Records [cause] c.misuse (c.fail cause).misuse := rfl

theorem records_update (change : σ → σ) : Records [] c.misuse (c.update change).misuse :=
  .nothing _

/-- A change that may be refused raises the cause of the refusal. -/
theorem records_step (change : σ → Except InvalidSql σ) :
    Records (cause? (change c.draft)).toList c.misuse (c.step change).misuse := by
  unfold step
  cases change c.draft with
  | ok draft => exact .nothing _
  | error cause => exact c.records_fail cause

/-- A refusal that something decides. -/
theorem records_step_if {change : σ → Except InvalidSql σ} {refused : Bool} {cause : InvalidSql}
    (h : cause? (change c.draft) = if refused then some cause else none) :
    Records (misuseIf refused cause) c.misuse (c.step change).misuse := by
  have hlog : misuseIf refused cause = (cause? (change c.draft)).toList := by
    rw [h]
    cases refused <;> rfl
  rw [hlog]
  exact c.records_step change

/-- What an inner composition raised is raised around it. -/
theorem records_adopt {inner : Composing τ} {log : List InvalidSql}
    (h : Records log none inner.misuse) : Records log c.misuse (c.adopt inner).misuse := by
  rw [Records, adopt, h.from_free]

/-- A part that fails with the first entry of its log makes its log part of the log around it.  What
    is raised with the part is behind it: then the log of the part is empty. -/
theorem records_withPart {part : Except InvalidSql α} {log : List InvalidSql}
    {use : α → Composing σ → Composing σ} {raised : α → List InvalidSql}
    (hpart : cause? part = log.head?)
    (huse : ∀ a, Records (raised a) c.misuse (use a c).misuse) :
    Records (log ++ raisedWith part raised) c.misuse (c.withPart part use).misuse := by
  cases part with
  | ok a =>
      have hlog : log = [] := List.head?_eq_none_iff.mp hpart.symm
      rw [hlog, List.nil_append]
      exact huse a
  | error cause =>
      rw [raisedWith, List.append_nil, Records, ← hpart]
      rfl

/-- A part whose use raises nothing. -/
theorem records_withPart_update {part : Except InvalidSql α} {log : List InvalidSql}
    (change : α → σ → σ) (hpart : cause? part = log.head?) :
    Records log c.misuse (c.withPart part fun a c => c.update (change a)).misuse := by
  have h : Records (log ++ raisedWith part fun _ => []) c.misuse
      (c.withPart part fun a c => c.update (change a)).misuse :=
    c.records_withPart hpart fun a => c.records_update (change a)
  have hnothing : raisedWith part (fun _ => []) = [] := by
    cases part <;> rfl
  rwa [hnothing, List.append_nil] at h

/-- A part that is composed for something that may be there already: then there is only the refusal,
    and nothing is raised in the part. -/
theorem records_unless {part : Except InvalidSql α} {log : List InvalidSql} {present : Bool}
    {cause : InvalidSql} (change : α → σ → σ) (hpart : cause? part = log.head?) :
    Records (if present then [cause] else log) c.misuse
      (if present then c.fail cause
        else c.withPart part fun a c => c.update (change a)).misuse := by
  cases present with
  | true => exact c.records_fail cause
  | false => exact c.records_withPart_update change hpart

/-- A finished composition fails with the first entry of its log, its last check included. -/
theorem cause?_finish {log : List InvalidSql} (h : Records log none c.misuse)
    (check : σ → Except InvalidSql α) :
    cause? (c.finish check) = (log ++ c.raisedAtEnd check).head? := by
  rw [List.head?_append, ← h.from_free, finish, raisedAtEnd]
  cases c.misuse with
  | some cause => rfl
  | none => exact cause?_eq_head? (check c.draft)

/-- A finished composition is the first entry of its log, or its last check where there is none. -/
theorem finish_eq {log : List InvalidSql} (h : Records log none c.misuse)
    (check : σ → Except InvalidSql α) :
    c.finish check =
      match log.head? with
      | some cause => .error cause
      | none => check c.draft := by
  obtain ⟨draft, misuse⟩ := c
  obtain rfl : misuse = log.head? := h.from_free
  rfl

/-- What a run of calls from the start composes. -/
theorem finish_applyAll {κ : Type} {apply : κ → Composing σ → Composing σ}
    {misuses : κ → Composing σ → List InvalidSql}
    (hstep : ∀ call c, Records (misuses call c) c.misuse (apply call c).misuse)
    (calls : List κ) (draft : σ) (check : σ → Except InvalidSql α) :
    (applyAll apply calls (.start draft)).finish check =
      match (misusesAlong apply misuses calls (.start draft)).head? with
      | some cause => .error cause
      | none => check (applyAll apply calls (.start draft)).draft :=
  finish_eq _ (Records.along misuse hstep calls (.start draft)) check

/-- Something made of what is finished. -/
theorem map_finish {β : Type} (check : σ → Except InvalidSql α) (f : α → β) :
    (do let a ← c.finish check; return f a) = c.finish fun draft => (check draft).map f := by
  rw [finish, finish]
  cases c.misuse with
  | some cause => rfl
  | none => cases check c.draft <;> rfl

end Composing

/-! ## Checks -/

theorem cause?_requireAbsent_bind {α β : Type} {cause : InvalidSql} {item : Option α} {b : β} :
    cause? (do requireAbsent cause item; return b) =
      if item.isSome then some cause else none := by
  cases item <;> rfl

theorem cause?_requireItem_bind {α β : Type} {cause : InvalidSql} {items : List α} {b : β} :
    cause? (do requireItem cause items; return b) =
      if items.isEmpty then some cause else none := by
  cases items <;> rfl

theorem SelectDraft.cause?_addJoin (d : SelectDraft) (type : JoinType) (source : Source)
    (on : CriteriaGroup) :
    cause? (d.addJoin type source on) = if on.isEmpty then some .emptyJoinCondition else none := by
  rw [addJoin]
  split <;> rfl

theorem SelectDraft.cause?_setWait (d : SelectDraft) (wait : LockWait) :
    (cause? (d.setWait wait)).toList = d.waitMisuses wait := by
  rw [setWait, waitMisuses]
  cases d.lock with
  | none => rfl
  | some lock => rcases lock with ⟨mode, _ | other⟩ <;> rfl

/-! ## Criteria and selects -/

theorem records_setInitial (c : Composing CriteriaGroup) (criterion : Criterion) :
    Records c.secondInitial c.misuse (c.step (·.setInitial criterion)).misuse :=
  c.records_step_if cause?_requireAbsent_bind

/-- Criteria that are composed for a call fail with the first entry of their log. -/
theorem cause?_finish_criteria {calls : List CriteriaCall}
    (h : Records (CriteriaCall.misusesAll calls (.start .empty)) none
      (CriteriaCall.applyAll calls (.start .empty)).misuse) :
    cause? ((CriteriaCall.applyAll calls (.start .empty)).finish .ok) =
      (CriteriaCall.misusesAll calls (.start .empty)).head? := by
  have hend : (CriteriaCall.applyAll calls (.start .empty)).raisedAtEnd Except.ok = [] := by
    rw [Composing.raisedAtEnd]
    split <;> rfl
  rw [Composing.cause?_finish _ h, hend, List.append_nil]

/-- A select that is added to a subquery. -/
theorem SubqueryCall.records_add (c : Composing (Option Select)) {select : Except InvalidSql Select}
    {log : List InvalidSql} (h : cause? select = log.head?) :
    Records (log ++ raisedWith select fun _ =>
        misuseIf (c.misuse.isNone && c.draft.isSome) .subqueryWithSeveralSelects)
      c.misuse (SubqueryCall.add c select).misuse := by
  obtain ⟨draft, misuse⟩ := c
  cases misuse with
  | some cause => rfl
  | none =>
      rw [SubqueryCall.add, if_neg (by exact Bool.false_ne_true)]
      exact (Composing.start draft).records_withPart h fun _ =>
        (Composing.start draft).records_step_if cause?_requireAbsent_bind

-- The induction is on what is nested in the calls; the compositions are those that the calls find.

mutual

/-- A call on the criteria of a scope. -/
theorem CriteriaCall.records (call : CriteriaCall) (c : Composing CriteriaGroup) :
    Records (call.misuses c) c.misuse (call.apply c).misuse := by
  match call with
  | .test operand test => exact records_setInitial c _
  | .compareQuery operand op query =>
      exact c.records_withPart
        (Composing.cause?_finish _ (SubqueryCall.recordsAll query (.start none)) _)
        fun _ => records_setInitial c _
  | .memberOfQuery operand negated query =>
      exact c.records_withPart
        (Composing.cause?_finish _ (SubqueryCall.recordsAll query (.start none)) _)
        fun _ => records_setInitial c _
  | .exists negated query =>
      exact c.records_withPart
        (Composing.cause?_finish _ (SubqueryCall.recordsAll query (.start none)) _)
        fun _ => records_setInitial c _
  | .group calls =>
      -- the inner scope hands its first misuse on before the outer one is judged
      have hinner := CriteriaCall.recordsAll calls (.start .empty)
      exact (c.records_adopt hinner).append (records_setInitial _ _)
  | .not calls =>
      have hinner := CriteriaCall.recordsAll calls (.start .empty)
      exact (c.records_adopt hinner).append (records_setInitial _ _)
  | .link connector calls =>
      have hinner := CriteriaCall.recordsAll calls (.start .empty)
      exact c.records_adopt hinner
  | .groupAll links => exact records_setInitial c _
  | .notAll links => exact records_setInitial c _
  | .linkAll connector links => exact .nothing _

/-- Calls on the criteria of a scope. -/
theorem CriteriaCall.recordsAll (calls : List CriteriaCall) (c : Composing CriteriaGroup) :
    Records (CriteriaCall.misusesAll calls c) c.misuse (CriteriaCall.applyAll calls c).misuse := by
  cases calls with
  | nil => exact .nothing _
  | cons call rest =>
      exact (CriteriaCall.records call c).append (CriteriaCall.recordsAll rest (call.apply c))

/-- The select of a call. -/
theorem SubqueryCall.cause?_build (call : SubqueryCall) :
    cause? call.build = call.misuses.head? := by
  cases call with
  | mk distinct columns calls =>
      have h := SelectCall.recordsAll calls (.start (.ofColumns distinct columns))
      exact Composing.cause?_finish _ h _

/-- Calls on a subquery. -/
theorem SubqueryCall.recordsAll (query : List SubqueryCall) (c : Composing (Option Select)) :
    Records (SubqueryCall.misusesAll query c) c.misuse (SubqueryCall.applyAll query c).misuse := by
  cases query with
  | nil => exact .nothing _
  | cons call rest =>
      exact (SubqueryCall.records_add c call.cause?_build).append
        (SubqueryCall.recordsAll rest (SubqueryCall.add c call.build))

/-- A call on a select. -/
theorem SelectCall.records (call : SelectCall) (c : Composing SelectDraft) :
    Records (call.misuses c) c.misuse (call.apply c).misuse := by
  cases call with
  | source table aliasName => exact c.records_step_if cause?_requireAbsent_bind
  | sourceQuery query aliasName =>
      exact c.records_withPart
        (Composing.cause?_finish _ (SubqueryCall.recordsAll query (.start none)) _)
        fun _ => c.records_step_if cause?_requireAbsent_bind
  | join type table aliasName on =>
      exact c.records_withPart
        (cause?_finish_criteria (CriteriaCall.recordsAll on (.start .empty)))
        fun group => c.records_step_if (c.draft.cause?_addJoin type _ group)
  | joinQuery type query aliasName on =>
      exact c.records_withPart
        (Composing.cause?_finish _ (SubqueryCall.recordsAll query (.start none)) _)
        fun _ => c.records_withPart
          (cause?_finish_criteria (CriteriaCall.recordsAll on (.start .empty)))
          fun group => c.records_step_if (c.draft.cause?_addJoin type _ group)
  | filter calls =>
      exact c.records_unless _
        (cause?_finish_criteria (CriteriaCall.recordsAll calls (.start .empty)))
  | groupBy columns => exact c.records_step_if cause?_requireItem_bind
  | having calls =>
      exact c.records_unless _
        (cause?_finish_criteria (CriteriaCall.recordsAll calls (.start .empty)))
  | union kind distinct columns => exact .nothing _
  | orderBy specs => exact c.records_step_if cause?_requireItem_bind
  | limit count => exact .nothing _
  | offset count => exact .nothing _
  | fetchFirst count => exact .nothing _
  | lock mode => exact c.records_step_if cause?_requireAbsent_bind
  | wait wait =>
      rw [SelectCall.misuses, ← c.draft.cause?_setWait]
      exact c.records_step (·.setWait wait)
  | configure calls => exact .nothing _

/-- Calls on a select. -/
theorem SelectCall.recordsAll (calls : List SelectCall) (c : Composing SelectDraft) :
    Records (SelectCall.misusesAll calls c) c.misuse (SelectCall.applyAll calls c).misuse := by
  cases calls with
  | nil => exact .nothing _
  | cons call rest =>
      exact (SelectCall.records call c).append (SelectCall.recordsAll rest (call.apply c))

end

/-- A subquery that is composed for a call. -/
theorem Select.cause?_ofSubquery (query : List SubqueryCall) :
    cause? (Select.ofSubquery query) =
      (Select.subqueryMisuses query ++ SubqueryCall.misusesAtEnd query).head? :=
  Composing.cause?_finish _ (SubqueryCall.recordsAll query (.start none)) _

/-- Criteria that are composed for a call. -/
theorem CriteriaGroup.cause?_build (calls : List CriteriaCall) :
    cause? (CriteriaGroup.build calls) = (CriteriaGroup.misuses calls).head? :=
  cause?_finish_criteria (CriteriaCall.recordsAll calls (.start .empty))

/-! ## Case expressions -/

/-- A call on a branch with criteria.  The criteria keep the misuse of the result too. -/
theorem WhenCall.records (call : WhenCall) (d : WhenDraft) :
    Records (call.misuses d) d.criteria.misuse (call.apply d).criteria.misuse := by
  cases call with
  | criteria call => exact call.records d.criteria
  | result e =>
      rw [WhenCall.apply, WhenDraft.setResult, WhenCall.misuses]
      cases d.result with
      | none => exact .nothing _
      | some present => exact d.criteria.records_fail .secondThen

/-- The branch of a call. -/
theorem CaseBranch.cause?_build (calls : List WhenCall) :
    cause? (CaseBranch.build calls) = (CaseBranch.misuses calls).head? := by
  have h : Records (misusesAlong WhenCall.apply WhenCall.misuses calls .empty) none
      (WhenCall.applyAll calls .empty).criteria.misuse :=
    Records.along (fun d : WhenDraft => d.criteria.misuse) WhenCall.records calls .empty
  exact Composing.cause?_finish _ h (CaseBranch.ofParts · (WhenCall.applyAll calls .empty).result)

/-- A call on a case expression with criteria. -/
theorem SearchedCaseCall.records (call : SearchedCaseCall) (c : Composing CaseDraft) :
    Records (call.misuses c) c.misuse (call.apply c).misuse := by
  cases call with
  | branch calls => exact c.records_withPart_update _ (CaseBranch.cause?_build calls)
  | otherwise e => exact c.records_step_if cause?_requireAbsent_bind

/-- A call on a case expression with values. -/
theorem SimpleCaseCall.records (call : SimpleCaseCall) (c : Composing CaseDraft) :
    Records (call.misuses c) c.misuse (call.apply c).misuse := by
  cases call with
  | branch values result => exact c.records_step_if cause?_requireItem_bind
  | otherwise e => exact c.records_step_if cause?_requireAbsent_bind

/-! ## Statements -/

/-- A call on a union of selects. -/
theorem MultiSelectCall.records (call : MultiSelectCall) (c : Composing MultiSelectDraft) :
    Records (call.misuses c) c.misuse (call.apply c).misuse := by
  cases call with
  | select call => exact c.records_unless _ call.cause?_build
  | union kind query => exact c.records_unless _ (Select.cause?_ofSubquery query)
  | orderBy specs => exact c.records_step_if cause?_requireItem_bind
  | limit count => exact .nothing _
  | offset count => exact .nothing _
  | fetchFirst count => exact .nothing _
  | configure calls => exact .nothing _

/-- A call on an update. -/
theorem UpdateCall.records (call : UpdateCall) (c : Composing Update) :
    Records (call.misuses c) c.misuse (call.apply c).misuse := by
  cases call with
  | set column value => exact .nothing _
  | setQuery column query => exact c.records_withPart_update _ (Select.cause?_ofSubquery query)
  | filter calls => exact c.records_unless _ (CriteriaGroup.cause?_build calls)
  | orderBy specs => exact c.records_step_if cause?_requireItem_bind
  | limit count => exact .nothing _
  | configure calls => exact .nothing _

/-- A call on a delete. -/
theorem DeleteCall.records (call : DeleteCall) (c : Composing Delete) :
    Records (call.misuses c) c.misuse (call.apply c).misuse := by
  cases call with
  | filter calls => exact c.records_unless _ (CriteriaGroup.cause?_build calls)
  | orderBy specs => exact c.records_step_if cause?_requireItem_bind
  | limit count => exact .nothing _
  | configure calls => exact .nothing _

/-- The columns of a call are looked at one after the other. -/
theorem InsertSelectDraft.records_addColumns (exprs : List Expr)
    (c : Composing InsertSelectDraft) :
    Records (exprs.flatMap fun e => misuseIf (!e.isColumn) .insertSelectColumn) c.misuse
      (exprs.foldl (fun c e => c.step (·.addColumn e)) c).misuse := by
  induction exprs generalizing c with
  | nil => exact .nothing _
  | cons e rest ih =>
      have he : Records (misuseIf (!e.isColumn) .insertSelectColumn) c.misuse
          (c.step (·.addColumn e)).misuse :=
        c.records_step_if (by cases e <;> rfl)
      exact he.append (ih _)

/-- A call on an insert of rows. -/
theorem InsertSelectCall.records (call : InsertSelectCall) (c : Composing InsertSelectDraft) :
    Records (call.misuses c) c.misuse (call.apply c).misuse := by
  cases call with
  | columns exprs => exact InsertSelectDraft.records_addColumns exprs c
  | select exprs calls => exact c.records_unless _ (SubqueryCall.cause?_build ⟨false, exprs, calls⟩)
  | configure calls => exact .nothing _

end SqlComposer
