import SqlComposer.Build.Call
import SqlComposer.Build.Composing

/-! # Composing criteria and selects

Calls are made one after the other on an unfinished statement.  The criteria or the subquery of a
call are composed before the call itself is judged, except where a clause that is there already
refuses the call.  Nested criteria take their place even after a misuse in them; a subquery or a
clause with one is left out. -/

namespace SqlComposer

/-- Checks that a list has an item. -/
def requireItem {α : Type} (cause : InvalidSql) (items : List α) : Except InvalidSql Unit :=
  if items.isEmpty then .error cause else .ok ()

/-- Checks that something is not there yet. -/
def requireAbsent {α : Type} (cause : InvalidSql) (item : Option α) : Except InvalidSql Unit :=
  if item.isSome then .error cause else .ok ()

/-- Paging cannot have both a limit and a count of first rows. -/
def Paging.check (paging : Paging) : Except InvalidSql Unit :=
  if paging.limit.isSome && paging.fetchFirst.isSome then .error .limitAndFetchFirst else .ok ()

/-- The criteria of a scope with the initial one. -/
def CriteriaGroup.setInitial (g : CriteriaGroup) (criterion : Criterion) :
    Except InvalidSql CriteriaGroup := do
  requireAbsent .secondInitialCriterion g.initial
  return { g with initial := some criterion }

/-- The criteria of a scope with one more connected group. -/
def CriteriaGroup.addLink (g : CriteriaGroup) (connector : Connector) (linked : CriteriaGroup) :
    CriteriaGroup :=
  { g with links := g.links ++ [(connector, linked)] }

/-- A select that is being composed: the blocks that a union has closed, each with that union, and
the block that calls go to. -/
structure SelectDraft where
  closed : List (QueryBlock × UnionKind)
  current : QueryBlock
  orderBy : List SortSpec
  paging : Paging
  lock : Option Lock
  config : Config

/-- Blocks with unions between them, the unions moved to the blocks behind them. -/
def unionsBehind : List (QueryBlock × UnionKind) → QueryBlock →
    QueryBlock × List (UnionKind × QueryBlock)
  | [], last => (last, [])
  | (block, kind) :: rest, last =>
    let (next, behind) := unionsBehind rest last
    (block, (kind, next) :: behind)

namespace SelectDraft

/-- A select of columns before the first call. -/
def ofColumns (distinct : Bool) (columns : List Expr) : SelectDraft :=
  ⟨[], .ofColumns distinct columns, [], {}, none, {}⟩

/-- The source of the current block. -/
def setSource (d : SelectDraft) (source : Source) : Except InvalidSql SelectDraft := do
  requireAbsent .secondFrom d.current.source
  return { d with current := { d.current with source := some source } }

/-- A join of the current block; it needs a criterion. -/
def addJoin (d : SelectDraft) (type : JoinType) (source : Source) (on : CriteriaGroup) :
    Except InvalidSql SelectDraft :=
  if on.isEmpty then .error .emptyJoinCondition
  else .ok { d with current := { d.current with joins := d.current.joins ++ [⟨type, source, on⟩] } }

/-- The where clause of the current block. -/
def setFilter (d : SelectDraft) (filter : CriteriaGroup) : SelectDraft :=
  { d with current := { d.current with filter := some filter } }

/-- The having clause of the current block. -/
def setHaving (d : SelectDraft) (having : CriteriaGroup) : SelectDraft :=
  { d with current := { d.current with having := some having } }

/-- The current block closed and the next one begun. -/
def beginBlock (d : SelectDraft) (kind : UnionKind) (distinct : Bool) (columns : List Expr) :
    SelectDraft :=
  { d with closed := d.closed ++ [(d.current, kind)], current := .ofColumns distinct columns }

/-- The treatment of rows that are locked already, which needs a lock. -/
def setWait (d : SelectDraft) (wait : LockWait) : Except InvalidSql SelectDraft :=
  match d.lock with
  | none => .error (.waitWithoutLock wait)
  | some ⟨_, some _⟩ => .error .secondWait
  | some ⟨mode, none⟩ => .ok { d with lock := some ⟨mode, some wait⟩ }

/-- The finished select: every block needs a column. -/
def finish (d : SelectDraft) : Except InvalidSql Select := do
  if (d.closed.map (·.1) ++ [d.current]).any (·.columns.isEmpty) then
    throw .selectWithoutColumns
  d.paging.check
  let (first, unions) := unionsBehind d.closed d.current
  return ⟨first, unions, d.orderBy, d.paging, d.lock, d.config⟩

end SelectDraft

/-- The one select of a subquery. -/
def SubqueryCall.only : Option Select → Except InvalidSql Select
  | some query => .ok query
  | none => .error .subqueryWithoutSelect

/-- A subquery with a select that was composed for it.  After a misuse nothing is looked at. -/
def SubqueryCall.add (c : Composing (Option Select)) (select : Except InvalidSql Select) :
    Composing (Option Select) :=
  if c.misuse.isSome then c
  else
    c.withPart select fun query c => c.step fun present => do
      requireAbsent .subqueryWithSeveralSelects present
      return some query

mutual

/-- The criteria of a scope after a call. -/
def CriteriaCall.apply : CriteriaCall → Composing CriteriaGroup → Composing CriteriaGroup
  | .test operand test, c => c.step (·.setInitial (.test operand test))
  | .compareQuery operand op query, c =>
    c.withPart ((SubqueryCall.applyAll query (.start none)).finish SubqueryCall.only)
      fun query c => c.step (·.setInitial (.test operand (.compareQuery op query)))
  | .memberOfQuery operand negated query, c =>
    c.withPart ((SubqueryCall.applyAll query (.start none)).finish SubqueryCall.only)
      fun query c => c.step (·.setInitial (.test operand (.memberOfQuery negated query)))
  | .exists negated query, c =>
    c.withPart ((SubqueryCall.applyAll query (.start none)).finish SubqueryCall.only)
      fun query c => c.step (·.setInitial (.exists negated query))
  | .group calls, c =>
    let inner := CriteriaCall.applyAll calls (.start .empty)
    (c.adopt inner).step (·.setInitial (.group inner.draft))
  | .not calls, c =>
    let inner := CriteriaCall.applyAll calls (.start .empty)
    (c.adopt inner).step (·.setInitial (.not inner.draft))
  | .link connector calls, c =>
    let inner := CriteriaCall.applyAll calls (.start .empty)
    (c.adopt inner).update (·.addLink connector inner.draft)
  | .groupAll links, c => c.step (·.setInitial (.group ⟨none, links⟩))
  | .notAll links, c => c.step (·.setInitial (.not ⟨none, links⟩))
  | .linkAll connector links, c => c.update (·.addLink connector ⟨none, links⟩)

/-- The criteria of a scope after calls in their order. -/
def CriteriaCall.applyAll : List CriteriaCall → Composing CriteriaGroup → Composing CriteriaGroup
  | [], c => c
  | call :: rest, c => CriteriaCall.applyAll rest (call.apply c)

/-- The select that a call composes. -/
def SubqueryCall.build : SubqueryCall → Except InvalidSql Select
  | ⟨distinct, columns, calls⟩ =>
    (SelectCall.applyAll calls (.start (.ofColumns distinct columns))).finish SelectDraft.finish

/-- The select of a subquery after calls; there is at most one. -/
def SubqueryCall.applyAll :
    List SubqueryCall → Composing (Option Select) → Composing (Option Select)
  | [], c => c
  | call :: rest, c => SubqueryCall.applyAll rest (SubqueryCall.add c call.build)

/-- A select after a call. -/
def SelectCall.apply : SelectCall → Composing SelectDraft → Composing SelectDraft
  | .source table aliasName, c => c.step (·.setSource (.table table aliasName))
  | .sourceQuery query aliasName, c =>
    c.withPart ((SubqueryCall.applyAll query (.start none)).finish SubqueryCall.only)
      fun query c => c.step (·.setSource (.subquery query aliasName))
  | .join type table aliasName on, c =>
    c.withPart ((CriteriaCall.applyAll on (.start .empty)).finish .ok)
      fun on c => c.step (·.addJoin type (.table table aliasName) on)
  | .joinQuery type query aliasName on, c =>
    c.withPart ((SubqueryCall.applyAll query (.start none)).finish SubqueryCall.only)
      fun query c => c.withPart ((CriteriaCall.applyAll on (.start .empty)).finish .ok)
        fun on c => c.step (·.addJoin type (.subquery query aliasName) on)
  | .filter calls, c =>
    if c.draft.current.filter.isSome then c.fail (.secondWhere .select)
    else
      c.withPart ((CriteriaCall.applyAll calls (.start .empty)).finish .ok)
        fun filter c => c.update (·.setFilter filter)
  | .groupBy columns, c => c.step fun d => do
    requireItem .emptyGroupBy columns
    return { d with current := { d.current with groupBy := d.current.groupBy ++ columns } }
  | .having calls, c =>
    if c.draft.current.having.isSome then c.fail .secondHaving
    else
      c.withPart ((CriteriaCall.applyAll calls (.start .empty)).finish .ok)
        fun having c => c.update (·.setHaving having)
  | .union kind distinct columns, c => c.update (·.beginBlock kind distinct columns)
  | .orderBy specs, c => c.step fun d => do
    requireItem .emptyOrderBy specs
    return { d with orderBy := d.orderBy ++ specs }
  | .limit count, c => c.update fun d => { d with paging.limit := count.or d.paging.limit }
  | .offset count, c => c.update fun d => { d with paging.offset := count.or d.paging.offset }
  | .fetchFirst count, c =>
    c.update fun d => { d with paging.fetchFirst := count.or d.paging.fetchFirst }
  | .lock mode, c => c.step fun d => do
    requireAbsent .secondLock d.lock
    return { d with lock := some ⟨mode, none⟩ }
  | .wait wait, c => c.step (·.setWait wait)
  | .configure calls, c => c.update fun d => { d with config := d.config.applyAll calls }

/-- A select after calls in their order. -/
def SelectCall.applyAll : List SelectCall → Composing SelectDraft → Composing SelectDraft
  | [], c => c
  | call :: rest, c => SelectCall.applyAll rest (call.apply c)

end

/-- The criteria that calls compose. -/
def CriteriaGroup.build (calls : List CriteriaCall) : Except InvalidSql CriteriaGroup :=
  (CriteriaCall.applyAll calls (.start .empty)).finish .ok

/-- A connected group of its own, for the calls that take finished groups. -/
def CriteriaGroup.buildLink (connector : Connector) (calls : List CriteriaCall) :
    Except InvalidSql (Connector × CriteriaGroup) := do
  let group ← CriteriaGroup.build calls
  return (connector, group)

namespace Select

/-- The select of columns that calls compose. -/
def build (distinct : Bool) (columns : List Expr) (calls : List SelectCall) :
    Except InvalidSql Select :=
  SubqueryCall.build ⟨distinct, columns, calls⟩

/-- The select of a subquery. -/
def ofSubquery (calls : List SubqueryCall) : Except InvalidSql Select :=
  (SubqueryCall.applyAll calls (.start none)).finish SubqueryCall.only

/-- The count of the rows of a table. -/
def countFrom (table : String) (calls : List SelectCall) : Except InvalidSql Select :=
  build false [.countAll] (.source table none :: calls)

/-- The count of the values of an expression. -/
def count (e : Expr) (calls : List SelectCall) : Except InvalidSql Select :=
  build false [.count e] calls

/-- The count of the different values of an expression. -/
def countDistinct (e : Expr) (calls : List SelectCall) : Except InvalidSql Select :=
  build false [.countDistinct e] calls

end Select

/-- A subquery as an expression. -/
def Expr.ofSubquery (calls : List SubqueryCall) : Except InvalidSql Expr := do
  let query ← Select.ofSubquery calls
  return .subquery query

end SqlComposer
