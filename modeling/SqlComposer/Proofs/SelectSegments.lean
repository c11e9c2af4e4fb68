import SqlComposer.Proofs.MisuseRecord

/-! # What the calls of a select say

    The calls of a select are cut into segments at the unions.  A query block is made of one
    segment; order, paging, lock and configuration are made of all calls.  This file says so without
    a run: it gives what each call contributes, which lists of calls are well-formed, and the select
    that a list stands for.

    * **`Select.segments`** — the calls between the unions, with the columns that they go to.
    * **`Segment.block`** — the query block of a segment: its source, its joins, its clauses.
    * **`Select.WellFormed`** — what a list of calls must be like to be accepted.
    * **`Select.ofCalls`** — the select that the calls stand for. -/

namespace SqlComposer

/-! ## Contributions of calls -/

namespace SelectCall

/-- The union with which a call begins a block, and the columns of this block. -/
def union? : SelectCall → Option (UnionKind × Bool × List Expr)
  | .union kind distinct columns => some (kind, distinct, columns)
  | _ => none

/-- The source that a call gives a block. -/
def source? : SelectCall → Option Source
  | .source table aliasName => some (.table table aliasName)
  | .sourceQuery query aliasName =>
    (Select.ofSubquery query).toOption.map fun query => .subquery query aliasName
  | _ => none

/-- The join that a call gives a block. -/
def join? : SelectCall → Option Join
  | .join type table aliasName on =>
    (CriteriaGroup.build on).toOption.map fun on => ⟨type, .table table aliasName, on⟩
  | .joinQuery type query aliasName on =>
    (Select.ofSubquery query).toOption.bind fun query =>
      (CriteriaGroup.build on).toOption.map fun on => ⟨type, .subquery query aliasName, on⟩
  | _ => none

/-- The criteria that a call gives a block as its where clause. -/
def filter? : SelectCall → Option CriteriaGroup
  | .filter calls => (CriteriaGroup.build calls).toOption
  | _ => none

/-- The criteria that a call gives a block as its having clause. -/
def having? : SelectCall → Option CriteriaGroup
  | .having calls => (CriteriaGroup.build calls).toOption
  | _ => none

/-- The columns by which a call groups the rows of a block. -/
def groupColumns : SelectCall → List Expr
  | .groupBy columns => columns
  | _ => []

/-- What a call adds to the order. -/
def sortSpecs : SelectCall → List SortSpec
  | .orderBy specs => specs
  | _ => []

/-- The limit that a call gives. -/
def limit? : SelectCall → Option Int64
  | .limit count => count
  | _ => none

/-- The offset that a call gives. -/
def offset? : SelectCall → Option Int64
  | .offset count => count
  | _ => none

/-- The count of first rows that a call gives. -/
def fetchFirst? : SelectCall → Option Int64
  | .fetchFirst count => count
  | _ => none

/-- The lock that a call asks for. -/
def lockMode? : SelectCall → Option LockMode
  | .lock mode => some mode
  | _ => none

/-- The treatment of locked rows that a call asks for. -/
def wait? : SelectCall → Option LockWait
  | .wait treatment => some treatment
  | _ => none

/-- How a call changes the configuration. -/
def configCalls : SelectCall → List ConfigCall
  | .configure calls => calls
  | _ => []

/-- The criteria and the subquery that are composed for a call have no misuse of their own. -/
def Composes : SelectCall → Prop
  | .sourceQuery query _ => ∃ select, Select.ofSubquery query = .ok select
  | .join _ _ _ on => ∃ group, CriteriaGroup.build on = .ok group
  | .joinQuery _ query _ on =>
    (∃ select, Select.ofSubquery query = .ok select) ∧ ∃ group, CriteriaGroup.build on = .ok group
  | .filter calls | .having calls => ∃ group, CriteriaGroup.build calls = .ok group
  | _ => True

/-- A call has what it needs: a join a criterion, a group by a column, an order by an item. -/
def HasItems : SelectCall → Prop
  | .groupBy columns => columns ≠ []
  | .orderBy specs => specs ≠ []
  | call => ∀ join ∈ call.join?, join.on.isEmpty = false

end SelectCall

/-! ## Segments -/

/-- The calls between two unions, with the columns that they go to. -/
structure Segment where
  distinct : Bool
  columns : List Expr
  calls : List SelectCall

namespace Segment

/-- The sources that a segment is given. -/
def sources (s : Segment) : List Source := s.calls.filterMap (·.source?)

/-- The joins of a segment. -/
def joins (s : Segment) : List Join := s.calls.filterMap (·.join?)

/-- The where clauses that a segment is given. -/
def filters (s : Segment) : List CriteriaGroup := s.calls.filterMap (·.filter?)

/-- The having clauses that a segment is given. -/
def havings (s : Segment) : List CriteriaGroup := s.calls.filterMap (·.having?)

/-- The query block of a segment. -/
def block (s : Segment) : QueryBlock :=
  ⟨s.distinct, s.columns, s.sources.head?, s.joins, s.filters.head?,
    s.calls.flatMap (·.groupColumns), s.havings.head?⟩

/-- A segment is given one source, one where clause and one having clause at most. -/
structure Single (s : Segment) : Prop where
  sources : s.sources.length ≤ 1
  filters : s.filters.length ≤ 1
  havings : s.havings.length ≤ 1

end Segment

namespace Select

/-- Calls cut at the unions: the first segment, and the others with the unions before them. -/
def segments (distinct : Bool) (columns : List Expr) :
    List SelectCall → Segment × List (UnionKind × Segment)
  | [] => (⟨distinct, columns, []⟩, [])
  | call :: rest =>
    match call.union? with
    | some (kind, nextDistinct, nextColumns) =>
      let next := segments nextDistinct nextColumns rest
      (⟨distinct, columns, []⟩, (kind, next.1) :: next.2)
    | none =>
      let next := segments distinct columns rest
      ({ next.1 with calls := call :: next.1.calls }, next.2)

/-- All segments in their order. -/
def segmentList (distinct : Bool) (columns : List Expr) (calls : List SelectCall) : List Segment :=
  (segments distinct columns calls).1 :: (segments distinct columns calls).2.map (·.2)

/-- A wait stands behind a lock. -/
def WaitsBehindLock (calls : List SelectCall) : Prop :=
  ∀ before wait behind, calls = before ++ .wait wait :: behind → ∃ mode, .lock mode ∈ before

/-- Calls that compose a select: every segment has a column and at most one of what a block has one
    of, every call has what it needs, there is one lock at most, with at most one wait behind it,
    and not both a limit and a count of first rows. -/
structure WellFormed (distinct : Bool) (columns : List Expr) (calls : List SelectCall) : Prop where
  selects : ∀ s ∈ segmentList distinct columns calls, s.columns ≠ []
  single : ∀ s ∈ segmentList distinct columns calls, s.Single
  items : ∀ call ∈ calls, call.HasItems
  lock : (calls.filterMap (·.lockMode?)).length ≤ 1
  wait : (calls.filterMap (·.wait?)).length ≤ 1
  behind : WaitsBehindLock calls
  paging : calls.filterMap (·.limit?) = [] ∨ calls.filterMap (·.fetchFirst?) = []

/-- The select that calls stand for: a block for each segment, all items of the order, the last
    counts, the lock with its wait, and all changes of the configuration. -/
def ofCalls (distinct : Bool) (columns : List Expr) (calls : List SelectCall) : Select :=
  let cut := segments distinct columns calls
  ⟨cut.1.block, cut.2.map fun begun => (begun.1, begun.2.block),
    calls.flatMap (·.sortSpecs),
    ⟨(calls.filterMap (·.limit?)).getLast?, (calls.filterMap (·.offset?)).getLast?,
      (calls.filterMap (·.fetchFirst?)).getLast?⟩,
    (calls.filterMap (·.lockMode?)).head?.map fun mode =>
      ⟨mode, (calls.filterMap (·.wait?)).head?⟩,
    ({} : Config).applyAll (calls.flatMap (·.configCalls))⟩

end Select

/-! ## One call more -/

/-- A list is searched item by item. -/
theorem filterMap_cons_eq_append {α β : Type} (f : α → Option β) (a : α) (rest : List α) :
    (a :: rest).filterMap f = (f a).toList ++ rest.filterMap f := by
  rw [List.filterMap_cons]
  cases f a <;> rfl

/-- Something that is held at most once is held or comes, but not both, and does not come again. -/
theorem length_le_one_cons {α : Type} (held next : Option α) (rest : List α) :
    (held.toList ++ (next.toList ++ rest)).length ≤ 1 ↔
      (held = none ∨ next = none) ∧ ((held.or next).toList ++ rest).length ≤ 1 := by
  cases held <;> cases next <;> simp

/-- A query block after a call that goes to it. -/
def QueryBlock.extend (b : QueryBlock) (call : SelectCall) : QueryBlock :=
  { b with
    source := b.source.or call.source?
    joins := b.joins ++ call.join?.toList
    filter := b.filter.or call.filter?
    groupBy := b.groupBy ++ call.groupColumns
    having := b.having.or call.having? }

/-- A query block after the calls of a segment. -/
def QueryBlock.extendAll (b : QueryBlock) (calls : List SelectCall) : QueryBlock :=
  calls.foldl QueryBlock.extend b

/-- A block extended by calls has the first source and clauses of these, behind its own, and all of
    their joins and groups. -/
theorem QueryBlock.extendAll_eq (b : QueryBlock) (calls : List SelectCall) :
    b.extendAll calls =
      ⟨b.distinct, b.columns, b.source.or (calls.filterMap (·.source?)).head?,
        b.joins ++ calls.filterMap (·.join?), b.filter.or (calls.filterMap (·.filter?)).head?,
        b.groupBy ++ calls.flatMap (·.groupColumns),
        b.having.or (calls.filterMap (·.having?)).head?⟩ := by
  induction calls generalizing b with
  | nil =>
      cases b
      simp [extendAll]
  | cons call rest ih =>
      have hstep : b.extendAll (call :: rest) = (b.extend call).extendAll rest := rfl
      rw [hstep, ih]
      simp only [filterMap_cons_eq_append, List.flatMap_cons, extend, Option.or_assoc,
        List.append_assoc, List.head?_append, Option.head?_toList]

/-- The block of a segment is its columns with its calls. -/
theorem Segment.block_eq (s : Segment) :
    s.block = (QueryBlock.ofColumns s.distinct s.columns).extendAll s.calls := by
  rw [QueryBlock.extendAll_eq]
  simp [QueryBlock.ofColumns, block, sources, joins, filters, havings]

/-- A paging after a call. -/
def Paging.extend (paging : Paging) (call : SelectCall) : Paging :=
  ⟨call.limit?.or paging.limit, call.offset?.or paging.offset,
    call.fetchFirst?.or paging.fetchFirst⟩

/-- A lock after a call. -/
def Lock.extend? (lock : Option Lock) (call : SelectCall) : Option Lock :=
  (lock.or (call.lockMode?.map fun mode => ⟨mode, none⟩)).map fun lock =>
    { lock with wait := lock.wait.or call.wait? }

namespace SelectDraft

/-- A draft after a call that it allows. -/
def extend (d : SelectDraft) (call : SelectCall) : SelectDraft :=
  match call with
  | .source _ _ | .sourceQuery _ _ =>
    { d with current := { d.current with source := d.current.source.or call.source? } }
  | .join _ _ _ _ | .joinQuery _ _ _ _ =>
    { d with current := { d.current with joins := d.current.joins ++ call.join?.toList } }
  | .filter _ => { d with current := { d.current with filter := d.current.filter.or call.filter? } }
  | .groupBy columns =>
    { d with current := { d.current with groupBy := d.current.groupBy ++ columns } }
  | .having _ => { d with current := { d.current with having := d.current.having.or call.having? } }
  | .union kind distinct columns => d.beginBlock kind distinct columns
  | .orderBy specs => { d with orderBy := d.orderBy ++ specs }
  | .limit _ | .offset _ | .fetchFirst _ => { d with paging := d.paging.extend call }
  | .lock _ | .wait _ => { d with lock := Lock.extend? d.lock call }
  | .configure calls => { d with config := d.config.applyAll calls }

/-- The blocks of a draft after a call. -/
def extendBlocks (d : SelectDraft) (call : SelectCall) : SelectDraft :=
  match call.union? with
  | some (kind, distinct, columns) => d.beginBlock kind distinct columns
  | none => { d with current := d.current.extend call }

/-- Every call extends every part of a draft by what it contributes to it. -/
theorem extend_eq (d : SelectDraft) (call : SelectCall) :
    d.extend call =
      { d.extendBlocks call with
        orderBy := d.orderBy ++ call.sortSpecs
        paging := d.paging.extend call
        lock := Lock.extend? d.lock call
        config := d.config.applyAll call.configCalls } := by
  obtain ⟨closed, ⟨_, _, _, _, _, _, _⟩, orderBy, paging, lock, config⟩ := d
  cases call <;>
    simp [extend, extendBlocks, beginBlock, QueryBlock.extend, Paging.extend, Lock.extend?,
      SelectCall.union?, SelectCall.source?, SelectCall.join?, SelectCall.filter?,
      SelectCall.having?, SelectCall.groupColumns, SelectCall.sortSpecs, SelectCall.limit?,
      SelectCall.offset?, SelectCall.fetchFirst?, SelectCall.lockMode?, SelectCall.wait?,
      SelectCall.configCalls, Config.applyAll]

/-- A draft after calls that it allows. -/
def extendAll (d : SelectDraft) (calls : List SelectCall) : SelectDraft :=
  calls.foldl extend d

@[simp]
theorem extendAll_nil (d : SelectDraft) : d.extendAll [] = d := rfl

theorem extendAll_cons (d : SelectDraft) (call : SelectCall) (rest : List SelectCall) :
    d.extendAll (call :: rest) = (d.extend call).extendAll rest := rfl

end SelectDraft

end SqlComposer
