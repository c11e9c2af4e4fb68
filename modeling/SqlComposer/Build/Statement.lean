import SqlComposer.Build.Select
import SqlComposer.Json.Failure

/-! # Composing statements

Unions of selects, updates, deletes and inserts are composed by calls like a select.  Records are
serialized before they are inserted, which may fail with a message of its own. -/

namespace SqlComposer

/-! ## Unions of selects -/

/-- A union of selects that is being composed. -/
structure MultiSelectDraft where
  first : Option Select
  unions : List (UnionKind × Select)
  orderBy : List SortSpec
  paging : Paging
  config : Config

namespace MultiSelectDraft

/-- A union before the first call. -/
def empty : MultiSelectDraft := ⟨none, [], [], {}, {}⟩

/-- The finished union. -/
def finish (d : MultiSelectDraft) : Except InvalidSql MultiSelect :=
  match d.first with
  | none => .error .multiSelectWithoutSelect
  | some first => do
    d.paging.check
    return ⟨first, d.unions, d.orderBy, d.paging, d.config⟩

end MultiSelectDraft

/-- A union after a call.  A select or a subquery that cannot be added is not composed. -/
def MultiSelectCall.apply :
    MultiSelectCall → Composing MultiSelectDraft → Composing MultiSelectDraft
  | .select call, c =>
    if c.draft.first.isSome then c.fail .multiSelectStartedTwice
    else c.withPart call.build fun select c => c.update fun d => { d with first := some select }
  | .union kind query, c =>
    if c.draft.first.isNone then c.fail (.unionWithoutSelect kind)
    else
      c.withPart (Select.ofSubquery query) fun select c =>
        c.update fun d => { d with unions := d.unions ++ [(kind, select)] }
  | .orderBy specs, c => c.step fun d => do
    requireItem .emptyOrderBy specs
    return { d with orderBy := d.orderBy ++ specs }
  | .limit count, c => c.update fun d => { d with paging.limit := some count }
  | .offset count, c => c.update fun d => { d with paging.offset := some count }
  | .fetchFirst count, c => c.update fun d => { d with paging.fetchFirst := some count }
  | .configure calls, c => c.update fun d => { d with config := d.config.applyAll calls }

/-- The union of selects that calls compose. -/
def MultiSelect.build (calls : List MultiSelectCall) : Except InvalidSql MultiSelect :=
  (Composing.applyAll MultiSelectCall.apply calls (.start .empty)).finish MultiSelectDraft.finish

/-! ## Updates and deletes -/

namespace Update

/-- An update of a table before the first call. -/
def ofTable (table : String) (aliasName : Option String) : Update :=
  ⟨table, aliasName, [], none, [], none, {}⟩

/-- An update with one more column set. -/
def addSet (u : Update) (column : Column) (value : SetValue) : Update :=
  { u with sets := u.sets ++ [⟨column, value⟩] }

/-- The finished update, which sets a column. -/
def finish (u : Update) : Except InvalidSql Update := do
  requireItem .updateWithoutSets u.sets
  return u

end Update

/-- An update after a call. -/
def UpdateCall.apply : UpdateCall → Composing Update → Composing Update
  | .set column value, c => c.update (·.addSet column value)
  | .setQuery column query, c =>
    c.withPart (Select.ofSubquery query) fun query c => c.update (·.addSet column (.subquery query))
  | .filter calls, c =>
    if c.draft.filter.isSome then c.fail (.secondWhere .update)
    else
      c.withPart (CriteriaGroup.build calls) fun filter c =>
        c.update fun u => { u with filter := some filter }
  | .orderBy specs, c => c.step fun u => do
    requireItem .emptyOrderBy specs
    return { u with orderBy := u.orderBy ++ specs }
  | .limit count, c => c.update fun u => { u with limit := count.or u.limit }
  | .configure calls, c => c.update fun u => { u with config := u.config.applyAll calls }

/-- The update of a table that calls compose. -/
def Update.build (table : String) (aliasName : Option String) (calls : List UpdateCall) :
    Except InvalidSql Update :=
  (Composing.applyAll UpdateCall.apply calls (.start (.ofTable table aliasName))).finish
    Update.finish

/-- A delete from a table before the first call. -/
def Delete.ofTable (table : String) (aliasName : Option String) : Delete :=
  ⟨table, aliasName, none, [], none, {}⟩

/-- A delete after a call. -/
def DeleteCall.apply : DeleteCall → Composing Delete → Composing Delete
  | .filter calls, c =>
    if c.draft.filter.isSome then c.fail (.secondWhere .delete)
    else
      c.withPart (CriteriaGroup.build calls) fun filter c =>
        c.update fun d => { d with filter := some filter }
  | .orderBy specs, c => c.step fun d => do
    requireItem .emptyOrderBy specs
    return { d with orderBy := d.orderBy ++ specs }
  | .limit count, c => c.update fun d => { d with limit := count.or d.limit }
  | .configure calls, c => c.update fun d => { d with config := d.config.applyAll calls }

/-- The delete from a table that calls compose. -/
def Delete.build (table : String) (aliasName : Option String) (calls : List DeleteCall) :
    Except InvalidSql Delete :=
  (Composing.applyAll DeleteCall.apply calls (.start (.ofTable table aliasName))).finish .ok

/-! ## Inserts -/

/-- The columns of an insert with where their values come from, and the configuration. -/
structure InsertDraft (α : Type) where
  mappings : List (Assignment α)
  config : Config

namespace InsertDraft

variable {α : Type}

/-- An insert after a call. -/
def apply (d : InsertDraft α) : InsertCall α → InsertDraft α
  | .set column value => { d with mappings := d.mappings ++ [⟨column, value⟩] }
  | .configure calls => { d with config := d.config.applyAll calls }

/-- The columns that calls give an insert, of which there must be one. -/
def build (calls : List (InsertCall α)) : Except InvalidSql (InsertDraft α) := do
  let d := calls.foldl InsertDraft.apply ⟨[], {}⟩
  requireItem .insertWithoutMappings d.mappings
  return d

end InsertDraft

/-- The insert of given values that calls compose. -/
def Insert.build (table : String) (calls : List (InsertCall InsertValue)) :
    Except InvalidSql Insert := do
  let d ← InsertDraft.build calls
  return ⟨table, d.mappings, d.config⟩

/-- A failed check as an error. -/
def orInvalidSql {α : Type} (result : Except InvalidSql α) : Except Error α :=
  result.mapError Error.invalidSql

/-- A record that was serialized, or the error of the failure that its message tells of. -/
def orSerialization (record : Except String Json) : Except Error Json :=
  record.mapError fun message =>
    .serialization (String.ofList (Json.Failure.ofMessage message.toList).chars)

/-- The insert of one record that calls compose.  The columns are checked before the record. -/
def RecordInsert.build (record : Except String Json) (table : String)
    (calls : List (InsertCall RecordValue)) : Except Error RecordInsert := do
  let d ← orInvalidSql (InsertDraft.build calls)
  let record ← orSerialization record
  return ⟨table, record, d.mappings, d.config⟩

/-- The insert of several records that calls compose.  The records are checked before the columns,
and every column must have a value in every record. -/
def RecordsInsert.build (noRecords : InvalidSql) (records : List (Except String Json))
    (table : String) (calls : List (InsertCall RecordValue)) : Except Error RecordsInsert := do
  let records ← records.mapM orSerialization
  if hr : records.isEmpty then throw (.invalidSql noRecords)
  else
    let d ← orInvalidSql (InsertDraft.build calls)
    if hm : d.mappings.any (·.value.isOptional) then
      throw (.invalidSql .optionalPropertyInSeveralRecords)
    else
      return ⟨table, records, d.mappings, d.config, by simpa using hr, by simpa using hm⟩

/-- The insert of records as rows of one statement. -/
def RecordsInsert.buildRows : List (Except String Json) → (table : String) →
    List (InsertCall RecordValue) → Except Error RecordsInsert :=
  RecordsInsert.build .multiRowWithoutRecords

/-- The insert of records as a batch. -/
def RecordsInsert.buildBatch : List (Except String Json) → (table : String) →
    List (InsertCall RecordValue) → Except Error RecordsInsert :=
  RecordsInsert.build .batchWithoutRecords

/-- An insert of the rows of a select that is being composed. -/
structure InsertSelectDraft where
  columns : List String
  select : Option Select
  config : Config

namespace InsertSelectDraft

/-- An insert before the first call. -/
def empty : InsertSelectDraft := ⟨[], none, {}⟩

/-- The insert with one more column, which must be a column of a table. -/
def addColumn (d : InsertSelectDraft) : Expr → Except InvalidSql InsertSelectDraft
  | .column c => .ok { d with columns := d.columns ++ [c.name] }
  | _ => .error .insertSelectColumn

/-- The finished insert into a table, which has a select. -/
def finish (table : String) (d : InsertSelectDraft) : Except InvalidSql InsertSelect :=
  match d.select with
  | none => .error .insertWithoutSelect
  | some select => .ok ⟨table, d.columns, select, d.config⟩

end InsertSelectDraft

/-- An insert of rows after a call.  The columns of a call are added one after the other. -/
def InsertSelectCall.apply :
    InsertSelectCall → Composing InsertSelectDraft → Composing InsertSelectDraft
  | .columns exprs, c => exprs.foldl (fun c e => c.step (·.addColumn e)) c
  | .select exprs calls, c =>
    if c.draft.select.isSome then c.fail .secondInsertSelect
    else
      c.withPart (Select.build false exprs calls) fun select c =>
        c.update fun d => { d with select := some select }
  | .configure calls, c => c.update fun d => { d with config := d.config.applyAll calls }

/-- The insert of the rows of a select that calls compose. -/
def InsertSelect.build (table : String) (calls : List InsertSelectCall) :
    Except InvalidSql InsertSelect :=
  (Composing.applyAll InsertSelectCall.apply calls (.start .empty)).finish (·.finish table)

end SqlComposer
