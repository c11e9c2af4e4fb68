import SqlComposer.Render.Query
import SqlComposer.Render.Record

/-! # Rendering statements

Every statement gives one text, or the error that keeps it from being rendered. -/

namespace SqlComposer

open Rendering

/-- A value that an update sets, or nothing when it is absent. -/
def setValue (set : Assignment SetValue) : Rendering (Option String) :=
  match set.value with
  | .bound none => return none
  | .bound (some value) => do
    let placeholder ← bindValue value set.column.jdbcType
    return some placeholder
  | .null => return some "null"
  | .constant s => return some s
  | .stringConstant s => return some (stringLiteral s)
  | .expr e => do
    let s ← e.render
    return some s
  | .subquery query => do
    let s ← query.render
    return some (parenthesized s)

/-- The columns that an update sets, with their values. -/
def setValues : List (Assignment SetValue) → Rendering (List String)
  | [] => return []
  | set :: rest => do
    let value ← setValue set
    let others ← setValues rest
    return value.toList.map (fun s => set.column.name ++ " = " ++ s) ++ others

/-- An update sets a column at least. -/
def requireSets (sets : List String) : Rendering Unit :=
  if sets.isEmpty then throw (.invalidSql .updateWithoutValues) else return ()

/-- The where clause of an update or a delete. -/
def filterClause (config : Config) (filter : Option CriteriaGroup) : Rendering String := do
  let criteria ← CriteriaGroup.renderClause filter
  whereClause config criteria

namespace Update

/-- An update, in the scope of its table. -/
def render (u : Update) : Rendering String :=
  withScope (Scope.ofTable u.table u.aliasName) do
    let sets ← setValues u.sets
    requireSets sets
    let filter ← filterClause u.config u.filter
    let limit ← limitClause u.limit
    return u.config.wrap (spaced
      [u.config.keyword "update", tableText u.table u.aliasName, listClause "set " sets, filter,
        orderClause u.orderBy, limit])

end Update

namespace Delete

/-- A delete, in the scope of its table. -/
def render (d : Delete) : Rendering String :=
  withScope (Scope.ofTable d.table d.aliasName) do
    let filter ← filterClause d.config d.filter
    let limit ← limitClause d.limit
    return d.config.wrap (spaced
      [d.config.keyword "delete", "from " ++ tableText d.table d.aliasName, filter,
        orderClause d.orderBy, limit])

end Delete

/-- An insert of columns with what follows them. -/
def insertText (config : Config) (table : String) (columns : List String) (tail : String) :
    String :=
  config.wrap
    (spaced [config.keyword "insert", "into", table, parenthesized (listed columns), tail])

/-- One row of values. -/
def rowText (values : List String) : String := parenthesized (listed values)

/-- An insert of one row of columns with values, of which there must be one. -/
def singleRowInsert (config : Config) (table : String) (values : List (String × String)) :
    Rendering String :=
  if values.isEmpty then throw (.invalidSql .insertWithoutValues)
  else return insertText config table (values.map (·.1)) ("values " ++ rowText (values.map (·.2)))

/-- The columns that have a value, with their values. -/
def presentValues {α : Type} (mappings : List (Assignment α)) (values : List (Option String)) :
    List (String × String) :=
  (mappings.zip values).filterMap fun (mapping, value) => value.map (mapping.column.name, ·)

/-- A value that an insert gives a column, or nothing when it is absent. -/
def insertValue (mapping : Assignment InsertValue) : Rendering (Option String) :=
  match mapping.value with
  | .bound none => return none
  | .bound (some value) => do
    let placeholder ← bindValue value mapping.column.jdbcType
    return some placeholder
  | .null => return some "null"
  | .constant s => return some s
  | .stringConstant s => return some (stringLiteral s)

/-- The values that an insert gives its columns. -/
def insertValues : List (Assignment InsertValue) → Rendering (List (Option String))
  | [] => return []
  | mapping :: rest => do
    let value ← insertValue mapping
    let others ← insertValues rest
    return value :: others

namespace Insert

/-- An insert of values of the program. -/
def render (i : Insert) : Rendering String := do
  let values ← insertValues i.mappings
  singleRowInsert i.config i.table (presentValues i.mappings values)

end Insert

namespace RecordInsert

/-- An insert of one record. -/
def render (i : RecordInsert) : Rendering String := do
  let values ← recordValues i.record i.mappings
  singleRowInsert i.config i.table (presentValues i.mappings values)

end RecordInsert

namespace RecordsInsert

/-- The columns of all records. -/
def columns (i : RecordsInsert) : List String := i.mappings.map (·.column.name)

/-- The values of one record as a row. -/
def row (i : RecordsInsert) (record : Json) : Rendering String := do
  let values ← recordValues record i.mappings
  return rowText (values.filterMap id)

/-- The values of records as rows. -/
def rows (i : RecordsInsert) : List Json → Rendering (List String)
  | [] => return []
  | record :: rest => do
    let s ← i.row record
    let others ← i.rows rest
    return s :: others

/-- An insert of all records as rows of one statement. -/
def render (i : RecordsInsert) : Rendering String := do
  let rows ← i.rows i.records
  return insertText i.config i.table i.columns ("values " ++ listed rows)

/-- The statement of a batch with the values of one record. -/
def renderRecord (i : RecordsInsert) (record : Json) : Rendering String := do
  let row ← i.row record
  return insertText i.config i.table i.columns ("values " ++ row)

end RecordsInsert

namespace InsertSelect

/-- An insert of the rows of a select. -/
def render (i : InsertSelect) : Rendering String := do
  let select ← i.select.render
  let columns := if i.columns.isEmpty then "" else parenthesized (listed i.columns)
  return i.config.wrap
    (spaced [i.config.keyword "insert", "into", i.table, columns, select])

end InsertSelect

namespace MultiSelect

/-- The selects of unions in parentheses, each after its keyword. -/
def renderUnions : List (UnionKind × Select) → Rendering (List String)
  | [] => return []
  | (kind, select) :: rest => do
    let s ← select.render
    let others ← renderUnions rest
    return kind.text :: parenthesized s :: others

/-- A union of selects. -/
def render (m : MultiSelect) : Rendering String := do
  let first ← m.first.render
  let others ← renderUnions m.unions
  let page ← m.paging.render
  return m.config.wrap
    (spaced (parenthesized first :: others ++ [orderClause m.orderBy, page]))

end MultiSelect

/-- The text of a statement. -/
def Statement.text : Statement → Rendering String
  | .select q => q.render
  | .multiSelect q => q.render
  | .update u => u.render
  | .delete d => d.render
  | .insert i => i.render
  | .insertRecord i => i.render
  | .insertRows i => i.render
  | .insertSelect i => i.render

end SqlComposer
