import SqlComposer.Proofs.QueryFragment
import SqlComposer.Render.Statement

/-! # The fragment that a statement denotes

    Updates, deletes, inserts and unions of selects as fragments, in the scopes around them.  An
    insert of values or of a record keeps the columns apart from the values until both are complete,
    so a column without value is left out of both. -/

namespace SqlComposer

open Fragment (ofText ofValue)

/-- A value that an update sets, or nothing when it is absent. -/
def setFragment? (set : Assignment SetValue) (scopes : List Scope) :
    Except Error (Option Fragment) :=
  match set.value with
  | .bound none => .ok none
  | .bound (some value) => .ok (some (ofValue value set.column.jdbcType))
  | .null => .ok (some (ofText "null"))
  | .constant s => .ok (some (ofText s))
  | .stringConstant s => .ok (some (ofText (stringLiteral s)))
  | .expr e => do
    let f ← e.fragment scopes
    return some f
  | .subquery query => do
    let f ← query.fragment scopes
    return some (Fragment.parenthesized f)

/-- The columns that an update sets, with their values. -/
def setFragments : List (Assignment SetValue) → List Scope → Except Error (List Fragment)
  | [], _ => .ok []
  | set :: rest, scopes => do
    let value ← setFragment? set scopes
    let others ← setFragments rest scopes
    return value.toList.map (ofText (set.column.name ++ " = ") ++ ·) ++ others

/-- The where clause of an update or a delete. -/
def filterFragment (config : Config) (filter : Option CriteriaGroup) (scopes : List Scope) :
    Except Error Fragment := do
  let parts ← CriteriaGroup.clauseParts filter scopes
  Fragment.whereClause config parts

/-- An update sets a column at least. -/
def Fragment.requireSets : List Fragment → Except Error Unit
  | [] => .error (.invalidSql .updateWithoutValues)
  | _ :: _ => .ok ()

/-- An update, in the scope of its table. -/
def Update.fragment (u : Update) (outer : List Scope) : Except Error Fragment := do
  let scopes := Scope.ofTable u.table u.aliasName :: outer
  let sets ← setFragments u.sets scopes
  Fragment.requireSets sets
  let filter ← filterFragment u.config u.filter scopes
  return u.config.wrapped (Fragment.spaced
    [ofText (u.config.keyword "update"), ofText (tableText u.table u.aliasName),
      Fragment.listClause "set " sets, filter, ofText (orderClause u.orderBy),
      Fragment.countClause "limit " u.limit ""])

/-- A delete, in the scope of its table. -/
def Delete.fragment (d : Delete) (outer : List Scope) : Except Error Fragment := do
  let scopes := Scope.ofTable d.table d.aliasName :: outer
  let filter ← filterFragment d.config d.filter scopes
  return d.config.wrapped (Fragment.spaced
    [ofText (d.config.keyword "delete"), ofText ("from " ++ tableText d.table d.aliasName), filter,
      ofText (orderClause d.orderBy), Fragment.countClause "limit " d.limit ""])

/-- An insert of columns with what follows them. -/
def insertFragment (config : Config) (table : String) (columns : List String) (tail : Fragment) :
    Fragment :=
  config.wrapped (Fragment.spaced
    [ofText (config.keyword "insert"), ofText "into", ofText table,
      ofText (parenthesized (listed columns)), tail])

/-- One row of values. -/
def rowFragment (values : List Fragment) : Fragment :=
  Fragment.parenthesized (Fragment.listed values)

/-- An insert of one row of columns with values, of which there must be one. -/
def singleRowFragment (config : Config) (table : String) :
    List (String × Fragment) → Except Error Fragment
  | [] => .error (.invalidSql .insertWithoutValues)
  | value :: rest =>
    .ok (insertFragment config table ((value :: rest).map (·.1))
      (ofText "values " ++ rowFragment ((value :: rest).map (·.2))))

/-- The columns that have a value, with their values. -/
def presentFragments {α : Type} (mappings : List (Assignment α)) (values : List (Option Fragment)) :
    List (String × Fragment) :=
  (mappings.zip values).filterMap fun (mapping, value) => value.map (mapping.column.name, ·)

/-- A value that an insert gives a column, or nothing when it is absent. -/
def insertFragment? (mapping : Assignment InsertValue) : Option Fragment :=
  match mapping.value with
  | .bound none => none
  | .bound (some value) => some (ofValue value mapping.column.jdbcType)
  | .null => some (ofText "null")
  | .constant s => some (ofText s)
  | .stringConstant s => some (ofText (stringLiteral s))

/-- An insert of values of the program. -/
def Insert.fragment (i : Insert) : Except Error Fragment :=
  singleRowFragment i.config i.table (presentFragments i.mappings (i.mappings.map insertFragment?))

/-- The value of a column in a record, or nothing when the column is left out. -/
def recordFragment? (record : Json) (mapping : Assignment RecordValue) :
    Except Error (Option Fragment) :=
  let bound (property : Json) : Option Fragment :=
    some (ofValue (Value.ofJson property) mapping.column.jdbcType)
  match mapping.value with
  | .property path =>
    match record.property? path with
    | some property => .ok (bound property)
    | none => .error (.invalidSql (.missingProperty path))
  | .propertyWhenPresent path =>
    match record.property? path with
    | some property => .ok (if property.isNull then none else bound property)
    | none => .ok none
  | .row => .ok (bound record)
  | .null => .ok (some (ofText "null"))
  | .constant s => .ok (some (ofText s))
  | .stringConstant s => .ok (some (ofText (stringLiteral s)))

/-- The values of a record, one for each column. -/
def recordFragments (record : Json) :
    List (Assignment RecordValue) → Except Error (List (Option Fragment))
  | [] => .ok []
  | mapping :: rest => do
    let value ← recordFragment? record mapping
    let others ← recordFragments record rest
    return value :: others

/-- An insert of one record. -/
def RecordInsert.fragment (i : RecordInsert) : Except Error Fragment := do
  let values ← recordFragments i.record i.mappings
  singleRowFragment i.config i.table (presentFragments i.mappings values)

namespace RecordsInsert

/-- The values of one record as a row. -/
def rowOf (i : RecordsInsert) (record : Json) : Except Error Fragment := do
  let values ← recordFragments record i.mappings
  return rowFragment (values.filterMap id)

/-- The values of records as rows. -/
def rowsOf (i : RecordsInsert) : List Json → Except Error (List Fragment)
  | [] => .ok []
  | record :: rest => do
    let f ← i.rowOf record
    let fs ← i.rowsOf rest
    return f :: fs

/-- An insert of all records as rows of one statement. -/
def fragment (i : RecordsInsert) : Except Error Fragment := do
  let rows ← i.rowsOf i.records
  return insertFragment i.config i.table i.columns (ofText "values " ++ Fragment.listed rows)

/-- The statement of a batch with the values of one record. -/
def recordFragment (i : RecordsInsert) (record : Json) : Except Error Fragment := do
  let row ← i.rowOf record
  return insertFragment i.config i.table i.columns (ofText "values " ++ row)

end RecordsInsert

/-- An insert of the rows of a select. -/
def InsertSelect.fragment (i : InsertSelect) (scopes : List Scope) : Except Error Fragment := do
  let select ← i.select.fragment scopes
  return i.config.wrapped (Fragment.spaced
    [ofText (i.config.keyword "insert"), ofText "into", ofText i.table,
      ofText (if i.columns.isEmpty then "" else parenthesized (listed i.columns)), select])

/-- The selects of unions in parentheses, each after its keyword. -/
def MultiSelect.unionFragments :
    List (UnionKind × Select) → List Scope → Except Error (List Fragment)
  | [], _ => .ok []
  | (kind, select) :: rest, scopes => do
    let f ← select.fragment scopes
    let fs ← unionFragments rest scopes
    return ofText kind.text :: Fragment.parenthesized f :: fs

/-- A union of selects. -/
def MultiSelect.fragment (m : MultiSelect) (scopes : List Scope) : Except Error Fragment := do
  let first ← m.first.fragment scopes
  let others ← MultiSelect.unionFragments m.unions scopes
  return m.config.wrapped (Fragment.spaced
    (Fragment.parenthesized first :: others ++ [ofText (orderClause m.orderBy), m.paging.fragment]))

/-- A statement. -/
def Statement.fragment : Statement → List Scope → Except Error Fragment
  | .select q, scopes => q.fragment scopes
  | .multiSelect q, scopes => q.fragment scopes
  | .update u, scopes => u.fragment scopes
  | .delete d, scopes => d.fragment scopes
  | .insert i, _ => i.fragment
  | .insertRecord i, _ => i.fragment
  | .insertRows i, _ => i.fragment
  | .insertSelect i, scopes => i.fragment scopes

end SqlComposer
