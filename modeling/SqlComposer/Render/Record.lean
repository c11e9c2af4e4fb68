import SqlComposer.Render.Clause
import SqlComposer.Statement.Mutation

/-! # Values of records

A path names a property of a record through the objects around it; lists and other values have no
properties.  Each column of an insert takes its value from the record, or a text of its own. -/

namespace SqlComposer

open Rendering

/-- The names of a path, between its points; a path without points is one name. -/
def pathNames (path : String) : List String := (path.toList.splitOn '.').map String.ofList

/-- The property that a path leads to. -/
def Json.property? (record : Json) (path : String) : Option Json :=
  (pathNames path).foldlM (fun value name => value.field? name) record

/-- Binds a property of a record. -/
def bindProperty (property : Json) (type : Option JdbcType) : Rendering (Option String) := do
  let placeholder ← bindValue (Value.ofJson property) type
  return some placeholder

/-- The value of a column in a record, or nothing when the column is left out. -/
def recordValue (record : Json) (mapping : Assignment RecordValue) : Rendering (Option String) :=
  match mapping.value with
  | .property path =>
    match record.property? path with
    | some property => bindProperty property mapping.column.jdbcType
    | none => throw (.invalidSql (.missingProperty path))
  | .propertyWhenPresent path =>
    match record.property? path with
    | some property =>
      if property.isNull then return none else bindProperty property mapping.column.jdbcType
    | none => return none
  | .row => bindProperty record mapping.column.jdbcType
  | .null => return some "null"
  | .constant s => return some s
  | .stringConstant s => return some (stringLiteral s)

/-- The values of a record, one for each column. -/
def recordValues (record : Json) :
    List (Assignment RecordValue) → Rendering (List (Option String))
  | [] => return []
  | mapping :: rest => do
    let value ← recordValue record mapping
    let others ← recordValues record rest
    return value :: others

end SqlComposer
