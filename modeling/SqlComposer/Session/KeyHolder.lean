import SqlComposer.Session.Template

/-! # Generated keys

A key holder names the columns that an insert is to return.  An insert through it asks for these
columns, and when it succeeds the holder keeps the rows that came back. -/

namespace SqlComposer

/-- The columns of generated keys, and the rows of the last insert that succeeded. -/
structure KeyHolder where
  columns : List String
  rows : List Row

namespace KeyHolder

/-- A holder that keeps no rows yet. -/
def ofColumns (columns : List String) : KeyHolder := ⟨columns, []⟩

/-- What is written behind an insert to get the columns back. -/
def returning (k : KeyHolder) : Except InvalidSql String :=
  if k.columns.isEmpty then .error .keyHolderWithoutColumns
  else .ok (" returning " ++ String.intercalate ", " k.columns)

/-- The key in a column of the only row. -/
def key (k : KeyHolder) (column : String) (type : ReadType) : Except Error Value :=
  match k.rows with
  | [] => .error (.notFound .generatedKeys)
  | [row] => row.read (.name column) type
  | rows => .error (.tooManyRows 1 rows.length)

/-- The keys in a column of all rows. -/
def keys (k : KeyHolder) (column : String) (type : ReadType) : Except Error (List Value) :=
  k.rows.mapM fun row => row.read (.name column) type

/-- Executes a rendered insert and keeps the rows that come back; gives their number. -/
def insert (k : KeyHolder) (t : Template) (r : Rendered) : Session (Nat × KeyHolder) := do
  let returning ← Session.ofCheck k.returning
  let rows ← t.queryWith (r.sql ++ returning) r.parameters r.strategy
  return (rows.length, { k with rows := rows })

/-- Executes a composed insert and keeps the rows that come back; gives their number. -/
def insertBuilt (k : KeyHolder) (t : Template) (s : Except Error Statement) :
    Session (Nat × KeyHolder) := do
  let r ← Template.renderBuilt s
  k.insert t r

end KeyHolder

end SqlComposer
