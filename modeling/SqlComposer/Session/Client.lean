import SqlComposer.Build.Statement
import SqlComposer.Render.Rendered
import SqlComposer.Session.Script

/-! # Clients

Statements that are executed as they are, with numbered placeholders: single rows, counts, lists of
mapped rows and batches.  A statement is rendered before anything is sent. -/

namespace SqlComposer

/-- The first of several rows. -/
def firstRow (rows : List Row) : Except Error Row :=
  match rows.head? with
  | some row => .ok row
  | none => .error (.notFound .firstRow)

/-- The only row. -/
def onlyRow : List Row → Except Error Row
  | [] => .error (.notFound .onlyRow)
  | [row] => .ok row
  | rows => .error (.tooManyRows 1 rows.length)

/-- The only row mapped, or nothing when there is none. -/
def optionalRow {α : Type} (mapper : Row → Except Error α) : List Row → Except Error (Option α)
  | [] => .ok none
  | [row] => (mapper row).map some
  | rows => .error (.tooManyRows 1 rows.length)

/-- The count in the first row. -/
def countOf (rows : List Row) : Except Error Int64 :=
  match rows.head? with
  | some row => row.count
  | none => .error (.notFound .count)

namespace Client

/-- The first row that a statement gives. -/
def queryOne (sql : String) (values : List Value) : Session Row := do
  let rows ← query sql values
  Session.ofExcept (firstRow rows)

/-- The only row that a statement gives. -/
def queryOneStrict (sql : String) (values : List Value) : Session Row := do
  let rows ← query sql values
  Session.ofExcept (onlyRow rows)

/-- The first row that a statement gives, if it gives one. -/
def queryOptional (sql : String) (values : List Value) : Session (Option Row) := do
  let rows ← query sql values
  return rows.head?

/-- Tells that a rendered statement is executed. -/
def announce (r : Rendered) : Traced Unit :=
  emit (.executing .client r.parameters.size (shownSql (some defaultSqlLimit) r.sql))

/-- The rows of a rendered statement. -/
def queryRendered (r : Rendered) : Session (List Row) := do
  Session.ofTraced (announce r)
  query r.sql r.parameters.values

/-- How many rows a rendered statement affects. -/
def executeRendered (r : Rendered) : Session Nat := do
  Session.ofTraced (announce r)
  execute r.sql r.parameters.values

/-- The rows of a statement. -/
def rows (s : Statement) : Session (List Row) := do
  let r ← Session.ofTraced (s.render .postgres)
  queryRendered r

/-- The mapped rows of a statement. -/
def selectList {α : Type} (s : Statement) (mapper : Row → Except Error α) : Session (List α) := do
  let rows ← rows s
  Session.ofExcept (rows.mapM mapper)

/-- The only row of a statement mapped, or nothing when there is none. -/
def selectOne {α : Type} (s : Statement) (mapper : Row → Except Error α) :
    Session (Option α) := do
  let rows ← rows s
  Session.ofExcept (optionalRow mapper rows)

/-- The count that a statement gives. -/
def count (s : Statement) : Session Int64 := do
  let rows ← rows s
  Session.ofExcept (countOf rows)

/-- How many rows a statement affects. -/
def executeStatement (s : Statement) : Session Nat := do
  let r ← Session.ofTraced (s.render .postgres)
  executeRendered r

/-- How many rows each record of a batch affects.  The records are handed over together, and those
that are handed over are told. -/
def executeBatch (i : RecordsInsert) : Session (List Nat) := do
  let batch ← Session.ofTraced (i.renderBatch .postgres)
  let statements : List Sent :=
    batch.statements.map fun r => ⟨.execute, r.sql, r.parameters.values⟩
  Session.ofTraced ((batch.statements.take (Sent.handedOver statements).length).forM announce)
  let answers ← sendTogether statements
  return answers.map Answer.affected

end Client

end SqlComposer
