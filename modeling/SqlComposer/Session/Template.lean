import SqlComposer.Placeholder
import SqlComposer.Session.Client

/-! # Templates for named parameters

A template executes statements whose parameters have names: it numbers the placeholders, tells the
statement it is going to execute, and hands it over.  Statements with numbered placeholders go
through unchanged; those of other strategies are refused. -/

namespace SqlComposer

/-- How much of a statement a template shows in events. -/
structure TemplateConfig where
  sqlLimit : Option Nat := some defaultSqlLimit
  deriving DecidableEq, Repr

/-- A template that executes statements with named parameters. -/
structure Template where
  config : TemplateConfig := {}

namespace Template

/-- The strategy of the statements that a template renders. -/
def strategy : Strategy := .spring

/-- A statement with numbered placeholders and its values. -/
def positional (sql : String) (parameters : ParameterMap) :
    Strategy → Except Error Positional
  | .spring => (Positional.ofNamed sql parameters).mapError Error.invalidSql
  | .postgres => .ok ⟨sql, parameters.values⟩
  | other => .error (.invalidSql (.unsupportedStrategy other))

/-- A statement ready to be handed over, which is told. -/
def prepare (t : Template) (sql : String) (parameters : ParameterMap) (strategy : Strategy) :
    Session Positional := do
  let p ← Session.ofExcept (positional sql parameters strategy)
  Session.ofTraced
    (emit (.executing .template p.values.length (shownSql t.config.sqlLimit p.sql)))
  return p

/-- The rows that a statement gives. -/
def queryWith (t : Template) (sql : String) (parameters : ParameterMap) (strategy : Strategy) :
    Session (List Row) := do
  let p ← t.prepare sql parameters strategy
  query p.sql p.values

/-- How many rows a statement affects. -/
def executeWith (t : Template) (sql : String) (parameters : ParameterMap) (strategy : Strategy) :
    Session Nat := do
  let p ← t.prepare sql parameters strategy
  execute p.sql p.values

/-- The rows that a text with named parameters gives. -/
def queryNamed (t : Template) (sql : String) (parameters : ParameterMap) : Session (List Row) :=
  t.queryWith sql parameters strategy

/-- How many rows a text with named parameters affects. -/
def executeNamed (t : Template) (sql : String) (parameters : ParameterMap) : Session Nat :=
  t.executeWith sql parameters strategy

/-- The rows of a rendered statement. -/
def query (t : Template) (r : Rendered) : Session (List Row) :=
  t.queryWith r.sql r.parameters r.strategy

/-- How many rows a rendered statement affects. -/
def execute (t : Template) (r : Rendered) : Session Nat :=
  t.executeWith r.sql r.parameters r.strategy

/-- The count that a rendered statement gives. -/
def count (t : Template) (r : Rendered) : Session Int64 := do
  let rows ← t.query r
  Session.ofExcept (countOf rows)

/-- The mapped rows of a rendered statement. -/
def selectList {α : Type} (t : Template) (r : Rendered) (mapper : Row → Except Error α) :
    Session (List α) := do
  let rows ← t.query r
  Session.ofExcept (rows.mapM mapper)

/-- The only row of a rendered statement mapped, or nothing when there is none. -/
def selectOne {α : Type} (t : Template) (r : Rendered) (mapper : Row → Except Error α) :
    Session (Option α) := do
  let rows ← t.query r
  Session.ofExcept (optionalRow mapper rows)

/-- How many rows each record of a rendered batch affects; the first failure ends the batch. -/
def executeBatch (t : Template) (batch : RenderedBatch) : Session (List Nat) :=
  batch.records.mapM fun parameters => t.executeWith batch.sql parameters batch.strategy

/-- A statement rendered for a template. -/
def render (s : Statement) : Session Rendered := Session.ofTraced (s.render strategy)

/-- A composed statement rendered for a template. -/
def renderBuilt (s : Except Error Statement) : Session Rendered := do
  let s ← Session.ofExcept s
  render s

/-- How many rows a composed statement affects. -/
def executeBuilt (t : Template) (s : Except Error Statement) : Session Nat := do
  let r ← renderBuilt s
  t.execute r

/-- The count that a composed statement gives. -/
def countBuilt (t : Template) (s : Except Error Statement) : Session Int64 := do
  let r ← renderBuilt s
  t.count r

/-- The mapped rows of a composed statement. -/
def selectListBuilt {α : Type} (t : Template) (s : Except Error Statement)
    (mapper : Row → Except Error α) : Session (List α) := do
  let r ← renderBuilt s
  t.selectList r mapper

/-- The only row of a composed statement mapped, or nothing when there is none. -/
def selectOneBuilt {α : Type} (t : Template) (s : Except Error Statement)
    (mapper : Row → Except Error α) : Session (Option α) := do
  let r ← renderBuilt s
  t.selectOne r mapper

/-- How many rows each record of a composed batch affects. -/
def executeBuiltBatch (t : Template) (i : Except Error RecordsInsert) : Session (List Nat) := do
  let i ← Session.ofExcept i
  let batch ← Session.ofTraced (i.renderBatch strategy)
  t.executeBatch batch

end Template

end SqlComposer
