import SqlComposer.Event
import SqlComposer.Render.Statement

/-! # Rendered statements

A rendered statement is its text, its parameters and the strategy they are for.  A batch is one text
with parameters for each record, numbered anew.  Rendering that succeeds tells one event, rendering
that fails none. -/

namespace SqlComposer

/-- A statement ready to be executed. -/
structure Rendered where
  verb : Verb
  sql : String
  parameters : ParameterMap
  strategy : Strategy

/-- A batch ready to be executed: one text, and the parameters of each record. -/
structure RenderedBatch where
  sql : String
  records : List ParameterMap
  strategy : Strategy

/-- A whole render pass for a strategy: the text that a part gives, with its parameters. -/
def Rendering.rendered (part : Rendering String) (verb : Verb) (strategy : Strategy) :
    Except Error Rendered :=
  let (result, context) := part.outcome (.initial strategy)
  result.map fun sql => ⟨verb, sql, context.parameters, strategy⟩

/-- The JSON text of a rendered statement. -/
def Rendered.jsonText (r : Rendered) : String :=
  Json.braced
    [(r.verb.name ++ "_statement", Json.quoted r.sql), ("parameters", r.parameters.jsonText)]

/-- The JSON text of a rendered batch. -/
def RenderedBatch.jsonText (b : RenderedBatch) : String :=
  Json.braced
    [("insert_statement", Json.quoted b.sql),
      ("records", Json.bracketed (b.records.map ParameterMap.jsonText))]

/-- The statements of a batch, one for each record. -/
def RenderedBatch.statements (b : RenderedBatch) : List Rendered :=
  b.records.map fun parameters => ⟨.insert, b.sql, parameters, b.strategy⟩

/-- A statement rendered with a strategy. -/
def Statement.rendered (s : Statement) (strategy : Strategy) : Except Error Rendered :=
  s.text.rendered s.verb strategy

/-- A batch rendered with a strategy: the text of the first record, the parameters of all. -/
def RecordsInsert.renderedBatch (i : RecordsInsert) (strategy : Strategy) :
    Except Error RenderedBatch := do
  let statements ← i.records.mapM fun record => (i.renderRecord record).rendered .insert strategy
  return ⟨(statements.head?.map (·.sql)).getD "", statements.map (·.parameters), strategy⟩

/-- Renders a statement and tells so. -/
def Statement.render (s : Statement) (strategy : Strategy) : Traced Rendered := do
  let r ← liftM (s.rendered strategy)
  emit (.rendered s.kind strategy r.parameters.size r.sql.utf8ByteSize)
  return r

/-- Renders a batch and tells so. -/
def RecordsInsert.renderBatch (i : RecordsInsert) (strategy : Strategy) : Traced RenderedBatch := do
  let b ← liftM (i.renderedBatch strategy)
  emit (.rendered "insert_batch" strategy b.records.length b.sql.utf8ByteSize)
  return b

end SqlComposer
