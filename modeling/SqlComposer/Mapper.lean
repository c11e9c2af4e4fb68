import SqlComposer.Build.Statement
import SqlComposer.Render.Rendered

/-! # Mapped statements

Statements composed on a table and rendered with the placeholders of a mapper.  The counts and
selects read from the table before their own calls are made. -/

namespace SqlComposer

namespace Mapper

/-- The strategy of mapped statements. -/
def strategy : Strategy := .mybatis

/-- A composed statement rendered for a mapper. -/
def render (s : Except Error Statement) : Except Error Rendered := do
  let s ← s
  s.rendered strategy

/-- A composed select as a statement. -/
def ofSelect (query : Except InvalidSql Select) : Except Error Statement :=
  orInvalidSql (query.map Statement.select)

/-- A select of columns from a table. -/
def selectFrom (distinct : Bool) (columns : List Expr) (table : String)
    (calls : List SelectCall) : Except Error Statement :=
  ofSelect (Select.build distinct columns (.source table none :: calls))

/-- The count of the values of an expression in a table. -/
def count (e : Expr) (table : String) (calls : List SelectCall) : Except Error Statement :=
  ofSelect (Select.count e (.source table none :: calls))

/-- The count of the different values of an expression in a table. -/
def countDistinct (e : Expr) (table : String) (calls : List SelectCall) :
    Except Error Statement :=
  ofSelect (Select.countDistinct e (.source table none :: calls))

/-- The statements of a composed batch, one for each record. -/
def renderBatch (i : Except Error RecordsInsert) : Except Error (List Rendered) := do
  let i ← i
  let batch ← i.renderedBatch strategy
  return batch.statements

/-- Hands the statements of a composed batch to a mapper, one after the other, and gives what the
mapper returns for each.  The mapper may keep a state. -/
def insertBatch {σ R : Type} (mapper : Rendered → StateM σ R) (i : Except Error RecordsInsert) :
    ExceptT Error (StateM σ) (List R) := do
  let statements ← ExceptT.mk (pure (renderBatch i))
  liftM (statements.mapM mapper)

end Mapper

end SqlComposer
