import SqlComposer.Statement.Mutation

/-! # Calls

A statement is composed by a list of calls.  Calls that take criteria or a subquery hold the calls
that compose these; expressions in calls are finished. -/

namespace SqlComposer

mutual

/-- A call on the criteria of a scope. -/
inductive CriteriaCall where
  | test (operand : Expr) (test : Test)
  | compareQuery (operand : Expr) (op : CompareOp) (query : List SubqueryCall)
  | memberOfQuery (operand : Expr) (negated : Bool) (query : List SubqueryCall)
  | exists (negated : Bool) (query : List SubqueryCall)
  | group (calls : List CriteriaCall)
  | not (calls : List CriteriaCall)
  | link (connector : Connector) (calls : List CriteriaCall)
  | groupAll (links : List (Connector × CriteriaGroup))
  | notAll (links : List (Connector × CriteriaGroup))
  | linkAll (connector : Connector) (links : List (Connector × CriteriaGroup))

/-- A call on a subquery: a select of columns, composed by calls. -/
structure SubqueryCall where
  distinct : Bool
  columns : List Expr
  calls : List SelectCall

/-- A call on a select.  A count that is not present changes nothing. -/
inductive SelectCall where
  | source (table : String) (aliasName : Option String)
  | sourceQuery (query : List SubqueryCall) (aliasName : String)
  | join (type : JoinType) (table : String) (aliasName : Option String) (on : List CriteriaCall)
  | joinQuery (type : JoinType) (query : List SubqueryCall) (aliasName : String)
      (on : List CriteriaCall)
  | filter (calls : List CriteriaCall)
  | groupBy (columns : List Expr)
  | having (calls : List CriteriaCall)
  | union (kind : UnionKind) (distinct : Bool) (columns : List Expr)
  | orderBy (specs : List SortSpec)
  | limit (count : Option Int64)
  | offset (count : Option Int64)
  | fetchFirst (count : Option Int64)
  | lock (mode : LockMode)
  | wait (wait : LockWait)
  | configure (calls : List ConfigCall)

end

/-- A call on a union of selects. -/
inductive MultiSelectCall where
  | select (call : SubqueryCall)
  | union (kind : UnionKind) (query : List SubqueryCall)
  | orderBy (specs : List SortSpec)
  | limit (count : Int64)
  | offset (count : Int64)
  | fetchFirst (count : Int64)
  | configure (calls : List ConfigCall)

/-- A call on one branch of a case expression with criteria. -/
inductive WhenCall where
  | criteria (call : CriteriaCall)
  | result (e : Expr)

/-- A call on a case expression whose branches have criteria. -/
inductive SearchedCaseCall where
  | branch (calls : List WhenCall)
  | otherwise (e : Expr)

/-- A call on a case expression whose branches have values of an operand. -/
inductive SimpleCaseCall where
  | branch (values : List Value) (result : Expr)
  | otherwise (e : Expr)

/-- A call on an update. -/
inductive UpdateCall where
  | set (column : Column) (value : SetValue)
  | setQuery (column : Column) (query : List SubqueryCall)
  | filter (calls : List CriteriaCall)
  | orderBy (specs : List SortSpec)
  | limit (count : Option Int64)
  | configure (calls : List ConfigCall)

/-- A call on a delete. -/
inductive DeleteCall where
  | filter (calls : List CriteriaCall)
  | orderBy (specs : List SortSpec)
  | limit (count : Option Int64)
  | configure (calls : List ConfigCall)

/-- A call on an insert whose columns take values of type `α`. -/
inductive InsertCall (α : Type) where
  | set (column : Column) (value : α)
  | configure (calls : List ConfigCall)

/-- A call on an insert of the rows of a select. -/
inductive InsertSelectCall where
  | columns (columns : List Expr)
  | select (columns : List Expr) (calls : List SelectCall)
  | configure (calls : List ConfigCall)

end SqlComposer
