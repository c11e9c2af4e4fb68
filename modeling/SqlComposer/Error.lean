import SqlComposer.Statement.Query
import SqlComposer.Strategy

/-! # Errors

`InvalidSql` lists the causes for which a statement is not built or not rendered, `Error` everything
that can go wrong up to the rows of a result.  The wording is in `InvalidSql.message` and
`Error.display` only. -/

namespace SqlComposer

/-- The statements that a where clause or another part belongs to. -/
inductive FilteredStatement where
  | select | update | delete
  deriving DecidableEq, Repr

/-- The name of a statement with a where clause. -/
def FilteredStatement.name : FilteredStatement → String
  | .select => "select"
  | .update => "update"
  | .delete => "delete"

/-- Why a statement or expression is invalid. -/
inductive InvalidSql where
  | secondInitialCriterion
  | secondFrom
  | secondWhere (statement : FilteredStatement)
  | secondHaving
  | emptyGroupBy
  | emptyOrderBy
  | emptyJoinCondition
  | secondLock
  | waitWithoutLock (wait : LockWait)
  | secondWait
  | selectWithoutColumns
  | limitAndFetchFirst
  | subqueryWithoutSelect
  | subqueryWithSeveralSelects
  | multiSelectStartedTwice
  | unionWithoutSelect (kind : UnionKind)
  | multiSelectWithoutSelect
  | secondElse
  | secondThen
  | branchWithoutCondition
  | branchWithoutResult
  | branchWithoutValues
  | caseWithoutBranches
  | caseConditionDroppedOut
  | emptyInList
  | updateWithoutSets
  | updateWithoutValues
  | insertWithoutMappings
  | insertWithoutValues
  | optionalPropertyInSeveralRecords
  | multiRowWithoutRecords
  | batchWithoutRecords
  | missingProperty (path : String)
  | insertSelectColumn
  | secondInsertSelect
  | insertWithoutSelect
  | unsupportedStrategy (strategy : Strategy)
  | missingParameter (name : String)
  | keyHolderWithoutColumns
  | custom (message : String)
  deriving DecidableEq, Repr

/-- The wording of a cause. -/
def InvalidSql.message : InvalidSql → String
  | .secondInitialCriterion =>
    "an initial criterion is already set in this scope; use and/or to add more criteria"
  | .secondFrom => "from is already set for this select"
  | .secondWhere statement =>
    "where is already set for this " ++ statement.name ++ "; use and/or to add criteria"
  | .secondHaving => "having is already set for this select; use and/or to add criteria"
  | .emptyGroupBy => "group by requires at least one column"
  | .emptyOrderBy => "order by requires at least one column"
  | .emptyJoinCondition => "a join requires at least one on condition"
  | .secondLock => "a lock mode is already set for this select"
  | .waitWithoutLock wait => wait.text ++ " requires a lock mode such as for update"
  | .secondWait => "only one of skip locked or nowait may be set"
  | .selectWithoutColumns => "a select requires at least one column"
  | .limitAndFetchFirst => "limit and fetch first cannot be combined"
  | .subqueryWithoutSelect => "a subquery requires a select"
  | .subqueryWithSeveralSelects => "a subquery may contain only one select"
  | .multiSelectStartedTwice =>
    "a multi-select may only start with one select; use union or union_all"
  | .unionWithoutSelect kind => kind.text ++ " requires a preceding select"
  | .multiSelectWithoutSelect => "a multi-select requires at least one select"
  | .secondElse => "else is already set for this case expression"
  | .secondThen => "then is already set for this case when branch"
  | .branchWithoutCondition => "a case when branch requires a condition"
  | .branchWithoutResult => "a case when branch requires a then value"
  | .branchWithoutValues => "a case when branch requires at least one value"
  | .caseWithoutBranches => "a case expression requires at least one when"
  | .caseConditionDroppedOut => "a case when condition rendered nothing"
  | .emptyInList => "an in condition requires at least one value"
  | .updateWithoutSets => "an update requires at least one set clause"
  | .updateWithoutValues => "an update requires at least one set clause with a value"
  | .insertWithoutMappings => "an insert requires at least one column mapping"
  | .insertWithoutValues => "an insert requires at least one column with a value"
  | .optionalPropertyInSeveralRecords =>
    "to_property_when_present is only supported for single record inserts"
  | .multiRowWithoutRecords => "a multi-row insert requires at least one record"
  | .batchWithoutRecords => "a batch insert requires at least one record"
  | .missingProperty path => "record has no property '" ++ path ++ "'"
  | .insertSelectColumn => "insert select columns must be table columns"
  | .secondInsertSelect => "select is already set for this insert"
  | .insertWithoutSelect => "an insert select requires a select"
  | .unsupportedStrategy strategy =>
    "statements rendered with the " ++ strategy.name ++
      " strategy cannot be executed by a named parameter template"
  | .missingParameter name => "no value supplied for parameter '" ++ name ++ "'"
  | .keyHolderWithoutColumns => "a key holder requires at least one key column"
  | .custom message => message

/-- What was looked for and not found. -/
inductive NotFound where
  | firstRow
  | onlyRow
  | count
  | generatedKeys
  | custom (message : String)
  deriving DecidableEq, Repr

/-- The wording of what was not found. -/
def NotFound.message : NotFound → String
  | .firstRow => "Expected one row, got none"
  | .onlyRow => "Expected 1 row, got 0"
  | .count => "count returned no rows"
  | .generatedKeys => "no generated keys were returned"
  | .custom message => message

/-- Everything that can go wrong. -/
inductive Error where
  | invalidSql (cause : InvalidSql)
  | nonRenderingWhereClause
  | connection (message : String)
  | query (message : String)
  | notFound (what : NotFound)
  | tooManyRows (expected got : Nat)
  | decode (column message : String)
  | serialization (message : String)
  | pool (message : String)
  deriving DecidableEq, Repr

namespace Error

/-- The text of an error. -/
def display : Error → String
  | .invalidSql cause => "Invalid SQL: " ++ cause.message
  | .nonRenderingWhereClause =>
    "All conditions in the where clause were dropped; set is_non_rendering_where_clause_allowed " ++
      "to permit this"
  | .connection message => "Connection error: " ++ message
  | .query message => "Query error: " ++ message
  | .notFound what => "Not found: " ++ what.message
  | .tooManyRows expected got =>
    "Too many rows: expected " ++ toString expected ++ ", got " ++ toString got
  | .decode column message => "Decode error on column '" ++ column ++ "': " ++ message
  | .serialization message => "Serialization error: " ++ message
  | .pool message => "Pool error: " ++ message

/-- Whether the statement is at fault. -/
def isInvalidSql : Error → Bool
  | .invalidSql _ => true
  | .nonRenderingWhereClause => true
  | _ => false

/-- Whether a row was missing. -/
def isNotFound : Error → Bool
  | .notFound _ => true
  | _ => false

/-- The error of a statement that the server refuses.  Codes of class 08 are about the
connection. -/
def ofServer (code message : String) : Error :=
  if code.toList.take 2 = ['0', '8'] then .connection message else .query message

end Error

end SqlComposer
