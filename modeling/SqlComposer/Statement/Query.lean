import SqlComposer.Statement.Column
import SqlComposer.Statement.Condition
import SqlComposer.Statement.Config

/-! # Queries

Expressions, criteria and selects contain each other, so their types are one mutual family.  A
select is one query block or several connected by unions, with an order, paging and a lock that hold
for the whole. -/

namespace SqlComposer

/-- Functions of one argument. -/
inductive UnaryFunction where
  | max | min | avg | sum | upper | lower
  deriving DecidableEq, Repr

/-- The name of a function in SQL. -/
def UnaryFunction.name : UnaryFunction → String
  | .max => "max"
  | .min => "min"
  | .avg => "avg"
  | .sum => "sum"
  | .upper => "upper"
  | .lower => "lower"

/-- How criteria of one scope are connected. -/
inductive Connector where
  | and
  | or
  deriving DecidableEq, Repr

/-- The connector in SQL. -/
def Connector.text : Connector → String
  | .and => "and"
  | .or => "or"

/-- The joins of two tables. -/
inductive JoinType where
  | inner | left | right | full
  deriving DecidableEq, Repr

/-- The join in SQL. -/
def JoinType.text : JoinType → String
  | .inner => "join"
  | .left => "left join"
  | .right => "right join"
  | .full => "full join"

/-- The unions of two queries. -/
inductive UnionKind where
  | union
  | unionAll
  deriving DecidableEq, Repr

/-- The union in SQL. -/
def UnionKind.text : UnionKind → String
  | .union => "union"
  | .unionAll => "union all"

/-- The strengths of a row lock. -/
inductive LockMode where
  | update | noKeyUpdate | share | keyShare
  deriving DecidableEq, Repr

/-- The row lock in SQL. -/
def LockMode.text : LockMode → String
  | .update => "for update"
  | .noKeyUpdate => "for no key update"
  | .share => "for share"
  | .keyShare => "for key share"

/-- What is done about rows that are locked already. -/
inductive LockWait where
  | skipLocked
  | nowait
  deriving DecidableEq, Repr

/-- The treatment of locked rows in SQL. -/
def LockWait.text : LockWait → String
  | .skipLocked => "skip locked"
  | .nowait => "nowait"

/-- A row lock, and perhaps what is done about rows locked already. -/
structure Lock where
  mode : LockMode
  wait : Option LockWait
  deriving DecidableEq, Repr

/-- Which part of the rows is wanted. -/
structure Paging where
  limit : Option Int64 := none
  offset : Option Int64 := none
  fetchFirst : Option Int64 := none
  deriving DecidableEq, Repr

mutual

/-- An expression that can be selected or compared. -/
inductive Expr where
  | column (column : Column)
  | allColumns (table : String)
  | constant (text : String)
  | stringConstant (text : String)
  | bound (value : Value)
  | countAll
  | count (argument : Expr)
  | countDistinct (argument : Expr)
  | call (function : UnaryFunction) (argument : Expr)
  | rowNumber
  | windowed (inner : Expr) (window : Window)
  | caseOf (operand : Option Expr) (branches : List CaseBranch) (otherwise : Option Expr)
  | subquery (query : Select)
  | aliased (inner : Expr) (aliasName : String)

/-- The rows that a window function sees, and their order. -/
structure Window where
  partitionBy : List Expr
  orderBy : List SortSpec

/-- A branch of a case expression: with a criterion of its own, or with values of the operand. -/
inductive CaseBranch where
  | searched (condition : CriteriaGroup) (result : Expr)
  | simple (values : List Value) (result : Expr)

/-- What an operand is tested for. -/
inductive Test where
  | values (kind : ConditionKind) (ignoreCase : Bool)
  | compareExpr (op : CompareOp) (right : Expr)
  | compareQuery (op : CompareOp) (query : Select)
  | memberOfQuery (negated : Bool) (query : Select)

/-- One criterion of a scope. -/
inductive Criterion where
  | test (operand : Expr) (test : Test)
  | exists (negated : Bool) (query : Select)
  | group (group : CriteriaGroup)
  | not (group : CriteriaGroup)

/-- The criteria of a scope: an initial one, and groups connected to it. -/
structure CriteriaGroup where
  initial : Option Criterion
  links : List (Connector × CriteriaGroup)

/-- What a query block reads from. -/
inductive Source where
  | table (name : String) (aliasName : Option String)
  | subquery (query : Select) (aliasName : String)

/-- A joined source and its criteria. -/
structure Join where
  type : JoinType
  source : Source
  on : CriteriaGroup

/-- A query without order and paging. -/
structure QueryBlock where
  distinct : Bool
  columns : List Expr
  source : Option Source
  joins : List Join
  filter : Option CriteriaGroup
  groupBy : List Expr
  having : Option CriteriaGroup

/-- A query: a block or a union of blocks, with order, paging, lock and configuration. -/
structure Select where
  first : QueryBlock
  unions : List (UnionKind × QueryBlock)
  orderBy : List SortSpec
  paging : Paging
  lock : Option Lock
  config : Config

end

namespace Expr

/-- The expression under an alias, which replaces an alias that it has. -/
def withAlias (aliasName : String) : Expr → Expr
  | .column c => .column (c.withAlias aliasName)
  | .aliased inner _ => .aliased inner aliasName
  | e => .aliased e aliasName

/-- The expression over a window; an alias stays outside. -/
def overWindow (window : Window) : Expr → Expr
  | .aliased inner aliasName => .aliased (overWindow window inner) aliasName
  | e => .windowed e window

/-- Whether an expression is a plain column, under an alias or not. -/
def isColumn : Expr → Bool
  | .column _ => true
  | _ => false

/-- The alias of an expression. -/
def alias? : Expr → Option String
  | .column c => c.aliasName
  | .aliased _ aliasName => some aliasName
  | _ => none

/-- The JDBC type of the values of an expression, as far as its columns tell. -/
def jdbcType? : Expr → Option JdbcType
  | .column c => c.jdbcType
  | .call _ argument => jdbcType? argument
  | .windowed inner _ => jdbcType? inner
  | .aliased inner _ => jdbcType? inner
  | _ => none

end Expr

namespace CriteriaGroup

/-- The group without criteria. -/
def empty : CriteriaGroup := ⟨none, []⟩

/-- Whether a group has no criteria. -/
def isEmpty (g : CriteriaGroup) : Bool := g.initial.isNone && g.links.isEmpty

end CriteriaGroup

/-- Whether a test drops out because a value of it is absent. -/
def Test.dropsOut : Test → Bool
  | .values kind _ => kind.dropsOut
  | _ => false

/-- The test that a condition makes. -/
def ConditionOn.test {type : ValueType} (c : ConditionOn type) : Test := .values c.kind c.ignoreCase

/-- The test that a condition makes, whatever its type is. -/
def Condition.test (c : Condition) : Test := c.condition.test

/-- A query block that selects columns and nothing else. -/
def QueryBlock.ofColumns (distinct : Bool) (columns : List Expr) : QueryBlock :=
  ⟨distinct, columns, none, [], none, [], none⟩

end SqlComposer
