import SqlComposer.Statement.Query

/-! # Name scopes

A query block, an update and a delete open a scope that lists the tables they read.  A column takes
its qualifier from the innermost scope that lists its table: the alias given last, or the name of
the table where the scope has joins, or none.  A scope that lists a table without qualifying it ends
the search, so an alias outside does not reach inside. -/

namespace SqlComposer

/-- The tables of a scope with their aliases, and whether a table without alias qualifies its
columns. -/
structure Scope where
  tables : List (String × Option String)
  qualifies : Bool
  deriving DecidableEq, Repr

namespace Scope

/-- The scope of a single table. -/
def ofTable (table : String) (aliasName : Option String) : Scope := ⟨[(table, aliasName)], false⟩

/-- The aliases of a table, in the order in which they were given. -/
def aliases (scope : Scope) (table : String) : List String :=
  scope.tables.filterMap fun entry => if entry.1 = table then entry.2 else none

/-- Whether a scope lists a table. -/
def lists (scope : Scope) (table : String) : Bool := scope.tables.any (·.1 == table)

/-- What a scope says about a table: nothing when it does not list it, else its qualifier, which may
be none. -/
def resolve? (scope : Scope) (table : String) : Option (Option String) :=
  match (scope.aliases table).getLast? with
  | some aliasName => some (some aliasName)
  | none =>
    if scope.lists table then some (if scope.qualifies then some table else none) else none

end Scope

/-- The qualifier of a table in scopes, the innermost first. -/
def qualifier? (scopes : List Scope) (table : String) : Option String :=
  (scopes.findSome? (·.resolve? table)).join

/-- A column in scopes: its own qualifier goes before that of its table. -/
def Column.text (scopes : List Scope) (c : Column) : String :=
  match c.qualifier.or (qualifier? scopes c.table) with
  | some qualifier => qualifier ++ "." ++ c.name
  | none => c.name

/-- The table that a source names, with its alias. -/
def Source.table? : Source → Option (String × Option String)
  | .table name aliasName => some (name, aliasName)
  | .subquery _ _ => none

/-- The scope of a query block: the tables it reads, qualified when there are joins. -/
def QueryBlock.scope (block : QueryBlock) : Scope :=
  ⟨(block.source.toList ++ block.joins.map (·.source)).filterMap Source.table?,
    !block.joins.isEmpty⟩

end SqlComposer
