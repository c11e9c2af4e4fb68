import SqlComposer.Value.Basic

/-! # Columns and sort orders

A column knows its table; an alias, a qualifier and a JDBC type may be added to it.  A sort order
names what it sorts by: the alias of a column when it has one, else its name. -/

namespace SqlComposer

/-- A column of a table. -/
structure Column where
  name : String
  table : String
  qualifier : Option String
  aliasName : Option String
  jdbcType : Option JdbcType
  descending : Bool
  deriving DecidableEq, Repr

namespace Column

/-- A column without alias, qualifier and JDBC type. -/
def ofTable (table name : String) : Column := ⟨name, table, none, none, none, false⟩

/-- The column with the JDBC type of a column type. -/
def typedAs (c : Column) (type : ValueType) : Column := { c with jdbcType := type.jdbcType? }

/-- The column with a JDBC type. -/
def withJdbcType (c : Column) (type : JdbcType) : Column := { c with jdbcType := some type }

/-- The column with a qualifier of its own. -/
def qualifiedWith (c : Column) (qualifier : String) : Column :=
  { c with qualifier := some qualifier }

/-- The column under an alias. -/
def withAlias (c : Column) (aliasName : String) : Column := { c with aliasName := some aliasName }

/-- The column in descending order. -/
def inDescendingOrder (c : Column) : Column := { c with descending := true }

end Column

/-- What rows are sorted by. -/
structure SortSpec where
  name : String
  descending : Bool
  deriving DecidableEq, Repr

namespace SortSpec

/-- The order by a column, under its alias when it has one. -/
def ofColumn (c : Column) : SortSpec := ⟨c.aliasName.getD c.name, c.descending⟩

/-- The ascending order by a name. -/
def named (name : String) : SortSpec := ⟨name, false⟩

/-- The same order downwards. -/
def inDescendingOrder (s : SortSpec) : SortSpec := { s with descending := true }

/-- The text of a sort order; ascending is not written. -/
def text (s : SortSpec) : String := if s.descending then s.name ++ " DESC" else s.name

end SortSpec

end SqlComposer
