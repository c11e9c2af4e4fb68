import SqlComposer.Render.Scope

/-! # Closed queries

    A query is closed when none of its columns looks outside for a table: every column and every
    `*` in it, however deep, has a qualifier of its own or belongs to a table that a query block
    around it lists, inside the same select.  The tables in sight are carried along: a query block
    adds those that it reads, and a subquery in any of its clauses sees them, a derived table and
    the criteria of a join among them.

    A scope that lists a table ends the search for its qualifier (`qualifier?_of_lists`), whatever
    scopes lie outside. -/

namespace SqlComposer

/-- The names of the tables that a scope lists. -/
def Scope.names (scope : Scope) : List String := scope.tables.map (·.1)

/-- A column that has its own qualifier or belongs to one of the tables. -/
def Column.Closed (c : Column) (tables : List String) : Prop :=
  c.qualifier.isSome = true ∨ c.table ∈ tables

mutual

/-- An expression whose columns find their tables among the given ones, or inside. -/
def Expr.Closed : Expr → List String → Prop
  | .column c, tables => c.Closed tables
  | .allColumns table, tables => table ∈ tables
  | .count argument, tables => argument.Closed tables
  | .countDistinct argument, tables => argument.Closed tables
  | .call _ argument, tables => argument.Closed tables
  | .windowed inner window, tables => inner.Closed tables ∧ window.Closed tables
  | .caseOf operand branches otherwise, tables =>
    Expr.OptionClosed operand tables ∧ CaseBranch.AllClosed branches tables ∧
      Expr.OptionClosed otherwise tables
  | .subquery query, tables => query.ClosedIn tables
  | .aliased inner _, tables => inner.Closed tables
  | .constant _, _ => True
  | .stringConstant _, _ => True
  | .bound _, _ => True
  | .countAll, _ => True
  | .rowNumber, _ => True

/-- An expression that is closed if it is there. -/
def Expr.OptionClosed : Option Expr → List String → Prop
  | none, _ => True
  | some e, tables => e.Closed tables

/-- Expressions that are closed. -/
def Expr.AllClosed : List Expr → List String → Prop
  | [], _ => True
  | e :: rest, tables => e.Closed tables ∧ Expr.AllClosed rest tables

/-- A window whose partition is closed; its order names no tables. -/
def Window.Closed : Window → List String → Prop
  | ⟨partitionBy, _⟩, tables => Expr.AllClosed partitionBy tables

/-- A branch of a case expression that is closed. -/
def CaseBranch.Closed : CaseBranch → List String → Prop
  | .searched condition result, tables => condition.Closed tables ∧ result.Closed tables
  | .simple _ result, tables => result.Closed tables

/-- Branches of a case expression that are closed. -/
def CaseBranch.AllClosed : List CaseBranch → List String → Prop
  | [], _ => True
  | branch :: rest, tables => branch.Closed tables ∧ CaseBranch.AllClosed rest tables

/-- A test that is closed. -/
def Test.Closed : Test → List String → Prop
  | .values _ _, _ => True
  | .compareExpr _ right, tables => right.Closed tables
  | .compareQuery _ query, tables => query.ClosedIn tables
  | .memberOfQuery _ query, tables => query.ClosedIn tables

/-- A criterion that is closed, whether it drops out or not. -/
def Criterion.Closed : Criterion → List String → Prop
  | .test operand test, tables => operand.Closed tables ∧ test.Closed tables
  | .exists _ query, tables => query.ClosedIn tables
  | .group group, tables => group.Closed tables
  | .not group, tables => group.Closed tables

/-- An initial criterion that is closed if it is there. -/
def Criterion.InitialClosed : Option Criterion → List String → Prop
  | none, _ => True
  | some criterion, tables => criterion.Closed tables

/-- Criteria of a scope that are closed. -/
def CriteriaGroup.Closed : CriteriaGroup → List String → Prop
  | ⟨initial, links⟩, tables =>
    Criterion.InitialClosed initial tables ∧ CriteriaGroup.LinksClosed links tables

/-- Connected groups that are closed. -/
def CriteriaGroup.LinksClosed : List (Connector × CriteriaGroup) → List String → Prop
  | [], _ => True
  | (_, group) :: rest, tables => group.Closed tables ∧ CriteriaGroup.LinksClosed rest tables

/-- The criteria of a clause, closed if they are there. -/
def CriteriaGroup.OptionClosed : Option CriteriaGroup → List String → Prop
  | none, _ => True
  | some group, tables => group.Closed tables

/-- What a query block reads from, closed. -/
def Source.Closed : Source → List String → Prop
  | .table _ _, _ => True
  | .subquery query _, tables => query.ClosedIn tables

/-- A from clause that is closed if it is there. -/
def Source.OptionClosed : Option Source → List String → Prop
  | none, _ => True
  | some source, tables => source.Closed tables

/-- A join that is closed. -/
def Join.Closed : Join → List String → Prop
  | ⟨_, source, on⟩, tables => source.Closed tables ∧ on.Closed tables

/-- Joins that are closed. -/
def Join.AllClosed : List Join → List String → Prop
  | [], _ => True
  | join :: rest, tables => join.Closed tables ∧ Join.AllClosed rest tables

/-- A query block that is closed: its clauses see the tables that it lists, too. -/
def QueryBlock.ClosedIn : QueryBlock → List String → Prop
  | ⟨distinct, columns, source, joins, filter, groupBy, having⟩, outer =>
    let own := (QueryBlock.scope ⟨distinct, columns, source, joins, filter, groupBy, having⟩).names
    Expr.AllClosed columns (own ++ outer) ∧ Source.OptionClosed source (own ++ outer) ∧
      Join.AllClosed joins (own ++ outer) ∧ CriteriaGroup.OptionClosed filter (own ++ outer) ∧
      Expr.AllClosed groupBy (own ++ outer) ∧ CriteriaGroup.OptionClosed having (own ++ outer)

/-- Query blocks of unions that are closed, each for itself. -/
def QueryBlock.UnionsClosedIn : List (UnionKind × QueryBlock) → List String → Prop
  | [], _ => True
  | (_, block) :: rest, tables => block.ClosedIn tables ∧ QueryBlock.UnionsClosedIn rest tables

/-- A select whose columns find their tables among the given ones, or inside. -/
def Select.ClosedIn : Select → List String → Prop
  | ⟨first, unions, _, _, _, _⟩, tables =>
    first.ClosedIn tables ∧ QueryBlock.UnionsClosedIn unions tables

end

/-- A select that needs no table from outside. -/
def Select.Closed (q : Select) : Prop := q.ClosedIn []

/-! ## Searching for a qualifier -/

/-- A scope lists the tables that it names. -/
theorem Scope.lists_of_mem_names {scope : Scope} {table : String} (h : table ∈ scope.names) :
    scope.lists table = true := by
  obtain ⟨entry, hm, rfl⟩ := List.mem_map.mp h
  exact List.any_eq_true.mpr ⟨entry, hm, beq_self_eq_true _⟩

/-- A scope that lists a table says how it is qualified, perhaps not at all. -/
theorem Scope.resolve?_of_lists {scope : Scope} {table : String}
    (h : scope.lists table = true) : ∃ answer, scope.resolve? table = some answer := by
  unfold Scope.resolve?
  cases (scope.aliases table).getLast? with
  | some aliasName => exact ⟨_, rfl⟩
  | none => exact ⟨_, if_pos h⟩

/-- **A table that is listed is not looked for outside.** -/
theorem qualifier?_of_lists {inner : List Scope} {table : String}
    (h : ∃ scope ∈ inner, scope.lists table = true) (outer : List Scope) :
    qualifier? (inner ++ outer) table = qualifier? inner table := by
  obtain ⟨scope, hm, hl⟩ := h
  obtain ⟨answer, ha⟩ := Scope.resolve?_of_lists hl
  -- the search ends inside, with the answer of this scope at the latest
  have hs : (inner.findSome? (·.resolve? table)).isSome = true := by
    rw [List.findSome?_isSome_iff]
    exact ⟨scope, hm, by rw [ha]; rfl⟩
  obtain ⟨found, hf⟩ := Option.isSome_iff_exists.mp hs
  rw [qualifier?, qualifier?, List.findSome?_append, hf]
  rfl

/-- Scopes in which all of the given tables are listed. -/
def Scope.AllList (inner : List Scope) (tables : List String) : Prop :=
  ∀ table ∈ tables, ∃ scope ∈ inner, scope.lists table = true

theorem Scope.allList_nil : Scope.AllList [] [] := by
  intro table h
  cases h

/-- A scope adds its tables to those in sight. -/
theorem Scope.AllList.cons {inner : List Scope} {tables : List String}
    (h : Scope.AllList inner tables) (scope : Scope) :
    Scope.AllList (scope :: inner) (scope.names ++ tables) := by
  intro table hm
  rcases List.mem_append.mp hm with hm | hm
  · exact ⟨scope, List.mem_cons_self .., Scope.lists_of_mem_names hm⟩
  · obtain ⟨own, ho, hl⟩ := h table hm
    exact ⟨own, List.mem_cons_of_mem _ ho, hl⟩

/-- A closed column has one text, whatever scopes lie outside. -/
theorem Column.text_of_closed {c : Column} {inner : List Scope} {tables : List String}
    (hi : Scope.AllList inner tables) (h : c.Closed tables) (outer : List Scope) :
    c.text (inner ++ outer) = c.text inner := by
  rcases h with hq | ht
  · obtain ⟨qualifier, hq⟩ := Option.isSome_iff_exists.mp hq
    rw [Column.text, Column.text, hq, Option.some_or, Option.some_or]
  · rw [Column.text, Column.text, qualifier?_of_lists (hi c.table ht)]

end SqlComposer
