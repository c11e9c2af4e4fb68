import SqlComposer.Proofs.StringLiterals
import SqlComposer.Statement.Mutation

/-! # Statements with a string constant replaced

    `Expr.Replaced s s' e e' n` says that `e'` is `e` with string constants `s` in it replaced by
    `s'`, at most `n` of them, and nothing else changed; one relation for each kind of part.  A part
    stays as it is (`same`), or it has the form that it had and constants are replaced in the parts
    that it holds; then the bounds of these sum up (`Sums`, `Lifts`).  So bound one is one replaced
    constant, wherever in a statement it stands.

    What decides about the rendering of other parts is not touched: the type and the alias of an
    expression, whether a test drops out, and the tables in scope. -/

namespace SqlComposer

/-! ## Queries -/

mutual

/-- An expression with string constants replaced. -/
inductive Expr.Replaced (s s' : String) : Expr → Expr → Nat → Prop
  | same {n : Nat} (e : Expr) : Expr.Replaced s s' e e n
  | stringConstant {n : Nat} :
    Expr.Replaced s s' (.stringConstant s) (.stringConstant s') (n + 1)
  | count {n : Nat} {e e' : Expr} (argument : Expr.Replaced s s' e e' n) :
    Expr.Replaced s s' (.count e) (.count e') n
  | countDistinct {n : Nat} {e e' : Expr} (argument : Expr.Replaced s s' e e' n) :
    Expr.Replaced s s' (.countDistinct e) (.countDistinct e') n
  | call {n : Nat} {e e' : Expr} (function : UnaryFunction)
    (argument : Expr.Replaced s s' e e' n) :
    Expr.Replaced s s' (.call function e) (.call function e') n
  | windowed {n m : Nat} {e e' : Expr} {w w' : Window} (inner : Expr.Replaced s s' e e' n)
    (window : Window.Replaced s s' w w' m) :
    Expr.Replaced s s' (.windowed e w) (.windowed e' w') (n + m)
  | caseOf {n m k : Nat} {operand operand' otherwise otherwise' : Option Expr}
    {branches branches' : List CaseBranch}
    (operands : Lifts (Expr.Replaced s s') operand operand' n)
    (whens : Sums (CaseBranch.Replaced s s') branches branches' m)
    (elses : Lifts (Expr.Replaced s s') otherwise otherwise' k) :
    Expr.Replaced s s' (.caseOf operand branches otherwise) (.caseOf operand' branches' otherwise')
      (n + m + k)
  | subquery {n : Nat} {q q' : Select} (query : Select.Replaced s s' q q' n) :
    Expr.Replaced s s' (.subquery q) (.subquery q') n
  | aliased {n : Nat} {e e' : Expr} (inner : Expr.Replaced s s' e e' n) (aliasName : String) :
    Expr.Replaced s s' (.aliased e aliasName) (.aliased e' aliasName) n

/-- A window with string constants replaced. -/
inductive Window.Replaced (s s' : String) : Window → Window → Nat → Prop
  | same {n : Nat} (w : Window) : Window.Replaced s s' w w n
  | mk {n : Nat} {es es' : List Expr} (columns : Sums (Expr.Replaced s s') es es' n)
    (orderBy : List SortSpec) : Window.Replaced s s' ⟨es, orderBy⟩ ⟨es', orderBy⟩ n

/-- A branch of a case expression with string constants replaced. -/
inductive CaseBranch.Replaced (s s' : String) : CaseBranch → CaseBranch → Nat → Prop
  | searched {n m : Nat} {g g' : CriteriaGroup} {e e' : Expr}
    (condition : CriteriaGroup.Replaced s s' g g' n) (result : Expr.Replaced s s' e e' m) :
    CaseBranch.Replaced s s' (.searched g e) (.searched g' e') (n + m)
  | simple {n : Nat} {e e' : Expr} (values : List Value) (result : Expr.Replaced s s' e e' n) :
    CaseBranch.Replaced s s' (.simple values e) (.simple values e') n

/-- A test with string constants replaced. -/
inductive Test.Replaced (s s' : String) : Test → Test → Nat → Prop
  | values {n : Nat} (kind : ConditionKind) (ignoreCase : Bool) :
    Test.Replaced s s' (.values kind ignoreCase) (.values kind ignoreCase) n
  | compareExpr {n : Nat} {e e' : Expr} (op : CompareOp) (right : Expr.Replaced s s' e e' n) :
    Test.Replaced s s' (.compareExpr op e) (.compareExpr op e') n
  | compareQuery {n : Nat} {q q' : Select} (op : CompareOp) (query : Select.Replaced s s' q q' n) :
    Test.Replaced s s' (.compareQuery op q) (.compareQuery op q') n
  | memberOfQuery {n : Nat} {q q' : Select} (negated : Bool)
    (query : Select.Replaced s s' q q' n) :
    Test.Replaced s s' (.memberOfQuery negated q) (.memberOfQuery negated q') n

/-- A criterion with string constants replaced. -/
inductive Criterion.Replaced (s s' : String) : Criterion → Criterion → Nat → Prop
  | same {n : Nat} (k : Criterion) : Criterion.Replaced s s' k k n
  | test {n m : Nat} {e e' : Expr} {t t' : Test} (operand : Expr.Replaced s s' e e' n)
    (test : Test.Replaced s s' t t' m) :
    Criterion.Replaced s s' (.test e t) (.test e' t') (n + m)
  | exists {n : Nat} {q q' : Select} (negated : Bool) (query : Select.Replaced s s' q q' n) :
    Criterion.Replaced s s' (.exists negated q) (.exists negated q') n
  | group {n : Nat} {g g' : CriteriaGroup} (group : CriteriaGroup.Replaced s s' g g' n) :
    Criterion.Replaced s s' (.group g) (.group g') n
  | not {n : Nat} {g g' : CriteriaGroup} (group : CriteriaGroup.Replaced s s' g g' n) :
    Criterion.Replaced s s' (.not g) (.not g') n

/-- Criteria with string constants replaced. -/
inductive CriteriaGroup.Replaced (s s' : String) : CriteriaGroup → CriteriaGroup → Nat → Prop
  | same {n : Nat} (g : CriteriaGroup) : CriteriaGroup.Replaced s s' g g n
  | mk {n m : Nat} {initial initial' : Option Criterion}
    {links links' : List (Connector × CriteriaGroup)}
    (first : Lifts (Criterion.Replaced s s') initial initial' n)
    (others : Sums (Tagged (CriteriaGroup.Replaced s s')) links links' m) :
    CriteriaGroup.Replaced s s' ⟨initial, links⟩ ⟨initial', links'⟩ (n + m)

/-- What a query block reads from, with string constants replaced. -/
inductive Source.Replaced (s s' : String) : Source → Source → Nat → Prop
  | same {n : Nat} (source : Source) : Source.Replaced s s' source source n
  | subquery {n : Nat} {q q' : Select} (query : Select.Replaced s s' q q' n) (aliasName : String) :
    Source.Replaced s s' (.subquery q aliasName) (.subquery q' aliasName) n

/-- A join with string constants replaced. -/
inductive Join.Replaced (s s' : String) : Join → Join → Nat → Prop
  | same {n : Nat} (j : Join) : Join.Replaced s s' j j n
  | mk {n m : Nat} {source source' : Source} {on on' : CriteriaGroup} (type : JoinType)
    (table : Source.Replaced s s' source source' n)
    (criteria : CriteriaGroup.Replaced s s' on on' m) :
    Join.Replaced s s' ⟨type, source, on⟩ ⟨type, source', on'⟩ (n + m)

/-- A query block with string constants replaced. -/
inductive QueryBlock.Replaced (s s' : String) : QueryBlock → QueryBlock → Nat → Prop
  | same {n : Nat} (b : QueryBlock) : QueryBlock.Replaced s s' b b n
  | mk {n₁ n₂ n₃ n₄ n₅ n₆ : Nat} {columns columns' groupBy groupBy' : List Expr}
    {source source' : Option Source} {joins joins' : List Join}
    {filter filter' having having' : Option CriteriaGroup} (distinct : Bool)
    (selected : Sums (Expr.Replaced s s') columns columns' n₁)
    (sources : Lifts (Source.Replaced s s') source source' n₂)
    (joined : Sums (Join.Replaced s s') joins joins' n₃)
    (filters : Lifts (CriteriaGroup.Replaced s s') filter filter' n₄)
    (groups : Sums (Expr.Replaced s s') groupBy groupBy' n₅)
    (havings : Lifts (CriteriaGroup.Replaced s s') having having' n₆) :
    QueryBlock.Replaced s s' ⟨distinct, columns, source, joins, filter, groupBy, having⟩
      ⟨distinct, columns', source', joins', filter', groupBy', having'⟩
      (n₁ + n₂ + n₃ + n₄ + n₅ + n₆)

/-- A select with string constants replaced. -/
inductive Select.Replaced (s s' : String) : Select → Select → Nat → Prop
  | same {n : Nat} (q : Select) : Select.Replaced s s' q q n
  | mk {n m : Nat} {first first' : QueryBlock} {unions unions' : List (UnionKind × QueryBlock)}
    (block : QueryBlock.Replaced s s' first first' n)
    (others : Sums (Tagged (QueryBlock.Replaced s s')) unions unions' m)
    (orderBy : List SortSpec) (paging : Paging) (lock : Option Lock) (config : Config) :
    Select.Replaced s s' ⟨first, unions, orderBy, paging, lock, config⟩
      ⟨first', unions', orderBy, paging, lock, config⟩ (n + m)

end

/-! ## What does not change -/

section Unchanged

variable {s s' : String} {n : Nat}

/-- The type of an expression does not depend on its string constants. -/
theorem Expr.Replaced.jdbcType? (e : Expr) {e' : Expr} {n : Nat} (h : e.Replaced s s' e' n) :
    e.jdbcType? = e'.jdbcType? := by
  match e, h with
  | _, .same e => rfl
  | _, .stringConstant => rfl
  | _, .count argument => rfl
  | _, .countDistinct argument => rfl
  | .call _ e, .call _ argument =>
      have ih := jdbcType? e argument
      exact ih
  | .windowed e _, .windowed inner _ =>
      have ih := jdbcType? e inner
      exact ih
  | _, .caseOf _ _ _ => rfl
  | _, .subquery query => rfl
  | .aliased e _, .aliased inner _ =>
      have ih := jdbcType? e inner
      exact ih

theorem Expr.Replaced.alias? {e e' : Expr} (h : e.Replaced s s' e' n) : e.alias? = e'.alias? := by
  cases h <;> rfl

/-- The values of an operand are bound with the same type. -/
theorem Lifts.bind_jdbcType? {operand operand' : Option Expr}
    (h : Lifts (Expr.Replaced s s') operand operand' n) :
    operand.bind Expr.jdbcType? = operand'.bind Expr.jdbcType? := by
  cases h with
  | none => rfl
  | some item => exact Expr.Replaced.jdbcType? _ item

/-- Whether a test drops out does not depend on the string constants in it. -/
theorem Test.Replaced.dropsOut {t t' : Test} (h : t.Replaced s s' t' n) :
    t.dropsOut = t'.dropsOut := by
  cases h <;> rfl

/-- The table of a source does not depend on string constants. -/
theorem Source.Replaced.table? {source source' : Source} (h : source.Replaced s s' source' n) :
    source.table? = source'.table? := by
  cases h <;> rfl

/-- Neither does that of a join. -/
theorem Join.Replaced.table? {j j' : Join} (h : j.Replaced s s' j' n) :
    j.source.table? = j'.source.table? := by
  cases h with
  | same => rfl
  | mk type table criteria => exact table.table?

/-- The tables of the joins are the same. -/
theorem Sums.filterMap_table? {joins joins' : List Join}
    (h : Sums (Join.Replaced s s') joins joins' n) :
    (joins.map (·.source)).filterMap Source.table? =
      (joins'.map (·.source)).filterMap Source.table? := by
  induction h with
  | nil => rfl
  | cons head tail ih =>
      rw [List.map_cons, List.map_cons, List.filterMap_cons, List.filterMap_cons, head.table?, ih]

/-- A query block opens the same scope. -/
theorem QueryBlock.scope_replaced {source source' : Option Source} {joins joins' : List Join}
    {n m : Nat} (hsource : Lifts (Source.Replaced s s') source source' n)
    (hjoins : Sums (Join.Replaced s s') joins joins' m) (distinct : Bool)
    {columns columns' groupBy groupBy' : List Expr}
    {filter filter' having having' : Option CriteriaGroup} :
    QueryBlock.scope ⟨distinct, columns, source, joins, filter, groupBy, having⟩ =
      QueryBlock.scope ⟨distinct, columns', source', joins', filter', groupBy', having'⟩ := by
  have htables : (source.toList ++ joins.map (·.source)).filterMap Source.table? =
      (source'.toList ++ joins'.map (·.source)).filterMap Source.table? := by
    rw [List.filterMap_append, List.filterMap_append, hjoins.filterMap_table?]
    cases hsource with
    | none => rfl
    | some item =>
        rw [Option.toList_some, Option.toList_some, List.filterMap_cons, List.filterMap_cons,
          item.table?]
  show (⟨_, !joins.isEmpty⟩ : Scope) = ⟨_, !joins'.isEmpty⟩
  rw [htables, hjoins.isEmpty]

end Unchanged

/-! ## Statements -/

/-- A column with a value in which string constants are replaced. -/
inductive Assigned {α : Type} (R : α → α → Nat → Prop) : Assignment α → Assignment α → Nat → Prop
  | mk {n : Nat} {value value' : α} (column : Column) (item : R value value' n) :
    Assigned R ⟨column, value⟩ ⟨column, value'⟩ n

/-- What an update sets a column to, with string constants replaced. -/
inductive SetValue.Replaced (s s' : String) : SetValue → SetValue → Nat → Prop
  | same {n : Nat} (value : SetValue) : SetValue.Replaced s s' value value n
  | stringConstant {n : Nat} :
    SetValue.Replaced s s' (.stringConstant s) (.stringConstant s') (n + 1)
  | expr {n : Nat} {e e' : Expr} (value : e.Replaced s s' e' n) :
    SetValue.Replaced s s' (.expr e) (.expr e') n
  | subquery {n : Nat} {q q' : Select} (query : q.Replaced s s' q' n) :
    SetValue.Replaced s s' (.subquery q) (.subquery q') n

/-- What an insert sets a column to, with a string constant replaced. -/
inductive InsertValue.Replaced (s s' : String) : InsertValue → InsertValue → Nat → Prop
  | same {n : Nat} (value : InsertValue) : InsertValue.Replaced s s' value value n
  | stringConstant {n : Nat} :
    InsertValue.Replaced s s' (.stringConstant s) (.stringConstant s') (n + 1)

/-- Where the value of a column is in a record, with a string constant replaced. -/
inductive RecordValue.Replaced (s s' : String) : RecordValue → RecordValue → Nat → Prop
  | same {n : Nat} (value : RecordValue) : RecordValue.Replaced s s' value value n
  | stringConstant {n : Nat} :
    RecordValue.Replaced s s' (.stringConstant s) (.stringConstant s') (n + 1)

/-- An insert of several records with other columns. -/
def RecordsInsert.withMappings (i : RecordsInsert) (mappings : List (Assignment RecordValue))
    (h : ∀ mapping ∈ mappings, mapping.value.isOptional = false) : RecordsInsert :=
  { i with mappings := mappings, fixed_columns := h }

/-- A statement with string constants replaced. -/
inductive Statement.Replaced (s s' : String) : Statement → Statement → Nat → Prop
  | select {n : Nat} {q q' : Select} (query : q.Replaced s s' q' n) :
    Statement.Replaced s s' (.select q) (.select q') n
  | multiSelect {n m : Nat} {q : MultiSelect} {first : Select}
    {unions : List (UnionKind × Select)} (query : q.first.Replaced s s' first n)
    (others : Sums (Tagged (Select.Replaced s s')) q.unions unions m) :
    Statement.Replaced s s' (.multiSelect q)
      (.multiSelect { q with first := first, unions := unions }) (n + m)
  | update {n m : Nat} {u : Update} {sets : List (Assignment SetValue)}
    {filter : Option CriteriaGroup}
    (values : Sums (Assigned (SetValue.Replaced s s')) u.sets sets n)
    (criteria : Lifts (CriteriaGroup.Replaced s s') u.filter filter m) :
    Statement.Replaced s s' (.update u) (.update { u with sets := sets, filter := filter }) (n + m)
  | delete {n : Nat} {d : Delete} {filter : Option CriteriaGroup}
    (criteria : Lifts (CriteriaGroup.Replaced s s') d.filter filter n) :
    Statement.Replaced s s' (.delete d) (.delete { d with filter := filter }) n
  | insert {n : Nat} {i : Insert} {mappings : List (Assignment InsertValue)}
    (values : Sums (Assigned (InsertValue.Replaced s s')) i.mappings mappings n) :
    Statement.Replaced s s' (.insert i) (.insert { i with mappings := mappings }) n
  | insertRecord {n : Nat} {i : RecordInsert} {mappings : List (Assignment RecordValue)}
    (values : Sums (Assigned (RecordValue.Replaced s s')) i.mappings mappings n) :
    Statement.Replaced s s' (.insertRecord i) (.insertRecord { i with mappings := mappings }) n
  | insertRows {n : Nat} {i : RecordsInsert} {mappings : List (Assignment RecordValue)}
    (fixed : ∀ mapping ∈ mappings, mapping.value.isOptional = false)
    (values : Sums (Assigned (RecordValue.Replaced s s')) i.mappings mappings n) :
    Statement.Replaced s s' (.insertRows i) (.insertRows (i.withMappings mappings fixed)) n
  | insertSelect {n : Nat} {i : InsertSelect} {q : Select} (query : i.select.Replaced s s' q n) :
    Statement.Replaced s s' (.insertSelect i) (.insertSelect { i with select := q }) n

/-- How often a statement writes one of its constants: a row once for each record, all else
    once. -/
def Statement.copies : Statement → Nat
  | .insertRows i => i.records.length
  | _ => 1

end SqlComposer
