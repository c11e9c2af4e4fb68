import SqlComposer.Proofs.Scanning
import SqlComposer.Render.Scope
import SqlComposer.Statement.Mutation

/-! # The raw texts of a statement

    Names, aliases, constants and configured texts come from the program and stand in the statement
    as they are; string constants and bound values do not.  Here they are collected from all parts
    of a statement, also from parts that drop out.

    A qualifier that a column takes from the scopes around it is one of these texts too: it is an
    alias that was given in a scope or the table of the column (`neutral_qualifier`). -/

namespace SqlComposer

/-- Texts that are all neutral. -/
abbrev AllNeutral (texts : List String) : Prop := ∀ s ∈ texts, Neutral s.toList

/-! ## Collecting -/

/-- The raw texts of a configuration. -/
def Config.rawTexts (config : Config) : List String :=
  config.beforeStatement.toList ++ config.afterKeyword.toList ++ config.afterStatement.toList

/-- The raw texts of a column. -/
def Column.rawTexts (c : Column) : List String :=
  c.name :: c.table :: (c.qualifier.toList ++ c.aliasName.toList)

/-- The raw texts of an order. -/
def SortSpec.allRawTexts (orderBy : List SortSpec) : List String := orderBy.map (·.name)

mutual

/-- The raw texts in an expression. -/
def Expr.rawTexts : Expr → List String
  | .column c => c.rawTexts
  | .allColumns table => [table]
  | .constant s => [s]
  | .count argument => argument.rawTexts
  | .countDistinct argument => argument.rawTexts
  | .call _ argument => argument.rawTexts
  | .windowed inner window => inner.rawTexts ++ window.rawTexts
  | .caseOf operand branches otherwise =>
    Expr.optionRawTexts operand ++ CaseBranch.allRawTexts branches ++ Expr.optionRawTexts otherwise
  | .subquery query => query.rawTexts
  | .aliased inner aliasName => aliasName :: inner.rawTexts
  | .stringConstant _ => []
  | .bound _ => []
  | .countAll => []
  | .rowNumber => []

/-- The raw texts in an expression that may be absent. -/
def Expr.optionRawTexts : Option Expr → List String
  | none => []
  | some e => e.rawTexts

/-- The raw texts in expressions. -/
def Expr.allRawTexts : List Expr → List String
  | [] => []
  | e :: rest => e.rawTexts ++ Expr.allRawTexts rest

/-- The raw texts in a window. -/
def Window.rawTexts : Window → List String
  | ⟨partitionBy, orderBy⟩ => Expr.allRawTexts partitionBy ++ SortSpec.allRawTexts orderBy

/-- The raw texts in a branch of a case expression. -/
def CaseBranch.rawTexts : CaseBranch → List String
  | .searched condition result => condition.rawTexts ++ result.rawTexts
  | .simple _ result => result.rawTexts

/-- The raw texts in the branches of a case expression. -/
def CaseBranch.allRawTexts : List CaseBranch → List String
  | [] => []
  | branch :: rest => branch.rawTexts ++ CaseBranch.allRawTexts rest

/-- The raw texts in a test. -/
def Test.rawTexts : Test → List String
  | .values _ _ => []
  | .compareExpr _ right => right.rawTexts
  | .compareQuery _ query => query.rawTexts
  | .memberOfQuery _ query => query.rawTexts

/-- The raw texts in a criterion, whether it drops out or not. -/
def Criterion.rawTexts : Criterion → List String
  | .test operand t => operand.rawTexts ++ t.rawTexts
  | .exists _ query => query.rawTexts
  | .group g => g.rawTexts
  | .not g => g.rawTexts

/-- The raw texts in an initial criterion. -/
def Criterion.initialRawTexts : Option Criterion → List String
  | none => []
  | some criterion => criterion.rawTexts

/-- The raw texts in the criteria of a scope. -/
def CriteriaGroup.rawTexts : CriteriaGroup → List String
  | ⟨initial, links⟩ => Criterion.initialRawTexts initial ++ CriteriaGroup.linkRawTexts links

/-- The raw texts in connected groups. -/
def CriteriaGroup.linkRawTexts : List (Connector × CriteriaGroup) → List String
  | [] => []
  | (_, g) :: rest => g.rawTexts ++ CriteriaGroup.linkRawTexts rest

/-- The raw texts in criteria that may be absent. -/
def CriteriaGroup.optionRawTexts : Option CriteriaGroup → List String
  | none => []
  | some g => g.rawTexts

/-- The raw texts in what a query block reads from. -/
def Source.rawTexts : Source → List String
  | .table name aliasName => name :: aliasName.toList
  | .subquery query aliasName => aliasName :: query.rawTexts

/-- The raw texts in a from clause. -/
def Source.optionRawTexts : Option Source → List String
  | none => []
  | some source => source.rawTexts

/-- The raw texts in a join. -/
def Join.rawTexts : Join → List String
  | ⟨_, source, on⟩ => source.rawTexts ++ on.rawTexts

/-- The raw texts in joins. -/
def Join.allRawTexts : List Join → List String
  | [] => []
  | join :: rest => join.rawTexts ++ Join.allRawTexts rest

/-- The raw texts in a query block. -/
def QueryBlock.rawTexts : QueryBlock → List String
  | ⟨_, columns, source, joins, filter, groupBy, having⟩ =>
    Expr.allRawTexts columns ++ Source.optionRawTexts source ++ Join.allRawTexts joins ++
      CriteriaGroup.optionRawTexts filter ++ Expr.allRawTexts groupBy ++
      CriteriaGroup.optionRawTexts having

/-- The raw texts in the query blocks of unions. -/
def QueryBlock.unionRawTexts : List (UnionKind × QueryBlock) → List String
  | [] => []
  | (_, block) :: rest => block.rawTexts ++ QueryBlock.unionRawTexts rest

/-- The raw texts in a select. -/
def Select.rawTexts : Select → List String
  | ⟨first, unions, orderBy, _, _, config⟩ =>
    first.rawTexts ++ QueryBlock.unionRawTexts unions ++ SortSpec.allRawTexts orderBy ++
      config.rawTexts

end

/-- The raw texts in a value that an update sets. -/
def SetValue.rawTexts : SetValue → List String
  | .constant s => [s]
  | .expr e => e.rawTexts
  | .subquery query => query.rawTexts
  | .bound _ => []
  | .null => []
  | .stringConstant _ => []

/-- The raw texts in a value that an insert gives a column. -/
def InsertValue.rawTexts : InsertValue → List String
  | .constant s => [s]
  | .bound _ => []
  | .null => []
  | .stringConstant _ => []

/-- The raw texts in a value that comes from a record; a path of field names is not among them. -/
def RecordValue.rawTexts : RecordValue → List String
  | .constant s => [s]
  | .property _ => []
  | .propertyWhenPresent _ => []
  | .row => []
  | .null => []
  | .stringConstant _ => []

/-- The raw texts of columns with their values. -/
def Assignment.allRawTexts {α : Type} (texts : α → List String) (mappings : List (Assignment α)) :
    List String :=
  mappings.flatMap fun mapping => mapping.column.rawTexts ++ texts mapping.value

/-- The raw texts in the selects of unions. -/
def MultiSelect.unionRawTexts (unions : List (UnionKind × Select)) : List String :=
  unions.flatMap fun union => union.2.rawTexts

/-- The raw texts of a statement. -/
def Statement.rawTexts : Statement → List String
  | .select q => q.rawTexts
  | .multiSelect q =>
    q.first.rawTexts ++ MultiSelect.unionRawTexts q.unions ++ SortSpec.allRawTexts q.orderBy ++
      q.config.rawTexts
  | .update u =>
    u.table :: (u.aliasName.toList ++ Assignment.allRawTexts SetValue.rawTexts u.sets ++
      CriteriaGroup.optionRawTexts u.filter ++ SortSpec.allRawTexts u.orderBy ++
      u.config.rawTexts)
  | .delete d =>
    d.table :: (d.aliasName.toList ++ CriteriaGroup.optionRawTexts d.filter ++
      SortSpec.allRawTexts d.orderBy ++ d.config.rawTexts)
  | .insert i => i.table :: (Assignment.allRawTexts InsertValue.rawTexts i.mappings ++
      i.config.rawTexts)
  | .insertRecord i => i.table :: (Assignment.allRawTexts RecordValue.rawTexts i.mappings ++
      i.config.rawTexts)
  | .insertRows i => i.table :: (Assignment.allRawTexts RecordValue.rawTexts i.mappings ++
      i.config.rawTexts)
  | .insertSelect i => i.table :: (i.columns ++ i.select.rawTexts ++ i.config.rawTexts)

/-- The alias of an expression is one of its raw texts. -/
theorem mem_rawTexts_of_alias {e : Expr} {aliasName : String} (h : e.alias? = some aliasName) :
    aliasName ∈ e.rawTexts := by
  cases e with
  | column c =>
      rw [Expr.rawTexts, Column.rawTexts]
      refine List.mem_cons_of_mem _ (List.mem_cons_of_mem _ ?_)
      exact List.mem_append_right _ (Option.mem_toList.mpr h)
  | aliased inner own =>
      cases h
      rw [Expr.rawTexts]
      exact List.mem_cons_self ..
  | _ => cases h

/-! ## Texts from the scopes -/

/-- The aliases that a scope gives. -/
def Scope.rawTexts (scope : Scope) : List String := scope.tables.filterMap (·.2)

/-- The aliases that scopes give. -/
def Scope.allRawTexts (scopes : List Scope) : List String := scopes.flatMap Scope.rawTexts

/-- The aliases of a table are raw texts of the scope. -/
theorem mem_rawTexts_of_aliases {scope : Scope} {table aliasName : String}
    (h : aliasName ∈ scope.aliases table) : aliasName ∈ scope.rawTexts := by
  obtain ⟨entry, hm, he⟩ := List.mem_filterMap.mp h
  by_cases ht : entry.1 = table
  · rw [if_pos ht] at he
    exact List.mem_filterMap.mpr ⟨entry, hm, he⟩
  · rw [if_neg ht] at he
    cases he

/-- A scope qualifies with an alias that it gives or with the table itself. -/
theorem neutral_resolve {scope : Scope} (hs : AllNeutral scope.rawTexts) {table qualifier : String}
    (ht : Neutral table.toList) (h : scope.resolve? table = some (some qualifier)) :
    Neutral qualifier.toList := by
  unfold Scope.resolve? at h
  split at h
  -- an alias goes before the name of the table
  · rename_i aliasName hl
    cases h
    exact hs _ (mem_rawTexts_of_aliases (List.mem_of_getLast? hl))
  · by_cases hl : scope.lists table = true
    · rw [if_pos hl] at h
      by_cases hq : scope.qualifies = true
      · rw [if_pos hq] at h
        cases h
        exact ht
      · rw [if_neg hq] at h
        cases h
    · rw [if_neg hl] at h
      cases h

theorem neutral_qualifier {scopes : List Scope} (hs : AllNeutral (Scope.allRawTexts scopes))
    {table qualifier : String} (ht : Neutral table.toList)
    (h : qualifier? scopes table = some qualifier) : Neutral qualifier.toList := by
  rw [qualifier?, Option.join_eq_some_iff] at h
  obtain ⟨scope, hm, hr⟩ := List.exists_of_findSome?_eq_some h
  refine neutral_resolve ?_ ht hr
  intro s hx
  exact hs s (List.mem_flatMap.mpr ⟨scope, hm, hx⟩)

/-- The scope of one table gives its alias. -/
theorem neutral_ofTable (table : String) {aliasName : Option String}
    (ha : AllNeutral aliasName.toList) :
    AllNeutral (Scope.allRawTexts [Scope.ofTable table aliasName]) := by
  intro s hs
  obtain ⟨scope, hm, hx⟩ := List.mem_flatMap.mp hs
  cases List.mem_singleton.mp hm
  obtain ⟨entry, hm, he⟩ := List.mem_filterMap.mp hx
  cases List.mem_singleton.mp hm
  exact ha s (Option.mem_toList.mpr he)

theorem mem_rawTexts_of_table? {source : Source} {table : String} {aliasName : String}
    (h : source.table? = some (table, some aliasName)) : aliasName ∈ source.rawTexts := by
  cases source with
  | table name own =>
      cases h
      rw [Source.rawTexts]
      exact List.mem_cons_of_mem _ (List.mem_singleton_self _)
  | subquery query own => cases h

/-- The raw texts of the source of a join are raw texts of the joins. -/
theorem mem_joinRawTexts {joins : List Join} {join : Join} (h : join ∈ joins) {s : String}
    (hs : s ∈ join.source.rawTexts) : s ∈ Join.allRawTexts joins := by
  induction joins with
  | nil => cases h
  | cons first rest ih =>
      rw [Join.allRawTexts, List.mem_append]
      rcases List.mem_cons.mp h with rfl | h
      · obtain ⟨type, source, on⟩ := join
        rw [Join.rawTexts, List.mem_append]
        exact .inl (.inl hs)
      · exact .inr (ih h)

/-- The scope of a query block gives aliases that the block gives. -/
theorem mem_rawTexts_of_scope {block : QueryBlock} {s : String} (h : s ∈ block.scope.rawTexts) :
    s ∈ Source.optionRawTexts block.source ++ Join.allRawTexts block.joins := by
  obtain ⟨entry, hm, he⟩ := List.mem_filterMap.mp h
  obtain ⟨source, hm, ht⟩ := List.mem_filterMap.mp hm
  have hr : s ∈ source.rawTexts := by
    obtain ⟨table, aliasName⟩ := entry
    cases he
    exact mem_rawTexts_of_table? ht
  rcases List.mem_append.mp hm with hm | hm
  · rw [Option.mem_toList.mp hm]
    exact List.mem_append_left _ hr
  · obtain ⟨join, hj, rfl⟩ := List.mem_map.mp hm
    exact List.mem_append_right _ (mem_joinRawTexts hj hr)

/-- Inside a query block whose texts are neutral the scopes give neutral aliases still. -/
theorem neutral_scope {block : QueryBlock} {outer : List Scope} (hn : AllNeutral block.rawTexts)
    (ho : AllNeutral (Scope.allRawTexts outer)) :
    AllNeutral (Scope.allRawTexts (block.scope :: outer)) := by
  refine List.forall_mem_append.mpr ⟨?_, ho⟩
  intro s hs
  refine hn s ?_
  -- the tables of the scope are the source and the joins of the block
  have hm := mem_rawTexts_of_scope hs
  obtain ⟨distinct, columns, source, joins, filter, groupBy, having⟩ := block
  rw [QueryBlock.rawTexts]
  refine List.mem_append_left _ (List.mem_append_left _ (List.mem_append_left _ ?_))
  rw [List.append_assoc]
  exact List.mem_append_right _ hm

end SqlComposer
