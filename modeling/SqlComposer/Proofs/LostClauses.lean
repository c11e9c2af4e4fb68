import SqlComposer.Proofs.Clauses

/-! # The where clause behind the error

    The error that a where clause renders nothing is raised for one reason only: some where clause
    that takes part in the rendering has lost all of its criteria, and its own configuration forbids
    that.  `Blames` is this implication for one part of a statement; a sequence blames what one of
    its steps blames. -/

namespace SqlComposer

variable {α β : Type} {clauses others : List Clause}

/-- If a part fails because a where clause renders nothing, one of the given clauses is lost. -/
def Blames (clauses : List Clause) (result : Except Error α) : Prop :=
  result = .error .nonRenderingWhereClause → ∃ clause ∈ clauses, clause.Lost

namespace Blames

theorem ok (a : α) : Blames clauses (.ok a : Except Error α) := by
  intro h
  cases h

/-- Any other error blames nobody. -/
theorem invalidSql (cause : InvalidSql) :
    Blames clauses (.error (.invalidSql cause) : Except Error α) := by
  intro h
  cases h

/-- A sequence blames what its steps blame; the second step is asked only for what the first one
    gives. -/
theorem bind_ok {x : Except Error α} {k : α → Except Error β} (hx : Blames clauses x)
    (hk : ∀ a, x = .ok a → Blames clauses (k a)) : Blames clauses (x >>= k) := by
  intro h
  cases x with
  | error e =>
      have he : (.error e : Except Error β) = .error .nonRenderingWhereClause := h
      cases he
      exact hx rfl
  | ok a => exact hk a rfl h

theorem bind {x : Except Error α} {k : α → Except Error β} (hx : Blames clauses x)
    (hk : ∀ a, Blames clauses (k a)) : Blames clauses (x >>= k) :=
  bind_ok hx fun a _ => hk a

/-- More clauses may be blamed. -/
theorem mono {x : Except Error α} (h : Blames clauses x)
    (hs : ∀ clause ∈ clauses, clause ∈ others) : Blames others x := by
  intro he
  obtain ⟨clause, hm, hl⟩ := h he
  exact ⟨clause, hs clause hm, hl⟩

theorem left {x : Except Error α} (h : Blames clauses x) : Blames (clauses ++ others) x :=
  h.mono fun _ hm => List.mem_append_left _ hm

theorem right {x : Except Error α} (h : Blames clauses x) : Blames (others ++ clauses) x :=
  h.mono fun _ hm => List.mem_append_right _ hm

end Blames

/-- A where clause blames itself. -/
theorem whereClause_blames {config : Config} {filter : Option CriteriaGroup} {scopes : List Scope}
    {parts : Option CriteriaParts} (hp : CriteriaGroup.clauseParts filter scopes = .ok parts) :
    Blames (filterClauses config filter scopes) (Fragment.whereClause config parts) := by
  intro h
  cases filter with
  | none => cases hp; cases h
  | some g =>
      obtain ⟨own, ho, hr⟩ := exists_of_bind_ok hp
      cases hr
      cases own with
      | cons part rest => cases h
      | nil =>
          by_cases ha : config.emptyWhereAllowed = true
          -- an empty where clause that is allowed raises no error
          · rw [Fragment.whereClause, if_pos ha] at h
            cases h
          · exact ⟨_, List.mem_singleton_self _, config, rfl, eq_false_of_ne_true ha, ho⟩

/-- Criteria that are required and missing are an error of their own, for which no clause is
    blamed. -/
theorem required_blames (cause : InvalidSql) (parts : CriteriaParts) :
    Blames clauses (Fragment.required cause parts) := by
  cases parts with
  | nil => exact Blames.invalidSql cause
  | cons part rest => exact Blames.ok _

/-- A condition on values has no clauses, and it never fails for one. -/
theorem ConditionKind.blames (kind : ConditionKind) (f : Fragment) (type : Option JdbcType)
    (ignoreCase : Bool) : Blames clauses (kind.fragment? f type ignoreCase) := by
  match kind with
  | .compare _ none => exact Blames.ok _
  | .compare _ (some _) => exact Blames.ok _
  | .null _ => exact Blames.ok _
  | .between _ none _ => exact Blames.ok _
  | .between _ (some _) none => exact Blames.ok _
  | .between _ (some _) (some _) => exact Blames.ok _
  | .member _ true [] => exact Blames.ok _
  | .member _ false [] => exact Blames.invalidSql .emptyInList
  | .member _ _ (_ :: _) => exact Blames.ok _

/-! ## The induction over the syntax -/

mutual

/-- An expression blames the clauses in its parts: in its argument, its window, its branches or its
    select. -/
theorem Expr.blames (e : Expr) (scopes : List Scope) :
    Blames (e.clauses scopes) (e.fragment scopes) := by
  match e with
  | .count argument => exact Blames.bind (Expr.blames argument scopes) fun _ => Blames.ok _
  | .countDistinct argument => exact Blames.bind (Expr.blames argument scopes) fun _ => Blames.ok _
  | .call function argument => exact Blames.bind (Expr.blames argument scopes) fun _ => Blames.ok _
  | .windowed inner window =>
      refine Blames.bind (Expr.blames inner scopes).left fun _ => ?_
      exact Blames.bind (Window.blames window scopes).right fun _ => Blames.ok _
  | .caseOf operand branches otherwise =>
      refine Blames.bind (Expr.option_blames operand _ scopes).left.left fun _ => ?_
      refine Blames.bind (CaseBranch.all_blame branches _ scopes).right.left fun _ => ?_
      exact Blames.bind (Expr.option_blames otherwise _ scopes).right fun _ => Blames.ok _
  | .subquery query => exact Blames.bind (Select.blames query scopes) fun _ => Blames.ok _
  | .aliased inner _ => exact Expr.blames inner scopes
  | .column _ => exact Blames.ok _
  | .allColumns table =>
      rw [Expr.fragment]
      cases qualifier? scopes table with
      | none => exact Blames.ok _
      | some qualifier => exact Blames.ok _
  | .constant _ => exact Blames.ok _
  | .stringConstant _ => exact Blames.ok _
  | .bound _ => exact Blames.ok _
  | .countAll => exact Blames.ok _
  | .rowNumber => exact Blames.ok _

/-- An operand or an else blames the clauses in it, if there is one. -/
theorem Expr.option_blames (e : Option Expr) (before : String) (scopes : List Scope) :
    Blames (Expr.optionClauses e scopes) (Expr.fragmentAfter before e scopes) := by
  match e with
  | none => exact Blames.ok _
  | some e => exact Blames.bind (Expr.blames e scopes) fun _ => Blames.ok _

/-- The expressions of a list blame the clauses of each of them. -/
theorem Expr.all_blame (es : List Expr) (scopes : List Scope) :
    Blames (Expr.allClauses es scopes) (Expr.fragments es scopes) := by
  match es with
  | [] => exact Blames.ok _
  | e :: rest =>
      refine Blames.bind (Expr.blames e scopes).left fun _ => ?_
      exact Blames.bind (Expr.all_blame rest scopes).right fun _ => Blames.ok _

/-- So do those of a select list, where only aliases come in addition. -/
theorem Expr.selected_blame (es : List Expr) (scopes : List Scope) :
    Blames (Expr.allClauses es scopes) (Expr.selectedFragments es scopes) := by
  match es with
  | [] => exact Blames.ok _
  | e :: rest =>
      refine Blames.bind (Expr.blames e scopes).left fun _ => ?_
      exact Blames.bind (Expr.selected_blame rest scopes).right fun _ => Blames.ok _

theorem Window.blames (w : Window) (scopes : List Scope) :
    Blames (w.clauses scopes) (w.fragment scopes) := by
  obtain ⟨partitionBy, orderBy⟩ := w
  exact Blames.bind (Expr.all_blame partitionBy scopes) fun _ => Blames.ok _

/-- A branch blames the clauses of its condition and of its result. -/
theorem CaseBranch.blames (b : CaseBranch) (type : Option JdbcType) (scopes : List Scope) :
    Blames (b.clauses scopes) (b.fragment type scopes) := by
  match b with
  | .searched condition result =>
      refine Blames.mono ?_ fun _ hm => List.mem_cons_of_mem _ hm
      refine Blames.bind (CriteriaGroup.blames condition scopes).left fun parts => ?_
      refine Blames.bind (required_blames _ parts) fun _ => ?_
      exact Blames.bind (Expr.blames result scopes).right fun _ => Blames.ok _
  | .simple values result => exact Blames.bind (Expr.blames result scopes) fun _ => Blames.ok _

/-- The branches of a case expression blame the clauses of each of them. -/
theorem CaseBranch.all_blame (bs : List CaseBranch) (type : Option JdbcType)
    (scopes : List Scope) :
    Blames (CaseBranch.allClauses bs scopes) (CaseBranch.fragments bs type scopes) := by
  match bs with
  | [] => exact Blames.ok _
  | b :: rest =>
      refine Blames.bind (CaseBranch.blames b type scopes).left fun _ => ?_
      exact Blames.bind (CaseBranch.all_blame rest type scopes).right fun _ => Blames.ok _

/-- A test blames the clauses of the expression or the select that it compares with. -/
theorem Test.blames (t : Test) (operand : Fragment) (type : Option JdbcType)
    (scopes : List Scope) : Blames (t.clauses scopes) (t.fragment? operand type scopes) := by
  match t with
  | .values kind ignoreCase => exact ConditionKind.blames kind operand type ignoreCase
  | .compareExpr op right => exact Blames.bind (Expr.blames right scopes) fun _ => Blames.ok _
  | .compareQuery op query => exact Blames.bind (Select.blames query scopes) fun _ => Blames.ok _
  | .memberOfQuery negated query =>
      exact Blames.bind (Select.blames query scopes) fun _ => Blames.ok _

/-- A criterion blames the clauses in it.  One that drops out is not rendered, and its clauses are
    not counted either. -/
theorem Criterion.blames (k : Criterion) (scopes : List Scope) :
    Blames (k.clauses scopes) (k.fragment? scopes) := by
  match k with
  | .test operand t =>
      rw [Criterion.clauses, Criterion.fragment?]
      by_cases hd : t.dropsOut = true
      · rw [if_pos hd, if_pos hd]
        exact Blames.ok _
      · rw [if_neg hd, if_neg hd]
        refine Blames.bind (Expr.blames operand scopes).left fun f => ?_
        exact (Test.blames t f operand.jdbcType? scopes).right
  | .exists negated query => exact Blames.bind (Select.blames query scopes) fun _ => Blames.ok _
  | .group g => exact Blames.bind (CriteriaGroup.blames g scopes) fun _ => Blames.ok _
  | .not g => exact Blames.bind (CriteriaGroup.blames g scopes) fun _ => Blames.ok _

/-- The first criterion of a group blames the clauses in it, if there is one. -/
theorem Criterion.initial_blames (k : Option Criterion) (scopes : List Scope) :
    Blames (Criterion.initialClauses k scopes) (Criterion.initialFragment? k scopes) := by
  match k with
  | none => exact Blames.ok _
  | some criterion => exact Criterion.blames criterion scopes

/-- A group blames the clauses of its first criterion and of what is connected to it. -/
theorem CriteriaGroup.blames (g : CriteriaGroup) (scopes : List Scope) :
    Blames (g.clauses scopes) (g.parts scopes) := by
  obtain ⟨initial, links⟩ := g
  refine Blames.bind (Criterion.initial_blames initial scopes).left fun _ => ?_
  exact Blames.bind (CriteriaGroup.links_blame links scopes).right fun _ => Blames.ok _

/-- Connected groups blame the clauses of each of them. -/
theorem CriteriaGroup.links_blame (links : List (Connector × CriteriaGroup))
    (scopes : List Scope) :
    Blames (CriteriaGroup.linkClauses links scopes) (CriteriaGroup.linkParts links scopes) := by
  match links with
  | [] => exact Blames.ok _
  | (connector, g) :: rest =>
      refine Blames.bind (CriteriaGroup.blames g scopes).left fun _ => ?_
      exact Blames.bind (CriteriaGroup.links_blame rest scopes).right fun _ => Blames.ok _

theorem CriteriaGroup.option_blames (g : Option CriteriaGroup) (scopes : List Scope) :
    Blames (CriteriaGroup.optionClauses g scopes) (CriteriaGroup.clauseParts g scopes) := by
  match g with
  | none => exact Blames.ok _
  | some group => exact Blames.bind (CriteriaGroup.blames group scopes) fun _ => Blames.ok _

theorem Source.blames (s : Source) (scopes : List Scope) :
    Blames (s.clauses scopes) (s.fragment scopes) := by
  match s with
  | .table _ _ => exact Blames.ok _
  | .subquery query _ => exact Blames.bind (Select.blames query scopes) fun _ => Blames.ok _

theorem Source.option_blames (s : Option Source) (scopes : List Scope) :
    Blames (Source.optionClauses s scopes) (Source.fromFragment s scopes) := by
  match s with
  | none => exact Blames.ok _
  | some source => exact Blames.bind (Source.blames source scopes) fun _ => Blames.ok _

/-- A join blames the clauses of its source and those in its criteria. -/
theorem Join.blames (j : Join) (scopes : List Scope) :
    Blames (j.clauses scopes) (j.fragment scopes) := by
  obtain ⟨type, source, on⟩ := j
  refine Blames.bind (Source.blames source scopes).left fun _ => ?_
  refine Blames.right (Blames.mono ?_ fun _ hm => List.mem_cons_of_mem _ hm)
  refine Blames.bind (CriteriaGroup.blames on scopes) fun parts => ?_
  exact Blames.bind (required_blames _ parts) fun _ => Blames.ok _

/-- Joins blame the clauses of each of them. -/
theorem Join.all_blame (js : List Join) (scopes : List Scope) :
    Blames (Join.allClauses js scopes) (Join.fragments js scopes) := by
  match js with
  | [] => exact Blames.ok _
  | j :: rest =>
      refine Blames.bind (Join.blames j scopes).left fun _ => ?_
      exact Blames.bind (Join.all_blame rest scopes).right fun _ => Blames.ok _

/-- A block blames its own where clause besides the clauses of its parts.  This is where criteria
    are found to be lost. -/
theorem QueryBlock.blames (b : QueryBlock) (keyword : String) (config : Config)
    (outer : List Scope) : Blames (b.clauses config outer) (b.fragment keyword config outer) := by
  obtain ⟨distinct, columns, source, joins, filter, groupBy, having⟩ := b
  refine Blames.bind (Expr.selected_blame columns _).left.left.left.left.left fun _ => ?_
  refine Blames.bind (Source.option_blames source _).right.left.left.left.left fun _ => ?_
  refine Blames.bind (Join.all_blame joins _).right.left.left.left fun _ => ?_
  refine Blames.bind_ok (CriteriaGroup.option_blames filter _).right.right.left.left
    fun parts hp => ?_
  refine Blames.bind (whereClause_blames hp).left.right.left.left fun _ => ?_
  refine Blames.bind (Expr.all_blame groupBy _).right.left fun _ => ?_
  exact Blames.bind (CriteriaGroup.option_blames having _).right fun _ => Blames.ok _

/-- Blocks behind unions blame the clauses of each of them. -/
theorem QueryBlock.unions_blame (unions : List (UnionKind × QueryBlock)) (config : Config)
    (scopes : List Scope) :
    Blames (QueryBlock.unionClauses unions config scopes)
      (QueryBlock.unionFragments unions config scopes) := by
  match unions with
  | [] => exact Blames.ok _
  | (kind, block) :: rest =>
      refine Blames.bind (QueryBlock.blames block "select" config scopes).left fun _ => ?_
      exact Blames.bind (QueryBlock.unions_blame rest config scopes).right fun _ => Blames.ok _

/-- **A select blames its clauses**, those of its blocks at every depth. -/
theorem Select.blames (q : Select) (scopes : List Scope) :
    Blames (q.clauses scopes) (q.fragment scopes) := by
  obtain ⟨first, unions, orderBy, paging, lock, config⟩ := q
  refine Blames.bind (QueryBlock.blames first _ config scopes).left fun _ => ?_
  exact Blames.bind (QueryBlock.unions_blame unions config scopes).right fun _ => Blames.ok _

end

/-! ## Statements -/

/-- The sets of an update blame the clauses of the expressions and selects in them. -/
theorem setFragments_blame (sets : List (Assignment SetValue)) (scopes : List Scope) :
    Blames (setClauses sets scopes) (setFragments sets scopes) := by
  induction sets with
  | nil => exact Blames.ok _
  | cons set rest ih =>
      obtain ⟨column, value⟩ := set
      refine Blames.bind (Blames.left ?_) fun _ => Blames.bind ih.right fun _ => Blames.ok _
      cases value with
      | expr e => exact Blames.bind (Expr.blames e scopes) fun _ => Blames.ok _
      | subquery query => exact Blames.bind (Select.blames query scopes) fun _ => Blames.ok _
      | bound value =>
          cases value with
          | none => exact Blames.ok _
          | some value => exact Blames.ok _
      | null => exact Blames.ok _
      | constant s => exact Blames.ok _
      | stringConstant s => exact Blames.ok _

/-- An update or a delete blames its own where clause and the clauses in it. -/
theorem filterFragment_blames (config : Config) (filter : Option CriteriaGroup)
    (scopes : List Scope) :
    Blames (filterClauses config filter scopes ++ CriteriaGroup.optionClauses filter scopes)
      (filterFragment config filter scopes) :=
  Blames.bind_ok (CriteriaGroup.option_blames filter scopes).right fun _ hp =>
    (whereClause_blames hp).left

/-- Selects behind unions blame the clauses of each of them. -/
theorem MultiSelect.unions_blame (unions : List (UnionKind × Select)) (scopes : List Scope) :
    Blames (unionClauses unions scopes) (unionFragments unions scopes) := by
  induction unions with
  | nil => exact Blames.ok _
  | cons union rest ih =>
      obtain ⟨kind, select⟩ := union
      refine Blames.bind (Select.blames select scopes).left fun _ => ?_
      exact Blames.bind ih.right fun _ => Blames.ok _

/-- A row of an insert has no where clause to be blamed. -/
theorem singleRowFragment_blames (config : Config) (table : String)
    (values : List (String × Fragment)) :
    Blames clauses (singleRowFragment config table values) := by
  cases values with
  | nil => exact Blames.invalidSql .insertWithoutValues
  | cons value rest => exact Blames.ok _

/-- Neither have the values of a record. -/
theorem recordFragments_blame (record : Json) (mappings : List (Assignment RecordValue)) :
    Blames clauses (recordFragments record mappings) := by
  induction mappings with
  | nil => exact Blames.ok _
  | cons mapping rest ih =>
      refine Blames.bind ?_ fun _ => Blames.bind ih fun _ => Blames.ok _
      obtain ⟨column, value⟩ := mapping
      cases value with
      | property path =>
          cases hp : record.property? path with
          | none =>
              simp only [recordFragment?, hp]
              exact Blames.invalidSql _
          | some property =>
              simp only [recordFragment?, hp]
              exact Blames.ok _
      | propertyWhenPresent path =>
          cases hp : record.property? path with
          | none =>
              simp only [recordFragment?, hp]
              exact Blames.ok _
          | some property =>
              simp only [recordFragment?, hp]
              exact Blames.ok _
      | row => exact Blames.ok _
      | null => exact Blames.ok _
      | constant s => exact Blames.ok _
      | stringConstant s => exact Blames.ok _

/-- Neither have the rows of several records. -/
theorem RecordsInsert.rowsOf_blame (i : RecordsInsert) (records : List Json) :
    Blames clauses (i.rowsOf records) := by
  induction records with
  | nil => exact Blames.ok _
  | cons record rest ih =>
      refine Blames.bind ?_ fun _ => Blames.bind ih fun _ => Blames.ok _
      exact Blames.bind (recordFragments_blame record i.mappings) fun _ => Blames.ok _

/-- **A statement that fails for a where clause has lost one.** -/
theorem Statement.blames (s : Statement) : Blames s.clauses (s.fragment []) := by
  cases s with
  | select q => exact Select.blames q []
  | multiSelect q =>
      refine Blames.bind (Select.blames q.first []).left fun _ => ?_
      exact Blames.bind (MultiSelect.unions_blame q.unions []).right fun _ => Blames.ok _
  | update u =>
      refine Blames.bind (setFragments_blame u.sets _).left fun sets => ?_
      refine Blames.bind ?_ fun _ => ?_
      · cases sets with
        | nil => exact Blames.invalidSql .updateWithoutValues
        | cons f rest => exact Blames.ok _
      · exact Blames.bind (filterFragment_blames u.config u.filter _).right fun _ => Blames.ok _
  | delete d => exact Blames.bind (filterFragment_blames d.config d.filter _) fun _ => Blames.ok _
  | insertSelect i => exact Blames.bind (Select.blames i.select []) fun _ => Blames.ok _
  | insert i => exact singleRowFragment_blames _ _ _
  | insertRecord i =>
      exact Blames.bind (recordFragments_blame i.record i.mappings) fun _ =>
        singleRowFragment_blames _ _ _
  | insertRows i => exact Blames.bind (i.rowsOf_blame i.records) fun _ => Blames.ok _

end SqlComposer
