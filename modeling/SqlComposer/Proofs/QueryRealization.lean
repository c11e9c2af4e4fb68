import SqlComposer.Proofs.Outcome

/-! # Render passes over queries write what the queries denote

    One case for each constructor of expressions, criteria and selects.  A pass over a part is
    compared with the fragment in the scopes of its context; every step of the walk hands over the
    context in which the parts before it are written already, and writing has changed no scope. -/

namespace SqlComposer

open Rendering
open Fragment (write_append write_ofText write_parenthesized writeAll writeOption writeParts
  writeCriteria writeClause)

/-- A condition on a written operand, of which nothing is absent. -/
theorem ConditionKind.render?_yields (kind : ConditionKind) (f : Fragment)
    (type : Option JdbcType) (ignoreCase : Bool) (c : Context) (hd : kind.dropsOut = false) :
    Yields ((kind.render? (f.write c).1 type ignoreCase).outcome (f.write c).2)
      (kind.fragment? f type ignoreCase) fun r => writeOption r c := by
  match kind with
  | .compare _ none => simp [dropsOut] at hd
  | .compare op (some value) =>
      refine Yields.of_eq ?_
      simp only [writeOption, write_append, write_ofText, Fragment.write_ofValue,
        Fragment.write_operand, ← String.append_assoc]
      rfl
  | .null negated =>
      refine Yields.of_eq ?_
      simp only [writeOption, write_append, write_ofText, Fragment.write_operand,
        ← String.append_assoc]
      rfl
  | .between negated (some low) (some high) =>
      refine Yields.of_eq ?_
      simp only [writeOption, write_append, write_ofText, Fragment.write_ofValue,
        Fragment.write_operand, ← String.append_assoc]
      rfl
  | .between _ none _ => simp [dropsOut] at hd
  | .between _ (some _) none => simp [dropsOut] at hd
  | .member negated whenPresent [] =>
      cases whenPresent with
      | true => simp [dropsOut] at hd
      | false => exact rfl
  | .member negated whenPresent (v :: rest) =>
      refine Yields.of_outcome (bindValues_outcome _ type _) ?_
      refine Yields.of_eq ?_
      simp only [writeOption, write_append, write_ofText, write_parenthesized,
        Fragment.boundValues, Fragment.write_separatedBy, Fragment.write_operand,
        ← String.append_assoc]
      rfl

mutual

/-- The pass over an expression writes its fragment, one part after the other. -/
theorem Expr.render_yields (e : Expr) {c : Context} {scopes : List Scope}
    (hs : c.scopes = scopes) :
    Yields (e.render.outcome c) (e.fragment scopes) fun f => f.write c := by
  subst hs
  cases e with
  | column column => exact Yields.pure (write_ofText _ c).symm
  | allColumns table =>
      show Yields ((Rendering.scopes >>= _).outcome c) _ _
      have hg : Rendering.scopes.outcome c = (.ok c.scopes, c) := rfl
      rw [outcome_bind_ok hg, Expr.fragment]
      cases qualifier? c.scopes table with
      | none => exact Yields.pure (write_ofText _ c).symm
      | some qualifier => exact Yields.pure (write_ofText _ c).symm
  | constant s => exact Yields.pure (write_ofText _ c).symm
  | stringConstant s => exact Yields.pure (write_ofText _ c).symm
  | bound value =>
      refine Yields.of_eq ?_
      rw [Fragment.write_ofValue]
      rfl
  | countAll => exact Yields.pure (write_ofText _ c).symm
  | count argument =>
      refine Yields.bind (Expr.render_yields argument rfl) fun f => ?_
      refine Yields.pure ?_
      rw [write_append, write_ofText, write_parenthesized]
  | countDistinct argument =>
      refine Yields.bind (Expr.render_yields argument rfl) fun f => ?_
      refine Yields.pure ?_
      rw [write_append, write_ofText, write_parenthesized, write_append, write_ofText]
  | call function argument =>
      refine Yields.bind (Expr.render_yields argument rfl) fun f => ?_
      refine Yields.pure ?_
      rw [write_append, write_ofText, write_parenthesized]
  | rowNumber => exact Yields.pure (write_ofText _ c).symm
  | windowed inner window =>
      refine Yields.bind (Expr.render_yields inner rfl) fun f => ?_
      refine Yields.bind (Window.render_yields window (Fragment.write_scopes f c)) fun rows => ?_
      refine Yields.pure ?_
      rw [write_append, write_append, write_ofText]
  | caseOf operand branches otherwise =>
      refine Yields.bind (Expr.renderAfter_yields " " operand rfl) fun before => ?_
      refine Yields.bind (CaseBranch.renderAll_yields branches _
        (Fragment.write_scopes before c)) fun whens => ?_
      refine Yields.bind (Expr.renderAfter_yields " else " otherwise (by simp)) fun behind => ?_
      refine Yields.pure ?_
      simp only [write_append, write_ofText]
  | subquery query =>
      refine Yields.bind (Select.render_yields query rfl) fun f => ?_
      exact Yields.pure (write_parenthesized f c).symm
  | aliased inner aliasName => exact Expr.render_yields inner rfl

/-- The pass over an operand or an else writes it behind the word in front of it. -/
theorem Expr.renderAfter_yields (before : String) (e : Option Expr) {c : Context}
    {scopes : List Scope} (hs : c.scopes = scopes) :
    Yields ((Expr.renderAfter before e).outcome c) (Expr.fragmentAfter before e scopes)
      fun f => f.write c := by
  subst hs
  cases e with
  | none => exact Yields.pure rfl
  | some e =>
      refine Yields.bind (Expr.render_yields e rfl) fun f => ?_
      refine Yields.pure ?_
      rw [write_append, write_ofText]

/-- The pass over a list of expressions writes their fragments. -/
theorem Expr.renderAll_yields (es : List Expr) {c : Context} {scopes : List Scope}
    (hs : c.scopes = scopes) :
    Yields ((Expr.renderAll es).outcome c) (Expr.fragments es scopes) fun fs => writeAll fs c := by
  subst hs
  cases es with
  | nil => exact Yields.pure rfl
  | cons e rest =>
      refine Yields.bind (Expr.render_yields e rfl) fun f => ?_
      refine Yields.bind (Expr.renderAll_yields rest (Fragment.write_scopes f c)) fun fs => ?_
      exact Yields.pure rfl

/-- The pass over a select list writes its fragments, with the aliases behind them. -/
theorem Expr.renderSelected_yields (es : List Expr) {c : Context} {scopes : List Scope}
    (hs : c.scopes = scopes) :
    Yields ((Expr.renderSelected es).outcome c) (Expr.selectedFragments es scopes)
      fun fs => writeAll fs c := by
  subst hs
  cases es with
  | nil => exact Yields.pure rfl
  | cons e rest =>
      refine Yields.bind (Expr.render_yields e rfl) fun f => ?_
      refine Yields.bind (Expr.renderSelected_yields rest (Fragment.write_scopes f c)) fun fs => ?_
      refine Yields.pure ?_
      cases e.alias? with
      | none => rfl
      | some aliasName =>
          simp only [Fragment.writeAll_cons, write_append, write_ofText, String.append_assoc]

theorem Window.render_yields (w : Window) {c : Context} {scopes : List Scope}
    (hs : c.scopes = scopes) :
    Yields (w.render.outcome c) (w.fragment scopes) fun f => f.write c := by
  subst hs
  obtain ⟨partitionBy, orderBy⟩ := w
  refine Yields.bind (Expr.renderAll_yields partitionBy rfl) fun fs => ?_
  refine Yields.pure ?_
  rw [write_append, write_ofText, write_parenthesized, Fragment.write_spaced]
  simp only [Fragment.writeAll_cons, Fragment.writeAll_nil, Fragment.write_listClause, write_ofText]

/-- The pass over a branch writes its condition or its values, and then its result. -/
theorem CaseBranch.render_yields (b : CaseBranch) (type : Option JdbcType) {c : Context}
    {scopes : List Scope} (hs : c.scopes = scopes) :
    Yields ((b.render type).outcome c) (b.fragment type scopes) fun f => f.write c := by
  subst hs
  cases b with
  | searched condition result =>
      refine Yields.bind (CriteriaGroup.render_yields condition rfl) fun parts => ?_
      refine Yields.bind (Fragment.required_yields _ parts c) fun tested => ?_
      refine Yields.bind (Expr.render_yields result (Fragment.write_scopes tested c)) fun f => ?_
      refine Yields.pure ?_
      simp only [write_append, write_ofText]
  | simple values result =>
      refine Yields.of_outcome (bindValues_outcome values type c) ?_
      have hc : (writeAll (values.map fun v => Fragment.ofValue v type) c).2.scopes = c.scopes :=
        Fragment.writeAll_scopes _ c
      refine Yields.bind (Expr.render_yields result hc) fun f => ?_
      refine Yields.pure ?_
      simp only [write_append, write_ofText, Fragment.boundValues, Fragment.write_separatedBy]
      rfl

/-- The pass over the branches of a case expression writes them one behind the other. -/
theorem CaseBranch.renderAll_yields (bs : List CaseBranch) (type : Option JdbcType) {c : Context}
    {scopes : List Scope} (hs : c.scopes = scopes) :
    Yields ((CaseBranch.renderAll bs type).outcome c) (CaseBranch.fragments bs type scopes)
      fun f => f.write c := by
  subst hs
  cases bs with
  | nil => exact Yields.pure rfl
  | cons b rest =>
      refine Yields.bind (CaseBranch.render_yields b type rfl) fun f => ?_
      refine Yields.bind (CaseBranch.renderAll_yields rest type (Fragment.write_scopes f c))
        fun fs => ?_
      exact Yields.pure (write_append f fs c).symm

/-- The pass over a test goes on in the context in which its operand is written, and writes both. -/
theorem Test.render?_yields (t : Test) (f : Fragment) (type : Option JdbcType) (c : Context)
    {scopes : List Scope} (hs : c.scopes = scopes) (hd : t.dropsOut = false) :
    Yields ((t.render? (f.write c).1 type).outcome (f.write c).2) (t.fragment? f type scopes)
      fun r => writeOption r c := by
  subst hs
  cases t with
  | values kind ignoreCase => exact kind.render?_yields f type ignoreCase c hd
  | compareExpr op right =>
      refine Yields.bind (Expr.render_yields right (Fragment.write_scopes f c)) fun g => ?_
      refine Yields.pure ?_
      simp only [writeOption, write_append, write_ofText, String.append_assoc]
  | compareQuery op query =>
      refine Yields.bind (Select.render_yields query (Fragment.write_scopes f c)) fun g => ?_
      refine Yields.pure ?_
      simp only [writeOption, write_append, write_ofText, write_parenthesized, String.append_assoc]
  | memberOfQuery negated query =>
      refine Yields.bind (Select.render_yields query (Fragment.write_scopes f c)) fun g => ?_
      refine Yields.pure ?_
      simp only [writeOption, write_append, write_ofText, write_parenthesized, String.append_assoc]

/-- The pass over a criterion writes its fragment, or nothing when it drops out. -/
theorem Criterion.render?_yields (k : Criterion) {c : Context} {scopes : List Scope}
    (hs : c.scopes = scopes) :
    Yields (k.render?.outcome c) (k.fragment? scopes) fun r => writeOption r c := by
  subst hs
  match k with
  | .test operand test =>
      rw [Criterion.render?, Criterion.fragment?]
      by_cases hd : test.dropsOut = true
      · rw [if_pos hd, if_pos hd]
        exact Yields.pure rfl
      · rw [if_neg hd, if_neg hd]
        refine Yields.bind (Expr.render_yields operand rfl) fun f => ?_
        exact Test.render?_yields test f operand.jdbcType? c rfl (eq_false_of_ne_true hd)
  | .exists negated query =>
      refine Yields.bind (Select.render_yields query rfl) fun f => ?_
      refine Yields.pure ?_
      simp only [writeOption, write_append, write_ofText, write_parenthesized]
  | .group group =>
      refine Yields.bind (CriteriaGroup.render_yields group rfl) fun parts => ?_
      exact Yields.pure (Fragment.write_grouped? parts c).symm
  | .not group =>
      refine Yields.bind (CriteriaGroup.render_yields group rfl) fun parts => ?_
      refine Yields.pure ?_
      rw [Fragment.writeOption_map_append, Fragment.write_grouped?, Option.map_map]
      rfl

theorem Criterion.renderInitial_yields (k : Option Criterion) {c : Context} {scopes : List Scope}
    (hs : c.scopes = scopes) :
    Yields ((Criterion.renderInitial k).outcome c) (Criterion.initialFragment? k scopes)
      fun r => writeOption r c := by
  subst hs
  cases k with
  | none => exact Yields.pure rfl
  | some criterion => exact Criterion.render?_yields criterion rfl

/-- The pass over a group writes its parts and joins them later. -/
theorem CriteriaGroup.render_yields (g : CriteriaGroup) {c : Context} {scopes : List Scope}
    (hs : c.scopes = scopes) :
    Yields (g.render.outcome c) (g.parts scopes) fun parts => writeCriteria parts c := by
  subst hs
  obtain ⟨initial, links⟩ := g
  refine Yields.bind (Criterion.renderInitial_yields initial rfl) fun first => ?_
  refine Yields.bind (CriteriaGroup.renderLinks_yields links (Fragment.writeOption_scopes first c))
    fun others => ?_
  refine Yields.pure ?_
  rw [writeCriteria, Fragment.writeParts_append, Fragment.writeParts_toList]

/-- The pass over connected groups writes their parts, each with its connector. -/
theorem CriteriaGroup.renderLinks_yields (links : List (Connector × CriteriaGroup)) {c : Context}
    {scopes : List Scope} (hs : c.scopes = scopes) :
    Yields ((CriteriaGroup.renderLinks links).outcome c) (CriteriaGroup.linkParts links scopes)
      fun parts => writeParts parts c := by
  subst hs
  cases links with
  | nil => exact Yields.pure rfl
  | cons link rest =>
      obtain ⟨connector, group⟩ := link
      refine Yields.bind (CriteriaGroup.render_yields group rfl) fun parts => ?_
      refine Yields.bind (CriteriaGroup.renderLinks_yields rest
        (Fragment.writeCriteria_scopes parts c)) fun others => ?_
      refine Yields.pure ?_
      rw [Fragment.writeParts_append, Fragment.writeParts_toList, Fragment.write_grouped?]
      rw [← Option.toList_map, ← Option.toList_map, Option.map_map]
      rfl

theorem CriteriaGroup.renderClause_yields (g : Option CriteriaGroup) {c : Context}
    {scopes : List Scope} (hs : c.scopes = scopes) :
    Yields ((CriteriaGroup.renderClause g).outcome c) (CriteriaGroup.clauseParts g scopes)
      fun parts => writeClause parts c := by
  subst hs
  cases g with
  | none => exact Yields.pure rfl
  | some group =>
      refine Yields.bind (CriteriaGroup.render_yields group rfl) fun parts => ?_
      exact Yields.pure rfl

theorem Source.render_yields (s : Source) {c : Context} {scopes : List Scope}
    (hs : c.scopes = scopes) :
    Yields (s.render.outcome c) (s.fragment scopes) fun f => f.write c := by
  subst hs
  cases s with
  | table name aliasName => exact Yields.pure (write_ofText _ c).symm
  | subquery query aliasName =>
      refine Yields.bind (Select.render_yields query rfl) fun f => ?_
      refine Yields.pure ?_
      rw [write_append, write_ofText, write_parenthesized, String.append_assoc]

/-- The pass over a from clause writes its source, if there is one. -/
theorem Source.renderFrom_yields (s : Option Source) {c : Context} {scopes : List Scope}
    (hs : c.scopes = scopes) :
    Yields ((Source.renderFrom s).outcome c) (Source.fromFragment s scopes)
      fun f => f.write c := by
  subst hs
  cases s with
  | none => exact Yields.pure rfl
  | some source =>
      refine Yields.bind (Source.render_yields source rfl) fun f => ?_
      refine Yields.pure ?_
      rw [write_append, write_ofText]

/-- The pass over a join writes its source and then its criteria, which must not be missing. -/
theorem Join.render_yields (j : Join) {c : Context} {scopes : List Scope}
    (hs : c.scopes = scopes) :
    Yields (j.render.outcome c) (j.fragment scopes) fun f => f.write c := by
  subst hs
  obtain ⟨type, source, on⟩ := j
  refine Yields.bind (Source.render_yields source rfl) fun table => ?_
  refine Yields.bind (CriteriaGroup.render_yields on (Fragment.write_scopes table c))
    fun parts => ?_
  refine Yields.bind (Fragment.required_yields _ parts (table.write c).2) fun matched => ?_
  refine Yields.pure ?_
  simp only [write_append, write_ofText]

theorem Join.renderAll_yields (js : List Join) {c : Context} {scopes : List Scope}
    (hs : c.scopes = scopes) :
    Yields ((Join.renderAll js).outcome c) (Join.fragments js scopes) fun fs => writeAll fs c := by
  subst hs
  cases js with
  | nil => exact Yields.pure rfl
  | cons j rest =>
      refine Yields.bind (Join.render_yields j rfl) fun f => ?_
      refine Yields.bind (Join.renderAll_yields rest (Fragment.write_scopes f c)) fun fs => ?_
      exact Yields.pure rfl

/-- The pass over a block writes its clauses inside the scope of its tables. -/
theorem QueryBlock.render_yields (b : QueryBlock) (keyword : String) (config : Config) {c : Context}
    {scopes : List Scope} (hs : c.scopes = scopes) :
    Yields ((b.render keyword config).outcome c) (b.fragment keyword config scopes)
      fun f => f.write c := by
  subst hs
  obtain ⟨distinct, columns, source, joins, filter, groupBy, having⟩ := b
  rw [QueryBlock.render, QueryBlock.fragment]
  -- every later part is walked in the scope of the block, which writing leaves as it is
  refine Yields.withScope ?_
  refine Yields.bind (Expr.renderSelected_yields columns rfl) fun selected => ?_
  refine Yields.bind (Source.renderFrom_yields source (by simp)) fun fromClause => ?_
  refine Yields.bind (Join.renderAll_yields joins (by simp)) fun joinClauses => ?_
  refine Yields.bind (CriteriaGroup.renderClause_yields filter (by simp)) fun filterParts => ?_
  refine Yields.bind (Fragment.whereClause_yields config filterParts _) fun filterClause => ?_
  refine Yields.bind (Expr.renderAll_yields groupBy (by simp)) fun groups => ?_
  refine Yields.bind (CriteriaGroup.renderClause_yields having (by simp)) fun havingParts => ?_
  refine Yields.pure ?_
  rw [Fragment.write_spaced, Fragment.writeAll_append, Fragment.writeAll_append]
  simp only [Fragment.writeAll_cons, Fragment.writeAll_nil, write_ofText, Fragment.write_listed,
    Fragment.write_listClause, Fragment.write_havingClause]

/-- The pass over blocks behind unions writes each of them behind its word. -/
theorem QueryBlock.renderUnions_yields (unions : List (UnionKind × QueryBlock)) (config : Config)
    {c : Context} {scopes : List Scope} (hs : c.scopes = scopes) :
    Yields ((QueryBlock.renderUnions unions config).outcome c)
      (QueryBlock.unionFragments unions config scopes) fun fs => writeAll fs c := by
  subst hs
  cases unions with
  | nil => exact Yields.pure rfl
  | cons union rest =>
      obtain ⟨kind, block⟩ := union
      refine Yields.bind (QueryBlock.render_yields block "select" config rfl) fun f => ?_
      refine Yields.bind (QueryBlock.renderUnions_yields rest config (Fragment.write_scopes f c))
        fun fs => ?_
      refine Yields.pure ?_
      rw [Fragment.writeAll_cons, Fragment.writeAll_cons, write_ofText]

/-- **The pass over a select writes what the select denotes**: its blocks, its order, its counts and
    its lock. -/
theorem Select.render_yields (q : Select) {c : Context} {scopes : List Scope}
    (hs : c.scopes = scopes) :
    Yields (q.render.outcome c) (q.fragment scopes) fun f => f.write c := by
  subst hs
  obtain ⟨first, unions, orderBy, paging, lock, config⟩ := q
  refine Yields.bind (QueryBlock.render_yields first (config.keyword "select") config rfl)
    fun f => ?_
  refine Yields.bind (QueryBlock.renderUnions_yields unions config (Fragment.write_scopes f c))
    fun fs => ?_
  refine Yields.of_outcome (paging.render_outcome _) ?_
  refine Yields.pure ?_
  rw [Config.write_wrapped, Fragment.write_spaced, Fragment.writeAll_append,
    Fragment.writeAll_append, Fragment.writeAll_map_ofText]
  simp only [Fragment.writeAll_cons, Fragment.writeAll_nil, write_ofText]

end

end SqlComposer
