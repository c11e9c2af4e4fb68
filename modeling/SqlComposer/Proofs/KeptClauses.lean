import SqlComposer.Proofs.Clauses

/-! # What succeeds has kept its clauses

    When a part of a statement denotes a fragment, the clauses in it are kept by this fragment, one
    behind the other: their criteria are there behind the words that lead them, or it is a where
    clause that its own configuration lets drop out.  The proof goes once over the syntax; what it
    needs at every constructor is that fragments are only ever put together, in the order in which
    the clauses are listed. -/

namespace SqlComposer

open Fragment (ofText connected grouped?)

/-! ## Where clauses and required criteria -/

section Own

variable {config : Config} {filter : Option CriteriaGroup} {scopes : List Scope}
  {parts : Option CriteriaParts} {f : Fragment} {inner : List Clause}

/-- A where clause with what is in it, behind a blank. -/
theorem whereClause_kept (hp : CriteriaGroup.clauseParts filter scopes = .ok parts)
    (hw : Fragment.whereClause config parts = .ok f)
    (hi : KeptIn inner ((parts.getD []).map (·.2))) :
    Kept (filterClauses config filter scopes ++ inner) (Fragment.spacedItem f) := by
  cases filter with
  | none =>
      cases hp
      cases hw
      exact hi
  | some g =>
      obtain ⟨own, ho, hr⟩ := exists_of_bind_ok hp
      cases hr
      cases own with
      | nil =>
          by_cases ha : config.emptyWhereAllowed = true
          · rw [Fragment.whereClause, if_pos ha] at hw
            cases hw
            exact .inl ⟨⟨ha, ho⟩, hi⟩
          · rw [Fragment.whereClause, if_neg ha] at hw
            cases hw
      | cons part rest =>
          cases hw
          exact Kept.own ⟨.filter config, g, scopes⟩ ho hi.connected

theorem havingClause_kept (hi : KeptIn inner ((parts.getD []).map (·.2))) :
    Kept inner (Fragment.havingClause parts) := by
  match parts with
  | none => exact hi
  | some [] => exact hi
  | some (part :: rest) => exact KeptIn.connected hi |>.right (ofText "having ")

/-- Criteria that must not drop out are connected. -/
theorem required_eq {cause : InvalidSql} {own : CriteriaParts}
    (h : Fragment.required cause own = .ok f) :
    ∃ part rest, own = part :: rest ∧ f = connected (part :: rest) := by
  cases own with
  | nil => cases h
  | cons part rest =>
      cases h
      exact ⟨part, rest, rfl, rfl⟩

end Own

/-- A condition keeps what its operand keeps. -/
theorem ConditionKind.kept {kind : ConditionKind} {f g : Fragment} {type : Option JdbcType}
    {ignoreCase : Bool} {clauses : List Clause}
    (h : kind.fragment? f type ignoreCase = .ok (some g)) (hf : Kept clauses f) :
    Kept clauses g := by
  have ho : Kept clauses (Fragment.operand ignoreCase f) := by
    cases ignoreCase with
    | false => exact hf
    | true => exact hf.parenthesized.right (ofText "upper")
  match kind with
  | .compare _ none => cases h
  | .compare _ (some _) => cases h; exact (ho.left _).left _
  | .null _ => cases h; exact ho.left _
  | .between _ none _ => cases h
  | .between _ (some _) none => cases h
  | .between _ (some _) (some _) => cases h; exact (((ho.left _).left _).left _).left _
  | .member _ true [] => cases h
  | .member _ false [] => cases h
  | .member _ _ (_ :: _) => cases h; exact (ho.left _).left _

/-- The keyword of a statement is there whatever follows it. -/
theorem Config.keyword_ne_empty (config : Config) {keyword : String} (h : keyword ≠ "") :
    config.keyword keyword ≠ "" := by
  have hk : keyword.isEmpty = false := by
    rw [Bool.eq_false_iff, ne_eq, String.isEmpty_iff]
    exact h
  rw [Config.keyword, spaced, List.filter_cons_of_pos (by rw [hk]; rfl)]
  cases [config.afterKeyword.getD ""].filter fun s => !s.isEmpty with
  | nil => rw [String.intercalate_singleton]; exact h
  | cons s rest =>
      rw [String.intercalate_cons_cons, String.append_assoc]
      exact Fragment.append_ne_empty h _

/-- The items of a query block: behind the keyword each one has its blank in front. -/
theorem spaced_block {keyword : Fragment} (hk : keyword.isNothing = false)
    (distinct columns source : Fragment) (joins : List Fragment)
    (filter groups having : Fragment) :
    Fragment.spaced ([keyword, distinct, columns, source] ++ joins ++ [filter, groups, having]) =
      keyword ++ Fragment.spacedItem distinct ++
        (Fragment.spacedItem columns ++ Fragment.spacedItem source ++
          joins.flatMap Fragment.spacedItem ++ Fragment.spacedItem filter ++
          Fragment.spacedItem groups ++ Fragment.spacedItem having) := by
  rw [List.append_assoc, List.cons_append, Fragment.spaced_cons hk]
  simp only [List.append_assoc, List.cons_append, List.nil_append, List.flatMap_cons,
    List.flatMap_append, List.flatMap_nil, List.append_nil]

/-! ## The induction over the syntax -/

mutual

/-- An expression keeps the clauses of its parts, in the order in which it writes them. -/
theorem Expr.clauses_kept (e : Expr) {scopes : List Scope} {f : Fragment}
    (h : e.fragment scopes = .ok f) : Kept (e.clauses scopes) f := by
  match e with
  | .count argument =>
      obtain ⟨g, hg, hr⟩ := exists_of_bind_ok h
      cases hr
      exact (Expr.clauses_kept argument hg).parenthesized.right _
  | .countDistinct argument =>
      obtain ⟨g, hg, hr⟩ := exists_of_bind_ok h
      cases hr
      exact ((Expr.clauses_kept argument hg).right _).parenthesized.right _
  | .call function argument =>
      obtain ⟨g, hg, hr⟩ := exists_of_bind_ok h
      cases hr
      exact (Expr.clauses_kept argument hg).parenthesized.right _
  | .windowed inner window =>
      obtain ⟨g, hg, h⟩ := exists_of_bind_ok h
      obtain ⟨rows, hw, hr⟩ := exists_of_bind_ok h
      cases hr
      exact ((Expr.clauses_kept inner hg).left _).append (Window.clauses_kept window hw)
  | .caseOf operand branches otherwise =>
      obtain ⟨before, hb, h⟩ := exists_of_bind_ok h
      obtain ⟨whens, hw, h⟩ := exists_of_bind_ok h
      obtain ⟨behind, ho, hr⟩ := exists_of_bind_ok h
      cases hr
      -- operand, branches and else are listed in the order in which they are written
      have hk := ((Expr.optionClauses_kept operand hb).right (ofText "case")).append
        (CaseBranch.allClauses_kept branches hw)
      exact (hk.append (Expr.optionClauses_kept otherwise ho)).left _
  | .subquery query =>
      obtain ⟨g, hg, hr⟩ := exists_of_bind_ok h
      cases hr
      exact (Select.clauses_kept query hg).parenthesized
  | .aliased inner _ => exact Expr.clauses_kept inner h
  | .column _ => exact trivial
  | .allColumns _ => exact trivial
  | .constant _ => exact trivial
  | .stringConstant _ => exact trivial
  | .bound _ => exact trivial
  | .countAll => exact trivial
  | .rowNumber => exact trivial

/-- An operand or an else keeps its clauses behind the word in front of it. -/
theorem Expr.optionClauses_kept (e : Option Expr) {scopes : List Scope} {before : String}
    {f : Fragment} (h : Expr.fragmentAfter before e scopes = .ok f) :
    Kept (Expr.optionClauses e scopes) f := by
  match e with
  | none => exact trivial
  | some e =>
      obtain ⟨g, hg, hr⟩ := exists_of_bind_ok h
      cases hr
      exact (Expr.clauses_kept e hg).right _

/-- The expressions of a list keep their clauses, each in its own fragment. -/
theorem Expr.allClauses_kept (es : List Expr) {scopes : List Scope} {fs : List Fragment}
    (h : Expr.fragments es scopes = .ok fs) : KeptIn (Expr.allClauses es scopes) fs := by
  match es with
  | [] => cases h; exact trivial
  | e :: rest =>
      obtain ⟨f, hf, h⟩ := exists_of_bind_ok h
      obtain ⟨others, ho, hr⟩ := exists_of_bind_ok h
      cases hr
      exact KeptIn.cons (Expr.clauses_kept e hf) (Expr.allClauses_kept rest ho)

/-- An alias behind an expression takes nothing away. -/
theorem Expr.selectedClauses_kept (es : List Expr) {scopes : List Scope} {fs : List Fragment}
    (h : Expr.selectedFragments es scopes = .ok fs) : KeptIn (Expr.allClauses es scopes) fs := by
  match es with
  | [] => cases h; exact trivial
  | e :: rest =>
      obtain ⟨f, hf, h⟩ := exists_of_bind_ok h
      obtain ⟨others, ho, hr⟩ := exists_of_bind_ok h
      cases hr
      refine KeptIn.cons ?_ (Expr.selectedClauses_kept rest ho)
      have hk := Expr.clauses_kept e hf
      cases e.alias? with
      | none => exact hk
      | some aliasName => exact hk.left _

theorem Window.clauses_kept (w : Window) {scopes : List Scope} {f : Fragment}
    (h : w.fragment scopes = .ok f) : Kept (w.clauses scopes) f := by
  obtain ⟨partitionBy, orderBy⟩ := w
  obtain ⟨columns, hc, hr⟩ := exists_of_bind_ok h
  cases hr
  have hl := (Expr.allClauses_kept partitionBy hc).listClause "partition by "
  have hs := KeptIn.cons hl (KeptIn.empty [ofText (orderClause orderBy)])
  rw [List.append_nil] at hs
  exact hs.spaced.parenthesized.right _

/-- A branch keeps its condition as a clause of its own, then the clauses in it and in its
    result. -/
theorem CaseBranch.clauses_kept (b : CaseBranch) {scopes : List Scope} {type : Option JdbcType}
    {f : Fragment} (h : b.fragment type scopes = .ok f) : Kept (b.clauses scopes) f := by
  match b with
  | .searched condition result =>
      obtain ⟨parts, hp, h⟩ := exists_of_bind_ok h
      obtain ⟨tested, ht, h⟩ := exists_of_bind_ok h
      obtain ⟨g, hg, hr⟩ := exists_of_bind_ok h
      cases hr
      -- a branch whose condition dropped out would have been refused
      obtain ⟨part, rest, rfl, rfl⟩ := required_eq ht
      have hk := Kept.own ⟨.when, condition, scopes⟩ hp
        (CriteriaGroup.clauses_kept condition hp).connected
      exact (hk.left _).append (Expr.clauses_kept result hg)
  | .simple values result =>
      obtain ⟨g, hg, hr⟩ := exists_of_bind_ok h
      cases hr
      exact (Expr.clauses_kept result hg).right _

/-- Branches keep their clauses, one branch behind the other. -/
theorem CaseBranch.allClauses_kept (bs : List CaseBranch) {scopes : List Scope}
    {type : Option JdbcType} {f : Fragment} (h : CaseBranch.fragments bs type scopes = .ok f) :
    Kept (CaseBranch.allClauses bs scopes) f := by
  match bs with
  | [] => exact trivial
  | b :: rest =>
      obtain ⟨g, hg, h⟩ := exists_of_bind_ok h
      obtain ⟨others, ho, hr⟩ := exists_of_bind_ok h
      cases hr
      exact (CaseBranch.clauses_kept b hg).append (CaseBranch.allClauses_kept rest ho)

/-- A test keeps the clauses of its operand in front of those of what it compares with. -/
theorem Test.clauses_kept (t : Test) {scopes : List Scope} {operand g : Fragment}
    {type : Option JdbcType} {clauses : List Clause}
    (h : t.fragment? operand type scopes = .ok (some g)) (ho : Kept clauses operand) :
    Kept (clauses ++ t.clauses scopes) g := by
  match t with
  | .values kind ignoreCase =>
      rw [Test.clauses, List.append_nil]
      exact ConditionKind.kept h ho
  | .compareExpr op right =>
      obtain ⟨f, hf, hr⟩ := exists_of_bind_ok h
      cases hr
      exact (ho.left _).append (Expr.clauses_kept right hf)
  | .compareQuery op query =>
      obtain ⟨f, hf, hr⟩ := exists_of_bind_ok h
      cases hr
      exact (ho.left _).append (Select.clauses_kept query hf).parenthesized
  | .memberOfQuery negated query =>
      obtain ⟨f, hf, hr⟩ := exists_of_bind_ok h
      cases hr
      exact (ho.left _).append (Select.clauses_kept query hf).parenthesized

/-- A criterion keeps its clauses in its fragment; one that drops out has none to keep. -/
theorem Criterion.clauses_kept (k : Criterion) {scopes : List Scope} {r : Option Fragment}
    (h : k.fragment? scopes = .ok r) : KeptIn (k.clauses scopes) r.toList := by
  match k with
  | .test operand t =>
      rw [Criterion.clauses]
      by_cases hd : t.dropsOut = true
      · rw [if_pos hd]
        exact KeptIn.empty _
      · rw [if_neg hd]
        rw [Criterion.fragment?, if_neg hd] at h
        obtain ⟨f, hf, ht⟩ := exists_of_bind_ok h
        -- a test that does not drop out is there, with the operand in front of it
        obtain ⟨g, rfl⟩ := Test.fragment?_eq_some (eq_false_of_ne_true hd) ht
        exact KeptIn.single (Test.clauses_kept t ht (Expr.clauses_kept operand hf))
  | .exists negated query =>
      obtain ⟨g, hg, hr⟩ := exists_of_bind_ok h
      cases hr
      exact KeptIn.single ((Select.clauses_kept query hg).parenthesized.right _)
  | .group g =>
      obtain ⟨parts, hp, hr⟩ := exists_of_bind_ok h
      cases hr
      exact (CriteriaGroup.clauses_kept g hp).grouped
  | .not g =>
      obtain ⟨parts, hp, hr⟩ := exists_of_bind_ok h
      cases hr
      exact (CriteriaGroup.clauses_kept g hp).grouped.optionRight _

theorem Criterion.initialClauses_kept (k : Option Criterion) {scopes : List Scope}
    {r : Option Fragment} (h : Criterion.initialFragment? k scopes = .ok r) :
    KeptIn (Criterion.initialClauses k scopes) r.toList := by
  match k with
  | none => cases h; exact trivial
  | some criterion => exact Criterion.clauses_kept criterion h

/-- A group keeps its clauses, each in the part that it belongs to. -/
theorem CriteriaGroup.clauses_kept (g : CriteriaGroup) {scopes : List Scope}
    {parts : CriteriaParts} (h : g.parts scopes = .ok parts) :
    KeptIn (g.clauses scopes) (parts.map (·.2)) := by
  obtain ⟨initial, links⟩ := g
  rw [CriteriaGroup.parts] at h
  obtain ⟨first, hf, h⟩ := exists_of_bind_ok h
  obtain ⟨others, ho, hr⟩ := exists_of_bind_ok h
  cases hr
  rw [List.map_append, Option.map_snd_toList]
  exact (Criterion.initialClauses_kept initial hf).append (CriteriaGroup.linkClauses_kept links ho)

/-- Connected groups keep their clauses in their own parts, in parentheses or not. -/
theorem CriteriaGroup.linkClauses_kept (links : List (Connector × CriteriaGroup))
    {scopes : List Scope} {parts : CriteriaParts}
    (h : CriteriaGroup.linkParts links scopes = .ok parts) :
    KeptIn (CriteriaGroup.linkClauses links scopes) (parts.map (·.2)) := by
  match links with
  | [] => cases h; exact trivial
  | (connector, g) :: rest =>
      rw [CriteriaGroup.linkParts] at h
      obtain ⟨own, hp, h⟩ := exists_of_bind_ok h
      obtain ⟨others, ho, hr⟩ := exists_of_bind_ok h
      cases hr
      rw [List.map_append, Option.map_snd_toList]
      exact (CriteriaGroup.clauses_kept g hp).grouped.append
        (CriteriaGroup.linkClauses_kept rest ho)

theorem CriteriaGroup.optionClauses_kept (g : Option CriteriaGroup) {scopes : List Scope}
    {r : Option CriteriaParts} (h : CriteriaGroup.clauseParts g scopes = .ok r) :
    KeptIn (CriteriaGroup.optionClauses g scopes) ((r.getD []).map (·.2)) := by
  match g with
  | none => cases h; exact trivial
  | some group =>
      obtain ⟨parts, hp, hr⟩ := exists_of_bind_ok h
      cases hr
      exact CriteriaGroup.clauses_kept group hp

theorem Source.clauses_kept (s : Source) {scopes : List Scope} {f : Fragment}
    (h : s.fragment scopes = .ok f) : Kept (s.clauses scopes) f := by
  match s with
  | .table _ _ => exact trivial
  | .subquery query aliasName =>
      obtain ⟨g, hg, hr⟩ := exists_of_bind_ok h
      cases hr
      exact (Select.clauses_kept query hg).parenthesized.left _

theorem Source.optionClauses_kept (s : Option Source) {scopes : List Scope} {f : Fragment}
    (h : Source.fromFragment s scopes = .ok f) : Kept (Source.optionClauses s scopes) f := by
  match s with
  | none => exact trivial
  | some source =>
      obtain ⟨g, hg, hr⟩ := exists_of_bind_ok h
      cases hr
      exact (Source.clauses_kept source hg).right _

/-- A join keeps its criteria as a clause of its own, behind the clauses of its source. -/
theorem Join.clauses_kept (j : Join) {scopes : List Scope} {f : Fragment}
    (h : j.fragment scopes = .ok f) : Kept (j.clauses scopes) f := by
  obtain ⟨type, source, on⟩ := j
  obtain ⟨table, ht, h⟩ := exists_of_bind_ok h
  obtain ⟨parts, hp, h⟩ := exists_of_bind_ok h
  obtain ⟨matched, hm, hr⟩ := exists_of_bind_ok h
  cases hr
  obtain ⟨part, rest, rfl, rfl⟩ := required_eq hm
  have hk := Kept.own ⟨.on, on, scopes⟩ hp (CriteriaGroup.clauses_kept on hp).connected
  rw [List.append_assoc]
  exact ((Source.clauses_kept source ht).right _).append hk

theorem Join.allClauses_kept (js : List Join) {scopes : List Scope} {fs : List Fragment}
    (h : Join.fragments js scopes = .ok fs) : KeptIn (Join.allClauses js scopes) fs := by
  match js with
  | [] => cases h; exact trivial
  | j :: rest =>
      obtain ⟨f, hf, h⟩ := exists_of_bind_ok h
      obtain ⟨others, ho, hr⟩ := exists_of_bind_ok h
      cases hr
      exact KeptIn.cons (Join.clauses_kept j hf) (Join.allClauses_kept rest ho)

/-- A block keeps its where clause between the clauses of its joins and those of its groups, unless
    it may drop out and does. -/
theorem QueryBlock.clauses_kept (b : QueryBlock) {scopes : List Scope} {keyword : String}
    {config : Config} {f : Fragment} (hk : keyword ≠ "")
    (h : b.fragment keyword config scopes = .ok f) : Kept (b.clauses config scopes) f := by
  obtain ⟨distinct, columns, source, joins, filter, groupBy, having⟩ := b
  obtain ⟨columnFragments, hcolumns, h⟩ := exists_of_bind_ok h
  obtain ⟨sourceFragment, hsource, h⟩ := exists_of_bind_ok h
  obtain ⟨joinFragments, hjoins, h⟩ := exists_of_bind_ok h
  obtain ⟨filterParts, hfilter, h⟩ := exists_of_bind_ok h
  obtain ⟨filterFragment, hwhere, h⟩ := exists_of_bind_ok h
  obtain ⟨groups, hgroups, h⟩ := exists_of_bind_ok h
  obtain ⟨havingParts, hhaving, hr⟩ := exists_of_bind_ok h
  cases hr
  have hc := ((Expr.selectedClauses_kept columns hcolumns).separatedBy ", ").spacedItem
  have hs := (Source.optionClauses_kept source hsource).spacedItem
  have hj := Join.allClauses_kept joins hjoins
  rw [← List.map_id joinFragments] at hj
  have hj' := hj.flatMap fun _ _ hk => Kept.spacedItem hk
  have hw := whereClause_kept hfilter hwhere (CriteriaGroup.optionClauses_kept filter hfilter)
  have hg := ((Expr.allClauses_kept groupBy hgroups).listClause "group by ").spacedItem
  have hh := (havingClause_kept (CriteriaGroup.optionClauses_kept having hhaving)).spacedItem
  rw [spaced_block (Fragment.isNothing_ofText hk)]
  exact (((((hc.append hs).append hj').append hw).append hg).append hh).right _

/-- Blocks behind unions keep their clauses, each in its own fragment. -/
theorem QueryBlock.unionClauses_kept (unions : List (UnionKind × QueryBlock))
    {scopes : List Scope} {config : Config} {fs : List Fragment}
    (h : QueryBlock.unionFragments unions config scopes = .ok fs) :
    KeptIn (QueryBlock.unionClauses unions config scopes) fs := by
  match unions with
  | [] => cases h; exact trivial
  | (kind, block) :: rest =>
      obtain ⟨f, hf, h⟩ := exists_of_bind_ok h
      obtain ⟨others, ho, hr⟩ := exists_of_bind_ok h
      cases hr
      have hb := QueryBlock.clauses_kept block (by decide) hf
      exact (KeptIn.cons hb (QueryBlock.unionClauses_kept rest ho)).skip _

/-- **A select keeps its clauses**, those of its blocks one behind the other. -/
theorem Select.clauses_kept (q : Select) {scopes : List Scope} {f : Fragment}
    (h : q.fragment scopes = .ok f) : Kept (q.clauses scopes) f := by
  obtain ⟨first, unions, orderBy, paging, lock, config⟩ := q
  obtain ⟨g, hg, h⟩ := exists_of_bind_ok h
  obtain ⟨gs, hgs, hr⟩ := exists_of_bind_ok h
  cases hr
  have hf := QueryBlock.clauses_kept first (config.keyword_ne_empty (by decide)) hg
  have hs := (KeptIn.cons hf (QueryBlock.unionClauses_kept unions hgs)).append
    (KeptIn.empty ([ofText (orderClause orderBy), paging.fragment] ++
      (lockClause lock).map ofText))
  rw [List.append_nil, ← List.append_assoc] at hs
  exact hs.spaced.wrapped config

end

/-! ## Statements -/

/-- The sets of an update keep the clauses of the expressions and selects in them. -/
theorem setClauses_kept {sets : List (Assignment SetValue)} {scopes : List Scope}
    {fs : List Fragment} (h : setFragments sets scopes = .ok fs) :
    KeptIn (setClauses sets scopes) fs := by
  induction sets generalizing fs with
  | nil => cases h; exact trivial
  | cons set rest ih =>
      obtain ⟨column, value⟩ := set
      obtain ⟨own, hown, h⟩ := exists_of_bind_ok h
      obtain ⟨others, ho, hr⟩ := exists_of_bind_ok h
      cases hr
      refine KeptIn.append ?_ (ih ho)
      rw [← Option.toList_map]
      refine KeptIn.optionRight ?_ _
      cases value with
      | expr e =>
          obtain ⟨g, hg, hr⟩ := exists_of_bind_ok hown
          cases hr
          exact KeptIn.single (Expr.clauses_kept e hg)
      | subquery query =>
          obtain ⟨g, hg, hr⟩ := exists_of_bind_ok hown
          cases hr
          exact KeptIn.single (Select.clauses_kept query hg).parenthesized
      | bound value => exact KeptIn.empty _
      | null => exact KeptIn.empty _
      | constant s => exact KeptIn.empty _
      | stringConstant s => exact KeptIn.empty _

/-- The where clause of an update or a delete, with the clauses in it. -/
theorem filterFragment_kept {config : Config} {filter : Option CriteriaGroup}
    {scopes : List Scope} {f : Fragment} (h : filterFragment config filter scopes = .ok f) :
    Kept (filterClauses config filter scopes ++ CriteriaGroup.optionClauses filter scopes)
      (Fragment.spacedItem f) := by
  obtain ⟨parts, hp, hw⟩ := exists_of_bind_ok h
  exact whereClause_kept hp hw (CriteriaGroup.optionClauses_kept filter hp)

/-- Selects behind unions keep their clauses, each inside of its parentheses. -/
theorem MultiSelect.unionClauses_kept {unions : List (UnionKind × Select)} {scopes : List Scope}
    {fs : List Fragment} (h : unionFragments unions scopes = .ok fs) :
    KeptIn (unionClauses unions scopes) fs := by
  induction unions generalizing fs with
  | nil => cases h; exact trivial
  | cons union rest ih =>
      obtain ⟨kind, select⟩ := union
      obtain ⟨f, hf, h⟩ := exists_of_bind_ok h
      obtain ⟨others, ho, hr⟩ := exists_of_bind_ok h
      cases hr
      exact (KeptIn.cons (Select.clauses_kept select hf).parenthesized (ih ho)).skip _

/-- **A statement that denotes a fragment has kept all of its clauses.** -/
theorem Statement.clauses_kept (s : Statement) {f : Fragment} (h : s.fragment [] = .ok f) :
    Kept s.clauses f := by
  cases s with
  | select q => exact Select.clauses_kept q h
  | multiSelect q =>
      obtain ⟨first, hf, h⟩ := exists_of_bind_ok h
      obtain ⟨others, ho, hr⟩ := exists_of_bind_ok h
      cases hr
      have hk := (KeptIn.cons (Select.clauses_kept q.first hf).parenthesized
        (MultiSelect.unionClauses_kept ho)).append
          (KeptIn.empty [ofText (orderClause q.orderBy), q.paging.fragment])
      rw [List.append_nil] at hk
      exact hk.spaced.wrapped q.config
  | update u =>
      obtain ⟨sets, hs, h⟩ := exists_of_bind_ok h
      obtain ⟨-, -, h⟩ := exists_of_bind_ok h
      obtain ⟨filter, hf, hr⟩ := exists_of_bind_ok h
      cases hr
      refine Kept.wrapped ?_ u.config
      have hk := ((setClauses_kept hs).listClause "set ").spacedItem.append (filterFragment_kept hf)
      rw [Fragment.spaced_cons (Fragment.isNothing_ofText (u.config.keyword_ne_empty (by decide)))]
      simp only [List.flatMap_cons, List.flatMap_nil, List.append_nil]
      refine Kept.right (Kept.right ?_ _) _
      rw [← List.append_assoc]
      exact hk.left _
  | delete d =>
      obtain ⟨filter, hf, hr⟩ := exists_of_bind_ok h
      cases hr
      refine Kept.wrapped ?_ d.config
      rw [Fragment.spaced_cons (Fragment.isNothing_ofText (d.config.keyword_ne_empty (by decide)))]
      simp only [List.flatMap_cons, List.flatMap_nil, List.append_nil]
      exact (((filterFragment_kept hf).left _).right _).right _
  | insertSelect i =>
      obtain ⟨g, hg, hr⟩ := exists_of_bind_ok h
      cases hr
      exact (((((KeptIn.single (Select.clauses_kept i.select hg)).skip _).skip _).skip _).skip
        _).spaced.wrapped i.config
  | insert i => exact trivial
  | insertRecord i => exact trivial
  | insertRows i => exact trivial

end SqlComposer
