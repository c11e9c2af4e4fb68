import SqlComposer.Proofs.ReplacedConstants

/-! # A string constant stays inside its literal

    Replacing a string constant replaces its literal and nothing else.  A statement and the same
    statement with constants replaced are refused alike, or they denote fragments that differ in
    the literals of these constants (`Fragment.Differs`): one case for each form of expression,
    criterion and select, by recursion on the syntax, and each case is a rule for the way in which
    its parts are put together.

    * **`Select.fragment_replaced`** — the result for queries.
    * **`Statement.fragment_replaced`**, **`RecordsInsert.recordFragment_replaced`** — for
      statements and for the records of a batch.
    * **`string_constants_stay_inside`** — what it means for rendered statements, together with how
      a literal is read. -/

namespace SqlComposer

open Fragment (ofText Differs Opens opensText opensText_append)

variable {s s' : String} {n m : Nat}

/-! ## Conditions -/

/-- A word between blanks opens. -/
theorem Fragment.opensText_word (word : String) : opensText (" " ++ word ++ " ") = true :=
  opensText_append (opensText_append (by decide) word) " "

/-- A condition on an operand with other literals. -/
theorem ConditionKind.fragment?_differs {f f' : Fragment} (hf : Differs s s' f f' n)
    (type : Option JdbcType) (ignoreCase : Bool) (kind : ConditionKind) :
    Corresponds (Lifts (Differs s s') · · n) (kind.fragment? f type ignoreCase)
      (kind.fragment? f' type ignoreCase) := by
  have hoperand := hf.operand ignoreCase
  match kind with
  | .compare _ none => exact Lifts.none
  | .compare op (some value) =>
      exact Lifts.some (hoperand.between (Fragment.opensText_word op.text) (.same (n := 0) _))
  | .null negated => exact Lifts.some (hoperand.behind (.ofText (opensText_append (by decide) _)))
  | .between negated none _ => exact Lifts.none
  | .between negated (some _) none => exact Lifts.none
  | .between negated (some low) (some high) =>
      have hlow := hoperand.between (Fragment.opensText_word (negatedWord negated "between"))
        (.same (n := 0) (.ofValue low type))
      exact Lifts.some (hlow.between (by decide) (.same (n := 0) _))
  | .member negated whenPresent [] =>
      cases whenPresent with
      | true => exact Lifts.none
      | false => exact rfl
  | .member negated whenPresent (value :: rest) =>
      exact Lifts.some (hoperand.between (Fragment.opensText_word _) (.same (n := 0) _))

/-! ## Queries -/

mutual

/-- An expression with constants replaced differs in their literals: the constant itself in its own
    one, every other form in those of its parts. -/
theorem Expr.fragment_replaced (e : Expr) {e' : Expr} {n : Nat} (h : e.Replaced s s' e' n)
    (scopes : List Scope) :
    Corresponds (Differs s s' · · n) (e.fragment scopes) (e'.fragment scopes) := by
  match e, h with
  | _, .same e => exact Corresponds.refl .same _
  | _, .stringConstant => exact (Differs.literals s s').mono (Nat.le_add_left 1 _)
  | .count e, .count argument =>
      refine Corresponds.bind (e.fragment_replaced argument scopes) fun f f' hf => ?_
      exact hf.parenthesized.prepend (ofText "count")
  | .countDistinct e, .countDistinct argument =>
      refine Corresponds.bind (e.fragment_replaced argument scopes) fun f f' hf => ?_
      exact (hf.prepend (ofText "distinct ")).parenthesized.prepend (ofText "count")
  | .call function e, .call _ argument =>
      refine Corresponds.bind (e.fragment_replaced argument scopes) fun f f' hf => ?_
      exact hf.parenthesized.prepend (ofText function.name)
  | .windowed e w, .windowed inner window =>
      refine Corresponds.bind (e.fragment_replaced inner scopes) fun f f' hf => ?_
      refine Corresponds.bind (w.fragment_replaced window scopes) fun rows rows' hrows => ?_
      exact hf.between (by decide) hrows
  | .caseOf operand branches otherwise, .caseOf operands whens elses =>
      refine Corresponds.bind (Expr.fragmentAfter_replaced " " (by decide) operand operands scopes)
        fun before before' hbefore => ?_
      -- the values of the branches are bound with the type of the operand, which is the same
      rw [← operands.bind_jdbcType?]
      refine Corresponds.bind (CaseBranch.fragments_replaced branches whens _ scopes)
        fun cases cases' hcases => ?_
      refine Corresponds.bind
        (Expr.fragmentAfter_replaced " else " (by decide) otherwise elses scopes)
        fun behind behind' hbehind => ?_
      have hwhens := (hbefore.1.prepend (ofText "case")).append hcases.1 hcases.2
      exact (hwhens.append hbehind.1 hbehind.2).behind (.ofText (by decide))
  | .subquery q, .subquery query =>
      refine Corresponds.bind (q.fragment_replaced query scopes) fun f f' hf => ?_
      exact hf.parenthesized
  | .aliased e _, .aliased inner _ => exact e.fragment_replaced inner scopes

/-- An expression after a text that opens. -/
theorem Expr.fragmentAfter_replaced (before : String) (hb : opensText before = true)
    (e : Option Expr) {e' : Option Expr} {n : Nat} (h : Lifts (Expr.Replaced s s') e e' n)
    (scopes : List Scope) :
    Corresponds (fun f f' => Differs s s' f f' n ∧ Opens f) (Expr.fragmentAfter before e scopes)
      (Expr.fragmentAfter before e' scopes) := by
  match e, h with
  | _, .none => exact ⟨.same [], .nil⟩
  | some e, .some item =>
      refine Corresponds.bind (e.fragment_replaced item scopes) fun f f' hf => ?_
      exact ⟨hf.prepend (ofText before), .text hb f⟩

/-- So do the expressions of a list, one by one. -/
theorem Expr.fragments_replaced (es : List Expr) {es' : List Expr} {n : Nat}
    (h : Sums (Expr.Replaced s s') es es' n) (scopes : List Scope) :
    Corresponds (Sums (Differs s s') · · n) (Expr.fragments es scopes)
      (Expr.fragments es' scopes) := by
  match es, h with
  | _, .nil => exact Sums.nil
  | e :: rest, .cons head tail =>
      refine Corresponds.bind (e.fragment_replaced head scopes) fun f f' hf => ?_
      refine Corresponds.bind (Expr.fragments_replaced rest tail scopes) fun fs fs' hfs => ?_
      exact Sums.cons hf hfs

/-- So do those of a select list; their aliases stay. -/
theorem Expr.selectedFragments_replaced (es : List Expr) {es' : List Expr} {n : Nat}
    (h : Sums (Expr.Replaced s s') es es' n) (scopes : List Scope) :
    Corresponds (Sums (Differs s s') · · n) (Expr.selectedFragments es scopes)
      (Expr.selectedFragments es' scopes) := by
  match es, h with
  | _, .nil => exact Sums.nil
  | e :: rest, .cons head tail =>
      refine Corresponds.bind (e.fragment_replaced head scopes) fun f f' hf => ?_
      refine Corresponds.bind (Expr.selectedFragments_replaced rest tail scopes)
        fun fs fs' hfs => ?_
      refine Sums.cons ?_ hfs
      rw [← head.alias?]
      cases e.alias? with
      | none => exact hf
      | some aliasName => exact hf.behind (.ofText (opensText_append (by decide) aliasName))

/-- A window differs in the expressions that it partitions by. -/
theorem Window.fragment_replaced (w : Window) {w' : Window} {n : Nat} (h : w.Replaced s s' w' n)
    (scopes : List Scope) :
    Corresponds (Differs s s' · · n) (w.fragment scopes) (w'.fragment scopes) := by
  match w, h with
  | _, .same w => exact Corresponds.refl .same _
  | ⟨es, orderBy⟩, .mk columns _ =>
      refine Corresponds.bind (Expr.fragments_replaced es columns scopes) fun fs fs' hfs => ?_
      have hclauses := Differs.spaced
        (.cons (.listClause "partition by " hfs) (.refl .same [ofText (orderClause orderBy)]))
      exact hclauses.parenthesized.prepend (ofText "over")

/-- A branch differs in its condition and in its result.  It opens, so nothing before it can run
    into its literals. -/
theorem CaseBranch.fragment_replaced (b : CaseBranch) {b' : CaseBranch} {n : Nat}
    (h : b.Replaced s s' b' n) (type : Option JdbcType) (scopes : List Scope) :
    Corresponds (fun f f' => Differs s s' f f' n ∧ Opens f) (b.fragment type scopes)
      (b'.fragment type scopes) := by
  match b, h with
  | .searched g e, .searched condition result =>
      refine Corresponds.bind (g.parts_replaced condition scopes) fun parts parts' hparts => ?_
      refine Corresponds.bind (Differs.required _ hparts) fun tested tested' htested => ?_
      refine Corresponds.bind (e.fragment_replaced result scopes) fun f f' hf => ?_
      refine ⟨(htested.prepend (ofText " when ")).between (by decide) hf, ?_⟩
      rw [List.append_assoc, List.append_assoc]
      exact .text (by decide) _
  | .simple values e, .simple _ result =>
      refine Corresponds.bind (e.fragment_replaced result scopes) fun f f' hf => ?_
      refine ⟨hf.prepend _, ?_⟩
      rw [List.append_assoc, List.append_assoc]
      exact .text (by decide) _

/-- Branches one behind the other differ as each of them does, and open. -/
theorem CaseBranch.fragments_replaced (bs : List CaseBranch) {bs' : List CaseBranch} {n : Nat}
    (h : Sums (CaseBranch.Replaced s s') bs bs' n) (type : Option JdbcType)
    (scopes : List Scope) :
    Corresponds (fun f f' => Differs s s' f f' n ∧ Opens f) (CaseBranch.fragments bs type scopes)
      (CaseBranch.fragments bs' type scopes) := by
  match bs, h with
  | _, .nil => exact ⟨.same [], .nil⟩
  | b :: rest, .cons head tail =>
      refine Corresponds.bind (b.fragment_replaced head type scopes) fun f f' hf => ?_
      refine Corresponds.bind (CaseBranch.fragments_replaced rest tail type scopes)
        fun fs fs' hfs => ?_
      exact ⟨hf.1.append hfs.1 hfs.2, hf.2.append hfs.2⟩

/-- A test differs in its operand and in what it compares with, and it drops out in both or in
    none. -/
theorem Test.fragment?_replaced (t : Test) {t' : Test} {n m : Nat} (h : t.Replaced s s' t' m)
    {f f' : Fragment} (hf : Differs s s' f f' n) (type : Option JdbcType) (scopes : List Scope) :
    Corresponds (Lifts (Differs s s') · · (n + m)) (t.fragment? f type scopes)
      (t'.fragment? f' type scopes) := by
  match t, h with
  | _, .values kind ignoreCase =>
      exact kind.fragment?_differs (hf.mono (Nat.le_add_right n m)) type ignoreCase
  | .compareExpr op e, .compareExpr _ right =>
      refine Corresponds.bind (e.fragment_replaced right scopes) fun g g' hg => ?_
      exact Lifts.some (hf.between (Fragment.opensText_word _) hg)
  | .compareQuery op q, .compareQuery _ query =>
      refine Corresponds.bind (q.fragment_replaced query scopes) fun g g' hg => ?_
      exact Lifts.some (hf.between (Fragment.opensText_word _) hg.parenthesized)
  | .memberOfQuery negated q, .memberOfQuery _ query =>
      refine Corresponds.bind (q.fragment_replaced query scopes) fun g g' hg => ?_
      exact Lifts.some (hf.between (Fragment.opensText_word _) hg.parenthesized)

/-- A criterion drops out on both sides, or is there on both and differs. -/
theorem Criterion.fragment?_replaced (k : Criterion) {k' : Criterion} {n : Nat}
    (h : k.Replaced s s' k' n) (scopes : List Scope) :
    Corresponds (Lifts (Differs s s') · · n) (k.fragment? scopes) (k'.fragment? scopes) := by
  match k, h with
  | _, .same k => exact Corresponds.refl (Lifts.refl .same) _
  | .test e t, .test operand test =>
      unfold Criterion.fragment?
      rw [← test.dropsOut]
      split
      · exact Lifts.none
      · refine Corresponds.bind (e.fragment_replaced operand scopes) fun f f' hf => ?_
        rw [← Expr.Replaced.jdbcType? e operand]
        exact t.fragment?_replaced test hf _ scopes
  | .exists negated q, .exists _ query =>
      refine Corresponds.bind (q.fragment_replaced query scopes) fun f f' hf => ?_
      exact Lifts.some (hf.parenthesized.prepend _)
  | .group g, .group group =>
      refine Corresponds.bind (g.parts_replaced group scopes) fun parts parts' hparts => ?_
      exact Differs.grouped? hparts
  | .not g, .not group =>
      refine Corresponds.bind (g.parts_replaced group scopes) fun parts parts' hparts => ?_
      exact (Differs.grouped? hparts).map fun hf => hf.prepend (ofText "not ")

theorem Criterion.initialFragment?_replaced (k : Option Criterion) {k' : Option Criterion} {n : Nat}
    (h : Lifts (Criterion.Replaced s s') k k' n) (scopes : List Scope) :
    Corresponds (Lifts (Differs s s') · · n) (Criterion.initialFragment? k scopes)
      (Criterion.initialFragment? k' scopes) := by
  match k, h with
  | _, .none => exact Lifts.none
  | some k, .some item => exact k.fragment?_replaced item scopes

/-- The parts of a group differ one by one, behind the same connectors. -/
theorem CriteriaGroup.parts_replaced (g : CriteriaGroup) {g' : CriteriaGroup} {n : Nat}
    (h : g.Replaced s s' g' n) (scopes : List Scope) :
    Corresponds (Sums (Tagged (Differs s s')) · · n) (g.parts scopes) (g'.parts scopes) := by
  match g, h with
  | _, .same g => exact Corresponds.refl (fun parts => Differs.parts_same parts) _
  | ⟨initial, links⟩, .mk first others =>
      refine Corresponds.bind (Criterion.initialFragment?_replaced initial first scopes)
        fun f f' hf => ?_
      refine Corresponds.bind (CriteriaGroup.linkParts_replaced links others scopes)
        fun parts parts' hparts => ?_
      exact (hf.toList.map fun h => .mk Connector.and h).append hparts

/-- So do the parts of connected groups. -/
theorem CriteriaGroup.linkParts_replaced (links : List (Connector × CriteriaGroup))
    {links' : List (Connector × CriteriaGroup)} {n : Nat}
    (h : Sums (Tagged (CriteriaGroup.Replaced s s')) links links' n) (scopes : List Scope) :
    Corresponds (Sums (Tagged (Differs s s')) · · n) (CriteriaGroup.linkParts links scopes)
      (CriteriaGroup.linkParts links' scopes) := by
  match links, h with
  | _, .nil => exact Sums.nil
  | (connector, g) :: rest, .cons (.mk _ head) tail =>
      refine Corresponds.bind (g.parts_replaced head scopes) fun parts parts' hparts => ?_
      refine Corresponds.bind (CriteriaGroup.linkParts_replaced rest tail scopes)
        fun others others' hothers => ?_
      exact ((Differs.grouped? hparts).toList.map fun h => .mk connector h).append hothers

/-- So do the parts of a clause that may be missing. -/
theorem CriteriaGroup.clauseParts_replaced (g : Option CriteriaGroup) {g' : Option CriteriaGroup}
    {n : Nat} (h : Lifts (CriteriaGroup.Replaced s s') g g' n) (scopes : List Scope) :
    Corresponds (Lifts (Sums (Tagged (Differs s s'))) · · n) (CriteriaGroup.clauseParts g scopes)
      (CriteriaGroup.clauseParts g' scopes) := by
  match g, h with
  | _, .none => exact Lifts.none
  | some g, .some item =>
      refine Corresponds.bind (g.parts_replaced item scopes) fun parts parts' hparts => ?_
      exact Lifts.some hparts

/-- A subquery that is selected from differs as its select does; a table stays the same. -/
theorem Source.fragment_replaced (source : Source) {source' : Source} {n : Nat}
    (h : source.Replaced s s' source' n) (scopes : List Scope) :
    Corresponds (Differs s s' · · n) (source.fragment scopes) (source'.fragment scopes) := by
  match source, h with
  | _, .same source => exact Corresponds.refl .same _
  | .subquery q aliasName, .subquery query _ =>
      refine Corresponds.bind (q.fragment_replaced query scopes) fun f f' hf => ?_
      exact hf.parenthesized.behind (.ofText (opensText_append (by decide) aliasName))

/-- A from clause that may be missing differs as its source does. -/
theorem Source.fromFragment_replaced (source : Option Source) {source' : Option Source} {n : Nat}
    (h : Lifts (Source.Replaced s s') source source' n) (scopes : List Scope) :
    Corresponds (Differs s s' · · n) (Source.fromFragment source scopes)
      (Source.fromFragment source' scopes) := by
  match source, h with
  | _, .none => exact Differs.same []
  | some source, .some item =>
      refine Corresponds.bind (source.fragment_replaced item scopes) fun f f' hf => ?_
      exact hf.prepend (ofText "from ")

/-- A join differs in its source and in its criteria. -/
theorem Join.fragment_replaced (j : Join) {j' : Join} {n : Nat} (h : j.Replaced s s' j' n)
    (scopes : List Scope) :
    Corresponds (Differs s s' · · n) (j.fragment scopes) (j'.fragment scopes) := by
  match j, h with
  | _, .same j => exact Corresponds.refl .same _
  | ⟨type, source, on⟩, .mk _ table criteria =>
      refine Corresponds.bind (source.fragment_replaced table scopes) fun f f' hf => ?_
      refine Corresponds.bind (on.parts_replaced criteria scopes) fun parts parts' hparts => ?_
      refine Corresponds.bind (Differs.required _ hparts) fun matched matched' hmatched => ?_
      exact (hf.prepend (ofText (type.text ++ " "))).between (by decide) hmatched

/-- Joins differ one by one. -/
theorem Join.fragments_replaced (joins : List Join) {joins' : List Join} {n : Nat}
    (h : Sums (Join.Replaced s s') joins joins' n) (scopes : List Scope) :
    Corresponds (Sums (Differs s s') · · n) (Join.fragments joins scopes)
      (Join.fragments joins' scopes) := by
  match joins, h with
  | _, .nil => exact Sums.nil
  | j :: rest, .cons head tail =>
      refine Corresponds.bind (j.fragment_replaced head scopes) fun f f' hf => ?_
      refine Corresponds.bind (Join.fragments_replaced rest tail scopes) fun fs fs' hfs => ?_
      exact Sums.cons hf hfs

/-- A block differs in its clauses.  Its scope is the same on both sides, since the tables and their
    aliases are no string constants. -/
theorem QueryBlock.fragment_replaced (b : QueryBlock) {b' : QueryBlock} {n : Nat}
    (h : b.Replaced s s' b' n) (keyword : String) (config : Config) (outer : List Scope) :
    Corresponds (Differs s s' · · n) (b.fragment keyword config outer)
      (b'.fragment keyword config outer) := by
  match b, h with
  | _, .same b => exact Corresponds.refl .same _
  | ⟨_, columns, source, joins, filter, groupBy, having⟩,
      .mk distinct selected sources joined filters groups havings =>
      unfold QueryBlock.fragment
      -- both blocks open the same scope
      rw [QueryBlock.scope_replaced sources joined distinct]
      refine Corresponds.bind (Expr.selectedFragments_replaced columns selected _)
        fun cs cs' hcolumns => ?_
      refine Corresponds.bind (Source.fromFragment_replaced source sources _)
        fun f f' hsource => ?_
      refine Corresponds.bind (Join.fragments_replaced joins joined _) fun js js' hjoins => ?_
      refine Corresponds.bind (CriteriaGroup.clauseParts_replaced filter filters _)
        fun parts parts' hparts => ?_
      refine Corresponds.bind (Differs.whereClause config hparts) fun w w' hfilter => ?_
      refine Corresponds.bind (Expr.fragments_replaced groupBy groups _) fun gs gs' hgroups => ?_
      refine Corresponds.bind (CriteriaGroup.clauseParts_replaced having havings _)
        fun hs hs' hhavings => ?_
      have hhead := Sums.cons_same .same (ofText keyword)
        (.cons_same .same (ofText (if distinct then "distinct" else ""))
          (.cons (.listed hcolumns) (.cons hsource (.nil (n := 0)))))
      have htail := Sums.cons hfilter
        (.cons (.listClause "group by " hgroups) (.cons (.havingClause hhavings) (.nil (n := 0))))
      exact Differs.spaced (((hhead.append hjoins).append htail).mono (by omega))

/-- Blocks behind unions differ one by one, behind the same words. -/
theorem QueryBlock.unionFragments_replaced (unions : List (UnionKind × QueryBlock))
    {unions' : List (UnionKind × QueryBlock)} {n : Nat}
    (h : Sums (Tagged (QueryBlock.Replaced s s')) unions unions' n) (config : Config)
    (scopes : List Scope) :
    Corresponds (Sums (Differs s s') · · n) (QueryBlock.unionFragments unions config scopes)
      (QueryBlock.unionFragments unions' config scopes) := by
  match unions, h with
  | _, .nil => exact Sums.nil
  | (kind, b) :: rest, .cons (.mk _ head) tail =>
      refine Corresponds.bind (b.fragment_replaced head "select" config scopes)
        fun f f' hf => ?_
      refine Corresponds.bind (QueryBlock.unionFragments_replaced rest tail config scopes)
        fun fs fs' hfs => ?_
      exact .cons_same .same (ofText kind.text) (.cons hf hfs)

theorem Select.fragment_replaced (q : Select) {q' : Select} {n : Nat} (h : q.Replaced s s' q' n)
    (scopes : List Scope) :
    Corresponds (Differs s s' · · n) (q.fragment scopes) (q'.fragment scopes) := by
  match q, h with
  | _, .same q => exact Corresponds.refl .same _
  | ⟨first, unions, _, _, _, _⟩, .mk block others orderBy paging lock config =>
      refine Corresponds.bind
        (first.fragment_replaced block (config.keyword "select") config scopes) fun f f' hf => ?_
      refine Corresponds.bind (QueryBlock.unionFragments_replaced unions others config scopes)
        fun fs fs' hfs => ?_
      have hblocks := (Sums.cons hf hfs).append
        (.refl .same [ofText (orderClause orderBy), paging.fragment])
      exact .wrapped config (.spaced (hblocks.append (.refl .same ((lockClause lock).map ofText))))

end

/-! ## Updates, deletes and unions of selects -/

/-- A set differs in its value, behind the same column. -/
theorem setFragment?_replaced {set set' : Assignment SetValue}
    (h : Assigned (SetValue.Replaced s s') set set' n) (scopes : List Scope) :
    Corresponds (Lifts (Differs s s') · · n) (setFragment? set scopes)
      (setFragment? set' scopes) := by
  obtain ⟨column, item⟩ := h
  cases item with
  | same value => exact Corresponds.refl (Lifts.refl .same) _
  | stringConstant => exact Lifts.some ((Differs.literals s s').mono (Nat.le_add_left 1 _))
  | expr value =>
      refine Corresponds.bind (Expr.fragment_replaced _ value scopes) fun f f' hf => ?_
      exact Lifts.some hf
  | subquery query =>
      refine Corresponds.bind (Select.fragment_replaced _ query scopes) fun f f' hf => ?_
      exact Lifts.some hf.parenthesized

/-- Both set the same column. -/
theorem Assigned.column_eq {α : Type} {R : α → α → Nat → Prop} {mapping mapping' : Assignment α}
    (h : Assigned R mapping mapping' n) : mapping.column = mapping'.column := by
  cases h
  rfl

/-- The sets of an update differ one by one, and the absent ones are the same. -/
theorem setFragments_replaced {sets sets' : List (Assignment SetValue)}
    (h : Sums (Assigned (SetValue.Replaced s s')) sets sets' n) (scopes : List Scope) :
    Corresponds (Sums (Differs s s') · · n) (setFragments sets scopes)
      (setFragments sets' scopes) := by
  induction h with
  | nil => exact Sums.nil
  | cons head tail ih =>
      refine Corresponds.bind (setFragment?_replaced head scopes) fun f f' hf => ?_
      refine Corresponds.bind ih fun fs fs' hfs => ?_
      rw [head.column_eq]
      exact (hf.toList.map fun h => h.prepend _).append hfs

theorem filterFragment_replaced (config : Config) {filter filter' : Option CriteriaGroup}
    (h : Lifts (CriteriaGroup.Replaced s s') filter filter' n) (scopes : List Scope) :
    Corresponds (Differs s s' · · n) (filterFragment config filter scopes)
      (filterFragment config filter' scopes) :=
  Corresponds.bind (CriteriaGroup.clauseParts_replaced filter h scopes) fun _ _ hparts =>
    Differs.whereClause config hparts

theorem requireSets_replaced {fs fs' : List Fragment} (h : Sums (Differs s s') fs fs' n) :
    Corresponds (fun _ _ => True) (Fragment.requireSets fs) (Fragment.requireSets fs') := by
  cases h with
  | nil => exact rfl
  | cons head tail => exact trivial

/-- An update differs in its sets and in its where clause. -/
theorem Update.fragment_replaced (u : Update) {sets : List (Assignment SetValue)}
    {filter : Option CriteriaGroup}
    (hsets : Sums (Assigned (SetValue.Replaced s s')) u.sets sets n)
    (hfilter : Lifts (CriteriaGroup.Replaced s s') u.filter filter m) (scopes : List Scope) :
    Corresponds (Differs s s' · · (n + m)) (u.fragment scopes)
      ({ u with sets := sets, filter := filter }.fragment scopes) := by
  refine Corresponds.bind (setFragments_replaced hsets _) fun fs fs' hfs => ?_
  refine Corresponds.bind (requireSets_replaced hfs) fun _ _ _ => ?_
  refine Corresponds.bind (filterFragment_replaced u.config hfilter _) fun f f' hf => ?_
  exact .wrapped u.config (.spaced (.cons_same .same _ (.cons_same .same _
    (.cons (.listClause "set " hfs) (.cons hf (.refl .same _))))))

theorem Delete.fragment_replaced (d : Delete) {filter : Option CriteriaGroup}
    (h : Lifts (CriteriaGroup.Replaced s s') d.filter filter n) (scopes : List Scope) :
    Corresponds (Differs s s' · · n) (d.fragment scopes)
      ({ d with filter := filter }.fragment scopes) := by
  refine Corresponds.bind (filterFragment_replaced d.config h _) fun f f' hf => ?_
  exact .wrapped d.config (.spaced (.cons_same .same _ (.cons_same .same _
    (.cons hf (.refl .same _)))))

/-- Selects behind unions differ one by one. -/
theorem MultiSelect.unionFragments_replaced {unions unions' : List (UnionKind × Select)}
    (h : Sums (Tagged (Select.Replaced s s')) unions unions' n) (scopes : List Scope) :
    Corresponds (Sums (Differs s s') · · n) (MultiSelect.unionFragments unions scopes)
      (MultiSelect.unionFragments unions' scopes) := by
  induction h with
  | nil => exact Sums.nil
  | cons head tail ih =>
      obtain ⟨kind, query⟩ := head
      refine Corresponds.bind (Select.fragment_replaced _ query scopes) fun f f' hf => ?_
      refine Corresponds.bind ih fun fs fs' hfs => ?_
      exact .cons_same .same (ofText kind.text) (.cons hf.parenthesized hfs)

/-- A union of selects differs in its selects. -/
theorem MultiSelect.fragment_replaced (q : MultiSelect) {first : Select}
    {unions : List (UnionKind × Select)} (hfirst : q.first.Replaced s s' first n)
    (hunions : Sums (Tagged (Select.Replaced s s')) q.unions unions m) (scopes : List Scope) :
    Corresponds (Differs s s' · · (n + m)) (q.fragment scopes)
      ({ q with first := first, unions := unions }.fragment scopes) := by
  refine Corresponds.bind (q.first.fragment_replaced hfirst scopes) fun f f' hf => ?_
  refine Corresponds.bind (unionFragments_replaced hunions scopes) fun fs fs' hfs => ?_
  exact .wrapped q.config (.spaced ((Sums.cons hf.parenthesized hfs).append (.refl .same _)))

/-! ## Inserts -/

/-- An insert with other literals in what follows its columns. -/
theorem insertFragment_differs (config : Config) (table : String) (columns : List String)
    {tail tail' : Fragment} (h : Differs s s' tail tail' n) :
    Differs s s' (insertFragment config table columns tail)
      (insertFragment config table columns tail') n := by
  have hitems := Sums.append
    (.refl .same [ofText (config.keyword "insert"), ofText "into", ofText table,
      ofText (parenthesized (listed columns))])
    (.cons h (.nil (n := 0)))
  exact .wrapped config (.spaced (hitems.mono (by omega)))

/-- The columns that have a value, with their values. -/
theorem presentFragments_replaced {α : Type} {R : α → α → Nat → Prop} {k : Nat}
    {mappings mappings' : List (Assignment α)} {fs fs' : List (Option Fragment)}
    (hm : Sums (Assigned R) mappings mappings' k) (h : Sums (Lifts (Differs s s')) fs fs' n) :
    Sums (Tagged (Differs s s')) (presentFragments mappings fs) (presentFragments mappings' fs')
      n := by
  induction hm generalizing fs fs' n with
  | nil => exact Sums.nil
  | cons head tail ih =>
      cases h with
      | nil => exact Sums.nil
      | cons item others =>
          obtain ⟨column, value⟩ := head
          cases item with
          | none => exact (ih others).mono (Nat.le_add_left _ _)
          | some f => exact Sums.cons (.mk column.name f) (ih others)

/-- An insert of one row, which may be refused for want of values. -/
theorem singleRowFragment_replaced (config : Config) (table : String)
    {values values' : List (String × Fragment)}
    (h : Sums (Tagged (Differs s s')) values values' n) :
    Corresponds (Differs s s' · · n) (singleRowFragment config table values)
      (singleRowFragment config table values') := by
  have hnames : values.map (·.1) = values'.map (·.1) := by
    clear config
    induction h with
    | nil => rfl
    | cons head tail ih =>
        obtain ⟨name, f⟩ := head
        exact congrArg (name :: ·) ih
  have hfragments : Sums (Differs s s') (values.map (·.2)) (values'.map (·.2)) n :=
    h.map fun hv => by
      obtain ⟨name, f⟩ := hv
      exact f
  cases h with
  | nil => exact rfl
  | cons head tail =>
      show Differs s s' (insertFragment config table _ _) (insertFragment config table _ _) _
      rw [hnames]
      refine insertFragment_differs config table _ ?_
      exact (Differs.listed hfragments).parenthesized.prepend (ofText "values ")

theorem insertFragment?_replaced {mapping mapping' : Assignment InsertValue}
    (h : Assigned (InsertValue.Replaced s s') mapping mapping' n) :
    Lifts (Differs s s') (insertFragment? mapping) (insertFragment? mapping') n := by
  obtain ⟨column, item⟩ := h
  cases item with
  | same value => exact Lifts.refl .same _
  | stringConstant => exact Lifts.some ((Differs.literals s s').mono (Nat.le_add_left 1 _))

theorem Insert.fragment_replaced (i : Insert) {mappings : List (Assignment InsertValue)}
    (h : Sums (Assigned (InsertValue.Replaced s s')) i.mappings mappings n) :
    Corresponds (Differs s s' · · n) i.fragment { i with mappings := mappings }.fragment := by
  have hvalues : Sums (Lifts (Differs s s')) (i.mappings.map insertFragment?)
      (mappings.map insertFragment?) n := h.map fun hm => insertFragment?_replaced hm
  exact singleRowFragment_replaced i.config i.table (presentFragments_replaced h hvalues)

/-- A constant for a column differs; the properties of the record are the same. -/
theorem recordFragment?_replaced (record : Json) {mapping mapping' : Assignment RecordValue}
    (h : Assigned (RecordValue.Replaced s s') mapping mapping' n) :
    Corresponds (Lifts (Differs s s') · · n) (recordFragment? record mapping)
      (recordFragment? record mapping') := by
  obtain ⟨column, item⟩ := h
  cases item with
  | same value => exact Corresponds.refl (Lifts.refl .same) _
  | stringConstant => exact Lifts.some ((Differs.literals s s').mono (Nat.le_add_left 1 _))

/-- The values of a record differ one by one. -/
theorem recordFragments_replaced (record : Json)
    {mappings mappings' : List (Assignment RecordValue)}
    (h : Sums (Assigned (RecordValue.Replaced s s')) mappings mappings' n) :
    Corresponds (Sums (Lifts (Differs s s')) · · n) (recordFragments record mappings)
      (recordFragments record mappings') := by
  induction h with
  | nil => exact Sums.nil
  | cons head tail ih =>
      refine Corresponds.bind (recordFragment?_replaced record head) fun f f' hf => ?_
      refine Corresponds.bind ih fun fs fs' hfs => ?_
      exact Sums.cons hf hfs

theorem RecordInsert.fragment_replaced (i : RecordInsert) {mappings : List (Assignment RecordValue)}
    (h : Sums (Assigned (RecordValue.Replaced s s')) i.mappings mappings n) :
    Corresponds (Differs s s' · · n) i.fragment { i with mappings := mappings }.fragment := by
  refine Corresponds.bind (recordFragments_replaced i.record h) fun fs fs' hfs => ?_
  exact singleRowFragment_replaced i.config i.table (presentFragments_replaced h hfs)

/-- The same columns get values. -/
theorem Sums.map_name {α : Type} {R : α → α → Nat → Prop} {mappings mappings' : List (Assignment α)}
    (h : Sums (Assigned R) mappings mappings' n) :
    mappings.map (·.column.name) = mappings'.map (·.column.name) := by
  induction h with
  | nil => rfl
  | cons head tail ih => rw [List.map_cons, List.map_cons, ih, head.column_eq]

namespace RecordsInsert

variable {mappings : List (Assignment RecordValue)}
  {fixed : ∀ mapping ∈ mappings, mapping.value.isOptional = false}

theorem columns_withMappings (i : RecordsInsert)
    (h : Sums (Assigned (RecordValue.Replaced s s')) i.mappings mappings n) :
    (i.withMappings mappings fixed).columns = i.columns :=
  h.map_name.symm

/-- The row of a record differs in the constants of the mappings. -/
theorem rowOf_replaced (i : RecordsInsert)
    (h : Sums (Assigned (RecordValue.Replaced s s')) i.mappings mappings n) (record : Json) :
    Corresponds (Differs s s' · · n) (i.rowOf record)
      ((i.withMappings mappings fixed).rowOf record) := by
  refine Corresponds.bind (recordFragments_replaced record h) fun fs fs' hfs => ?_
  have hvalues : Sums (Differs s s') (fs.filterMap id) (fs'.filterMap id) n := by
    clear h
    induction hfs with
    | nil => exact Sums.nil
    | cons head tail ih =>
        cases head with
        | none => exact ih.mono (Nat.le_add_left _ _)
        | some f => exact Sums.cons f ih
  exact (Differs.listed hvalues).parenthesized

/-- A row for each record: the constants are replaced in each of them. -/
theorem rowsOf_replaced (i : RecordsInsert)
    (h : Sums (Assigned (RecordValue.Replaced s s')) i.mappings mappings n) (records : List Json) :
    Corresponds (Sums (Differs s s') · · (n * records.length)) (i.rowsOf records)
      ((i.withMappings mappings fixed).rowsOf records) := by
  induction records with
  | nil => exact Sums.nil
  | cons record rest ih =>
      refine Corresponds.bind (i.rowOf_replaced h record) fun f f' hf => ?_
      refine Corresponds.bind ih fun fs fs' hfs => ?_
      refine (Sums.cons hf hfs).mono (Nat.le_of_eq ?_)
      rw [List.length_cons, Nat.mul_succ, Nat.add_comm]

/-- The rows of several records have the constants once for each record. -/
theorem fragment_replaced (i : RecordsInsert)
    (h : Sums (Assigned (RecordValue.Replaced s s')) i.mappings mappings n) :
    Corresponds (Differs s s' · · (n * i.records.length)) i.fragment
      (i.withMappings mappings fixed).fragment := by
  refine Corresponds.bind (i.rowsOf_replaced h i.records) fun fs fs' hfs => ?_
  show Differs s s' _ (insertFragment _ _ (i.withMappings mappings fixed).columns _) _
  rw [i.columns_withMappings h]
  exact insertFragment_differs i.config i.table i.columns
    ((Differs.listed hfs).prepend (ofText "values "))

theorem recordFragment_replaced (i : RecordsInsert)
    (h : Sums (Assigned (RecordValue.Replaced s s')) i.mappings mappings n) (record : Json) :
    Corresponds (Differs s s' · · n) (i.recordFragment record)
      ((i.withMappings mappings fixed).recordFragment record) := by
  refine Corresponds.bind (i.rowOf_replaced h record) fun f f' hf => ?_
  show Differs s s' _ (insertFragment _ _ (i.withMappings mappings fixed).columns _) _
  rw [i.columns_withMappings h]
  exact insertFragment_differs i.config i.table i.columns (hf.prepend (ofText "values "))

end RecordsInsert

/-- An insert from a select differs as its select does. -/
theorem InsertSelect.fragment_replaced (i : InsertSelect) {q : Select}
    (h : i.select.Replaced s s' q n) (scopes : List Scope) :
    Corresponds (Differs s s' · · n) (i.fragment scopes)
      ({ i with select := q }.fragment scopes) := by
  refine Corresponds.bind (i.select.fragment_replaced h scopes) fun f f' hf => ?_
  have hitems := Sums.append
    (.refl .same [ofText (i.config.keyword "insert"), ofText "into", ofText i.table,
      ofText (if i.columns.isEmpty then "" else parenthesized (listed i.columns))])
    (.cons hf (.nil (n := 0)))
  exact .wrapped i.config (.spaced (hitems.mono (by omega)))

/-! ## Statements -/

/-- A part that is written once. -/
theorem Corresponds.once {x y : Except Error Fragment} (h : Corresponds (Differs s s' · · n) x y) :
    Corresponds (Differs s s' · · (n * 1)) x y := by
  rw [Nat.mul_one]
  exact h

/-- Statements with constants replaced are refused alike, or denote fragments that differ in the
    literals of these constants. -/
theorem Statement.fragment_replaced {x x' : Statement} (h : x.Replaced s s' x' n)
    (scopes : List Scope) :
    Corresponds (Differs s s' · · (n * x.copies)) (x.fragment scopes) (x'.fragment scopes) := by
  cases h with
  | select query => exact .once (Select.fragment_replaced _ query scopes)
  | multiSelect query others => exact .once (MultiSelect.fragment_replaced _ query others scopes)
  | update values criteria => exact .once (Update.fragment_replaced _ values criteria scopes)
  | delete criteria => exact .once (Delete.fragment_replaced _ criteria scopes)
  | insert values => exact .once (Insert.fragment_replaced _ values)
  | insertRecord values => exact .once (RecordInsert.fragment_replaced _ values)
  | insertRows fixed values => exact RecordsInsert.fragment_replaced _ values
  | insertSelect query => exact .once (InsertSelect.fragment_replaced _ query scopes)

theorem relatesTexts_differs (s s' : String) (n : Nat) :
    RelatesTexts (Differs s s' · · n) (SameAround s s' n) :=
  fun _ _ c hf => hf.sameAround c

theorem Statement.rendered_replaced {x x' : Statement} (h : x.Replaced s s' x' n)
    (strategy : Strategy) :
    Corresponds
      (fun r r' => SameAround s s' (n * x.copies) r.sql r'.sql ∧ r.parameters = r'.parameters)
      (x.rendered strategy) (x'.rendered strategy) :=
  Statement.rendered_corresponds (relatesTexts_differs s s' _) (fragment_replaced h []) strategy

/-- The same for a batch, which has one text for all its records. -/
theorem RecordsInsert.renderedBatch_replaced (i : RecordsInsert)
    {mappings : List (Assignment RecordValue)}
    (fixed : ∀ mapping ∈ mappings, mapping.value.isOptional = false)
    (h : Sums (Assigned (RecordValue.Replaced s s')) i.mappings mappings n) (strategy : Strategy) :
    Corresponds (fun b b' => SameAround s s' n b.sql b'.sql ∧ b.records = b'.records)
      (i.renderedBatch strategy) ((i.withMappings mappings fixed).renderedBatch strategy) := by
  have hrecords : i.records = (i.withMappings mappings fixed).records := rfl
  exact RecordsInsert.renderedBatch_corresponds (relatesTexts_differs s s' n) hrecords
    (i.recordFragment_replaced h) strategy

/-- **A string constant stays inside its literal.**  What is written for a string constant, in
    expressions, updates, inserts and inserts of records, is one literal of it.  So when one string
    constant of a statement is replaced by another one, both statements are refused alike, or their
    texts are the same around its literal, and their parameters are the same; and so for batches.
    The literal is the only one, but in an insert of several rows each row has its own. -/
theorem string_constants_stay_inside :
    (∀ s : String, IsLiteralOf (stringLiteral s) s) ∧
    (∀ (s : String) (column : Column) (record : Json) (c : Context),
      (Expr.stringConstant s).render.outcome c = (.ok (stringLiteral s), c) ∧
      (setValue ⟨column, .stringConstant s⟩).outcome c = (.ok (some (stringLiteral s)), c) ∧
      (insertValue ⟨column, .stringConstant s⟩).outcome c = (.ok (some (stringLiteral s)), c) ∧
      (recordValue record ⟨column, .stringConstant s⟩).outcome c =
        (.ok (some (stringLiteral s)), c)) ∧
    (∀ (s s' : String) (x x' : Statement), x.Replaced s s' x' 1 → ∀ strategy : Strategy,
      Corresponds
        (fun r r' => SameAround s s' x.copies r.sql r'.sql ∧ r.parameters = r'.parameters)
        (x.rendered strategy) (x'.rendered strategy)) ∧
    (∀ (s s' : String) (i : RecordsInsert) (mappings : List (Assignment RecordValue))
      (fixed : ∀ mapping ∈ mappings, mapping.value.isOptional = false),
      Sums (Assigned (RecordValue.Replaced s s')) i.mappings mappings 1 → ∀ strategy : Strategy,
      Corresponds (fun b b' => SameAround s s' 1 b.sql b'.sql ∧ b.records = b'.records)
        (i.renderedBatch strategy) ((i.withMappings mappings fixed).renderedBatch strategy)) := by
  refine ⟨isLiteralOf_stringLiteral, fun s column record c => ⟨rfl, rfl, rfl, rfl⟩, ?_, ?_⟩
  · intro s s' x x' h strategy
    have hr := Statement.rendered_replaced h strategy
    rw [Nat.one_mul] at hr
    exact hr
  · intro s s' i mappings fixed h strategy
    exact i.renderedBatch_replaced fixed h strategy

/-- A constant that tries to get out of the literal in a where clause. -/
theorem string_constants_stay_inside_filter :
    let query (s : String) : Statement :=
      .select ⟨⟨false, [.column (.ofTable "Person" "id")], some (.table "Person" none), [],
        some ⟨some (.test (.column (.ofTable "Person" "name"))
          (.compareExpr .eq (.stringConstant s))), []⟩, [], none⟩, [], [], {}, none, {}⟩
    Corresponds
        (fun r r' => SameAround "it's" "'; drop table Person; --" 1 r.sql r'.sql ∧
          r.parameters = r'.parameters)
        ((query "it's").rendered .spring) ((query "'; drop table Person; --").rendered .spring) ∧
      ((query "it's").rendered .spring).toOption.map (·.sql) =
        some "select id from Person where name = 'it''s'" ∧
      ((query "'; drop table Person; --").rendered .spring).toOption.map (·.sql) =
        some "select id from Person where name = '''; drop table Person; --'" := by
  intro query
  have hgroup : CriteriaGroup.Replaced "it's" "'; drop table Person; --" _ _ (0 + 1 + 0) :=
    .mk (.some (.test (.same (.column (.ofTable "Person" "name")))
      (.compareExpr .eq (.stringConstant (n := 0))))) .nil
  have hblock : QueryBlock.Replaced "it's" "'; drop table Person; --" _ _
      (0 + 0 + 0 + (0 + 1 + 0) + 0 + 0) :=
    .mk false (.refl .same [.column (.ofTable "Person" "id")])
      (.refl .same (some (.table "Person" none))) .nil (.some hgroup) .nil .none
  have hquery : (query "it's").Replaced "it's" "'; drop table Person; --"
      (query "'; drop table Person; --") 1 :=
    .select (.mk hblock (.nil (n := 0)) [] {} none {})
  refine ⟨string_constants_stay_inside.2.2.1 _ _ _ _ hquery .spring, ?_, ?_⟩
  · decide +kernel
  · decide +kernel

end SqlComposer
