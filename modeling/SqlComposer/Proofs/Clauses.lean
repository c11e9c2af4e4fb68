import SqlComposer.Proofs.StatementRealization

/-! # The clauses of a statement that must hold a predicate

    Where clauses, the criteria of joins and the conditions of case branches, at every depth of a
    statement, in the order in which they are written and with the scopes in which they stand.  What
    lies inside a criterion that drops out takes no part in the rendering and is not collected.

    `Kept` says of clauses that they stand in a fragment one behind the other, each with its
    criteria; a where clause may be missing when it may drop out and does.  The ways in which
    fragments are put together all keep what their parts keep, and keep it apart: no text stands for
    two clauses. -/

namespace SqlComposer

open Fragment (ofText connected)

/-- The clauses that must hold a predicate. -/
inductive ClauseKind where
  | filter (config : Config)
  | on
  | when

namespace ClauseKind

/-- What stands in front of the criteria of a clause. -/
def lead : ClauseKind → String
  | .filter _ => " where "
  | .on => " on "
  | .when => " when "

/-- Whether a clause may be left out when its criteria drop out. -/
def mayDropOut : ClauseKind → Bool
  | .filter config => config.emptyWhereAllowed
  | .on => false
  | .when => false

/-- The pieces of the text in front of the criteria of a clause. -/
def leading : ClauseKind → Fragment
  | .filter _ => ofText " " ++ ofText "where "
  | .on => ofText " on "
  | .when => ofText " when "

/-- The words that lead a clause are written as they are. -/
theorem write_leading (kind : ClauseKind) (c : Context) :
    kind.leading.write c = (kind.lead, c) := by
  cases kind <;> rfl

end ClauseKind

/-- A clause with its criteria and the scopes around it. -/
structure Clause where
  kind : ClauseKind
  criteria : CriteriaGroup
  scopes : List Scope

/-! ## The clauses that take part in a rendering -/

/-- The where clause of a statement, if there is one. -/
def filterClauses (config : Config) (filter : Option CriteriaGroup) (scopes : List Scope) :
    List Clause :=
  filter.toList.map fun g => ⟨.filter config, g, scopes⟩

mutual

/-- The clauses in an expression. -/
def Expr.clauses : Expr → List Scope → List Clause
  | .count argument, scopes => argument.clauses scopes
  | .countDistinct argument, scopes => argument.clauses scopes
  | .call _ argument, scopes => argument.clauses scopes
  | .windowed inner window, scopes => inner.clauses scopes ++ window.clauses scopes
  | .caseOf operand branches otherwise, scopes =>
    Expr.optionClauses operand scopes ++ CaseBranch.allClauses branches scopes ++
      Expr.optionClauses otherwise scopes
  | .subquery query, scopes => query.clauses scopes
  | .aliased inner _, scopes => inner.clauses scopes
  | .column _, _ => []
  | .allColumns _, _ => []
  | .constant _, _ => []
  | .stringConstant _, _ => []
  | .bound _, _ => []
  | .countAll, _ => []
  | .rowNumber, _ => []

/-- The clauses in an expression that may be absent. -/
def Expr.optionClauses : Option Expr → List Scope → List Clause
  | none, _ => []
  | some e, scopes => e.clauses scopes

/-- The clauses in expressions. -/
def Expr.allClauses : List Expr → List Scope → List Clause
  | [], _ => []
  | e :: rest, scopes => e.clauses scopes ++ Expr.allClauses rest scopes

/-- The clauses in a window. -/
def Window.clauses : Window → List Scope → List Clause
  | ⟨partitionBy, _⟩, scopes => Expr.allClauses partitionBy scopes

/-- The clauses in a branch of a case expression; its own condition is one. -/
def CaseBranch.clauses : CaseBranch → List Scope → List Clause
  | .searched condition result, scopes =>
    ⟨.when, condition, scopes⟩ :: (condition.clauses scopes ++ result.clauses scopes)
  | .simple _ result, scopes => result.clauses scopes

/-- The clauses in the branches of a case expression. -/
def CaseBranch.allClauses : List CaseBranch → List Scope → List Clause
  | [], _ => []
  | branch :: rest, scopes => branch.clauses scopes ++ CaseBranch.allClauses rest scopes

/-- The clauses in a test. -/
def Test.clauses : Test → List Scope → List Clause
  | .values _ _, _ => []
  | .compareExpr _ right, scopes => right.clauses scopes
  | .compareQuery _ query, scopes => query.clauses scopes
  | .memberOfQuery _ query, scopes => query.clauses scopes

/-- The clauses in a criterion, unless it drops out. -/
def Criterion.clauses : Criterion → List Scope → List Clause
  | .test operand t, scopes =>
    if t.dropsOut then [] else operand.clauses scopes ++ t.clauses scopes
  | .exists _ query, scopes => query.clauses scopes
  | .group g, scopes => g.clauses scopes
  | .not g, scopes => g.clauses scopes

/-- The clauses in an initial criterion. -/
def Criterion.initialClauses : Option Criterion → List Scope → List Clause
  | none, _ => []
  | some criterion, scopes => criterion.clauses scopes

/-- The clauses in the criteria of a scope. -/
def CriteriaGroup.clauses : CriteriaGroup → List Scope → List Clause
  | ⟨initial, links⟩, scopes =>
    Criterion.initialClauses initial scopes ++ CriteriaGroup.linkClauses links scopes

/-- The clauses in connected groups. -/
def CriteriaGroup.linkClauses : List (Connector × CriteriaGroup) → List Scope → List Clause
  | [], _ => []
  | (_, g) :: rest, scopes => g.clauses scopes ++ CriteriaGroup.linkClauses rest scopes

/-- The clauses in criteria that may be absent. -/
def CriteriaGroup.optionClauses : Option CriteriaGroup → List Scope → List Clause
  | none, _ => []
  | some g, scopes => g.clauses scopes

/-- The clauses in what a query block reads from. -/
def Source.clauses : Source → List Scope → List Clause
  | .table _ _, _ => []
  | .subquery query _, scopes => query.clauses scopes

/-- The clauses in a from clause. -/
def Source.optionClauses : Option Source → List Scope → List Clause
  | none, _ => []
  | some source, scopes => source.clauses scopes

/-- The clauses in a join; its own criteria are one. -/
def Join.clauses : Join → List Scope → List Clause
  | ⟨_, source, on⟩, scopes => source.clauses scopes ++ ⟨.on, on, scopes⟩ :: on.clauses scopes

/-- The clauses in joins. -/
def Join.allClauses : List Join → List Scope → List Clause
  | [], _ => []
  | join :: rest, scopes => join.clauses scopes ++ Join.allClauses rest scopes

/-- The clauses in a query block, among them its where clause with the configuration of its
    select. -/
def QueryBlock.clauses : QueryBlock → Config → List Scope → List Clause
  | ⟨distinct, columns, source, joins, filter, groupBy, having⟩, config, outer =>
    let scopes :=
      QueryBlock.scope ⟨distinct, columns, source, joins, filter, groupBy, having⟩ :: outer
    Expr.allClauses columns scopes ++ Source.optionClauses source scopes ++
      Join.allClauses joins scopes ++
      (filterClauses config filter scopes ++ CriteriaGroup.optionClauses filter scopes) ++
      Expr.allClauses groupBy scopes ++ CriteriaGroup.optionClauses having scopes

/-- The clauses in the query blocks of unions. -/
def QueryBlock.unionClauses : List (UnionKind × QueryBlock) → Config → List Scope → List Clause
  | [], _, _ => []
  | (_, block) :: rest, config, scopes =>
    block.clauses config scopes ++ QueryBlock.unionClauses rest config scopes

/-- The clauses in a select. -/
def Select.clauses : Select → List Scope → List Clause
  | ⟨first, unions, _, _, _, config⟩, scopes =>
    first.clauses config scopes ++ QueryBlock.unionClauses unions config scopes

end

/-- The clauses in a value that an update sets. -/
def SetValue.clauses : SetValue → List Scope → List Clause
  | .expr e, scopes => e.clauses scopes
  | .subquery query, scopes => query.clauses scopes
  | .bound _, _ => []
  | .null, _ => []
  | .constant _, _ => []
  | .stringConstant _, _ => []

/-- The clauses in the values that an update sets. -/
def setClauses : List (Assignment SetValue) → List Scope → List Clause
  | [], _ => []
  | set :: rest, scopes => set.value.clauses scopes ++ setClauses rest scopes

/-- The clauses in the selects of unions. -/
def MultiSelect.unionClauses : List (UnionKind × Select) → List Scope → List Clause
  | [], _ => []
  | (_, select) :: rest, scopes => select.clauses scopes ++ unionClauses rest scopes

/-- The clauses that take part in the rendering of a statement. -/
def Statement.clauses : Statement → List Clause
  | .select q => q.clauses []
  | .multiSelect q => q.first.clauses [] ++ MultiSelect.unionClauses q.unions []
  | .update u =>
    let scopes := [Scope.ofTable u.table u.aliasName]
    setClauses u.sets scopes ++
      (filterClauses u.config u.filter scopes ++ CriteriaGroup.optionClauses u.filter scopes)
  | .delete d =>
    let scopes := [Scope.ofTable d.table d.aliasName]
    filterClauses d.config d.filter scopes ++ CriteriaGroup.optionClauses d.filter scopes
  | .insertSelect i => i.select.clauses []
  | .insert _ => []
  | .insertRecord _ => []
  | .insertRows _ => []

/-! ## Fragments that keep clauses -/

/-- A where clause that may drop out and does. -/
def Clause.DropsOut (clause : Clause) : Prop :=
  clause.kind.mayDropOut = true ∧ clause.criteria.parts clause.scopes = .ok []

/-- A where clause that drops out although it must not. -/
def Clause.Lost (clause : Clause) : Prop :=
  ∃ config, clause.kind = .filter config ∧ config.emptyWhereAllowed = false ∧
    clause.criteria.parts clause.scopes = .ok []

/-- Clauses stand in a fragment one behind the other, each with criteria that are left behind the
    word that leads them; only clauses that drop out are missing. -/
def Kept : List Clause → Fragment → Prop
  | [], _ => True
  | clause :: rest, f =>
    (clause.DropsOut ∧ Kept rest f) ∨
    ∃ part parts before behind, clause.criteria.parts clause.scopes = .ok (part :: parts) ∧
      f = before ++ (clause.kind.leading ++ (connected (part :: parts) ++ behind)) ∧
      Kept rest (connected (part :: parts) ++ behind)

/-- Clauses stand in fragments, each in one of them. -/
def KeptIn : List Clause → List Fragment → Prop
  | clauses, [] => Kept clauses []
  | clauses, f :: fs => ∃ own others, clauses = own ++ others ∧ Kept own f ∧ KeptIn others fs

namespace Fragment

theorem isNothing_append (f g : Fragment) : (f ++ g).isNothing = (f.isNothing && g.isNothing) :=
  List.all_append

theorem isNothing_ofText {s : String} (h : s ≠ "") : (ofText s).isNothing = false := by
  rw [Bool.eq_false_iff]
  intro he
  exact h (by simpa [ofText, isNothing, Piece.isNothing] using he)

/-- An item of a list with blanks, with the blank in front of it. -/
def spacedItem (f : Fragment) : Fragment := if f.isNothing then [] else ofText " " ++ f

/-- A separator stands before each fragment but the first one. -/
theorem separatedBy_cons (separator : String) (f : Fragment) (fs : List Fragment) :
    separatedBy separator (f :: fs) = f ++ fs.flatMap fun g => ofText separator ++ g := by
  induction fs generalizing f with
  | nil => exact (List.append_nil f).symm
  | cons g rest ih =>
      rw [separatedBy, ih, List.flatMap_cons, List.append_assoc, List.append_assoc]

/-- Leaving out fragments of nothing and writing no blank before them is the same. -/
theorem flatMap_filter_spacedItem (fs : List Fragment) :
    (fs.filter fun f => !f.isNothing).flatMap (fun g => ofText " " ++ g) =
      fs.flatMap spacedItem := by
  induction fs with
  | nil => rfl
  | cons f rest ih =>
      rw [List.flatMap_cons, spacedItem]
      cases hf : f.isNothing with
      | true => rw [List.filter_cons_of_neg (by simp [hf]), ih]; rfl
      | false => rw [List.filter_cons_of_pos (by simp [hf]), List.flatMap_cons, ih]; rfl

/-- Behind an item that is not empty every other one has its blank in front. -/
theorem spaced_cons {f : Fragment} (hf : f.isNothing = false) (fs : List Fragment) :
    spaced (f :: fs) = f ++ fs.flatMap spacedItem := by
  rw [spaced, List.filter_cons_of_pos (by simp [hf]), separatedBy_cons, flatMap_filter_spacedItem]

end Fragment

namespace Kept

variable {clauses others : List Clause} {f g : Fragment}

/-- More may follow. -/
theorem left (h : Kept clauses f) (g : Fragment) : Kept clauses (f ++ g) := by
  induction clauses generalizing f with
  | nil => exact trivial
  | cons clause rest ih =>
      rcases h with ⟨hd, hr⟩ | ⟨part, parts, before, behind, hp, rfl, hr⟩
      · exact .inl ⟨hd, ih hr⟩
      · refine .inr ⟨part, parts, before, behind ++ g, hp, ?_, ?_⟩
        · simp only [List.append_assoc]
        · rw [← List.append_assoc]
          exact ih hr

/-- More may stand in front. -/
theorem right (h : Kept clauses f) (g : Fragment) : Kept clauses (g ++ f) := by
  induction clauses with
  | nil => exact trivial
  | cons clause rest ih =>
      rcases h with ⟨hd, hr⟩ | ⟨part, parts, before, behind, hp, rfl, hr⟩
      · exact .inl ⟨hd, ih hr⟩
      · exact .inr ⟨part, parts, g ++ before, behind, hp, (List.append_assoc ..).symm, hr⟩

/-- What is kept in two fragments is kept in both, one behind the other. -/
theorem append (hf : Kept clauses f) (hg : Kept others g) : Kept (clauses ++ others) (f ++ g) := by
  induction clauses generalizing f with
  | nil => exact hg.right f
  | cons clause rest ih =>
      rcases hf with ⟨hd, hr⟩ | ⟨part, parts, before, behind, hp, rfl, hr⟩
      · exact .inl ⟨hd, ih hr⟩
      · refine .inr ⟨part, parts, before, behind ++ g, hp, ?_, ?_⟩
        · simp only [List.append_assoc]
        · rw [← List.append_assoc]
          exact ih hr

/-- In what is nothing there is no clause that does not drop out. -/
theorem of_isNothing (h : Kept clauses f) (hf : f.isNothing = true) : Kept clauses [] := by
  induction clauses with
  | nil => exact trivial
  | cons clause rest ih =>
      rcases h with ⟨hd, hr⟩ | ⟨part, parts, before, behind, hp, rfl, hr⟩
      · exact .inl ⟨hd, ih hr⟩
      · have hl : clause.kind.leading.isNothing = false := by
          cases clause.kind <;> rfl
        rw [Fragment.isNothing_append, Fragment.isNothing_append, hl] at hf
        simp at hf

/-- A clause in front of what it leads. -/
theorem own (clause : Clause) {part : Connector × Fragment} {parts : CriteriaParts}
    (hp : clause.criteria.parts clause.scopes = .ok (part :: parts))
    (h : Kept clauses (connected (part :: parts))) :
    Kept (clause :: clauses) (clause.kind.leading ++ connected (part :: parts)) := by
  refine .inr ⟨part, parts, [], [], hp, ?_, ?_⟩
  · rw [List.append_nil]
    rfl
  · rw [List.append_nil]
    exact h

theorem parenthesized (h : Kept clauses f) : Kept clauses (Fragment.parenthesized f) :=
  (h.right (ofText "(")).left (ofText ")")

/-- A blank in front keeps the clauses. -/
theorem spacedItem (h : Kept clauses f) : Kept clauses (Fragment.spacedItem f) := by
  rw [Fragment.spacedItem]
  cases hf : f.isNothing with
  | true => exact h.of_isNothing hf
  | false => exact h.right (ofText " ")

end Kept

namespace KeptIn

variable {clauses others : List Clause} {f : Fragment} {fs gs : List Fragment}

theorem single (h : Kept clauses f) : KeptIn clauses [f] :=
  ⟨clauses, [], (List.append_nil _).symm, h, trivial⟩

/-- No clauses are kept in any fragments. -/
theorem empty (fs : List Fragment) : KeptIn [] fs := by
  induction fs with
  | nil => exact trivial
  | cons f rest ih => exact ⟨[], [], rfl, trivial, ih⟩

theorem cons (h : Kept clauses f) (hr : KeptIn others fs) : KeptIn (clauses ++ others) (f :: fs) :=
  ⟨clauses, others, rfl, h, hr⟩

/-- A fragment without clauses in front. -/
theorem skip (h : KeptIn clauses fs) (f : Fragment) : KeptIn clauses (f :: fs) :=
  ⟨[], clauses, rfl, trivial, h⟩

theorem append (hf : KeptIn clauses fs) (hg : KeptIn others gs) :
    KeptIn (clauses ++ others) (fs ++ gs) := by
  induction fs generalizing clauses with
  | nil =>
      cases gs with
      | nil => exact Kept.append hf hg
      | cons g rest =>
          obtain ⟨own, more, rfl, ho, hm⟩ := hg
          exact ⟨clauses ++ own, more, (List.append_assoc ..).symm, Kept.append hf ho, hm⟩
  | cons f rest ih =>
      obtain ⟨own, more, rfl, ho, hm⟩ := hf
      exact ⟨own, more ++ others, List.append_assoc .., ho, ih hm⟩

/-- Fragments put together one behind the other, each as something that keeps what it keeps. -/
theorem flatMap {α : Type} {inside outside : α → Fragment}
    (hk : ∀ item own, Kept own (inside item) → Kept own (outside item)) {items : List α}
    (h : KeptIn clauses (items.map inside)) : Kept clauses (items.flatMap outside) := by
  induction items generalizing clauses with
  | nil => exact h
  | cons item rest ih =>
      obtain ⟨own, more, rfl, ho, hm⟩ := h
      rw [List.flatMap_cons]
      exact (hk item own ho).append (ih hm)

/-- Fragments with separators between them keep the clauses of each of them. -/
theorem separatedBy (separator : String) (h : KeptIn clauses fs) :
    Kept clauses (Fragment.separatedBy separator fs) := by
  cases fs with
  | nil => exact h
  | cons f rest =>
      obtain ⟨own, more, rfl, ho, hm⟩ := h
      rw [Fragment.separatedBy_cons]
      rw [← List.map_id rest] at hm
      exact ho.append (hm.flatMap fun _ _ hk => hk.right _)

/-- Fragments that are nothing are left out, and there is no clause in them. -/
theorem spaced (h : KeptIn clauses fs) : Kept clauses (Fragment.spaced fs) := by
  induction fs generalizing clauses with
  | nil => exact h
  | cons f rest ih =>
      obtain ⟨own, more, rfl, ho, hm⟩ := h
      cases hf : f.isNothing with
      | true =>
          rw [Fragment.spaced, List.filter_cons_of_neg (by simp [hf])]
          exact (ho.of_isNothing hf).append (ih hm)
      | false =>
          rw [Fragment.spaced_cons hf]
          rw [← List.map_id rest] at hm
          exact ho.append (hm.flatMap fun _ _ hk => hk.spacedItem)

/-- A clause with a list keeps the clauses of its items. -/
theorem listClause (keyword : String) (h : KeptIn clauses fs) :
    Kept clauses (Fragment.listClause keyword fs) := by
  cases fs with
  | nil => exact h
  | cons f rest => exact (h.separatedBy ", ").right (ofText keyword)

/-- Connected criteria keep what the parts of the scope keep. -/
theorem connected {parts : CriteriaParts} (h : KeptIn clauses (parts.map (·.2))) :
    Kept clauses (Fragment.connected parts) := by
  cases parts with
  | nil => exact h
  | cons first rest =>
      obtain ⟨own, more, rfl, ho, hm⟩ := h
      exact ho.append (hm.flatMap fun _ _ hk => hk.right _)

/-- And so does the criterion that holds the scope. -/
theorem grouped {parts : CriteriaParts} (h : KeptIn clauses (parts.map (·.2))) :
    KeptIn clauses (Fragment.grouped? parts).toList := by
  match parts with
  | [] => exact h
  | [part] => exact h
  | first :: second :: rest => exact single h.connected.parenthesized

/-- A text in front of a criterion that may be absent. -/
theorem optionRight {written : Option Fragment} (h : KeptIn clauses written.toList)
    (g : Fragment) : KeptIn clauses (written.map (g ++ ·)).toList := by
  cases written with
  | none => exact h
  | some f =>
      obtain ⟨own, more, rfl, ho, hm⟩ := h
      exact ⟨own, more, rfl, ho.right g, hm⟩

end KeptIn

/-- The fragment of at most one part with its connector. -/
theorem Option.map_snd_toList {α β : Type} (a : α) (b : Option β) :
    (b.toList.map (a, ·)).map (·.2) = b.toList := by
  cases b with
  | none => rfl
  | some b => rfl

/-- The texts before and behind a statement keep its clauses. -/
theorem Kept.wrapped {clauses : List Clause} {f : Fragment} (h : Kept clauses f)
    (config : Config) : Kept clauses (config.wrapped f) := by
  by_cases hn : (config.beforeStatement.isNone && config.afterStatement.isNone) = true
  · rw [Config.wrapped, if_pos hn]
    exact h
  · rw [Config.wrapped, if_neg hn]
    have hs := KeptIn.cons h (KeptIn.empty [ofText (config.afterStatement.getD "")])
    rw [List.append_nil] at hs
    exact (hs.skip (ofText (config.beforeStatement.getD ""))).spaced

end SqlComposer
