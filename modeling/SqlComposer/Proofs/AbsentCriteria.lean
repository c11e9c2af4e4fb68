import SqlComposer.Proofs.QueryRealization

/-! # Absent criteria behave as if they had never been written

    Pruning takes the absent criteria out of a tree: the tests that drop out, whose condition is
    empty (`Condition.isEmpty`), and the groups, negated scopes and connected groups in which
    nothing is left.  Criteria inside subqueries belong to the subquery and stay.

    * Rendering a tree and rendering what pruning leaves of it are one and the same pass
      (`CriteriaGroup.render_prune`), so they agree in every context, also on the context that an
      error leaves behind.
    * A tree of which nothing is left is rendered as nothing in every context, without a value being
      bound; a tree of which something is left never is (`CriteriaGroup.parts_eq_nil_iff`). -/

namespace SqlComposer

open Rendering

/-! ## Pruning -/

mutual

/-- A criterion without the absent criteria in it, or nothing when it is absent itself. -/
def Criterion.prune? : Criterion → Option Criterion
  | .test operand test => if test.dropsOut then none else some (.test operand test)
  | .exists negated query => some (.exists negated query)
  | .group group => if group.prune.isEmpty then none else some (.group group.prune)
  | .not group => if group.prune.isEmpty then none else some (.not group.prune)

/-- An initial criterion without the absent criteria in it. -/
def Criterion.pruneInitial : Option Criterion → Option Criterion
  | none => none
  | some criterion => criterion.prune?

/-- The criteria of a scope without the absent ones. -/
def CriteriaGroup.prune : CriteriaGroup → CriteriaGroup
  | ⟨initial, links⟩ => ⟨Criterion.pruneInitial initial, CriteriaGroup.pruneLinks links⟩

/-- Connected groups without the absent ones. -/
def CriteriaGroup.pruneLinks :
    List (Connector × CriteriaGroup) → List (Connector × CriteriaGroup)
  | [] => []
  | (connector, group) :: rest =>
    if group.prune.isEmpty then CriteriaGroup.pruneLinks rest
    else (connector, group.prune) :: CriteriaGroup.pruneLinks rest

end

/-- A group without criteria is the empty group. -/
theorem CriteriaGroup.eq_empty {g : CriteriaGroup} (h : g.isEmpty = true) : g = .empty := by
  obtain ⟨initial, links⟩ := g
  have hp : initial.isNone = true ∧ links.isEmpty = true := by simpa [isEmpty] using h
  obtain ⟨hi, hl⟩ := hp
  rw [Option.isNone_iff_eq_none] at hi
  rw [List.isEmpty_iff] at hl
  rw [hi, hl, empty]

/-! ## One pass -/

theorem CriteriaGroup.render_empty : CriteriaGroup.empty.render = return none := rfl

/-- A part whose pruned form is empty and which renders like it renders nothing. -/
theorem CriteriaGroup.render_of_prune_isEmpty {g : CriteriaGroup} (h : g.prune.isEmpty = true)
    (hr : g.prune.render = g.render) : g.render = return none := by
  rw [← hr, g.prune.eq_empty h, render_empty]

mutual

/-- A criterion is rendered as what pruning leaves of it. -/
theorem Criterion.render_prune? (k : Criterion) :
    Criterion.renderInitial k.prune? = k.render? := by
  match k with
  | .test operand test =>
      rw [Criterion.prune?, Criterion.render?]
      by_cases hd : test.dropsOut = true
      · rw [if_pos hd, if_pos hd, Criterion.renderInitial]
      · rw [if_neg hd, if_neg hd, Criterion.renderInitial, Criterion.render?, if_neg hd]
  | .exists negated query => rfl
  | .group group =>
      have ih := CriteriaGroup.render_prune group
      rw [Criterion.prune?, Criterion.render?]
      by_cases he : group.prune.isEmpty = true
      · rw [if_pos he, group.render_of_prune_isEmpty he ih]
        rfl
      · rw [if_neg he, Criterion.renderInitial, Criterion.render?, ih]
  | .not group =>
      have ih := CriteriaGroup.render_prune group
      rw [Criterion.prune?, Criterion.render?]
      by_cases he : group.prune.isEmpty = true
      · rw [if_pos he, group.render_of_prune_isEmpty he ih]
        rfl
      · rw [if_neg he, Criterion.renderInitial, Criterion.render?, ih]

theorem Criterion.renderInitial_prune (k : Option Criterion) :
    Criterion.renderInitial (Criterion.pruneInitial k) = Criterion.renderInitial k := by
  cases k with
  | none => rfl
  | some criterion => exact Criterion.render_prune? criterion

/-- **Pruning changes no render pass.** -/
theorem CriteriaGroup.render_prune (g : CriteriaGroup) : g.prune.render = g.render := by
  obtain ⟨initial, links⟩ := g
  rw [CriteriaGroup.prune, CriteriaGroup.render, CriteriaGroup.render]
  rw [Criterion.renderInitial_prune initial, CriteriaGroup.renderLinks_prune links]

/-- So are connected groups: those that pruning takes away had rendered nothing. -/
theorem CriteriaGroup.renderLinks_prune (links : List (Connector × CriteriaGroup)) :
    CriteriaGroup.renderLinks (CriteriaGroup.pruneLinks links) =
      CriteriaGroup.renderLinks links := by
  match links with
  | [] => rfl
  | (connector, group) :: rest =>
      have ih := CriteriaGroup.render_prune group
      have ihr := CriteriaGroup.renderLinks_prune rest
      rw [CriteriaGroup.pruneLinks, CriteriaGroup.renderLinks]
      by_cases he : group.prune.isEmpty = true
      -- the connector goes with its group, and the rest is the whole list
      · rw [if_pos he, group.render_of_prune_isEmpty he ih, ihr, pure_bind]
        exact (bind_pure _).symm
      · rw [if_neg he, CriteriaGroup.renderLinks, ih, ihr]

end

/-! ## What is left -/

/-- Only no parts at all are grouped to nothing. -/
theorem Fragment.grouped?_eq_none_iff {parts : CriteriaParts} :
    grouped? parts = none ↔ parts = [] := by
  match parts with
  | [] => simp [grouped?]
  | [(_, part)] => simp [grouped?]
  | _ :: _ :: _ => simp [grouped?]

theorem CriteriaGroup.prune_isEmpty_iff (initial : Option Criterion)
    (links : List (Connector × CriteriaGroup)) :
    (CriteriaGroup.prune ⟨initial, links⟩).isEmpty = true ↔
      Criterion.pruneInitial initial = none ∧ CriteriaGroup.pruneLinks links = [] := by
  rw [CriteriaGroup.prune, CriteriaGroup.isEmpty, Bool.and_eq_true, Option.isNone_iff_eq_none,
    List.isEmpty_iff]

section Left

variable {scopes : List Scope}

mutual

/-- A criterion denotes nothing exactly if pruning takes it away. -/
theorem Criterion.fragment?_eq_none_iff {k : Criterion} {f : Option Fragment}
    (h : k.fragment? scopes = .ok f) : f = none ↔ k.prune? = none := by
  match k with
  | .test operand test =>
      rw [Criterion.fragment?] at h
      rw [Criterion.prune?]
      by_cases hd : test.dropsOut = true
      · rw [if_pos hd] at h
        cases h
        simp [hd]
      -- a test that does not drop out up front does not drop out later either
      · rw [if_neg hd] at h
        obtain ⟨operand', -, ht⟩ := exists_of_bind_ok h
        obtain ⟨g, rfl⟩ := Test.fragment?_eq_some (eq_false_of_ne_true hd) ht
        rw [if_neg hd]
        simp
  | .exists negated query =>
      obtain ⟨g, -, hg⟩ := exists_of_bind_ok h
      cases hg
      simp [Criterion.prune?]
  | .group group =>
      obtain ⟨parts, hp, hf⟩ := exists_of_bind_ok h
      cases hf
      have ih := CriteriaGroup.parts_eq_nil_iff hp
      rw [Fragment.grouped?_eq_none_iff, ih, Criterion.prune?]
      simp
  | .not group =>
      obtain ⟨parts, hp, hf⟩ := exists_of_bind_ok h
      cases hf
      have ih := CriteriaGroup.parts_eq_nil_iff hp
      rw [Option.map_eq_none_iff, Fragment.grouped?_eq_none_iff, ih, Criterion.prune?]
      simp

/-- So does the first criterion of a group. -/
theorem Criterion.initialFragment?_eq_none_iff {k : Option Criterion} {f : Option Fragment}
    (h : Criterion.initialFragment? k scopes = .ok f) :
    f = none ↔ Criterion.pruneInitial k = none := by
  cases k with
  | none =>
      cases h
      simp [Criterion.pruneInitial]
  | some criterion => exact Criterion.fragment?_eq_none_iff (k := criterion) h

/-- Nothing is rendered of a scope exactly when pruning leaves nothing of it. -/
theorem CriteriaGroup.parts_eq_nil_iff {g : CriteriaGroup} {parts : CriteriaParts}
    (h : g.parts scopes = .ok parts) : parts = [] ↔ g.prune.isEmpty = true := by
  obtain ⟨initial, links⟩ := g
  obtain ⟨first, hf, h⟩ := exists_of_bind_ok h
  obtain ⟨others, ho, hr⟩ := exists_of_bind_ok h
  cases hr
  have hi := Criterion.initialFragment?_eq_none_iff hf
  have hl := CriteriaGroup.linkParts_eq_nil_iff ho
  rw [CriteriaGroup.prune_isEmpty_iff, ← hi, ← hl]
  cases first <;> simp

/-- Connected groups have no parts exactly if pruning takes all of them away. -/
theorem CriteriaGroup.linkParts_eq_nil_iff {links : List (Connector × CriteriaGroup)}
    {parts : CriteriaParts} (h : CriteriaGroup.linkParts links scopes = .ok parts) :
    parts = [] ↔ CriteriaGroup.pruneLinks links = [] := by
  match links with
  | [] =>
      cases h
      simp [CriteriaGroup.pruneLinks]
  | (connector, group) :: rest =>
      obtain ⟨own, hp, h⟩ := exists_of_bind_ok h
      obtain ⟨others, ho, hr⟩ := exists_of_bind_ok h
      cases hr
      have ih := CriteriaGroup.parts_eq_nil_iff hp
      have ihr := CriteriaGroup.linkParts_eq_nil_iff ho
      rw [CriteriaGroup.pruneLinks]
      by_cases he : group.prune.isEmpty = true
      · rw [if_pos he, ← ihr, ih.mpr he]
        rfl
      · rw [if_neg he]
        have hg : Fragment.grouped? own ≠ none := by
          intro hn
          exact he (ih.mp (Fragment.grouped?_eq_none_iff.mp hn))
        obtain ⟨f, hf⟩ := Option.ne_none_iff_exists'.mp hg
        rw [hf]
        simp

end

end Left

/-- Parts of a scope are written as nothing when there are none. -/
theorem Fragment.writeCriteria_eq_none_iff (parts : CriteriaParts) (c : Context) :
    (writeCriteria parts c).1 = none ↔ parts = [] := by
  cases parts with
  | nil => simp [writeCriteria, writeParts, RenderedCriteria.ofParts]
  | cons part rest => simp [writeCriteria, writeParts, RenderedCriteria.ofParts]

/-- **Absent criteria behave as if they had never been written.**  A tree and its pruned form have
    the same outcome in every context, and leave the same context.  If nothing is left of the tree,
    it renders nothing and leaves the context as it is; if something is left, then it renders
    something, unless it fails. -/
theorem CriteriaGroup.absent_criteria_do_not_count (g : CriteriaGroup) (c : Context) :
    g.prune.render.outcome c = g.render.outcome c ∧
      (g.prune.isEmpty = true → g.render.outcome c = (.ok none, c)) ∧
      ∀ r after, g.render.outcome c = (.ok r, after) → (r = none ↔ g.prune.isEmpty = true) := by
  refine ⟨by rw [g.render_prune], ?_, ?_⟩
  · intro he
    rw [g.render_of_prune_isEmpty he g.render_prune]
    rfl
  · intro r after h
    obtain ⟨parts, hp, hw⟩ := Yields.exists_of_ok (g.render_yields rfl) h
    have hr : r = (Fragment.writeCriteria parts c).1 := congrArg Prod.fst hw
    rw [hr, Fragment.writeCriteria_eq_none_iff, CriteriaGroup.parts_eq_nil_iff hp]

/-- A scope in which one criterion is left: its initial one is absent although its operand has a
    value to bind, and so is all that is in the first connected group. -/
def sparseCriteria : CriteriaGroup :=
  let absent : Criterion :=
    .test (.bound (.int 7)) (.values (.between false (some (.int 1)) none) false)
  let present : Criterion := .test (.constant "a") (.values (.compare .eq (some (.int 2))) false)
  ⟨some absent,
    [(.or, ⟨some (.not ⟨some absent, [(.and, .empty)]⟩), []⟩), (.and, ⟨some present, []⟩)]⟩

/-- The scope is rendered as its one criterion, without connector, whose value is the first one
    bound; without this criterion it is rendered as nothing. -/
theorem CriteriaGroup.absent_criteria_do_not_count_sparse :
    sparseCriteria.prune.render.outcome (.initial .spring) =
        (.ok (some ⟨"a = :p1", 1⟩),
          ((Context.initial .spring).bind (.int 2) none).2) ∧
      (CriteriaGroup.mk sparseCriteria.initial (sparseCriteria.links.take 1)).render.outcome
        (.initial .spring) = (.ok none, .initial .spring) ∧
      sparseCriteria.prune.isEmpty = false := by
  have hr : sparseCriteria.render.outcome (.initial .spring) =
      (.ok (some ⟨"a = :p1", 1⟩), ((Context.initial .spring).bind (.int 2) none).2) := rfl
  obtain ⟨hsame, -, hnone⟩ :=
    CriteriaGroup.absent_criteria_do_not_count sparseCriteria (.initial .spring)
  obtain ⟨-, hempty, -⟩ :=
    CriteriaGroup.absent_criteria_do_not_count
      ⟨sparseCriteria.initial, sparseCriteria.links.take 1⟩ (.initial .spring)
  refine ⟨hsame.trans hr, hempty rfl, ?_⟩
  rw [Bool.eq_false_iff, ne_eq, ← hnone _ _ hr]
  simp

end SqlComposer
