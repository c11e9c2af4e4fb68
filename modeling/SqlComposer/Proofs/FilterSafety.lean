import SqlComposer.Proofs.CriteriaMeaning
import SqlComposer.Proofs.KeptClauses
import SqlComposer.Proofs.LostClauses

/-! # No filter is lost silently

    In the text of every statement that is rendered, each where clause, each criteria of a join and
    each condition of a case branch stands at a place of its own with a predicate at least.  A where
    clause may be missing when the configuration of its own statement allows it, and nothing else
    may.  The other way round, the error about where clauses is raised for a where clause that
    renders nothing.

    Fragments have kept their clauses (`Statement.clauses_kept`); here they are written. -/

namespace SqlComposer

open Fragment (ofText connected)

/-- A context of the given strategy inside the given scopes. -/
structure Context.Within (c : Context) (strategy : Strategy) (scopes : List Scope) : Prop where
  strategy_eq : c.strategy = strategy
  scopes_eq : c.scopes = scopes

/-- A text holds a predicate of criteria: a leaf of theirs as it is rendered there. -/
def CriteriaGroup.HasPredicate (g : CriteriaGroup) (strategy : Strategy) (scopes : List Scope)
    (sql : String) : Prop :=
  ∃ leaf ∈ g.leaves, ∃ (c : Context) (predicate before behind : String),
    c.Within strategy scopes ∧ (leaf.render?.outcome c).1 = .ok (some predicate) ∧
    sql = before ++ predicate ++ behind

/-- The criteria of a clause are rendered as the given ones, with a predicate at least. -/
def Clause.Renders (clause : Clause) (strategy : Strategy) (criteria : RenderedCriteria) : Prop :=
  (∃ c : Context, c.Within strategy clause.scopes ∧
    (clause.criteria.render.outcome c).1 = .ok (some criteria)) ∧
  clause.criteria.HasPredicate strategy clause.scopes criteria.sql

/-- The criteria of a clause drop out wherever they are rendered. -/
def Clause.RendersNothing (clause : Clause) : Prop :=
  ∀ c, c.scopes = clause.scopes → clause.criteria.render.outcome c = (.ok none, c)

/-- The clauses stand in a text one behind the other, each with its rendered criteria behind the
    word that leads them; only where clauses that may drop out and do are missing. -/
def StandIn (strategy : Strategy) : List Clause → (sql : String) → Prop
  | [], _ => True
  | clause :: rest, sql =>
    (clause.kind.mayDropOut = true ∧ clause.RendersNothing ∧ StandIn strategy rest sql) ∨
    ∃ (criteria : RenderedCriteria) (before behind : String), clause.Renders strategy criteria ∧
      sql = before ++ clause.kind.lead ++ criteria.sql ++ behind ∧
      StandIn strategy rest (criteria.sql ++ behind)

theorem Clause.rendersNothing_of_parts {clause : Clause}
    (h : clause.criteria.parts clause.scopes = .ok []) : clause.RendersNothing := by
  intro c hs
  have hy := clause.criteria.render_yields hs
  rw [h] at hy
  exact hy

/-- What is left of the criteria of a scope holds a predicate. -/
theorem CriteriaGroup.hasPredicate {g : CriteriaGroup} {c : Context}
    {part : Connector × Fragment} {rest : CriteriaParts}
    (h : g.parts c.scopes = .ok (part :: rest)) :
    g.HasPredicate c.strategy c.scopes ((connected (part :: rest)).write c).1 := by
  obtain ⟨leaf, hleaf, f, hf, hi⟩ := CriteriaGroup.exists_leaf h (List.mem_cons_self ..)
  obtain ⟨before, behind, hsplit⟩ : f <:+: connected (part :: rest) :=
    hi.trans (List.prefix_append part.2 _).isInfix
  -- the leaf is written where the pieces before it have been written
  obtain ⟨c', hc'⟩ : ∃ c', c' = (Fragment.write before c).2 := ⟨_, rfl⟩
  have hs : c'.scopes = c.scopes := hc' ▸ Fragment.write_scopes before c
  have ht : c'.strategy = c.strategy := hc' ▸ Fragment.write_strategy before c
  refine ⟨leaf, hleaf, c', (f.write c').1, (Fragment.write before c).1,
    (Fragment.write behind (f.write c').2).1, ⟨ht, hs⟩, ?_, ?_⟩
  · have hy := leaf.render?_yields hs
    rw [hf] at hy
    exact congrArg Prod.fst hy
  · rw [← hsplit, Fragment.write_append, Fragment.write_append, ← hc']

/-- Criteria that are left are rendered as they are written, in their scopes. -/
theorem Clause.renders {clause : Clause} {c : Context} {part : Connector × Fragment}
    {rest : CriteriaParts} (h : clause.criteria.parts clause.scopes = .ok (part :: rest)) :
    ∃ criteria, clause.Renders c.strategy criteria ∧
      criteria.sql = ((connected (part :: rest)).write c).1 := by
  have h' : clause.criteria.parts (c.within clause.scopes).scopes = .ok (part :: rest) := h
  have hy := clause.criteria.render_yields (c := c.within clause.scopes) rfl
  rw [h'] at hy
  have hw := Fragment.write_connected (part :: rest) (c.within clause.scopes)
  have hp := CriteriaGroup.hasPredicate h'
  rw [hw] at hp
  refine ⟨_, ⟨⟨c.within clause.scopes, ⟨rfl, rfl⟩, congrArg Prod.fst hy⟩, hp⟩, ?_⟩
  rw [Fragment.write_within] at hw
  exact (congrArg Prod.fst hw).symm

/-- Clauses that a fragment keeps stand in its text. -/
theorem Kept.standIn {clauses : List Clause} {f : Fragment} (h : Kept clauses f) (c : Context) :
    StandIn c.strategy clauses (f.write c).1 := by
  induction clauses generalizing f c with
  | nil => exact trivial
  | cons clause rest ih =>
      rcases h with ⟨⟨hd, hp⟩, hr⟩ | ⟨part, parts, before, behind, hp, rfl, hr⟩
      · exact .inl ⟨hd, clause.rendersNothing_of_parts hp, ih hr c⟩
      -- the clauses behind this one stand in the rest, which begins with its criteria
      · have hi := ih hr (Fragment.write before c).2
        obtain ⟨criteria, hc, hsql⟩ := clause.renders (c := (Fragment.write before c).2) hp
        rw [Fragment.write_strategy] at hi hc
        rw [Fragment.write_append, ← hsql] at hi
        refine .inr ⟨criteria, (Fragment.write before c).1, _, hc, ?_, hi⟩
        rw [Fragment.write_append, Fragment.write_append, ClauseKind.write_leading,
          Fragment.write_append, ← hsql]
        simp only [String.append_assoc]

/-- A batch has no where clause to fail for. -/
theorem RecordsInsert.mapM_blames {clauses : List Clause} (i : RecordsInsert)
    (records : List Json) : Blames clauses (records.mapM i.recordFragment) := by
  induction records with
  | nil => exact Blames.ok _
  | cons record rest ih =>
      rw [List.mapM_cons]
      refine Blames.bind ?_ fun _ => Blames.bind ih fun _ => Blames.ok _
      refine Blames.bind ?_ fun _ => Blames.ok _
      exact Blames.bind (recordFragments_blame record i.mappings) fun _ => Blames.ok _

/-- **No filter is lost silently.**  The clauses that take part in the rendering of a statement
    stand in its text one behind the other, each with a predicate; only where clauses that may drop
    out and render nothing are missing.  A statement that is refused for a where clause has one that
    takes part, renders nothing and must not drop out; a batch is never refused for that. -/
theorem filters_are_kept :
    (∀ (s : Statement) (strategy : Strategy) (r : Rendered), s.rendered strategy = .ok r →
      StandIn strategy s.clauses r.sql) ∧
    (∀ (s : Statement) (strategy : Strategy),
      s.rendered strategy = .error .nonRenderingWhereClause →
      ∃ clause ∈ s.clauses, (∃ config, clause.kind = .filter config ∧
        config.emptyWhereAllowed = false) ∧ clause.RendersNothing) ∧
    (∀ (i : RecordsInsert) (strategy : Strategy),
      i.renderedBatch strategy ≠ .error .nonRenderingWhereClause) := by
  refine ⟨?_, ?_, ?_⟩
  · intro s strategy r h
    obtain ⟨f, hf, rfl⟩ := Statement.exists_fragment h
    exact (s.clauses_kept hf).standIn (.initial strategy)
  · intro s strategy h
    rw [s.rendered_eq] at h
    cases hf : s.fragment [] with
    | error e =>
        rw [hf] at h
        cases h
        obtain ⟨clause, hm, config, hk, hc, hp⟩ := s.blames hf
        exact ⟨clause, hm, ⟨config, hk, hc⟩, clause.rendersNothing_of_parts hp⟩
    | ok f =>
        rw [hf] at h
        cases h
  · intro i strategy h
    rw [i.renderedBatch_eq] at h
    cases hf : i.records.mapM i.recordFragment with
    | error e =>
        rw [hf] at h
        cases h
        have hb : Blames [] (i.records.mapM i.recordFragment) := i.mapM_blames i.records
        obtain ⟨clause, hm, -⟩ := hb hf
        cases hm
    | ok fs =>
        rw [hf] at h
        cases h

/-- A delete of the rows of one table that fulfil a filter. -/
def deleteWhere (filter : CriteriaGroup) : Statement :=
  .delete ⟨"t", none, some filter, [], none, {}⟩

/-- A filter that is there is kept, and one that is empty is refused. -/
theorem filters_are_kept_delete :
    (∃ r, (deleteWhere ⟨some (.test (.constant "a") (.values (.null false) false)), []⟩).rendered
        .postgres = .ok r ∧ r.sql = "delete from t where a is null" ∧
      StandIn .postgres
        (deleteWhere ⟨some (.test (.constant "a") (.values (.null false) false)), []⟩).clauses
        r.sql) ∧
    (deleteWhere .empty).rendered .postgres = .error .nonRenderingWhereClause ∧
    ∃ clause ∈ (deleteWhere .empty).clauses, clause.RendersNothing := by
  refine ⟨⟨_, rfl, rfl, filters_are_kept.1 _ _ _ rfl⟩, rfl, ?_⟩
  obtain ⟨clause, hm, -, hn⟩ := filters_are_kept.2.1 (deleteWhere .empty) .postgres rfl
  exact ⟨clause, hm, hn⟩

end SqlComposer
