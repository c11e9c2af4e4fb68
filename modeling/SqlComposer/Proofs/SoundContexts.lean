import SqlComposer.Proofs.ClosedRendering

/-! # Contexts stay sound, also when a part fails

    A pass hands one context from part to part.  Its parameters have the keys of the numbers from
    one on and the next number comes behind them; its scopes are those around the part at hand.
    Parts may stop at many places, inside scopes and between two values.

    * `BindsOnly part` says that a part does nothing to a context but bind values, whatever its
      result is.  It holds of the single steps of a pass, it is kept when parts are put one after
      the other (`BindsOnly.bind`), also when the first one fails, and a scope is taken away again
      in every case (`BindsOnly.withScope`).
    * Every part of a query is of this kind, one case for each constructor (`QueryPart.bindsOnly`).
    * Bound values come behind the parameters that are there, under the keys that follow
      (`Context.Sound.bindAll`). -/

namespace SqlComposer

open Rendering

/-! ## Sound contexts -/

/-- A context with `count` parameters, under the keys of the numbers from one on, and with the
    number that follows as its next one. -/
structure Context.Sound (c : Context) (count : Nat) : Prop where
  keys : c.parameters.keys = (List.range' 1 count).map c.strategy.parameterKey
  nextNumber : c.nextNumber = count + 1

namespace Context.Sound

variable {c : Context} {count : Nat}

/-- The keys from the next number on are not taken. -/
theorem fresh (h : c.Sound count) : c.Fresh := by
  intro number hn
  rw [h.keys, List.mem_map]
  rintro ⟨taken, htaken, hkey⟩
  have heq : taken = number := c.strategy.parameterKey_injective hkey
  have hlt : taken < 1 + count := (List.mem_range'_1.1 htaken).2
  have hnext := h.nextNumber
  omega

/-- Bound values keep a context sound. -/
theorem bindAll (h : c.Sound count) (values : List Value) :
    (c.bindAll values).Sound (count + values.length) where
  keys := by
    have hentries := h.fresh.bindAll_entries values
    have hkeys : (c.bindAll values).parameters.keys =
        c.parameters.keys ++ (c.strategy.keyed c.nextNumber values).map (·.1) := by
      rw [ParameterMap.keys, hentries, List.map_append]
      rfl
    rw [hkeys, h.keys, c.strategy.map_fst_keyed, h.nextNumber, c.bindAll_strategy,
      ← List.map_append, Nat.add_comm count 1, List.range'_append_1]
  nextNumber := by
    rw [c.bindAll_nextNumber, h.nextNumber]
    omega

end Context.Sound

/-! ## Parts that bind only -/

/-- A part that does nothing to a context but bind values, whether it succeeds or fails. -/
def BindsOnly {α : Type} (part : Rendering α) : Prop :=
  ∀ c, ∃ values, (part.outcome c).2 = c.bindAll values

/-- What no scopes have to guard depends on values alone. -/
theorem Guarded.bindsOnly {α : Type} {part : Rendering α} (h : Guarded [] part) :
    BindsOnly part := by
  intro c
  obtain ⟨result, values, hp⟩ := h c.strategy c.nextNumber
  exact ⟨values, congrArg Prod.snd (hp c c.scopes rfl rfl rfl)⟩

namespace BindsOnly

variable {α β : Type}

theorem pure (a : α) : BindsOnly (Pure.pure a : Rendering α) := (Guarded.pure a).bindsOnly

/-- A part after another; if the first one fails, then what it has bound is all. -/
theorem bind {x : Rendering α} {k : α → Rendering β} (hx : BindsOnly x)
    (hk : ∀ a, BindsOnly (k a)) : BindsOnly (x >>= k) := by
  intro c
  obtain ⟨first, hfirst⟩ := hx c
  cases hr : (x.outcome c).1 with
  | error e =>
      refine ⟨first, ?_⟩
      rw [outcome_bind_error (Prod.ext hr hfirst)]
  | ok a =>
      obtain ⟨second, hsecond⟩ := hk a (c.bindAll first)
      refine ⟨first ++ second, ?_⟩
      rw [outcome_bind_ok (Prod.ext hr hfirst), hsecond, c.bindAll_append]

/-- A part that looks at the scopes. -/
theorem scopes {k : List Scope → Rendering α} (hk : ∀ scopes, BindsOnly (k scopes)) :
    BindsOnly (Rendering.scopes >>= k) := by
  intro c
  exact hk c.scopes c

/-- A scope ends with its part. -/
theorem withScope {scope : Scope} {part : Rendering α} (h : BindsOnly part) :
    BindsOnly (Rendering.withScope scope part) := by
  intro c
  obtain ⟨values, hvalues⟩ := h (c.push scope)
  refine ⟨values, ?_⟩
  show (part.outcome (c.push scope)).2.pop = c.bindAll values
  rw [hvalues, c.bindAll_push_pop]

end BindsOnly

/-! ## Parts of queries -/

mutual

/-- An expression binds a value, or what its parts bind; a column looks at the scopes and leaves
    them as they are. -/
theorem Expr.bindsOnly (e : Expr) : BindsOnly e.render := by
  cases e with
  | column c => exact BindsOnly.scopes fun _ => BindsOnly.pure _
  | allColumns table =>
      refine BindsOnly.scopes fun scopes => ?_
      cases qualifier? scopes table with
      | none => exact BindsOnly.pure _
      | some qualifier => exact BindsOnly.pure _
  | constant s => exact BindsOnly.pure _
  | stringConstant s => exact BindsOnly.pure _
  | bound value => exact (Guarded.bindValue value none).bindsOnly
  | countAll => exact BindsOnly.pure _
  | count argument => exact (Expr.bindsOnly argument).bind fun _ => BindsOnly.pure _
  | countDistinct argument => exact (Expr.bindsOnly argument).bind fun _ => BindsOnly.pure _
  | call function argument => exact (Expr.bindsOnly argument).bind fun _ => BindsOnly.pure _
  | rowNumber => exact BindsOnly.pure _
  | windowed inner window =>
      exact (Expr.bindsOnly inner).bind fun _ =>
        (Window.bindsOnly window).bind fun _ => BindsOnly.pure _
  | caseOf operand branches otherwise =>
      exact (Expr.bindsOnly_after " " operand).bind fun _ =>
        (CaseBranch.bindsOnly_all branches _).bind fun _ =>
          (Expr.bindsOnly_after " else " otherwise).bind fun _ => BindsOnly.pure _
  | subquery query => exact (Select.bindsOnly query).bind fun _ => BindsOnly.pure _
  | aliased inner aliasName => exact Expr.bindsOnly inner

/-- An operand or an else binds what is bound in it, if there is one. -/
theorem Expr.bindsOnly_after (before : String) (e : Option Expr) :
    BindsOnly (Expr.renderAfter before e) := by
  cases e with
  | none => exact BindsOnly.pure _
  | some e => exact (Expr.bindsOnly e).bind fun _ => BindsOnly.pure _

/-- The expressions of a list bind one after the other, up to the first that fails. -/
theorem Expr.bindsOnly_all (es : List Expr) : BindsOnly (Expr.renderAll es) := by
  cases es with
  | nil => exact BindsOnly.pure _
  | cons e rest =>
      exact (Expr.bindsOnly e).bind fun _ =>
        (Expr.bindsOnly_all rest).bind fun _ => BindsOnly.pure _

/-- So do those of a select list. -/
theorem Expr.bindsOnly_selected (es : List Expr) : BindsOnly (Expr.renderSelected es) := by
  cases es with
  | nil => exact BindsOnly.pure _
  | cons e rest =>
      exact (Expr.bindsOnly e).bind fun _ =>
        (Expr.bindsOnly_selected rest).bind fun _ => BindsOnly.pure _

theorem Window.bindsOnly (w : Window) : BindsOnly w.render := by
  obtain ⟨partitionBy, orderBy⟩ := w
  exact (Expr.bindsOnly_all partitionBy).bind fun _ => BindsOnly.pure _

/-- A branch may fail between its condition and its result; what the condition has bound stays
    bound. -/
theorem CaseBranch.bindsOnly (b : CaseBranch) (type : Option JdbcType) :
    BindsOnly (b.render type) := by
  cases b with
  | searched condition result =>
      exact (CriteriaGroup.bindsOnly condition).bind fun _ =>
        (guarded_requiredCriteria _ _).bindsOnly.bind fun _ =>
          (Expr.bindsOnly result).bind fun _ => BindsOnly.pure _
  | simple values result =>
      exact (guarded_bindValues values type).bindsOnly.bind fun _ =>
        (Expr.bindsOnly result).bind fun _ => BindsOnly.pure _

/-- Branches bind one after the other. -/
theorem CaseBranch.bindsOnly_all (bs : List CaseBranch) (type : Option JdbcType) :
    BindsOnly (CaseBranch.renderAll bs type) := by
  cases bs with
  | nil => exact BindsOnly.pure _
  | cons b rest =>
      exact (CaseBranch.bindsOnly b type).bind fun _ =>
        (CaseBranch.bindsOnly_all rest type).bind fun _ => BindsOnly.pure _

/-- A test binds its values, or what the expression or the select binds that it compares with. -/
theorem Test.bindsOnly (t : Test) (operand : String) (type : Option JdbcType) :
    BindsOnly (t.render? operand type) := by
  cases t with
  | values kind ignoreCase => exact (kind.guarded operand type ignoreCase).bindsOnly
  | compareExpr op right => exact (Expr.bindsOnly right).bind fun _ => BindsOnly.pure _
  | compareQuery op query => exact (Select.bindsOnly query).bind fun _ => BindsOnly.pure _
  | memberOfQuery negated query => exact (Select.bindsOnly query).bind fun _ => BindsOnly.pure _

/-- A criterion that drops out binds nothing, not even in its operand. -/
theorem Criterion.bindsOnly (k : Criterion) : BindsOnly k.render? := by
  cases k with
  | test operand test =>
      rw [Criterion.render?]
      by_cases hd : test.dropsOut = true
      · rw [if_pos hd]
        exact BindsOnly.pure _
      · rw [if_neg hd]
        exact (Expr.bindsOnly operand).bind fun _ => Test.bindsOnly test _ _
  | «exists» negated query => exact (Select.bindsOnly query).bind fun _ => BindsOnly.pure _
  | group group => exact (CriteriaGroup.bindsOnly group).bind fun _ => BindsOnly.pure _
  | not group => exact (CriteriaGroup.bindsOnly group).bind fun _ => BindsOnly.pure _

/-- The first criterion of a group binds what is bound in it, if there is one. -/
theorem Criterion.bindsOnly_initial (k : Option Criterion) :
    BindsOnly (Criterion.renderInitial k) := by
  cases k with
  | none => exact BindsOnly.pure _
  | some criterion => exact Criterion.bindsOnly criterion

theorem CriteriaGroup.bindsOnly (g : CriteriaGroup) : BindsOnly g.render := by
  obtain ⟨initial, links⟩ := g
  exact (Criterion.bindsOnly_initial initial).bind fun _ =>
    (CriteriaGroup.bindsOnly_links links).bind fun _ => BindsOnly.pure _

/-- Connected groups bind one after the other. -/
theorem CriteriaGroup.bindsOnly_links (links : List (Connector × CriteriaGroup)) :
    BindsOnly (CriteriaGroup.renderLinks links) := by
  cases links with
  | nil => exact BindsOnly.pure _
  | cons link rest =>
      obtain ⟨connector, group⟩ := link
      exact (CriteriaGroup.bindsOnly group).bind fun _ =>
        (CriteriaGroup.bindsOnly_links rest).bind fun _ => BindsOnly.pure _

theorem CriteriaGroup.bindsOnly_clause (g : Option CriteriaGroup) :
    BindsOnly (CriteriaGroup.renderClause g) := by
  cases g with
  | none => exact BindsOnly.pure _
  | some group => exact (CriteriaGroup.bindsOnly group).bind fun _ => BindsOnly.pure _

theorem Source.bindsOnly (s : Source) : BindsOnly s.render := by
  cases s with
  | table name aliasName => exact BindsOnly.pure _
  | subquery query aliasName => exact (Select.bindsOnly query).bind fun _ => BindsOnly.pure _

theorem Source.bindsOnly_from (s : Option Source) : BindsOnly (Source.renderFrom s) := by
  cases s with
  | none => exact BindsOnly.pure _
  | some source => exact (Source.bindsOnly source).bind fun _ => BindsOnly.pure _

theorem Join.bindsOnly (j : Join) : BindsOnly j.render := by
  obtain ⟨type, source, on⟩ := j
  exact (Source.bindsOnly source).bind fun _ =>
    (CriteriaGroup.bindsOnly on).bind fun _ =>
      (guarded_requiredCriteria _ _).bindsOnly.bind fun _ => BindsOnly.pure _

/-- Joins bind one after the other. -/
theorem Join.bindsOnly_all (js : List Join) : BindsOnly (Join.renderAll js) := by
  cases js with
  | nil => exact BindsOnly.pure _
  | cons j rest =>
      exact (Join.bindsOnly j).bind fun _ =>
        (Join.bindsOnly_all rest).bind fun _ => BindsOnly.pure _

/-- A block binds what its clauses bind, and its scope is taken away again wherever it stops. -/
theorem QueryBlock.bindsOnly (b : QueryBlock) (keyword : String) (config : Config) :
    BindsOnly (b.render keyword config) := by
  obtain ⟨distinct, columns, source, joins, filter, groupBy, having⟩ := b
  rw [QueryBlock.render]
  -- every clause may stop the block, and its scope is taken away all the same
  refine BindsOnly.withScope ?_
  refine (Expr.bindsOnly_selected columns).bind fun _ => ?_
  refine (Source.bindsOnly_from source).bind fun _ => ?_
  refine (Join.bindsOnly_all joins).bind fun _ => ?_
  refine (CriteriaGroup.bindsOnly_clause filter).bind fun _ => ?_
  refine (guarded_whereClause _ _).bindsOnly.bind fun _ => ?_
  refine (Expr.bindsOnly_all groupBy).bind fun _ => ?_
  exact (CriteriaGroup.bindsOnly_clause having).bind fun _ => BindsOnly.pure _

/-- Blocks behind unions bind one after the other. -/
theorem QueryBlock.bindsOnly_unions (unions : List (UnionKind × QueryBlock)) (config : Config) :
    BindsOnly (QueryBlock.renderUnions unions config) := by
  cases unions with
  | nil => exact BindsOnly.pure _
  | cons union rest =>
      obtain ⟨kind, block⟩ := union
      exact (QueryBlock.bindsOnly block "select" config).bind fun _ =>
        (QueryBlock.bindsOnly_unions rest config).bind fun _ => BindsOnly.pure _

/-- **A select does nothing to a context but bind values**, in its blocks and for its counts. -/
theorem Select.bindsOnly (q : Select) : BindsOnly q.render := by
  obtain ⟨first, unions, orderBy, paging, lock, config⟩ := q
  exact (QueryBlock.bindsOnly first _ config).bind fun _ =>
    (QueryBlock.bindsOnly_unions unions config).bind fun _ =>
      paging.guarded.bindsOnly.bind fun _ => BindsOnly.pure _

end

/-- A part of a query, with what the parts around it hand to its pass. -/
inductive QueryPart where
  | expr (e : Expr)
  | selectList (es : List Expr)
  | window (w : Window)
  | branch (b : CaseBranch) (type : Option JdbcType)
  | condition (t : Test) (operand : String) (type : Option JdbcType)
  | criterion (k : Criterion)
  | criteria (g : CriteriaGroup)
  | source (s : Source)
  | join (j : Join)
  | block (b : QueryBlock) (keyword : String) (config : Config)
  | select (q : Select)

namespace QueryPart

/-- The context that the pass over a part leaves, whatever the result is. -/
def after (c : Context) : QueryPart → Context
  | expr e => (e.render.outcome c).2
  | selectList es => ((Expr.renderSelected es).outcome c).2
  | window w => (w.render.outcome c).2
  | branch b type => ((b.render type).outcome c).2
  | condition t operand type => ((t.render? operand type).outcome c).2
  | criterion k => (k.render?.outcome c).2
  | criteria g => (g.render.outcome c).2
  | source s => (s.render.outcome c).2
  | join j => (j.render.outcome c).2
  | block b keyword config => ((b.render keyword config).outcome c).2
  | select q => (q.render.outcome c).2

/-- No part does more to a context than bind values. -/
theorem bindsOnly (part : QueryPart) (c : Context) : ∃ values, part.after c = c.bindAll values := by
  cases part with
  | expr e => exact e.bindsOnly c
  | selectList es => exact Expr.bindsOnly_selected es c
  | window w => exact w.bindsOnly c
  | branch b type => exact b.bindsOnly type c
  | condition t operand type => exact t.bindsOnly operand type c
  | criterion k => exact k.bindsOnly c
  | criteria g => exact g.bindsOnly c
  | source s => exact s.bindsOnly c
  | join j => exact j.bindsOnly c
  | block b keyword config => exact b.bindsOnly keyword config c
  | select q => exact q.bindsOnly c

/-- **Contexts stay sound, also when a part fails.**  A pass over any part of a query leaves the
    strategy, the scopes and the parameters of a sound context as they are, and the parameters that
    it adds come behind them, so that the context is sound again. -/
theorem keeps_context_sound (part : QueryPart) (c : Context) (count : Nat) (h : c.Sound count) :
    (part.after c).strategy = c.strategy ∧
      (part.after c).scopes = c.scopes ∧
      ∃ added, (part.after c).parameters.entries = c.parameters.entries ++ added ∧
        (part.after c).Sound (count + added.length) := by
  obtain ⟨values, hvalues⟩ := part.bindsOnly c
  rw [hvalues]
  refine ⟨c.bindAll_strategy values, c.bindAll_scopes values,
    c.strategy.keyed c.nextNumber values, h.fresh.bindAll_entries values, ?_⟩
  rw [c.strategy.length_keyed]
  exact h.bindAll values

/-- A select that has bound a value when it finds that nothing is left of its where clause. -/
def withLostFilter : Select :=
  let absent : Criterion :=
    .test (.column (.ofTable "orders" "status")) (.values (.compare .eq none) false)
  ⟨⟨false, [.bound (.int 7)], some (.table "orders" none), [], some ⟨some absent, []⟩, [], none⟩,
    [], [], {}, none, {}⟩

/-- The select fails inside its own scope, which is gone afterwards, and its value stays bound. -/
theorem keeps_context_sound_failing :
    let c := afterOne (.int 1) [.ofTable "orders" (some "o")]
    c.Sound 1 ∧ (withLostFilter.render.outcome c).1 = .error .nonRenderingWhereClause ∧
      (withLostFilter.render.outcome c).2.scopes = [.ofTable "orders" (some "o")] ∧
      ∃ added,
        (withLostFilter.render.outcome c).2.parameters.entries =
          [("p1", Value.int 1)] ++ added ∧
        (withLostFilter.render.outcome c).2.Sound (1 + added.length) := by
  intro c
  have hsound : c.Sound 1 := ⟨rfl, rfl⟩
  obtain ⟨-, hscopes, hadded⟩ :=
    QueryPart.keeps_context_sound (.select withLostFilter) c 1 hsound
  exact ⟨hsound, rfl, hscopes, hadded⟩

end QueryPart

end SqlComposer
