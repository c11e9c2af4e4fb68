import SqlComposer.Proofs.ClosedQuery
import SqlComposer.Proofs.Numbering

/-! # A closed query renders the same wherever it is placed

    Two passes over one query may start inside different scopes, and the parameters before it may
    have different values.  `Guarded inner part` says that none of this matters for a part: inside
    the scopes `inner`, which guard it against those around them, its result and the values that it
    binds follow from the strategy and the number of the next parameter alone, whether it succeeds
    or fails.

    * Parts that are guarded can be put one after the other (`Guarded.bind`), and a scope around a
      part is one of the inner scopes (`Guarded.withScope`).
    * A closed query is guarded by the scopes that list the tables in sight, one case for each
      constructor; at the top no inner scope is left (`Select.guarded`).
    * In contexts whose parameters are numbered, the values that are bound come behind those that
      are there (`Context.Numbered.bindAll_entries`). -/

namespace SqlComposer

open Rendering

/-! ## Contexts in which values have been bound -/

namespace Context

/-- The context with values bound, one after the other. -/
def bindAll (c : Context) : List Value → Context
  | [] => c
  | value :: rest => (c.bind value none).2.bindAll rest

theorem bindAll_append (c : Context) (first second : List Value) :
    c.bindAll (first ++ second) = (c.bindAll first).bindAll second := by
  induction first generalizing c with
  | nil => rfl
  | cons value rest ih => exact ih _

@[simp] theorem bindAll_strategy (c : Context) (values : List Value) :
    (c.bindAll values).strategy = c.strategy := by
  induction values generalizing c with
  | nil => rfl
  | cons value rest ih => exact ih _

@[simp] theorem bindAll_scopes (c : Context) (values : List Value) :
    (c.bindAll values).scopes = c.scopes := by
  induction values generalizing c with
  | nil => rfl
  | cons value rest ih => exact ih _

/-- Every value that is bound takes a number. -/
theorem bindAll_nextNumber (c : Context) (values : List Value) :
    (c.bindAll values).nextNumber = c.nextNumber + values.length := by
  induction values generalizing c with
  | nil => rfl
  | cons value rest ih =>
      have hn : ((c.bind value none).2.bindAll rest).nextNumber = c.nextNumber + 1 + rest.length :=
        ih _
      rw [bindAll, hn, List.length_cons]
      omega

/-- Values are bound alike inside a scope and outside. -/
theorem bindAll_push_pop (c : Context) (scope : Scope) (values : List Value) :
    ((c.push scope).bindAll values).pop = c.bindAll values := by
  induction values generalizing c with
  | nil => rfl
  | cons value rest ih => exact ih (c.bind value none).2

end Context

/-! ## Guarded parts -/

/-- A part that the given scopes guard: its result and the values that it binds depend
    on the strategy and the next number only, not on the scopes outside nor on earlier values. -/
def Guarded {α : Type} (inner : List Scope) (part : Rendering α) : Prop :=
  ∀ (strategy : Strategy) (number : Nat), ∃ (result : Except Error α) (values : List Value),
    ∀ (c : Context) (outer : List Scope), c.strategy = strategy → c.nextNumber = number →
      c.scopes = inner ++ outer → part.outcome c = (result, c.bindAll values)

namespace Guarded

variable {α β : Type} {inner : List Scope}

theorem pure (a : α) : Guarded inner (Pure.pure a : Rendering α) := by
  intro strategy number
  exact ⟨.ok a, [], fun _ _ _ _ _ => rfl⟩

theorem throw (e : Error) : Guarded inner (throw e : Rendering α) := by
  intro strategy number
  exact ⟨.error e, [], fun _ _ _ _ _ => rfl⟩

/-- A bound value has its placeholder from the strategy and the next number. -/
theorem bindValue (value : Value) (type : Option JdbcType) :
    Guarded inner (Rendering.bindValue value type) := by
  intro strategy number
  refine ⟨.ok (strategy.placeholder (strategy.parameterKey number) type), [value], ?_⟩
  rintro c outer rfl rfl -
  rfl

/-- A part after another: it goes on with the number that the values of the first one lead to. -/
theorem bind {x : Rendering α} {k : α → Rendering β} (hx : Guarded inner x)
    (hk : ∀ a, Guarded inner (k a)) : Guarded inner (x >>= k) := by
  intro strategy number
  obtain ⟨result, values, hx⟩ := hx strategy number
  cases result with
  | error e =>
      refine ⟨.error e, values, ?_⟩
      intro c outer ht hn hs
      exact outcome_bind_error (hx c outer ht hn hs)
  | ok a =>
      obtain ⟨result, more, hk⟩ := hk a strategy (number + values.length)
      refine ⟨result, values ++ more, ?_⟩
      intro c outer ht hn hs
      rw [outcome_bind_ok (hx c outer ht hn hs), c.bindAll_append]
      refine hk _ outer ?_ ?_ ?_
      · rw [c.bindAll_strategy, ht]
      · rw [c.bindAll_nextNumber, hn]
      · rw [c.bindAll_scopes, hs]

/-- A part that looks at the scopes, where only the inner ones matter. -/
theorem ofScopes {k : List Scope → Rendering α} {part : Rendering α}
    (hk : ∀ outer, k (inner ++ outer) = part) (hp : Guarded inner part) :
    Guarded inner (scopes >>= k) := by
  intro strategy number
  obtain ⟨result, values, hp⟩ := hp strategy number
  refine ⟨result, values, ?_⟩
  intro c outer ht hn hs
  have hc : (scopes >>= k).outcome c = (k c.scopes).outcome c := rfl
  rw [hc, hs, hk outer]
  exact hp c outer ht hn hs

/-- A scope around a part is one of the inner scopes. -/
theorem withScope {scope : Scope} {part : Rendering α} (h : Guarded (scope :: inner) part) :
    Guarded inner (Rendering.withScope scope part) := by
  intro strategy number
  obtain ⟨result, values, h⟩ := h strategy number
  refine ⟨result, values, ?_⟩
  intro c outer ht hn hs
  have hp := h (c.push scope) outer ht hn (by rw [c.push_scopes, hs]; rfl)
  show ((part.outcome (c.push scope)).1, (part.outcome (c.push scope)).2.pop) = _
  rw [hp, c.bindAll_push_pop]

end Guarded

/-! ## Parts without columns -/

section Clauses

variable {inner : List Scope}

/-- Values are bound one after the other, each under the next number. -/
theorem guarded_bindValues (values : List Value) (type : Option JdbcType) :
    Guarded inner (bindValues values type) := by
  induction values with
  | nil => exact Guarded.pure _
  | cons value rest ih =>
      exact Guarded.bind (Guarded.bindValue value type) fun _ =>
        Guarded.bind ih fun _ => Guarded.pure _

theorem guarded_countClause (before : String) (count : Option Int64) (behind : String) :
    Guarded inner (countClause before count behind) := by
  cases count with
  | none => exact Guarded.pure _
  | some n => exact Guarded.bind (Guarded.bindValue _ _) fun _ => Guarded.pure _

/-- A paging clause binds its counts and looks at no scope. -/
theorem Paging.guarded (paging : Paging) : Guarded inner paging.render := by
  rw [Paging.render]
  by_cases hl : paging.limit.isSome = true
  · rw [if_pos hl]
    exact Guarded.bind (guarded_countClause _ _ _) fun _ =>
      Guarded.bind (guarded_countClause _ _ _) fun _ => Guarded.pure _
  · rw [if_neg hl]
    exact Guarded.bind (guarded_countClause _ _ _) fun _ =>
      Guarded.bind (guarded_countClause _ _ _) fun _ => Guarded.pure _

/-- A where clause is put together from criteria that are rendered already. -/
theorem guarded_whereClause (config : Config) (criteria : Option (Option RenderedCriteria)) :
    Guarded inner (whereClause config criteria) := by
  match criteria with
  | none => exact Guarded.pure _
  | some (some _) => exact Guarded.pure _
  | some none =>
      rw [whereClause]
      by_cases ha : config.emptyWhereAllowed = true
      · rw [if_pos ha]
        exact Guarded.pure _
      · rw [if_neg ha]
        exact Guarded.throw _

theorem guarded_requiredCriteria (cause : InvalidSql) (criteria : Option RenderedCriteria) :
    Guarded inner (requiredCriteria cause criteria) := by
  cases criteria with
  | none => exact Guarded.throw _
  | some _ => exact Guarded.pure _

/-- A condition binds its values and looks at no scope. -/
theorem ConditionKind.guarded (kind : ConditionKind) (operand : String) (type : Option JdbcType)
    (ignoreCase : Bool) : Guarded inner (kind.render? operand type ignoreCase) := by
  match kind with
  | .compare _ none => exact Guarded.pure _
  | .compare _ (some _) => exact Guarded.bind (Guarded.bindValue _ _) fun _ => Guarded.pure _
  | .null _ => exact Guarded.pure _
  | .between _ none _ => exact Guarded.pure _
  | .between _ (some _) none => exact Guarded.pure _
  | .between _ (some _) (some _) =>
      exact Guarded.bind (Guarded.bindValue _ _) fun _ =>
        Guarded.bind (Guarded.bindValue _ _) fun _ => Guarded.pure _
  | .member _ true [] => exact Guarded.pure _
  | .member _ false [] => exact Guarded.throw _
  | .member _ _ (_ :: _) => exact Guarded.bind (guarded_bindValues _ _) fun _ => Guarded.pure _

end Clauses

/-! ## Closed queries -/

mutual

/-- An expression is guarded by scopes that list all tables in it: every column finds its table
    there, and what is around these scopes is not asked. -/
theorem Expr.guarded (e : Expr) {inner : List Scope} {tables : List String}
    (hi : Scope.AllList inner tables) (h : e.Closed tables) : Guarded inner e.render := by
  cases e with
  | column c =>
      rw [Expr.Closed] at h
      refine Guarded.ofScopes ?_ (Guarded.pure (c.text inner))
      intro outer
      rw [c.text_of_closed hi h]
  | allColumns table =>
      rw [Expr.Closed] at h
      have hq := qualifier?_of_lists (hi table h)
      cases hinner : qualifier? inner table with
      | none =>
          refine Guarded.ofScopes ?_ (Guarded.pure "*")
          intro outer
          rw [hq outer, hinner]
      | some qualifier =>
          refine Guarded.ofScopes ?_ (Guarded.pure (qualifier ++ ".*"))
          intro outer
          rw [hq outer, hinner]
  | constant s => exact Guarded.pure _
  | stringConstant s => exact Guarded.pure _
  | bound value => exact Guarded.bindValue value none
  | countAll => exact Guarded.pure _
  | count argument => exact Guarded.bind (Expr.guarded argument hi h) fun _ => Guarded.pure _
  | countDistinct argument =>
      exact Guarded.bind (Expr.guarded argument hi h) fun _ => Guarded.pure _
  | call function argument =>
      exact Guarded.bind (Expr.guarded argument hi h) fun _ => Guarded.pure _
  | rowNumber => exact Guarded.pure _
  | windowed inner window =>
      obtain ⟨hin, hw⟩ := h
      exact Guarded.bind (Expr.guarded inner hi hin) fun _ =>
        Guarded.bind (Window.guarded window hi hw) fun _ => Guarded.pure _
  | caseOf operand branches otherwise =>
      obtain ⟨ho, hb, he⟩ := h
      exact Guarded.bind (Expr.guarded_after " " operand hi ho) fun _ =>
        Guarded.bind (CaseBranch.guarded_all branches _ hi hb) fun _ =>
          Guarded.bind (Expr.guarded_after " else " otherwise hi he) fun _ => Guarded.pure _
  | subquery query => exact Guarded.bind (Select.guarded query hi h) fun _ => Guarded.pure _
  | aliased inner aliasName => exact Expr.guarded inner hi h

/-- An operand or an else is guarded, if there is one. -/
theorem Expr.guarded_after (before : String) (e : Option Expr) {inner : List Scope}
    {tables : List String} (hi : Scope.AllList inner tables) (h : Expr.OptionClosed e tables) :
    Guarded inner (Expr.renderAfter before e) := by
  cases e with
  | none => exact Guarded.pure _
  | some e => exact Guarded.bind (Expr.guarded e hi h) fun _ => Guarded.pure _

/-- The expressions of a list are guarded, one after the other. -/
theorem Expr.guarded_all (es : List Expr) {inner : List Scope} {tables : List String}
    (hi : Scope.AllList inner tables) (h : Expr.AllClosed es tables) :
    Guarded inner (Expr.renderAll es) := by
  cases es with
  | nil => exact Guarded.pure _
  | cons e rest =>
      obtain ⟨he, hr⟩ := h
      exact Guarded.bind (Expr.guarded e hi he) fun _ =>
        Guarded.bind (Expr.guarded_all rest hi hr) fun _ => Guarded.pure _

/-- So are those of a select list. -/
theorem Expr.guarded_selected (es : List Expr) {inner : List Scope} {tables : List String}
    (hi : Scope.AllList inner tables) (h : Expr.AllClosed es tables) :
    Guarded inner (Expr.renderSelected es) := by
  cases es with
  | nil => exact Guarded.pure _
  | cons e rest =>
      obtain ⟨he, hr⟩ := h
      exact Guarded.bind (Expr.guarded e hi he) fun _ =>
        Guarded.bind (Expr.guarded_selected rest hi hr) fun _ => Guarded.pure _

theorem Window.guarded (w : Window) {inner : List Scope} {tables : List String}
    (hi : Scope.AllList inner tables) (h : w.Closed tables) : Guarded inner w.render := by
  obtain ⟨partitionBy, orderBy⟩ := w
  exact Guarded.bind (Expr.guarded_all partitionBy hi h) fun _ => Guarded.pure _

/-- A branch is guarded in its condition or its values, and then in its result. -/
theorem CaseBranch.guarded (b : CaseBranch) (type : Option JdbcType) {inner : List Scope}
    {tables : List String} (hi : Scope.AllList inner tables) (h : b.Closed tables) :
    Guarded inner (b.render type) := by
  cases b with
  | searched condition result =>
      obtain ⟨hc, hr⟩ := h
      exact Guarded.bind (CriteriaGroup.guarded condition hi hc) fun _ =>
        Guarded.bind (guarded_requiredCriteria _ _) fun _ =>
          Guarded.bind (Expr.guarded result hi hr) fun _ => Guarded.pure _
  | simple values result =>
      exact Guarded.bind (guarded_bindValues values type) fun _ =>
        Guarded.bind (Expr.guarded result hi h) fun _ => Guarded.pure _

/-- Branches are guarded, one after the other. -/
theorem CaseBranch.guarded_all (bs : List CaseBranch) (type : Option JdbcType)
    {inner : List Scope} {tables : List String} (hi : Scope.AllList inner tables)
    (h : CaseBranch.AllClosed bs tables) : Guarded inner (CaseBranch.renderAll bs type) := by
  cases bs with
  | nil => exact Guarded.pure _
  | cons b rest =>
      obtain ⟨hb, hr⟩ := h
      exact Guarded.bind (CaseBranch.guarded b type hi hb) fun _ =>
        Guarded.bind (CaseBranch.guarded_all rest type hi hr) fun _ => Guarded.pure _

/-- A test is guarded as the expression or the select is that it compares with; values need no
    guard. -/
theorem Test.guarded (t : Test) (operand : String) (type : Option JdbcType) {inner : List Scope}
    {tables : List String} (hi : Scope.AllList inner tables) (h : t.Closed tables) :
    Guarded inner (t.render? operand type) := by
  cases t with
  | values kind ignoreCase => exact kind.guarded operand type ignoreCase
  | compareExpr op right => exact Guarded.bind (Expr.guarded right hi h) fun _ => Guarded.pure _
  | compareQuery op query => exact Guarded.bind (Select.guarded query hi h) fun _ => Guarded.pure _
  | memberOfQuery negated query =>
      exact Guarded.bind (Select.guarded query hi h) fun _ => Guarded.pure _

/-- A criterion is guarded in its operand and its test, its select or its group. -/
theorem Criterion.guarded (k : Criterion) {inner : List Scope} {tables : List String}
    (hi : Scope.AllList inner tables) (h : k.Closed tables) : Guarded inner k.render? := by
  cases k with
  | test operand test =>
      obtain ⟨ho, ht⟩ := h
      rw [Criterion.render?]
      by_cases hd : test.dropsOut = true
      · rw [if_pos hd]
        exact Guarded.pure _
      · rw [if_neg hd]
        exact Guarded.bind (Expr.guarded operand hi ho) fun _ => Test.guarded test _ _ hi ht
  | «exists» negated query =>
      exact Guarded.bind (Select.guarded query hi h) fun _ => Guarded.pure _
  | group group => exact Guarded.bind (CriteriaGroup.guarded group hi h) fun _ => Guarded.pure _
  | not group => exact Guarded.bind (CriteriaGroup.guarded group hi h) fun _ => Guarded.pure _

/-- The first criterion of a group is guarded, if there is one. -/
theorem Criterion.guarded_initial (k : Option Criterion) {inner : List Scope}
    {tables : List String} (hi : Scope.AllList inner tables)
    (h : Criterion.InitialClosed k tables) : Guarded inner (Criterion.renderInitial k) := by
  cases k with
  | none => exact Guarded.pure _
  | some criterion => exact Criterion.guarded criterion hi h

/-- A group is guarded in its first criterion and in what is connected to it. -/
theorem CriteriaGroup.guarded (g : CriteriaGroup) {inner : List Scope} {tables : List String}
    (hi : Scope.AllList inner tables) (h : g.Closed tables) : Guarded inner g.render := by
  obtain ⟨initial, links⟩ := g
  obtain ⟨hk, hl⟩ := h
  exact Guarded.bind (Criterion.guarded_initial initial hi hk) fun _ =>
    Guarded.bind (CriteriaGroup.guarded_links links hi hl) fun _ => Guarded.pure _

/-- Connected groups are guarded, one after the other. -/
theorem CriteriaGroup.guarded_links (links : List (Connector × CriteriaGroup))
    {inner : List Scope} {tables : List String} (hi : Scope.AllList inner tables)
    (h : CriteriaGroup.LinksClosed links tables) :
    Guarded inner (CriteriaGroup.renderLinks links) := by
  cases links with
  | nil => exact Guarded.pure _
  | cons link rest =>
      obtain ⟨connector, group⟩ := link
      obtain ⟨hg, hr⟩ := h
      exact Guarded.bind (CriteriaGroup.guarded group hi hg) fun _ =>
        Guarded.bind (CriteriaGroup.guarded_links rest hi hr) fun _ => Guarded.pure _

/-- Criteria of a clause that may be missing are guarded. -/
theorem CriteriaGroup.guarded_clause (g : Option CriteriaGroup) {inner : List Scope}
    {tables : List String} (hi : Scope.AllList inner tables)
    (h : CriteriaGroup.OptionClosed g tables) :
    Guarded inner (CriteriaGroup.renderClause g) := by
  cases g with
  | none => exact Guarded.pure _
  | some group => exact Guarded.bind (CriteriaGroup.guarded group hi h) fun _ => Guarded.pure _

/-- A subquery that is selected from is guarded; a table is named and not looked up. -/
theorem Source.guarded (s : Source) {inner : List Scope} {tables : List String}
    (hi : Scope.AllList inner tables) (h : s.Closed tables) : Guarded inner s.render := by
  cases s with
  | table name aliasName => exact Guarded.pure _
  | subquery query aliasName =>
      exact Guarded.bind (Select.guarded query hi h) fun _ => Guarded.pure _

/-- A from clause that may be missing is guarded as its source is. -/
theorem Source.guarded_from (s : Option Source) {inner : List Scope} {tables : List String}
    (hi : Scope.AllList inner tables) (h : Source.OptionClosed s tables) :
    Guarded inner (Source.renderFrom s) := by
  cases s with
  | none => exact Guarded.pure _
  | some source => exact Guarded.bind (Source.guarded source hi h) fun _ => Guarded.pure _

/-- A join is guarded in its source and in its criteria. -/
theorem Join.guarded (j : Join) {inner : List Scope} {tables : List String}
    (hi : Scope.AllList inner tables) (h : j.Closed tables) : Guarded inner j.render := by
  obtain ⟨type, source, on⟩ := j
  obtain ⟨hs, ho⟩ := h
  exact Guarded.bind (Source.guarded source hi hs) fun _ =>
    Guarded.bind (CriteriaGroup.guarded on hi ho) fun _ =>
      Guarded.bind (guarded_requiredCriteria _ _) fun _ => Guarded.pure _

/-- Joins are guarded, one after the other. -/
theorem Join.guarded_all (js : List Join) {inner : List Scope} {tables : List String}
    (hi : Scope.AllList inner tables) (h : Join.AllClosed js tables) :
    Guarded inner (Join.renderAll js) := by
  cases js with
  | nil => exact Guarded.pure _
  | cons j rest =>
      obtain ⟨hj, hr⟩ := h
      exact Guarded.bind (Join.guarded j hi hj) fun _ =>
        Guarded.bind (Join.guarded_all rest hi hr) fun _ => Guarded.pure _

/-- A block is guarded by the scopes around it together with its own, which lists the tables of its
    sources and goes when the block is over. -/
theorem QueryBlock.guarded (b : QueryBlock) (keyword : String) (config : Config)
    {inner : List Scope} {tables : List String} (hi : Scope.AllList inner tables)
    (h : b.ClosedIn tables) : Guarded inner (b.render keyword config) := by
  obtain ⟨distinct, columns, source, joins, filter, groupBy, having⟩ := b
  obtain ⟨hc, hs, hj, hf, hg, hh⟩ := h
  rw [QueryBlock.render]
  -- the block's own tables are in sight of all its clauses, from and join included
  have hi := hi.cons
    (QueryBlock.scope ⟨distinct, columns, source, joins, filter, groupBy, having⟩)
  refine Guarded.withScope ?_
  refine Guarded.bind (Expr.guarded_selected columns hi hc) fun _ => ?_
  refine Guarded.bind (Source.guarded_from source hi hs) fun _ => ?_
  refine Guarded.bind (Join.guarded_all joins hi hj) fun _ => ?_
  refine Guarded.bind (CriteriaGroup.guarded_clause filter hi hf) fun _ => ?_
  refine Guarded.bind (guarded_whereClause _ _) fun _ => ?_
  refine Guarded.bind (Expr.guarded_all groupBy hi hg) fun _ => ?_
  exact Guarded.bind (CriteriaGroup.guarded_clause having hi hh) fun _ => Guarded.pure _

/-- Blocks behind unions are guarded, each together with its own scope. -/
theorem QueryBlock.guarded_unions (unions : List (UnionKind × QueryBlock)) (config : Config)
    {inner : List Scope} {tables : List String} (hi : Scope.AllList inner tables)
    (h : QueryBlock.UnionsClosedIn unions tables) :
    Guarded inner (QueryBlock.renderUnions unions config) := by
  cases unions with
  | nil => exact Guarded.pure _
  | cons union rest =>
      obtain ⟨kind, block⟩ := union
      obtain ⟨hb, hr⟩ := h
      exact Guarded.bind (QueryBlock.guarded block "select" config hi hb) fun _ =>
        Guarded.bind (QueryBlock.guarded_unions rest config hi hr) fun _ => Guarded.pure _

/-- A select is guarded inside scopes that list the tables that it takes from them. -/
theorem Select.guarded (q : Select) {inner : List Scope} {tables : List String}
    (hi : Scope.AllList inner tables) (h : q.ClosedIn tables) : Guarded inner q.render := by
  obtain ⟨first, unions, orderBy, paging, lock, config⟩ := q
  obtain ⟨hf, hu⟩ := h
  exact Guarded.bind (QueryBlock.guarded first _ config hi hf) fun _ =>
    Guarded.bind (QueryBlock.guarded_unions unions config hi hu) fun _ =>
      Guarded.bind paging.guarded fun _ => Guarded.pure _

end

/-! ## Contexts that passes reach -/

/-- A context that a pass can reach: values have been bound from the first number on, and there are
    scopes around the part at hand. -/
def Context.Reached (c : Context) : Prop :=
  ∃ values, c = ((Context.initial c.strategy).bindAll values).within c.scopes

namespace Context

theorem Fresh.bindAll {c : Context} (h : c.Fresh) (values : List Value) :
    (c.bindAll values).Fresh := by
  induction values generalizing c with
  | nil => exact h
  | cons value rest ih => exact ih (h.bind value none)

/-- Values come behind the parameters that are there, under the keys of their numbers. -/
theorem Fresh.bindAll_entries {c : Context} (h : c.Fresh) (values : List Value) :
    (c.bindAll values).parameters.entries =
      c.parameters.entries ++ c.strategy.keyed c.nextNumber values := by
  induction values generalizing c with
  | nil => exact (List.append_nil _).symm
  | cons value rest ih =>
      have hr := ih (h.bind value none)
      rw [h.bind_entries value none, List.append_assoc] at hr
      exact hr

theorem Reached.fresh {c : Context} (h : c.Reached) : c.Fresh := by
  obtain ⟨values, hc⟩ := h
  have hf := (fresh_initial c.strategy).bindAll values
  -- freshness does not ask for scopes
  rw [hc]
  exact hf

/-- The next number is one more than the number of parameters. -/
theorem Reached.nextNumber {c : Context} (h : c.Reached) :
    c.nextNumber = c.parameters.size + 1 := by
  obtain ⟨values, hc⟩ := h
  have hn : c.nextNumber = 1 + values.length :=
    (congrArg Context.nextNumber hc).trans (bindAll_nextNumber _ values)
  have he : c.parameters.entries = c.strategy.keyed 1 values :=
    (congrArg (fun c : Context => c.parameters.entries) hc).trans
      ((fresh_initial c.strategy).bindAll_entries values)
  have hl : c.parameters.size = values.length := by
    rw [ParameterMap.size, he, ← List.length_map (f := Prod.snd)]
    exact congrArg List.length (c.strategy.map_snd_keyed 1 values)
  omega

end Context

/-- **A closed query renders the same wherever it is placed.**  In any two contexts of one strategy
    with equally many parameters, whatever scopes are around, it gives the same text or the same
    error, appends the same parameters and leaves the scopes as they are. -/
theorem Select.closed_renders_the_same (q : Select) (hq : q.Closed) (c₁ c₂ : Context)
    (h₁ : c₁.Reached) (h₂ : c₂.Reached) (ht : c₁.strategy = c₂.strategy)
    (hn : c₁.parameters.size = c₂.parameters.size) :
    (q.render.outcome c₁).1 = (q.render.outcome c₂).1 ∧
    (∃ added,
      (q.render.outcome c₁).2.parameters.entries = c₁.parameters.entries ++ added ∧
      (q.render.outcome c₂).2.parameters.entries = c₂.parameters.entries ++ added) ∧
    (q.render.outcome c₁).2.scopes = c₁.scopes ∧ (q.render.outcome c₂).2.scopes = c₂.scopes := by
  have hnext : c₂.nextNumber = c₁.nextNumber := by
    rw [h₁.nextNumber, h₂.nextNumber, hn]
  obtain ⟨result, values, hr⟩ :=
    q.guarded Scope.allList_nil hq c₁.strategy c₁.nextNumber
  have ho₁ := hr c₁ c₁.scopes rfl rfl rfl
  have ho₂ := hr c₂ c₂.scopes ht.symm hnext rfl
  rw [ho₁, ho₂]
  refine ⟨rfl, ⟨c₁.strategy.keyed c₁.nextNumber values, ?_, ?_⟩, ?_, ?_⟩
  · exact h₁.fresh.bindAll_entries values
  · rw [h₂.fresh.bindAll_entries values, ht, hnext]
  · exact c₁.bindAll_scopes values
  · exact c₂.bindAll_scopes values

/-- The orders of a status, from a table that is not aliased. -/
def ordersOfStatus : Select :=
  let status : Expr := .column (.ofTable "orders" "status")
  let isOpen : Criterion := .test status (.values (.compare .eq (some (.text "open"))) false)
  ⟨⟨false, [status], some (.table "orders" none), [], some ⟨some isOpen, []⟩, [], none⟩,
    [], [], {}, none, {}⟩

/-- A context of a whole statement in which one value has been bound, inside scopes. -/
def afterOne (value : Value) (scopes : List Scope) : Context :=
  ((Context.initial .spring).bindAll [value]).within scopes

/-- An alias that is given outside captures a column that stands alone, but not the columns of the
    query. -/
theorem Select.closed_renders_the_same_orders :
    ordersOfStatus.Closed ∧
    ((Expr.column (.ofTable "orders" "status")).render.outcome
      (afterOne (.int 2) [.ofTable "orders" (some "o")])).1 = .ok "o.status" ∧
    (ordersOfStatus.render.outcome (afterOne (.int 1) [])).1 =
      .ok "select status from orders where status = :p2" ∧
    (ordersOfStatus.render.outcome (afterOne (.int 2) [.ofTable "orders" (some "o")])).1 =
      .ok "select status from orders where status = :p2" := by
  have hq : ordersOfStatus.Closed := by
    simp [ordersOfStatus, Select.Closed, Select.ClosedIn, QueryBlock.ClosedIn,
      QueryBlock.UnionsClosedIn, QueryBlock.scope, Scope.names, Source.table?, Source.OptionClosed,
      Source.Closed, Join.AllClosed, CriteriaGroup.OptionClosed, CriteriaGroup.Closed,
      CriteriaGroup.LinksClosed, Criterion.InitialClosed, Criterion.Closed, Test.Closed,
      Expr.AllClosed, Expr.Closed, Column.Closed, Column.ofTable]
  have hr : (ordersOfStatus.render.outcome (afterOne (.int 1) [])).1 =
      .ok "select status from orders where status = :p2" := rfl
  have hsame := Select.closed_renders_the_same ordersOfStatus hq
    (afterOne (.int 1) []) (afterOne (.int 2) [.ofTable "orders" (some "o")])
    ⟨[.int 1], rfl⟩ ⟨[.int 2], rfl⟩ rfl rfl
  exact ⟨hq, rfl, hr, hsame.1.symm.trans hr⟩

end SqlComposer
