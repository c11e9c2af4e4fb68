import SqlComposer.Proofs.QueryFragment

/-! # Render passes write what queries denote

    A render pass binds values as it walks, keeps their placeholders in loose texts and joins these
    later.  This file shows that nothing gets out of step on the way: in every context, the pass
    over an expression, a criterion or a select gives the text of the fragment that it denotes and
    leaves the context that writing this fragment leaves, and it fails exactly where the fragment
    fails, with the same error.

    `Yields` states this for one outcome; `Yields.bind` is the step that follows the order of a
    walk: what is written first is bound first.  The rest is one case for each constructor. -/

namespace SqlComposer

open Rendering

namespace Rendering

variable {α β : Type}

/-- Behind a success the walk goes on where the first part has ended. -/
theorem outcome_bind_ok {x : Rendering α} {k : α → Rendering β} {c after : Context} {a : α}
    (h : x.outcome c = (.ok a, after)) : (x >>= k).outcome c = (k a).outcome after := by
  have h' : StateT.run (ExceptT.run x) c = (.ok a, after) := h
  show StateT.run (ExceptT.run (x >>= k)) c = StateT.run (ExceptT.run (k a)) after
  rw [ExceptT.run_bind, StateT.run_bind, h']
  rfl

theorem outcome_bind_error {x : Rendering α} {k : α → Rendering β} {c after : Context} {e : Error}
    (h : x.outcome c = (.error e, after)) : (x >>= k).outcome c = (.error e, after) := by
  have h' : StateT.run (ExceptT.run x) c = (.error e, after) := h
  show StateT.run (ExceptT.run (x >>= k)) c = _
  rw [ExceptT.run_bind, StateT.run_bind, h']
  rfl

end Rendering

/-! ## Outcomes and what is expected of them -/

section Yields

variable {α β γ δ : Type}

/-- An outcome is what is expected of it: the expected part as it is written, with the context that
    writing leaves, or the expected error. -/
def Yields (outcome : Except Error α × Context) (expected : Except Error β)
    (write : β → α × Context) : Prop :=
  match expected with
  | .ok b => outcome = (.ok (write b).1, (write b).2)
  | .error e => outcome.1 = .error e

theorem Yields.pure {a : α} {c : Context} {b : β} {write : β → α × Context}
    (h : (a, c) = write b) :
    Yields ((Pure.pure a : Rendering α).outcome c) (Pure.pure b) write := by
  show (Except.ok a, c) = (Except.ok (write b).1, (write b).2)
  rw [← h]

theorem Yields.of_eq {outcome : Except Error α × Context} {b : β} {write : β → α × Context}
    (h : outcome = (.ok (write b).1, (write b).2)) : Yields outcome (.ok b) write :=
  h

/-- An outcome that succeeds is what was expected, written. -/
theorem Yields.exists_of_ok {outcome : Except Error α × Context} {expected : Except Error β}
    {write : β → α × Context} {a : α} {after : Context} (h : Yields outcome expected write)
    (ho : outcome = (.ok a, after)) : ∃ b, expected = .ok b ∧ (a, after) = write b := by
  subst ho
  cases expected with
  | error e => cases h
  | ok b =>
      have hb : ((.ok a, after) : Except Error α × Context) = (.ok (write b).1, (write b).2) := h
      obtain ⟨ha, hc⟩ := Prod.mk.inj hb
      exact ⟨b, rfl, Prod.ext (Except.ok.inj ha) hc⟩

/-- A first part whose outcome is known. -/
theorem Yields.of_outcome {x : Rendering α} {k : α → Rendering γ} {c after : Context} {a : α}
    {d : Except Error δ} {write : δ → γ × Context} (hx : x.outcome c = (.ok a, after))
    (hk : Yields ((k a).outcome after) d write) : Yields ((x >>= k).outcome c) d write := by
  rw [outcome_bind_ok hx]
  exact hk

/-- The step of a walk: the second part starts in the context that writing the first one leaves. -/
theorem Yields.bind_ok {x : Rendering α} {k : α → Rendering γ} {c : Context}
    {d : Except Error β} {next : β → Except Error δ}
    {write : β → α × Context} {writeNext : δ → γ × Context}
    (hx : Yields (x.outcome c) d write)
    (hk : ∀ b, d = .ok b →
      Yields ((k (write b).1).outcome (write b).2) (next b) writeNext) :
    Yields ((x >>= k).outcome c) (d >>= next) writeNext := by
  cases d with
  | error e =>
      -- a refusal says nothing about the context that it leaves
      have he : x.outcome c = (.error e, (x.outcome c).2) := Prod.ext hx rfl
      show ((x >>= k).outcome c).1 = .error e
      rw [outcome_bind_error he]
  | ok b =>
      have hb : x.outcome c = (.ok (write b).1, (write b).2) := hx
      rw [outcome_bind_ok hb]
      exact hk b rfl

/-- The same step where it does not matter what the first part denotes. -/
theorem Yields.bind {x : Rendering α} {k : α → Rendering γ} {c : Context}
    {d : Except Error β} {next : β → Except Error δ}
    {write : β → α × Context} {writeNext : δ → γ × Context}
    (hx : Yields (x.outcome c) d write)
    (hk : ∀ b, Yields ((k (write b).1).outcome (write b).2) (next b) writeNext) :
    Yields ((x >>= k).outcome c) (d >>= next) writeNext :=
  Yields.bind_ok hx fun b _ => hk b

/-- A scope is gone after its part, and what the part has written stays. -/
theorem Yields.withScope {part : Rendering String} {c : Context} {scope : Scope}
    {d : Except Error Fragment}
    (h : Yields (part.outcome (c.push scope)) d fun f => f.write (c.push scope)) :
    Yields ((Rendering.withScope scope part).outcome c) d fun f => f.write c := by
  cases d with
  | error e => exact h
  | ok f =>
      have h' : part.outcome (c.push scope)
          = (.ok (f.write (c.push scope)).1, (f.write (c.push scope)).2) := h
      -- scopes play no part in writing, so taking one away again changes nothing
      show ((part.outcome (c.push scope)).1, (part.outcome (c.push scope)).2.pop) = _
      rw [h', Fragment.write_push]
      rfl

end Yields

namespace Fragment

/-! ## Writing optional fragments and criteria -/

/-- The text of a fragment that may be absent. -/
def writeOption : Option Fragment → Context → Option String × Context
  | none, c => (none, c)
  | some f, c => (some (f.write c).1, (f.write c).2)

/-- The texts of criteria with their connectors. -/
def writeParts : CriteriaParts → Context → List (Connector × String) × Context
  | [], c => ([], c)
  | (connector, f) :: rest, c =>
    ((connector, (f.write c).1) :: (writeParts rest (f.write c).2).1,
      (writeParts rest (f.write c).2).2)

/-- The criteria of a scope as they are rendered. -/
def writeCriteria (parts : CriteriaParts) (c : Context) : Option RenderedCriteria × Context :=
  (RenderedCriteria.ofParts (writeParts parts c).1, (writeParts parts c).2)

/-- The criteria of a clause that may be absent. -/
def writeClause : Option CriteriaParts → Context → Option (Option RenderedCriteria) × Context
  | none, c => (none, c)
  | some parts, c => (some (writeCriteria parts c).1, (writeCriteria parts c).2)

@[simp] theorem writeOption_scopes (f : Option Fragment) (c : Context) :
    (writeOption f c).2.scopes = c.scopes := by
  cases f with
  | none => rfl
  | some f => exact write_scopes f c

@[simp] theorem writeParts_scopes (parts : CriteriaParts) (c : Context) :
    (writeParts parts c).2.scopes = c.scopes := by
  induction parts generalizing c with
  | nil => rfl
  | cons part rest ih => exact (ih _).trans (write_scopes part.2 c)

@[simp] theorem writeCriteria_scopes (parts : CriteriaParts) (c : Context) :
    (writeCriteria parts c).2.scopes = c.scopes :=
  writeParts_scopes parts c

/-- Parts are written one behind the other. -/
theorem writeParts_append (ps qs : CriteriaParts) (c : Context) :
    writeParts (ps ++ qs) c =
      ((writeParts ps c).1 ++ (writeParts qs (writeParts ps c).2).1,
        (writeParts qs (writeParts ps c).2).2) := by
  induction ps generalizing c with
  | nil => rfl
  | cons part rest ih => simp only [List.cons_append, writeParts, ih]

/-- Writing at most one part with its connector. -/
theorem writeParts_toList (connector : Connector) (f : Option Fragment) (c : Context) :
    writeParts (f.toList.map (connector, ·)) c =
      ((writeOption f c).1.toList.map (connector, ·), (writeOption f c).2) := by
  cases f with
  | none => rfl
  | some f => rfl

/-- Writing a text in front of a fragment that may be absent. -/
theorem writeOption_map_append (s : String) (f : Option Fragment) (c : Context) :
    writeOption (f.map (ofText s ++ ·)) c =
      ((writeOption f c).1.map (s ++ ·), (writeOption f c).2) := by
  cases f with
  | none => rfl
  | some f =>
      show (some ((ofText s ++ f).write c).1, ((ofText s ++ f).write c).2) = _
      rw [write_append, write_ofText]
      rfl

/-- Writing the parts behind the first one, each after its connector. -/
theorem write_tail (rest : CriteriaParts) (c : Context) :
    write (rest.flatMap fun part => ofText (" " ++ part.1.text ++ " ") ++ part.2) c =
      (String.join ((writeParts rest c).1.map fun part => " " ++ part.1.text ++ " " ++ part.2),
        (writeParts rest c).2) := by
  induction rest generalizing c with
  | nil => rfl
  | cons part others ih =>
      rw [List.flatMap_cons, write_append, write_append, write_ofText, ih]
      simp only [writeParts, List.map_cons, String.join_cons, String.append_assoc]

/-- Writing connected criteria is connecting the written ones. -/
theorem write_connected (parts : CriteriaParts) (c : Context) :
    (connected parts).write c =
      (RenderedCriteria.connected (writeParts parts c).1, (writeParts parts c).2) := by
  cases parts with
  | nil => rfl
  | cons part rest =>
      show (part.2 ++ _).write c = _
      rw [write_append, write_tail]
      rfl

/-- Criteria are put in parentheses by their number, written or not. -/
theorem write_grouped? (parts : CriteriaParts) (c : Context) :
    writeOption (grouped? parts) c =
      ((writeCriteria parts c).1.map RenderedCriteria.grouped, (writeCriteria parts c).2) := by
  match parts with
  | [] => rfl
  | [(connector, f)] =>
      -- a single part stands without parentheses, connected with nothing
      show (some (f.write c).1, (f.write c).2) = (some ((f.write c).1 ++ String.join []), _)
      rw [String.join_nil, String.append_empty]
      rfl
  | first :: second :: rest =>
      show (some ((parenthesized _).write c).1, ((parenthesized _).write c).2) = _
      rw [write_parenthesized, write_connected]
      rfl

/-- A where clause on written criteria. -/
theorem whereClause_yields (config : Config) (parts : Option CriteriaParts) (c : Context) :
    Yields ((SqlComposer.whereClause config (writeClause parts c).1).outcome
        (writeClause parts c).2)
      (whereClause config parts) fun f => f.write c := by
  match parts with
  | none => exact Yields.pure rfl
  | some [] =>
      by_cases ha : config.emptyWhereAllowed = true
      · rw [whereClause, if_pos ha]
        show Rendering.outcome (if config.emptyWhereAllowed then pure "" else throw _) _ = _
        rw [if_pos ha]
        rfl
      · rw [whereClause, if_neg ha]
        show ((if config.emptyWhereAllowed then pure "" else throw _ : Rendering String).outcome
          _).1 = _
        rw [if_neg ha]
        rfl
  | some (part :: rest) =>
      refine Yields.pure ?_
      rw [write_append, write_ofText, write_connected]
      rfl

/-- A having clause on written criteria. -/
theorem write_havingClause (parts : Option CriteriaParts) (c : Context) :
    (havingClause parts).write c =
      (SqlComposer.havingClause (writeClause parts c).1, (writeClause parts c).2) := by
  match parts with
  | none => rfl
  | some [] => rfl
  | some (part :: rest) =>
      rw [havingClause, write_append, write_ofText, write_connected]
      rfl

/-- Criteria that must not drop out. -/
theorem required_yields (cause : InvalidSql) (parts : CriteriaParts) (c : Context) :
    Yields ((requiredCriteria cause (writeCriteria parts c).1).outcome (writeCriteria parts c).2)
      (required cause parts) fun f => f.write c := by
  cases parts with
  | nil => exact rfl
  | cons part rest =>
      refine Yields.pure ?_
      rw [write_connected]
      rfl

/-- A list after a text. -/
theorem write_listClause (keyword : String) (fs : List Fragment) (c : Context) :
    (listClause keyword fs).write c =
      (SqlComposer.listClause keyword (writeAll fs c).1, (writeAll fs c).2) := by
  cases fs with
  | nil => rfl
  | cons f rest =>
      show (ofText keyword ++ listed (f :: rest)).write c = _
      rw [write_append, write_ofText, write_listed]
      rfl

/-- An operand in upper case. -/
theorem write_operand (ignoreCase : Bool) (f : Fragment) (c : Context) :
    (operand ignoreCase f).write c = (operandText ignoreCase (f.write c).1, (f.write c).2) := by
  cases ignoreCase with
  | false => rfl
  | true =>
      show (ofText "upper" ++ parenthesized f).write c = _
      rw [write_append, write_ofText, write_parenthesized]
      rfl

end Fragment

/-! ## Bound values and counts -/

/-- Values are bound in their order. -/
theorem bindValues_outcome (values : List Value) (type : Option JdbcType) (c : Context) :
    (bindValues values type).outcome c =
      (.ok (Fragment.writeAll (values.map fun v => Fragment.ofValue v type) c).1,
        (Fragment.writeAll (values.map fun v => Fragment.ofValue v type) c).2) := by
  induction values generalizing c with
  | nil => rfl
  | cons v rest ih =>
      rw [bindValues]
      have hv : (bindValue v type).outcome c = (.ok (c.bind v type).1, (c.bind v type).2) := rfl
      rw [outcome_bind_ok hv]
      rw [outcome_bind_ok (ih (c.bind v type).2)]
      rw [List.map_cons, Fragment.writeAll_cons, Fragment.write_ofValue]
      rfl

/-- The walk over a count writes its fragment and never fails. -/
theorem countClause_outcome (before : String) (count : Option Int64) (behind : String)
    (c : Context) :
    (countClause before count behind).outcome c =
      (.ok ((Fragment.countClause before count behind).write c).1,
        ((Fragment.countClause before count behind).write c).2) := by
  cases count with
  | none => rfl
  | some n =>
      have hw : (Fragment.countClause before (some n) behind).write c
          = (before ++ (c.bind (.bigInt n) none).1 ++ behind, (c.bind (.bigInt n) none).2) := by
        rw [Fragment.countClause, Fragment.write_append, Fragment.write_append]
        simp only [Fragment.write_ofText, Fragment.write_ofValue]
      rw [hw]
      rfl

/-- The paging clauses are bound in the order in which they are written. -/
theorem Paging.render_outcome (paging : Paging) (c : Context) :
    paging.render.outcome c =
      (.ok (paging.fragment.write c).1, (paging.fragment.write c).2) := by
  by_cases hl : paging.limit.isSome = true
  · rw [Paging.render, Paging.fragment, if_pos hl, if_pos hl, limitClause]
    rw [outcome_bind_ok (countClause_outcome _ _ _ c)]
    rw [outcome_bind_ok (countClause_outcome _ _ _ _), Fragment.write_spaced]
    rfl
  · rw [Paging.render, Paging.fragment, if_neg hl, if_neg hl]
    rw [outcome_bind_ok (countClause_outcome _ _ _ c)]
    rw [outcome_bind_ok (countClause_outcome _ _ _ _), Fragment.write_spaced]
    rfl

/-- Writing the configured texts around a statement. -/
theorem Config.write_wrapped (config : Config) (f : Fragment) (c : Context) :
    (config.wrapped f).write c = (config.wrap (f.write c).1, (f.write c).2) := by
  by_cases hn : (config.beforeStatement.isNone && config.afterStatement.isNone) = true
  · rw [Config.wrapped, Config.wrap, if_pos hn, if_pos hn]
  · rw [Config.wrapped, Config.wrap, if_neg hn, if_neg hn, Fragment.write_spaced]
    simp only [Fragment.writeAll_cons, Fragment.writeAll_nil, Fragment.write_ofText]

end SqlComposer
