import SqlComposer.Build.Statement
import SqlComposer.Proofs.Outcome
import SqlComposer.Proofs.SelectAcceptance
import SqlComposer.Render.Rendered

/-! # Absent values behave as if their calls had never been made

    An update sets columns, an insert gives values to columns, and a value of either may be absent:
    it was optional and not given, or it is a property that a record does not have.  Columns and
    values are collected in lists of their own, while the values are bound on the side.

    * The three loops have one form, `mapM` over the mappings and then `presentValues`
      (`setValues_eq`, `insertValues_eq_mapM`, `recordValues_eq_mapM`), and what they ask of an item
      is `LeavesOut`: an absent one does nothing, any other gives a text.
    * **`LeavesOut.mapM_presentMappings`** — so the walk over all mappings and the walk over those
      that are left are one and the same pass, in every context.
    * **`Update.applyAll_withoutAbsent`** — leaving out a call and leaving out what it added are
      one and the same too: the step for each call, the run by induction.
    * **`absent_values_are_left_out`** — the result for updates, inserts and inserts of a record. -/

namespace SqlComposer

open Rendering

/-! ## Absent mappings -/

/-- Whether a value that an update sets is absent. -/
def SetValue.isAbsent : SetValue → Bool
  | .bound none => true
  | _ => false

/-- Whether a value that an insert gives is absent. -/
def InsertValue.isAbsent : InsertValue → Bool
  | .bound none => true
  | _ => false

/-- Whether a value is absent in a record: a property that need not be present, and is missing at
    some point of its path or null. -/
def RecordValue.isAbsentIn (record : Json) : RecordValue → Bool
  | .propertyWhenPresent path => (record.property? path).all Json.isNull
  | _ => false

/-- The mappings whose value is not absent. -/
def presentMappings {α : Type} (absent : α → Bool) (mappings : List (Assignment α)) :
    List (Assignment α) :=
  mappings.filter fun mapping => !absent mapping.value

/-- An update without the absent sets. -/
def Update.withoutAbsent (u : Update) : Update :=
  { u with sets := presentMappings SetValue.isAbsent u.sets }

/-- An insert without the absent mappings. -/
def Insert.withoutAbsent (i : Insert) : Insert :=
  { i with mappings := presentMappings InsertValue.isAbsent i.mappings }

/-- An insert of a record without the mappings that are absent in it. -/
def RecordInsert.withoutAbsent (i : RecordInsert) : RecordInsert :=
  { i with mappings := presentMappings (RecordValue.isAbsentIn i.record) i.mappings }

section Mappings

variable {α : Type} {absent : α → Bool}

theorem presentMappings_cons_of_absent {mapping : Assignment α} (h : absent mapping.value = true)
    (rest : List (Assignment α)) :
    presentMappings absent (mapping :: rest) = presentMappings absent rest :=
  List.filter_cons_of_neg (by simp [h])

theorem presentMappings_cons_of_present {mapping : Assignment α} (h : absent mapping.value = false)
    (rest : List (Assignment α)) :
    presentMappings absent (mapping :: rest) = mapping :: presentMappings absent rest :=
  List.filter_cons_of_pos (by simp [h])

theorem presentMappings_append (mappings others : List (Assignment α)) :
    presentMappings absent (mappings ++ others) =
      presentMappings absent mappings ++ presentMappings absent others :=
  List.filter_append ..

theorem presentMappings_eq_nil {mappings : List (Assignment α)}
    (h : ∀ mapping ∈ mappings, absent mapping.value = true) :
    presentMappings absent mappings = [] :=
  List.filter_eq_nil_iff.2 fun mapping hm => by simp [h mapping hm]

/-- Something is left if there is a value. -/
theorem presentMappings_ne_nil {mappings : List (Assignment α)}
    (h : ∃ mapping ∈ mappings, absent mapping.value = false) :
    presentMappings absent mappings ≠ [] := by
  obtain ⟨mapping, hm, hp⟩ := h
  have hkept : mapping ∈ presentMappings absent mappings :=
    List.mem_filter.2 ⟨hm, by simp [hp]⟩
  exact List.ne_nil_of_mem hkept

theorem absent_of_mem_presentMappings {mappings : List (Assignment α)} {mapping : Assignment α}
    (h : mapping ∈ presentMappings absent mappings) : absent mapping.value = false := by
  simpa using (List.mem_filter.1 h).2

end Mappings

/-! ## One pass -/

section Pass

variable {α β γ : Type} {absent : α → Bool} {part : Assignment α → Rendering (Option String)}

/-- A sequence that succeeds has a first part that succeeds. -/
theorem exists_of_outcome_bind_ok {x : Rendering β} {k : β → Rendering γ} {c last : Context} {b : γ}
    (h : (x >>= k).outcome c = (.ok b, last)) :
    ∃ a after, x.outcome c = (.ok a, after) ∧ (k a).outcome after = (.ok b, last) := by
  cases hx : x.outcome c with
  | mk result after =>
      cases result with
      | error e =>
          rw [outcome_bind_error hx] at h
          cases h
      | ok a =>
          rw [outcome_bind_ok hx] at h
          exact ⟨a, after, rfl, h⟩

/-- A part that does nothing for an absent item, and gives a text for any other unless it fails. -/
structure LeavesOut (absent : α → Bool) (part : Assignment α → Rendering (Option String)) :
    Prop where
  nothing : ∀ item, absent item.value = true → part item = return none
  text : ∀ item c value after, absent item.value = false →
    (part item).outcome c = (.ok value, after) → ∃ s, value = some s

/-- The columns that have a value, with the first one apart. -/
theorem presentValues_cons (mapping : Assignment α) (rest : List (Assignment α))
    (value : Option String) (values : List (Option String)) :
    presentValues (mapping :: rest) (value :: values) =
      value.toList.map (mapping.column.name, ·) ++ presentValues rest values := by
  cases value with
  | none => rfl
  | some s => rfl

/-- When every column has a value, all of them are paired. -/
theorem presentValues_map_some {mappings : List (Assignment α)} {texts : List String}
    (h : texts.length = mappings.length) :
    presentValues mappings (texts.map some) = (mappings.map (·.column.name)).zip texts := by
  induction mappings generalizing texts with
  | nil => rfl
  | cons mapping rest ih =>
      cases texts with
      | nil => simp at h
      | cons s others =>
          have hl : others.length = rest.length := by simpa using h
          exact congrArg ((mapping.column.name, s) :: ·) (ih hl)

/-- The pass over all mappings is the pass over those that are left. -/
theorem LeavesOut.mapM_presentMappings (h : LeavesOut absent part) (mappings : List (Assignment α))
    (next : List (String × String) → Rendering β) :
    (do let values ← mappings.mapM part
        next (presentValues mappings values)) =
      (do let values ← (presentMappings absent mappings).mapM part
          next (presentValues (presentMappings absent mappings) values)) := by
  -- the first value goes into what comes next, so the induction is over all of that
  induction mappings generalizing next with
  | nil => rfl
  | cons mapping rest ih =>
      cases ha : absent mapping.value with
      | true =>
          rw [presentMappings_cons_of_absent ha, List.mapM_cons, h.nothing mapping ha]
          simp only [pure_bind, bind_assoc]
          exact ih next
      | false =>
          rw [presentMappings_cons_of_present ha, List.mapM_cons, List.mapM_cons]
          simp only [pure_bind, bind_assoc, presentValues_cons]
          refine bind_congr fun value => ?_
          exact ih fun pairs => next (value.toList.map (mapping.column.name, ·) ++ pairs)

/-- Items that are not absent give a text each. -/
theorem LeavesOut.exists_texts (h : LeavesOut absent part) {items : List (Assignment α)}
    (hp : ∀ item ∈ items, absent item.value = false) {c last : Context}
    {values : List (Option String)} (ho : (items.mapM part).outcome c = (.ok values, last)) :
    ∃ texts : List String, values = texts.map some ∧ texts.length = items.length := by
  induction items generalizing c values with
  | nil =>
      cases ho
      exact ⟨[], rfl, rfl⟩
  | cons item rest ih =>
      rw [List.mapM_cons] at ho
      obtain ⟨value, after, hvalue, ho⟩ := exists_of_outcome_bind_ok ho
      obtain ⟨others, behind, hothers, ho⟩ := exists_of_outcome_bind_ok ho
      cases ho
      obtain ⟨s, rfl⟩ := h.text item c value after (hp item (by simp)) hvalue
      obtain ⟨texts, rfl, hl⟩ := ih (fun other hm => hp other (by simp [hm])) hothers
      exact ⟨s :: texts, rfl, congrArg (· + 1) hl⟩

end Pass

/-! ## The three loops -/

/-- The text of a set: the column and its value. -/
def setText (pair : String × String) : String := pair.1 ++ " = " ++ pair.2

/-- The loop over the sets is a walk over all of them, and then the absent ones go. -/
theorem setValues_eq (sets : List (Assignment SetValue)) :
    setValues sets = do
      let values ← sets.mapM setValue
      return (presentValues sets values).map setText := by
  induction sets with
  | nil => rfl
  | cons set rest ih =>
      rw [setValues, ih, List.mapM_cons]
      simp only [pure_bind, bind_assoc, presentValues_cons, List.map_append, List.map_map]
      rfl

/-- The loop over the values of an insert is a walk over all of them. -/
theorem insertValues_eq_mapM (mappings : List (Assignment InsertValue)) :
    insertValues mappings = mappings.mapM insertValue := by
  induction mappings with
  | nil => rfl
  | cons mapping rest ih => rw [insertValues, ih, List.mapM_cons]

/-- The loop over the values of a record is a walk over all of them. -/
theorem recordValues_eq_mapM (record : Json) (mappings : List (Assignment RecordValue)) :
    recordValues record mappings = mappings.mapM (recordValue record) := by
  induction mappings with
  | nil => rfl
  | cons mapping rest ih => rw [recordValues, ih, List.mapM_cons]

/-- A part that always wraps its text gives a text. -/
theorem exists_some_of_bind {α : Type} {x : Rendering α} {g : α → String} {c after : Context}
    {value : Option String}
    (h : (x >>= fun a => pure (some (g a))).outcome c = (.ok value, after)) :
    ∃ s, value = some s := by
  obtain ⟨a, behind, -, hvalue⟩ := exists_of_outcome_bind_ok h
  cases hvalue
  exact ⟨g a, rfl⟩

/-- An absent set does nothing. -/
theorem setValue_leavesOut : LeavesOut SetValue.isAbsent setValue where
  nothing := by
    rintro ⟨column, value⟩ h
    match value with
    | .bound none => rfl
    | .bound (some _) | .null | .constant _ | .stringConstant _ | .expr _ | .subquery _ => cases h
  text := by
    rintro ⟨column, value⟩ c result after h ho
    match value with
    | .bound none => cases h
    | .bound (some v) => exact exists_some_of_bind ho
    | .null | .constant _ | .stringConstant _ =>
        cases ho
        exact ⟨_, rfl⟩
    | .expr e => exact exists_some_of_bind ho
    | .subquery query => exact exists_some_of_bind ho

/-- An absent value of an insert does nothing. -/
theorem insertValue_leavesOut : LeavesOut InsertValue.isAbsent insertValue where
  nothing := by
    rintro ⟨column, value⟩ h
    match value with
    | .bound none => rfl
    | .bound (some _) | .null | .constant _ | .stringConstant _ => cases h
  text := by
    rintro ⟨column, value⟩ c result after h ho
    match value with
    | .bound none => cases h
    | .bound (some v) => exact exists_some_of_bind ho
    | .null | .constant _ | .stringConstant _ =>
        cases ho
        exact ⟨_, rfl⟩

/-- An optional property that a record does not have, or has as null, is left out. -/
theorem recordValue_of_absent {record : Json} {mapping : Assignment RecordValue}
    (h : mapping.value.isAbsentIn record = true) : recordValue record mapping = return none := by
  obtain ⟨column, value⟩ := mapping
  cases value with
  | propertyWhenPresent path =>
      have hall : (record.property? path).all Json.isNull = true := h
      unfold recordValue
      cases hp : record.property? path with
      | none => simp only [hp]
      | some property =>
          rw [hp] at hall
          simp only [hp]
          exact if_pos hall
  | property path => cases h
  | row => cases h
  | null => cases h
  | constant s => cases h
  | stringConstant s => cases h

/-- A mapping whose property the record does not have does nothing, if it may be absent. -/
theorem recordValue_leavesOut (record : Json) :
    LeavesOut (RecordValue.isAbsentIn record) (recordValue record) where
  nothing := fun _ h => recordValue_of_absent h
  text := by
    rintro ⟨column, value⟩ c result after h ho
    cases value with
    | property path =>
        unfold recordValue at ho
        cases hp : record.property? path with
        | none =>
            simp only [hp] at ho
            cases ho
        | some property =>
            simp only [hp] at ho
            exact exists_some_of_bind ho
    | propertyWhenPresent path =>
        unfold recordValue at ho
        have hall : (record.property? path).all Json.isNull = false := h
        cases hp : record.property? path with
        | none =>
            rw [hp] at hall
            cases hall
        | some property =>
            rw [hp] at hall
            have hn : property.isNull = false := hall
            simp only [hp, hn] at ho
            exact exists_some_of_bind ho
    | row => exact exists_some_of_bind ho
    | null =>
        cases ho
        exact ⟨_, rfl⟩
    | constant s =>
        cases ho
        exact ⟨_, rfl⟩
    | stringConstant s =>
        cases ho
        exact ⟨_, rfl⟩

/-! ## Rendering -/

/-- An update is rendered as the one without its absent sets. -/
theorem Update.render_withoutAbsent (u : Update) : u.withoutAbsent.render = u.render := by
  unfold render
  show withScope (Scope.ofTable u.table u.aliasName) _ = _
  simp only [setValues_eq, bind_assoc, pure_bind]
  exact congrArg (withScope _)
    (setValue_leavesOut.mapM_presentMappings u.sets fun pairs => do
      requireSets (pairs.map setText)
      let filter ← filterClause u.config u.filter
      let limit ← limitClause u.limit
      return u.config.wrap (spaced
        [u.config.keyword "update", tableText u.table u.aliasName,
          listClause "set " (pairs.map setText), filter, orderClause u.orderBy, limit])).symm

/-- An insert is rendered as the one without its absent values. -/
theorem Insert.render_withoutAbsent (i : Insert) : i.withoutAbsent.render = i.render := by
  unfold render
  rw [insertValues_eq_mapM, insertValues_eq_mapM]
  exact (insertValue_leavesOut.mapM_presentMappings i.mappings
    (singleRowInsert i.config i.table)).symm

/-- The insert of a record is rendered as the one without the mappings that are absent in it. -/
theorem RecordInsert.render_withoutAbsent (i : RecordInsert) :
    i.withoutAbsent.render = i.render := by
  unfold render
  rw [recordValues_eq_mapM, recordValues_eq_mapM]
  exact ((recordValue_leavesOut i.record).mapM_presentMappings i.mappings
    (singleRowInsert i.config i.table)).symm

/-- An update of which every set is absent is an error. -/
theorem Update.rendered_of_absent {u : Update} (h : ∀ set ∈ u.sets, set.value.isAbsent = true)
    (strategy : Strategy) :
    (Statement.update u).rendered strategy = .error (.invalidSql .updateWithoutValues) := by
  show u.render.rendered .update strategy = _
  have hnone : u.withoutAbsent = { u with sets := [] } := by
    rw [withoutAbsent, presentMappings_eq_nil h]
  rw [← u.render_withoutAbsent, hnone]
  rfl

/-- An insert of which every mapping is absent is an error. -/
theorem Insert.rendered_of_absent {i : Insert}
    (h : ∀ mapping ∈ i.mappings, mapping.value.isAbsent = true) (strategy : Strategy) :
    (Statement.insert i).rendered strategy = .error (.invalidSql .insertWithoutValues) := by
  show i.render.rendered .insert strategy = _
  have hnone : i.withoutAbsent = { i with mappings := [] } := by
    rw [withoutAbsent, presentMappings_eq_nil h]
  rw [← i.render_withoutAbsent, hnone]
  rfl

/-- An insert of a record in which every mapping is absent is an error. -/
theorem RecordInsert.rendered_of_absent {i : RecordInsert}
    (h : ∀ mapping ∈ i.mappings, mapping.value.isAbsentIn i.record = true) (strategy : Strategy) :
    (Statement.insertRecord i).rendered strategy = .error (.invalidSql .insertWithoutValues) := by
  show i.render.rendered .insert strategy = _
  have hnone : i.withoutAbsent = { i with mappings := [] } := by
    rw [withoutAbsent, presentMappings_eq_nil h]
  rw [← i.render_withoutAbsent, hnone]
  rfl

/-! ## What is written -/

/-- A rendered update shows its sets: each column with the text of its value, in their order, and
    behind them the other clauses, which go on where the values have ended. -/
def Update.ShowsSets (u : Update) (strategy : Strategy) (r : Rendered) : Prop :=
  ∃ (texts : List String) (filter limit : String) (behindSets behindFilter last : Context),
    (u.sets.mapM setValue).outcome
        ((Context.initial strategy).push (Scope.ofTable u.table u.aliasName)) =
      (.ok (texts.map some), behindSets) ∧
    texts.length = u.sets.length ∧
    (filterClause u.config u.filter).outcome behindSets = (.ok filter, behindFilter) ∧
    (limitClause u.limit).outcome behindFilter = (.ok limit, last) ∧
    r.sql = u.config.wrap (spaced
      [u.config.keyword "update", tableText u.table u.aliasName,
        "set " ++ listed
          (List.zipWith (fun set text => set.column.name ++ " = " ++ text) u.sets texts),
        filter, orderClause u.orderBy, limit]) ∧
    r.parameters = last.parameters

/-- A rendered insert shows its mappings: their columns in one list and the texts of their values in
    another one, both in their order. -/
def ShowsRow {α : Type} (part : Assignment α → Rendering (Option String)) (config : Config)
    (table : String) (mappings : List (Assignment α)) (strategy : Strategy) (r : Rendered) : Prop :=
  ∃ (texts : List String) (last : Context),
    (mappings.mapM part).outcome (.initial strategy) = (.ok (texts.map some), last) ∧
    texts.length = mappings.length ∧
    r.sql =
      insertText config table (mappings.map (·.column.name)) ("values " ++ rowText texts) ∧
    r.parameters = last.parameters

/-- A part that was rendered has given its text in the initial context. -/
theorem Rendering.exists_of_rendered_ok {part : Rendering String} {verb : Verb}
    {strategy : Strategy} {r : Rendered} (h : part.rendered verb strategy = .ok r) :
    ∃ last, part.outcome (.initial strategy) = (.ok r.sql, last) ∧
      r.parameters = last.parameters := by
  unfold rendered at h
  cases ho : part.outcome (.initial strategy) with
  | mk result last =>
      rw [ho] at h
      cases result with
      | error e => cases h
      | ok sql =>
          cases h
          exact ⟨last, rfl, rfl⟩

/-- A part that succeeds in a scope has succeeded in the context inside it. -/
theorem Rendering.exists_of_withScope_ok {α : Type} {scope : Scope} {part : Rendering α}
    {c last : Context} {a : α} (h : (withScope scope part).outcome c = (.ok a, last)) :
    ∃ inner, part.outcome (c.push scope) = (.ok a, inner) ∧ last.parameters = inner.parameters := by
  have h' : ((part.outcome (c.push scope)).1, (part.outcome (c.push scope)).2.pop) =
      (.ok a, last) := h
  obtain ⟨hresult, rfl⟩ := Prod.mk.inj h'
  exact ⟨_, Prod.ext hresult rfl, rfl⟩

/-- A check of the sets that succeeds leaves the context as it is. -/
theorem requireSets_ok {sets : List String} {c after : Context}
    (h : (requireSets sets).outcome c = (.ok (), after)) : sets ≠ [] ∧ after = c := by
  cases sets with
  | nil => cases h
  | cons s rest =>
      cases h
      exact ⟨by simp, rfl⟩

theorem listClause_of_ne_nil {keyword : String} {items : List String} (h : items ≠ []) :
    listClause keyword items = keyword ++ listed items :=
  if_neg (by simpa using h)

/-- An update without absent sets shows its sets. -/
theorem Update.showsSets_of_rendered {u : Update} {strategy : Strategy} {r : Rendered}
    (hp : ∀ set ∈ u.sets, set.value.isAbsent = false)
    (h : (Statement.update u).rendered strategy = .ok r) : u.ShowsSets strategy r := by
  obtain ⟨outer, hpass, hparameters⟩ := Rendering.exists_of_rendered_ok h
  have hrender : u.render.outcome (.initial strategy) = (.ok r.sql, outer) := hpass
  unfold render at hrender
  obtain ⟨inner, hbody, hinner⟩ := Rendering.exists_of_withScope_ok hrender
  rw [setValues_eq] at hbody
  obtain ⟨pairs, behindSets, hsets, hchecked⟩ := exists_of_outcome_bind_ok hbody
  obtain ⟨values, after, hvalues, hpairs⟩ := exists_of_outcome_bind_ok hsets
  cases hpairs
  obtain ⟨texts, rfl, hlength⟩ := setValue_leavesOut.exists_texts hp hvalues
  obtain ⟨_, checked, hcheck, hclauses⟩ := exists_of_outcome_bind_ok hchecked
  obtain ⟨hne, rfl⟩ := requireSets_ok hcheck
  obtain ⟨filter, behindFilter, hfilter, hlast⟩ := exists_of_outcome_bind_ok hclauses
  obtain ⟨limit, last, hlimit, hend⟩ := exists_of_outcome_bind_ok hlast
  obtain ⟨hsql, rfl⟩ := Prod.mk.inj hend
  refine ⟨texts, filter, limit, _, behindFilter, _, hvalues, hlength, hfilter, hlimit, ?_, ?_⟩
  · rw [← Except.ok.inj hsql, listClause_of_ne_nil hne, presentValues_map_some hlength]
    rw [List.zip, List.map_zipWith, List.zipWith_map_left]
    rfl
  · rw [hparameters, hinner]

/-- An insert of one row without absent mappings shows its mappings. -/
theorem showsRow_of_rendered {α : Type} {absent : α → Bool}
    {part : Assignment α → Rendering (Option String)} {config : Config} {table : String}
    {mappings : List (Assignment α)} {strategy : Strategy} {r : Rendered}
    (hl : LeavesOut absent part) (hp : ∀ mapping ∈ mappings, absent mapping.value = false)
    (h : (mappings.mapM part >>= fun values =>
      singleRowInsert config table (presentValues mappings values)).rendered .insert strategy =
        .ok r) :
    ShowsRow part config table mappings strategy r := by
  obtain ⟨last, ho, hparameters⟩ := Rendering.exists_of_rendered_ok h
  obtain ⟨values, after, hvalues, ho⟩ := exists_of_outcome_bind_ok ho
  obtain ⟨texts, rfl, hlength⟩ := hl.exists_texts hp hvalues
  rw [presentValues_map_some hlength] at ho
  have hnames : (mappings.map (·.column.name)).length = texts.length := by
    rw [List.length_map, hlength]
  unfold singleRowInsert at ho
  rw [List.map_fst_zip (Nat.le_of_eq hnames), List.map_snd_zip (Nat.le_of_eq hnames.symm)] at ho
  split at ho
  · cases ho
  · obtain ⟨hsql, rfl⟩ := Prod.mk.inj ho
    exact ⟨texts, _, hvalues, hlength, (Except.ok.inj hsql).symm, hparameters⟩

/-- A rendered insert without absent values shows all of its mappings. -/
theorem Insert.showsRow_of_rendered {i : Insert} {strategy : Strategy} {r : Rendered}
    (hp : ∀ mapping ∈ i.mappings, mapping.value.isAbsent = false)
    (h : (Statement.insert i).rendered strategy = .ok r) :
    ShowsRow insertValue i.config i.table i.mappings strategy r := by
  have h' : i.render.rendered .insert strategy = .ok r := h
  rw [render, insertValues_eq_mapM] at h'
  exact SqlComposer.showsRow_of_rendered insertValue_leavesOut hp h'

/-- So does the insert of a record in which nothing is absent. -/
theorem RecordInsert.showsRow_of_rendered {i : RecordInsert} {strategy : Strategy} {r : Rendered}
    (hp : ∀ mapping ∈ i.mappings, mapping.value.isAbsentIn i.record = false)
    (h : (Statement.insertRecord i).rendered strategy = .ok r) :
    ShowsRow (recordValue i.record) i.config i.table i.mappings strategy r := by
  have h' : i.render.rendered .insert strategy = .ok r := h
  rw [render, recordValues_eq_mapM] at h'
  exact SqlComposer.showsRow_of_rendered (recordValue_leavesOut i.record) hp h'

/-! ## Calls -/

namespace Composing

variable {σ α : Type} {g : σ → σ}

/-- A composition with its draft changed, outside of what calls may do. -/
def mapDraft (g : σ → σ) (c : Composing σ) : Composing σ := { c with draft := g c.draft }

theorem mapDraft_update {f : σ → σ} (h : ∀ s, g (f s) = f (g s)) (c : Composing σ) :
    mapDraft g (c.update f) = (mapDraft g c).update f :=
  congrArg (Composing.mk · c.misuse) (h c.draft)

/-- A change of the draft may be put before a step that is refused alike on both drafts. -/
theorem mapDraft_step {f : σ → Except InvalidSql σ} (h : ∀ s, (f s).map g = f (g s))
    (c : Composing σ) : mapDraft g (c.step f) = (mapDraft g c).step f := by
  have hd : (f c.draft).map g = f (mapDraft g c).draft := h c.draft
  unfold step
  rw [← hd]
  cases f c.draft <;> rfl

/-- It may be put before the use of a part, if it may be put before the use of what is built. -/
theorem mapDraft_withPart {use : α → Composing σ → Composing σ}
    (h : ∀ a c, mapDraft g (use a c) = use a (mapDraft g c)) (part : Except InvalidSql α)
    (c : Composing σ) : mapDraft g (c.withPart part use) = (mapDraft g c).withPart part use := by
  cases part with
  | ok a => exact h a c
  | error cause => rfl

end Composing

/-- Whether a call sets a column to an absent value. -/
def UpdateCall.isAbsent : UpdateCall → Bool
  | .set _ value => value.isAbsent
  | _ => false

/-- Whether a call gives a column a value that is absent. -/
def InsertCall.isAbsent {α : Type} (absent : α → Bool) : InsertCall α → Bool
  | .set _ value => absent value
  | .configure _ => false

namespace Update

open Composing (mapDraft mapDraft_update mapDraft_step mapDraft_withPart)

theorem withoutAbsent_addSet_of_absent {value : SetValue} (h : value.isAbsent = true)
    (column : Column) (u : Update) : (u.addSet column value).withoutAbsent = u.withoutAbsent := by
  rw [withoutAbsent, addSet, presentMappings_append, presentMappings_cons_of_absent h]
  exact congrArg (fun sets => { u with sets }) (List.append_nil _)

theorem withoutAbsent_addSet_of_present {value : SetValue} (h : value.isAbsent = false)
    (column : Column) (u : Update) :
    (u.addSet column value).withoutAbsent = u.withoutAbsent.addSet column value := by
  rw [withoutAbsent, addSet, presentMappings_append, presentMappings_cons_of_present h]
  rfl

/-- A call that is absent adds nothing that is left. -/
theorem apply_of_absent {call : UpdateCall} (h : call.isAbsent = true) (c : Composing Update) :
    mapDraft withoutAbsent (call.apply c) = mapDraft withoutAbsent c := by
  cases call with
  | set column value =>
      exact congrArg (Composing.mk · c.misuse) (withoutAbsent_addSet_of_absent h column c.draft)
  | setQuery column query => cases h
  | filter calls => cases h
  | orderBy specs => cases h
  | limit count => cases h
  | configure calls => cases h

/-- A call that is not absent does the same whether absent sets are held or not. -/
theorem apply_of_present {call : UpdateCall} (h : call.isAbsent = false) (c : Composing Update) :
    mapDraft withoutAbsent (call.apply c) = call.apply (mapDraft withoutAbsent c) := by
  cases call with
  | set column value => exact mapDraft_update (withoutAbsent_addSet_of_present h column) c
  | setQuery column query =>
      refine mapDraft_withPart (fun query c => ?_) (Select.ofSubquery query) c
      have hvalue : (SetValue.subquery query).isAbsent = false := rfl
      exact mapDraft_update (withoutAbsent_addSet_of_present hvalue column) c
  | filter calls =>
      show mapDraft withoutAbsent (if c.draft.filter.isSome then _ else _) =
        if c.draft.filter.isSome then _ else _
      by_cases hf : c.draft.filter.isSome = true
      · rw [if_pos hf, if_pos hf]
        rfl
      · rw [if_neg hf, if_neg hf]
        refine mapDraft_withPart (fun filter c => ?_) (CriteriaGroup.build calls) c
        rfl
  | orderBy specs =>
      refine mapDraft_step (fun u => ?_) c
      cases hs : requireItem .emptyOrderBy specs <;> rfl
  | limit count => rfl
  | configure calls => rfl

/-- Calls leave the same sets whether the absent ones are taken out behind them or never made. -/
theorem applyAll_withoutAbsent (calls : List UpdateCall) (c : Composing Update) :
    mapDraft withoutAbsent (Composing.applyAll UpdateCall.apply calls c) =
      Composing.applyAll UpdateCall.apply (calls.filter fun call => !call.isAbsent)
        (mapDraft withoutAbsent c) := by
  induction calls generalizing c with
  | nil => rfl
  | cons call rest ih =>
      have hrest := ih (call.apply c)
      cases ha : call.isAbsent with
      | false =>
          rw [List.filter_cons_of_pos (by simp [ha])]
          rw [apply_of_present ha] at hrest
          exact hrest
      | true =>
          rw [List.filter_cons_of_neg (by simp [ha])]
          rw [apply_of_absent ha] at hrest
          exact hrest

/-- The calls without the absent ones compose the update without the absent sets. -/
theorem build_withoutAbsent {table : String} {aliasName : Option String} {calls : List UpdateCall}
    {u : Update} (h : build table aliasName calls = .ok u)
    (hp : ∃ set ∈ u.sets, set.value.isAbsent = false) :
    build table aliasName (calls.filter fun call => !call.isAbsent) = .ok u.withoutAbsent := by
  have hrun := applyAll_withoutAbsent calls (.start (ofTable table aliasName))
  unfold build at h ⊢
  show (Composing.applyAll _ _ (mapDraft withoutAbsent (.start (ofTable table aliasName)))).finish _
    = _
  rw [← hrun]
  cases hc : Composing.applyAll UpdateCall.apply calls (.start (ofTable table aliasName)) with
  | mk draft misuse =>
      rw [hc] at h
      cases misuse with
      | some cause => cases h
      | none =>
          obtain ⟨_, -, hu⟩ := exists_of_bind_ok h
          cases hu
          have hne : draft.withoutAbsent.sets ≠ [] := presentMappings_ne_nil hp
          show finish draft.withoutAbsent = _
          rw [finish, requireItem_of_ne_nil hne]
          rfl

end Update

namespace InsertDraft

variable {α : Type}

/-- The columns of an insert that is being composed, without the absent ones. -/
def withoutAbsent (absent : α → Bool) (d : InsertDraft α) : InsertDraft α :=
  { d with mappings := presentMappings absent d.mappings }

/-- Calls leave the same columns whether the absent ones are taken out behind them or never made. -/
theorem foldl_withoutAbsent (absent : α → Bool) (calls : List (InsertCall α)) (d : InsertDraft α) :
    (calls.foldl apply d).withoutAbsent absent =
      (calls.filter fun call => !call.isAbsent absent).foldl apply (d.withoutAbsent absent) := by
  induction calls generalizing d with
  | nil => rfl
  | cons call rest ih =>
      rw [List.foldl_cons, ih]
      cases call with
      | configure calls => rfl
      | set column value =>
          cases ha : absent value with
          | true =>
              rw [List.filter_cons_of_neg (by simp [InsertCall.isAbsent, ha])]
              congr 1
              rw [withoutAbsent, apply, presentMappings_append, presentMappings_cons_of_absent ha]
              exact congrArg (InsertDraft.mk · d.config) (List.append_nil _)
          | false =>
              rw [List.filter_cons_of_pos (by simp [InsertCall.isAbsent, ha]), List.foldl_cons]
              congr 1
              rw [withoutAbsent, apply, presentMappings_append, presentMappings_cons_of_present ha]
              rfl

theorem build_withoutAbsent {absent : α → Bool} {calls : List (InsertCall α)} {d : InsertDraft α}
    (h : build calls = .ok d) (hp : ∃ mapping ∈ d.mappings, absent mapping.value = false) :
    build (calls.filter fun call => !call.isAbsent absent) = .ok (d.withoutAbsent absent) := by
  have hrun := foldl_withoutAbsent absent calls ⟨[], {}⟩
  obtain ⟨_, -, hd⟩ := exists_of_bind_ok h
  cases hd
  have hne := presentMappings_ne_nil hp
  have hstart : (⟨[], {}⟩ : InsertDraft α).withoutAbsent absent = ⟨[], {}⟩ := rfl
  rw [hstart] at hrun
  rw [build, ← hrun, withoutAbsent, requireItem_of_ne_nil hne]
  rfl

end InsertDraft

/-- The calls without the absent ones compose the insert without the absent mappings. -/
theorem Insert.build_withoutAbsent {table : String} {calls : List (InsertCall InsertValue)}
    {i : Insert} (h : build table calls = .ok i)
    (hp : ∃ mapping ∈ i.mappings, mapping.value.isAbsent = false) :
    build table (calls.filter fun call => !call.isAbsent InsertValue.isAbsent) =
      .ok i.withoutAbsent := by
  obtain ⟨d, hd, hi⟩ := exists_of_bind_ok h
  cases hi
  rw [build, InsertDraft.build_withoutAbsent hd hp]
  rfl

/-- The same for a record. -/
theorem RecordInsert.build_withoutAbsent {record : Except String Json} {table : String}
    {calls : List (InsertCall RecordValue)} {i : RecordInsert}
    (h : build record table calls = .ok i)
    (hp : ∃ mapping ∈ i.mappings, mapping.value.isAbsentIn i.record = false) :
    build record table (calls.filter fun call => !call.isAbsent (RecordValue.isAbsentIn i.record)) =
      .ok i.withoutAbsent := by
  obtain ⟨d, hd, h⟩ := exists_of_bind_ok h
  obtain ⟨json, hjson, hi⟩ := exists_of_bind_ok h
  cases hi
  cases hb : InsertDraft.build calls with
  | error cause =>
      rw [hb] at hd
      cases hd
  | ok draft =>
      rw [hb] at hd
      cases hd
      rw [build, InsertDraft.build_withoutAbsent hb hp, hjson]
      rfl

/-! ## The result -/

/-- A statement behaves as if its absent mappings were not there: when one is present, it is
    rendered or refused as what is left without them, and a rendered statement shows this; when none
    is, it is refused. -/
structure Statement.IgnoresAbsent {α : Type} (s left : Statement) (absent : α → Bool)
    (mappings : List (Assignment α)) (Shows : Strategy → Rendered → Prop) (cause : InvalidSql) :
    Prop where
  same : (∃ mapping ∈ mappings, absent mapping.value = false) →
    ∀ strategy, s.rendered strategy = left.rendered strategy
  shows : (∃ mapping ∈ mappings, absent mapping.value = false) →
    ∀ strategy r, s.rendered strategy = .ok r → Shows strategy r
  refused : (∀ mapping ∈ mappings, absent mapping.value = true) →
    ∀ strategy, s.rendered strategy = .error (.invalidSql cause)

/-- A statement with the text of what is left of it, which shows its mappings. -/
theorem Statement.IgnoresAbsent.of_text {α : Type} {s left : Statement} {absent : α → Bool}
    {mappings : List (Assignment α)} {Shows : Strategy → Rendered → Prop} {cause : InvalidSql}
    (htext : left.text = s.text) (hverb : left.verb = s.verb)
    (hshows : ∀ strategy r, left.rendered strategy = .ok r → Shows strategy r)
    (hrefused : (∀ mapping ∈ mappings, absent mapping.value = true) →
      ∀ strategy, s.rendered strategy = .error (.invalidSql cause)) :
    s.IgnoresAbsent left absent mappings Shows cause := by
  have hsame : ∀ strategy, s.rendered strategy = left.rendered strategy := by
    intro strategy
    rw [rendered, rendered, htext, hverb]
  refine ⟨fun _ => hsame, fun _ strategy r hr => ?_, hrefused⟩
  exact hshows strategy r ((hsame strategy).symm.trans hr)

theorem Update.ignoresAbsent (u : Update) :
    (Statement.update u).IgnoresAbsent (.update u.withoutAbsent) SetValue.isAbsent u.sets
      u.withoutAbsent.ShowsSets .updateWithoutValues := by
  refine .of_text u.render_withoutAbsent rfl (fun strategy r hr => ?_) rendered_of_absent
  exact showsSets_of_rendered (fun _ hm => absent_of_mem_presentMappings hm) hr

theorem Insert.ignoresAbsent (i : Insert) :
    (Statement.insert i).IgnoresAbsent (.insert i.withoutAbsent) InsertValue.isAbsent i.mappings
      (ShowsRow insertValue i.config i.table i.withoutAbsent.mappings) .insertWithoutValues := by
  refine .of_text i.render_withoutAbsent rfl (fun strategy r hr => ?_) rendered_of_absent
  exact showsRow_of_rendered (fun _ hm => absent_of_mem_presentMappings hm) hr

/-- Inserts of a record ignore mappings that are absent in it. -/
theorem RecordInsert.ignoresAbsent (i : RecordInsert) :
    (Statement.insertRecord i).IgnoresAbsent (.insertRecord i.withoutAbsent)
      (RecordValue.isAbsentIn i.record) i.mappings
      (ShowsRow (recordValue i.record) i.config i.table i.withoutAbsent.mappings)
      .insertWithoutValues := by
  refine .of_text i.render_withoutAbsent rfl (fun strategy r hr => ?_) rendered_of_absent
  exact showsRow_of_rendered (fun _ hm => absent_of_mem_presentMappings hm) hr

/-- **Absent values behave as if their calls had never been made.**  Updates, inserts and inserts of
    a record are rendered as without their absent mappings, and show the columns that are left with
    their values, in their order; with absent mappings only they are refused, whatever the rest of
    the statement is.  And what is left is what the calls compose that are not absent. -/
theorem absent_values_are_left_out :
    (∀ u : Update,
      (Statement.update u).IgnoresAbsent (.update u.withoutAbsent) SetValue.isAbsent u.sets
        u.withoutAbsent.ShowsSets .updateWithoutValues) ∧
    (∀ i : Insert,
      (Statement.insert i).IgnoresAbsent (.insert i.withoutAbsent) InsertValue.isAbsent i.mappings
        (ShowsRow insertValue i.config i.table i.withoutAbsent.mappings) .insertWithoutValues) ∧
    (∀ i : RecordInsert,
      (Statement.insertRecord i).IgnoresAbsent (.insertRecord i.withoutAbsent)
        (RecordValue.isAbsentIn i.record) i.mappings
        (ShowsRow (recordValue i.record) i.config i.table i.withoutAbsent.mappings)
        .insertWithoutValues) ∧
    (∀ (table : String) (aliasName : Option String) (calls : List UpdateCall) (u : Update),
      Update.build table aliasName calls = .ok u →
      (∃ set ∈ u.sets, set.value.isAbsent = false) →
      Update.build table aliasName (calls.filter fun call => !call.isAbsent) =
        .ok u.withoutAbsent) ∧
    (∀ (table : String) (calls : List (InsertCall InsertValue)) (i : Insert),
      Insert.build table calls = .ok i →
      (∃ mapping ∈ i.mappings, mapping.value.isAbsent = false) →
      Insert.build table (calls.filter fun call => !call.isAbsent InsertValue.isAbsent) =
        .ok i.withoutAbsent) ∧
    (∀ (record : Except String Json) (table : String) (calls : List (InsertCall RecordValue))
      (i : RecordInsert),
      RecordInsert.build record table calls = .ok i →
      (∃ mapping ∈ i.mappings, mapping.value.isAbsentIn i.record = false) →
      RecordInsert.build record table
          (calls.filter fun call => !call.isAbsent (RecordValue.isAbsentIn i.record)) =
        .ok i.withoutAbsent) := by
  refine ⟨Update.ignoresAbsent, Insert.ignoresAbsent, RecordInsert.ignoresAbsent, ?_, ?_, ?_⟩
  · intro table aliasName calls u hbuild hpresent
    exact Update.build_withoutAbsent hbuild hpresent
  · intro table calls i hbuild hpresent
    exact Insert.build_withoutAbsent hbuild hpresent
  · intro record table calls i hbuild hpresent
    exact RecordInsert.build_withoutAbsent hbuild hpresent

/-- Between two values an absent one is left out, and takes no number. -/
theorem absent_values_are_left_out_update :
    let column (name : String) : Column := .ofTable "Person" name
    let calls : List UpdateCall :=
      [.set (column "name") (.bound (some (.int 1))), .set (column "note") (.bound none),
        .set (column "age") (.bound (some (.int 2)))]
    ∃ u, Update.build "Person" none calls = .ok u ∧
      Update.build "Person" none
          [.set (column "name") (.bound (some (.int 1))),
            .set (column "age") (.bound (some (.int 2)))] = .ok u.withoutAbsent ∧
      (Statement.update u).rendered .postgres =
        (Statement.update u.withoutAbsent).rendered .postgres ∧
      ((Statement.update u).rendered .postgres).toOption.map (·.sql) =
        some "update Person set name = $1, age = $2" := by
  intro column calls
  have hp : ∃ set ∈ [(⟨column "name", .bound (some (.int 1))⟩ : Assignment SetValue),
      ⟨column "note", .bound none⟩, ⟨column "age", .bound (some (.int 2))⟩],
      set.value.isAbsent = false :=
    ⟨_, List.mem_cons_self, rfl⟩
  obtain ⟨hupdate, -, -, hbuild, -, -⟩ := absent_values_are_left_out
  exact ⟨_, rfl, hbuild "Person" none calls _ rfl hp, (hupdate _).same hp .postgres,
    by decide +kernel⟩

end SqlComposer
