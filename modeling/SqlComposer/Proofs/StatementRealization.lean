import SqlComposer.Proofs.QueryRealization
import SqlComposer.Proofs.StatementFragment
import SqlComposer.Render.Rendered

/-! # Render passes over statements write what the statements denote

    The step from queries to whole statements.  Inserts collect columns and values in two lists; the
    values of a record are as many as its columns (`recordFragments_length`), so the lists stay
    aligned when absent values drop out of both. -/

namespace SqlComposer

open Rendering
open Fragment (write_append write_ofText write_parenthesized writeAll writeOption)

namespace Fragment

/-- The texts of values of which some are absent. -/
def writeOptions : List (Option Fragment) → Context → List (Option String) × Context
  | [], c => ([], c)
  | f :: rest, c =>
    ((writeOption f c).1 :: (writeOptions rest (writeOption f c).2).1,
      (writeOptions rest (writeOption f c).2).2)

/-- The values that are present are written in their order. -/
theorem writeAll_filterMap_id (fs : List (Option Fragment)) (c : Context) :
    writeAll (fs.filterMap id) c =
      ((writeOptions fs c).1.filterMap id, (writeOptions fs c).2) := by
  induction fs generalizing c with
  | nil => rfl
  | cons f rest ih =>
      cases f with
      | none => exact ih c
      | some f =>
          show writeAll (f :: rest.filterMap id) c = _
          rw [writeAll_cons, ih]
          rfl

/-- The columns of the values that are present are the same before and after writing. -/
theorem map_fst_present {α : Type} (mappings : List (Assignment α)) (fs : List (Option Fragment))
    (c : Context) :
    (presentValues mappings (writeOptions fs c).1).map (·.1) =
      (presentFragments mappings fs).map (·.1) := by
  induction fs generalizing mappings c with
  | nil =>
      cases mappings with
      | nil => rfl
      | cons m others => rfl
  | cons f rest ih =>
      cases mappings with
      | nil => rfl
      | cons m others =>
          cases f with
          | none => exact ih others c
          | some f => exact congrArg (m.column.name :: ·) (ih others (f.write c).2)

/-- The values that are present, written: as many columns as values keep them aligned. -/
theorem writeAll_present {α : Type} (mappings : List (Assignment α)) (fs : List (Option Fragment))
    (c : Context) (hl : fs.length = mappings.length) :
    writeAll ((presentFragments mappings fs).map (·.2)) c =
      ((presentValues mappings (writeOptions fs c).1).map (·.2), (writeOptions fs c).2) := by
  induction fs generalizing mappings c with
  | nil =>
      cases mappings with
      | nil => rfl
      | cons m others => exact absurd hl (by simp)
  | cons f rest ih =>
      cases mappings with
      | nil => exact absurd hl (by simp)
      | cons m others =>
          have hl' : rest.length = others.length := by simpa using hl
          cases f with
          | none => exact ih others c hl'
          | some f =>
              have hr := ih others (f.write c).2 hl'
              show writeAll (f :: (presentFragments others rest).map (·.2)) c = _
              rw [writeAll_cons, hr]
              rfl

end Fragment

open Fragment (writeOptions)

/-! ## Updates and deletes -/

/-- The pass over a set writes the value, or nothing when it is absent. -/
theorem setValue_yields (set : Assignment SetValue) {c : Context} {scopes : List Scope}
    (hs : c.scopes = scopes) :
    Yields ((setValue set).outcome c) (setFragment? set scopes) fun r => writeOption r c := by
  subst hs
  obtain ⟨column, value⟩ := set
  match value with
  | .bound none => exact Yields.pure rfl
  | .bound (some value) =>
      refine Yields.of_eq ?_
      simp only [writeOption, Fragment.write_ofValue]
      rfl
  | .null => exact Yields.of_eq (by simp only [writeOption, write_ofText]; rfl)
  | .constant s => exact Yields.of_eq (by simp only [writeOption, write_ofText]; rfl)
  | .stringConstant s => exact Yields.of_eq (by simp only [writeOption, write_ofText]; rfl)
  | .expr e =>
      refine Yields.bind (e.render_yields rfl) fun f => ?_
      exact Yields.pure rfl
  | .subquery query =>
      refine Yields.bind (query.render_yields rfl) fun f => ?_
      refine Yields.pure ?_
      rw [writeOption, write_parenthesized]

/-- The pass over the sets of an update writes those that have a value. -/
theorem setValues_yields (sets : List (Assignment SetValue)) {c : Context} {scopes : List Scope}
    (hs : c.scopes = scopes) :
    Yields ((setValues sets).outcome c) (setFragments sets scopes) fun fs => writeAll fs c := by
  subst hs
  induction sets generalizing c with
  | nil => exact Yields.pure rfl
  | cons set rest ih =>
      refine Yields.bind (setValue_yields set rfl) fun value => ?_
      have hr := ih (c := (writeOption value c).2)
      rw [Fragment.writeOption_scopes] at hr
      refine Yields.bind hr fun others => ?_
      refine Yields.pure ?_
      cases value with
      | none => rfl
      | some f =>
          show _ = writeAll ((Fragment.ofText (set.column.name ++ " = ") ++ f) :: others) c
          rw [Fragment.writeAll_cons, write_append, write_ofText]
          rfl

/-- The pass over the where clause of an update or a delete writes it. -/
theorem filterClause_yields (config : Config) (filter : Option CriteriaGroup) {c : Context}
    {scopes : List Scope} (hs : c.scopes = scopes) :
    Yields ((filterClause config filter).outcome c) (filterFragment config filter scopes)
      fun f => f.write c := by
  subst hs
  refine Yields.bind (CriteriaGroup.renderClause_yields filter rfl) fun parts => ?_
  exact Fragment.whereClause_yields config parts c

/-- Both ask in the same way whether anything is set. -/
theorem requireSets_yields (sets : List Fragment) (c : Context) :
    Yields ((requireSets (writeAll sets c).1).outcome (writeAll sets c).2)
      (Fragment.requireSets sets) fun _ => ((), (writeAll sets c).2) := by
  cases sets with
  | nil => exact rfl
  | cons f rest => exact Yields.pure rfl

/-- The pass over an update writes what it denotes, inside the scope of its table. -/
theorem Update.render_yields (u : Update) {c : Context} {scopes : List Scope}
    (hs : c.scopes = scopes) :
    Yields (u.render.outcome c) (u.fragment scopes) fun f => f.write c := by
  subst hs
  refine Yields.withScope ?_
  refine Yields.bind (setValues_yields u.sets rfl) fun sets => ?_
  refine Yields.bind (requireSets_yields sets _) fun _ => ?_
  refine Yields.bind (filterClause_yields u.config u.filter (by simp)) fun filter => ?_
  refine Yields.of_outcome (countClause_outcome _ _ _ _) ?_
  refine Yields.pure ?_
  rw [Config.write_wrapped, Fragment.write_spaced]
  simp only [Fragment.writeAll_cons, Fragment.writeAll_nil, write_ofText,
    Fragment.write_listClause]

/-- The pass over a delete writes what it denotes, inside the scope of its table. -/
theorem Delete.render_yields (d : Delete) {c : Context} {scopes : List Scope}
    (hs : c.scopes = scopes) :
    Yields (d.render.outcome c) (d.fragment scopes) fun f => f.write c := by
  subst hs
  refine Yields.withScope ?_
  refine Yields.bind (filterClause_yields d.config d.filter rfl) fun filter => ?_
  refine Yields.of_outcome (countClause_outcome _ _ _ _) ?_
  refine Yields.pure ?_
  rw [Config.write_wrapped, Fragment.write_spaced]
  simp only [Fragment.writeAll_cons, Fragment.writeAll_nil, write_ofText]

/-! ## Inserts -/

/-- The texts around the rows of an insert bind nothing. -/
theorem write_insertFragment (config : Config) (table : String) (columns : List String)
    (tail : Fragment) (c : Context) :
    (insertFragment config table columns tail).write c =
      (insertText config table columns (tail.write c).1, (tail.write c).2) := by
  rw [insertFragment, Config.write_wrapped, Fragment.write_spaced]
  simp only [Fragment.writeAll_cons, Fragment.writeAll_nil, write_ofText]
  rfl

theorem write_rowFragment (fs : List Fragment) (c : Context) :
    (rowFragment fs).write c = (rowText (writeAll fs c).1, (writeAll fs c).2) := by
  rw [rowFragment, write_parenthesized, Fragment.write_listed]
  rfl

/-- An insert of one row, from values that are aligned with the columns. -/
theorem singleRowInsert_yields {α : Type} (config : Config) (table : String)
    (mappings : List (Assignment α)) (fs : List (Option Fragment)) (c : Context)
    (hl : fs.length = mappings.length) :
    Yields ((singleRowInsert config table (presentValues mappings (writeOptions fs c).1)).outcome
        (writeOptions fs c).2)
      (singleRowFragment config table (presentFragments mappings fs)) fun f => f.write c := by
  have hn := Fragment.map_fst_present mappings fs c
  have hw := Fragment.writeAll_present mappings fs c hl
  cases hp : presentFragments mappings fs with
  | nil =>
      rw [hp] at hn
      have hv : presentValues mappings (writeOptions fs c).1 = [] := by simpa using hn
      rw [hv]
      exact rfl
  | cons value rest =>
      rw [hp] at hn hw
      have hv : (presentValues mappings (writeOptions fs c).1).isEmpty = false := by
        cases hq : presentValues mappings (writeOptions fs c).1 with
        | nil => rw [hq] at hn; simp at hn
        | cons _ _ => rfl
      rw [singleRowInsert, hv, singleRowFragment]
      refine Yields.pure ?_
      rw [write_insertFragment, write_append, write_ofText, write_rowFragment, hw, hn]

/-- The values of an insert are bound without fail. -/
theorem insertValues_outcome (mappings : List (Assignment InsertValue)) (c : Context) :
    (insertValues mappings).outcome c =
      (.ok (writeOptions (mappings.map insertFragment?) c).1,
        (writeOptions (mappings.map insertFragment?) c).2) := by
  induction mappings generalizing c with
  | nil => rfl
  | cons mapping rest ih =>
      have hm : (insertValue mapping).outcome c
          = (.ok (writeOption (insertFragment? mapping) c).1,
            (writeOption (insertFragment? mapping) c).2) := by
        obtain ⟨column, value⟩ := mapping
        match value with
        | .bound none => rfl
        | .bound (some value) =>
            simp only [insertFragment?, writeOption, Fragment.write_ofValue]
            rfl
        | .null => simp only [insertFragment?, writeOption, write_ofText]; rfl
        | .constant s => simp only [insertFragment?, writeOption, write_ofText]; rfl
        | .stringConstant s => simp only [insertFragment?, writeOption, write_ofText]; rfl
      rw [insertValues, outcome_bind_ok hm, outcome_bind_ok (ih _)]
      rfl

theorem Insert.render_yields (i : Insert) (c : Context) :
    Yields (i.render.outcome c) i.fragment fun f => f.write c := by
  refine Yields.of_outcome (insertValues_outcome i.mappings c) ?_
  exact singleRowInsert_yields i.config i.table i.mappings _ c (List.length_map ..)

/-- A property is bound as the value that its JSON stands for. -/
theorem bindProperty_outcome (property : Json) (type : Option JdbcType) (c : Context) :
    (bindProperty property type).outcome c =
      (.ok (writeOption (some (Fragment.ofValue (Value.ofJson property) type)) c).1,
        (writeOption (some (Fragment.ofValue (Value.ofJson property) type)) c).2) := by
  rw [writeOption, Fragment.write_ofValue]
  rfl

/-- The pass over a mapping looks the property up in the record, and writes it if it is to be
    written. -/
theorem recordValue_yields (record : Json) (mapping : Assignment RecordValue) (c : Context) :
    Yields ((recordValue record mapping).outcome c) (recordFragment? record mapping)
      fun r => writeOption r c := by
  obtain ⟨column, value⟩ := mapping
  cases value with
  | property path =>
      cases hp : record.property? path with
      | none =>
          simp only [recordValue, recordFragment?, hp]
          exact rfl
      | some property =>
          simp only [recordValue, recordFragment?, hp]
          exact bindProperty_outcome property column.jdbcType c
  | propertyWhenPresent path =>
      cases hp : record.property? path with
      | none =>
          simp only [recordValue, recordFragment?, hp]
          exact Yields.pure rfl
      | some property =>
          simp only [recordValue, recordFragment?, hp]
          by_cases hn : property.isNull = true
          · rw [if_pos hn, if_pos hn]
            exact Yields.pure rfl
          · rw [if_neg hn, if_neg hn]
            exact bindProperty_outcome property column.jdbcType c
  | row => exact bindProperty_outcome record column.jdbcType c
  | null => exact Yields.of_eq (by simp only [writeOption, write_ofText]; rfl)
  | constant s => exact Yields.of_eq (by simp only [writeOption, write_ofText]; rfl)
  | stringConstant s => exact Yields.of_eq (by simp only [writeOption, write_ofText]; rfl)

/-- The pass over all mappings writes the values of the record in their order. -/
theorem recordValues_yields (record : Json) (mappings : List (Assignment RecordValue))
    (c : Context) :
    Yields ((recordValues record mappings).outcome c) (recordFragments record mappings)
      fun fs => writeOptions fs c := by
  induction mappings generalizing c with
  | nil => exact Yields.pure rfl
  | cons mapping rest ih =>
      -- columns are bound in their order, one after the other
      refine Yields.bind (recordValue_yields record mapping c) fun value => ?_
      refine Yields.bind (ih _) fun others => ?_
      exact Yields.pure rfl

/-- A record gives one value, present or absent, for each column. -/
theorem recordFragments_length {record : Json} {mappings : List (Assignment RecordValue)}
    {fs : List (Option Fragment)} (h : recordFragments record mappings = .ok fs) :
    fs.length = mappings.length := by
  induction mappings generalizing fs with
  | nil => cases h; rfl
  | cons mapping rest ih =>
      obtain ⟨value, -, h⟩ := exists_of_bind_ok h
      obtain ⟨others, ho, hr⟩ := exists_of_bind_ok h
      cases hr
      rw [List.length_cons, List.length_cons, ih ho]

theorem RecordInsert.render_yields (i : RecordInsert) (c : Context) :
    Yields (i.render.outcome c) i.fragment fun f => f.write c := by
  refine Yields.bind_ok (recordValues_yields i.record i.mappings c) fun values hv => ?_
  exact singleRowInsert_yields i.config i.table i.mappings values c (recordFragments_length hv)

namespace RecordsInsert

theorem row_yields (i : RecordsInsert) (record : Json) (c : Context) :
    Yields ((i.row record).outcome c) (i.rowOf record) fun f => f.write c := by
  refine Yields.bind (recordValues_yields record i.mappings c) fun values => ?_
  refine Yields.pure ?_
  rw [write_rowFragment, Fragment.writeAll_filterMap_id]

/-- The pass over records writes a row for each of them. -/
theorem rows_yields (i : RecordsInsert) (records : List Json) (c : Context) :
    Yields ((i.rows records).outcome c) (i.rowsOf records) fun fs => writeAll fs c := by
  induction records generalizing c with
  | nil => exact Yields.pure rfl
  | cons record rest ih =>
      refine Yields.bind (i.row_yields record c) fun f => ?_
      refine Yields.bind (ih _) fun fs => ?_
      exact Yields.pure rfl

theorem render_yields (i : RecordsInsert) (c : Context) :
    Yields (i.render.outcome c) i.fragment fun f => f.write c := by
  refine Yields.bind (i.rows_yields i.records c) fun rows => ?_
  refine Yields.pure ?_
  rw [write_insertFragment, write_append, write_ofText, Fragment.write_listed]

theorem renderRecord_yields (i : RecordsInsert) (record : Json) (c : Context) :
    Yields ((i.renderRecord record).outcome c) (i.recordFragment record) fun f => f.write c := by
  refine Yields.bind (i.row_yields record c) fun row => ?_
  refine Yields.pure ?_
  rw [write_insertFragment, write_append, write_ofText]

end RecordsInsert

/-- The pass over an insert from a select writes what it denotes. -/
theorem InsertSelect.render_yields (i : InsertSelect) {c : Context} {scopes : List Scope}
    (hs : c.scopes = scopes) :
    Yields (i.render.outcome c) (i.fragment scopes) fun f => f.write c := by
  refine Yields.bind (i.select.render_yields hs) fun f => ?_
  refine Yields.pure ?_
  rw [Config.write_wrapped, Fragment.write_spaced]
  simp only [Fragment.writeAll_cons, Fragment.writeAll_nil, write_ofText]

/-! ## Unions of selects, and all statements -/

namespace MultiSelect

/-- The pass over the selects behind unions writes each in its parentheses. -/
theorem renderUnions_yields (unions : List (UnionKind × Select)) {c : Context}
    {scopes : List Scope} (hs : c.scopes = scopes) :
    Yields ((renderUnions unions).outcome c) (unionFragments unions scopes)
      fun fs => writeAll fs c := by
  subst hs
  induction unions generalizing c with
  | nil => exact Yields.pure rfl
  | cons union rest ih =>
      obtain ⟨kind, select⟩ := union
      refine Yields.bind (select.render_yields rfl) fun f => ?_
      -- a select leaves the scopes as it found them, so the others start in the same ones
      have hr := ih (c := (f.write c).2)
      rw [Fragment.write_scopes] at hr
      refine Yields.bind hr fun fs => ?_
      refine Yields.pure ?_
      rw [Fragment.writeAll_cons, Fragment.writeAll_cons, write_ofText, write_parenthesized]

/-- The pass over a union of selects writes what it denotes. -/
theorem render_yields (m : MultiSelect) {c : Context} {scopes : List Scope}
    (hs : c.scopes = scopes) :
    Yields (m.render.outcome c) (m.fragment scopes) fun f => f.write c := by
  subst hs
  refine Yields.bind (m.first.render_yields rfl) fun first => ?_
  refine Yields.bind (renderUnions_yields m.unions (Fragment.write_scopes first c))
    fun others => ?_
  refine Yields.of_outcome (m.paging.render_outcome _) ?_
  refine Yields.pure ?_
  rw [Config.write_wrapped, Fragment.write_spaced, Fragment.writeAll_append]
  simp only [Fragment.writeAll_cons, Fragment.writeAll_nil, write_ofText, write_parenthesized]

end MultiSelect

/-- **Every pass over a statement writes what the statement denotes**, or fails as it does. -/
theorem Statement.text_yields (s : Statement) {c : Context} {scopes : List Scope}
    (hs : c.scopes = scopes) :
    Yields (s.text.outcome c) (s.fragment scopes) fun f => f.write c := by
  cases s with
  | select q => exact q.render_yields hs
  | multiSelect q => exact q.render_yields hs
  | update u => exact u.render_yields hs
  | delete d => exact d.render_yields hs
  | insert i => exact i.render_yields c
  | insertRecord i => exact i.render_yields c
  | insertRows i => exact i.render_yields c
  | insertSelect i => exact i.render_yields hs

/-! ## Whole passes -/

/-- A fragment written as a whole statement. -/
def Fragment.rendered (f : Fragment) (verb : Verb) (strategy : Strategy) : Rendered :=
  ⟨verb, (f.write (.initial strategy)).1, (f.write (.initial strategy)).2.parameters, strategy⟩

/-- A whole pass gives the fragment of its part, written as a whole statement. -/
theorem Yields.rendered {part : Rendering String} {strategy : Strategy}
    {result : Except Error Fragment} (verb : Verb)
    (h : Yields (part.outcome (.initial strategy)) result fun f => f.write (.initial strategy)) :
    part.rendered verb strategy = result.map fun f => f.rendered verb strategy := by
  cases result with
  | error e =>
      have he : part.outcome (.initial strategy)
          = (.error e, (part.outcome (.initial strategy)).2) := Prod.ext h rfl
      rw [Rendering.rendered, he]
      rfl
  | ok f =>
      have ho : part.outcome (.initial strategy)
          = (.ok (f.write (.initial strategy)).1, (f.write (.initial strategy)).2) := h
      rw [Rendering.rendered, ho]
      rfl

theorem Statement.rendered_eq (s : Statement) (strategy : Strategy) :
    s.rendered strategy = (s.fragment []).map fun f => f.rendered s.verb strategy :=
  Yields.rendered s.verb (s.text_yields rfl)

/-- What is rendered is a fragment. -/
theorem Statement.exists_fragment {s : Statement} {strategy : Strategy} {r : Rendered}
    (h : s.rendered strategy = .ok r) :
    ∃ f, s.fragment [] = .ok f ∧ r = f.rendered s.verb strategy := by
  rw [s.rendered_eq] at h
  cases hf : s.fragment [] with
  | error e =>
      rw [hf] at h
      cases h
  | ok f =>
      rw [hf] at h
      cases h
      exact ⟨f, rfl, rfl⟩

/-- Refusing some items or changing all of them comes to the same in either order. -/
theorem mapM_map_result {α β γ : Type} (k : α → Except Error β) (g : β → γ) (items : List α) :
    items.mapM (fun a => (k a).map g) = (items.mapM k).map (List.map g) := by
  induction items with
  | nil => rfl
  | cons a rest ih =>
      rw [List.mapM_cons, List.mapM_cons, ih]
      cases k a with
      | error e => rfl
      | ok b =>
          cases rest.mapM k with
          | error e => rfl
          | ok bs => rfl

/-- A batch gives the fragments of its records: the text of the first, the parameters of all. -/
theorem RecordsInsert.renderedBatch_eq (i : RecordsInsert) (strategy : Strategy) :
    i.renderedBatch strategy = (i.records.mapM i.recordFragment).map fun fs =>
      ⟨((fs.map fun f => f.rendered .insert strategy).head?.map (·.sql)).getD "",
        (fs.map fun f => f.rendered .insert strategy).map (·.parameters), strategy⟩ := by
  -- each record is a pass of its own, numbered from one
  have hr : (fun record => (i.renderRecord record).rendered .insert strategy)
      = fun record => (i.recordFragment record).map fun f => f.rendered .insert strategy := by
    funext record
    exact Yields.rendered .insert (i.renderRecord_yields record _)
  rw [RecordsInsert.renderedBatch, hr, mapM_map_result]
  cases i.records.mapM i.recordFragment with
  | error e => rfl
  | ok fs => rfl

end SqlComposer
