import SqlComposer.Proofs.Numbering

/-! # Render events

    A pass is told when it is over, with the strategy, the number of parameters and the number of
    bytes of the text.

    * Passes over queries inside of a statement tell nothing: events are left by the statement as a
      whole, and only behind a pass that has succeeded (`rendering_tells_one_event`).
    * The parameters of a statement are as many as the places of its pattern, under every strategy
      (`Fragment.size_rendered`), so the event of a statement counts the placeholders of its text.
    * A batch has one pattern too, and each of its records has a parameter for each place
      (`RecordsInsert.renderedBatch_of_fragments`).  Its event counts the records, though, which is
      another number unless there are as many records as places. -/

namespace SqlComposer

/-- An event that tells of a rendered text: its kind of statement and strategy, a number of
    parameters, and how many bytes it has. -/
structure Event.Tells (event : Event) (kind : String) (strategy : Strategy) (sql : String)
    (parameters : Nat) : Prop where
  target : event.target = "sqldsl.render"
  fields : event.fields =
    [("kind", .text kind), ("strategy", .text strategy.name),
      ("param_count", .number parameters), ("sql_len", .number (utf8 sql).length)]

/-- An event tells the number of parameters that it has, and no other one. -/
theorem Event.tells_rendered_iff {kind : String} {strategy : Strategy} {sql : String}
    {count parameters : Nat} :
    (Event.rendered kind strategy count sql.utf8ByteSize).Tells kind strategy sql parameters ↔
      parameters = count := by
  constructor
  · intro h
    have hfields := h.fields
    simp only [Event.fields, List.cons.injEq, Prod.mk.injEq, EventField.number.injEq] at hfields
    exact hfields.2.2.1.2.symm
  · rintro rfl
    exact ⟨rfl, rfl⟩

/-- What is computed first and told then: a failure leaves the events that are there, a success
    adds one. -/
theorem Traced.run_told {α : Type} (x : Except Error α) (event : α → Event)
    (before : List Event) :
    (do let a ← liftM x
        emit (event a)
        return a : Traced α).run.run before =
      match x with
      | .error e => (.error e, before)
      | .ok a => (.ok a, before ++ [event a]) := by
  cases x with
  | error e => rfl
  | ok a => rfl

/-! ## How many parameters there are -/

/-- A fragment as a whole statement has a parameter for each place of its pattern. -/
theorem Fragment.size_rendered (f : Fragment) (verb : Verb) (strategy : Strategy) :
    (f.rendered verb strategy).parameters.size = f.pattern.places.length := by
  rw [ParameterMap.size, f.rendered_entries, strategy.length_keyed, f.length_values]

namespace RecordsInsert

/-- The records of a batch denote fragments of one pattern, one for each record. -/
theorem pattern_of_fragments {i : RecordsInsert} {fs : List Fragment}
    (h : i.records.mapM i.recordFragment = .ok fs) :
    fs.length = i.records.length ∧ ∀ f ∈ fs, f.pattern = i.shape.pattern := by
  have hshapes := map_shape h
  constructor
  · simpa using congrArg List.length hshapes
  · intro f hf
    have hmem : f.shape ∈ fs.map Fragment.shape := List.mem_map_of_mem hf
    rw [hshapes] at hmem
    obtain ⟨record, -, hshape⟩ := List.mem_map.mp hmem
    rw [← f.pattern_shape, hshape]

/-- A batch whose records denote fragments has the text of their pattern, and as many parameters
    for each record as there are places in it. -/
theorem renderedBatch_of_fragments {i : RecordsInsert} {fs : List Fragment}
    (h : i.records.mapM i.recordFragment = .ok fs) (strategy : Strategy) :
    ∃ b, i.renderedBatch strategy = .ok b ∧ b.sql = i.shape.pattern.sql strategy ∧
      b.records.length = i.records.length ∧
      ∀ parameters ∈ b.records, parameters.size = i.shape.pattern.places.length := by
  obtain ⟨hlength, hpattern⟩ := pattern_of_fragments h
  refine ⟨_, by rw [i.renderedBatch_eq, h]; rfl, ?_, ?_, ?_⟩
  · cases fs with
    -- there is a record, so the text is that of the first one
    | nil => exact absurd (List.length_eq_zero_iff.mp hlength.symm) i.records_ne_nil
    | cons f rest =>
        show (f.rendered .insert strategy).sql = _
        rw [f.rendered_sql, hpattern f (List.mem_cons_self ..)]
  · rw [List.length_map, List.length_map, hlength]
  · intro parameters hp
    obtain ⟨r, hr, rfl⟩ := List.mem_map.mp hp
    obtain ⟨f, hf, rfl⟩ := List.mem_map.mp hr
    rw [f.size_rendered, hpattern f hf]

end RecordsInsert

/-! ## One event for each statement -/

/-- **Rendering tells one event, and none when it fails.**  Whatever was told before, a statement
    fails under all strategies and leaves the events as they were, or it adds one event, which tells
    the strategy, the bytes of the text and as many parameters as the text has placeholders.  The
    same holds of a batch, except that the event tells the number of its records: that is the number
    of its placeholders, and of the parameters of each record, exactly when the two are equal. -/
theorem rendering_tells_one_event (before : List Event) :
    (∀ s : Statement,
      (∃ e, ∀ strategy, (s.render strategy).run.run before = (.error e, before)) ∨
      ∃ pattern : Pattern, ∀ strategy, ∃ r event,
        (s.render strategy).run.run before = (.ok r, before ++ [event]) ∧
        r.sql = pattern.sql strategy ∧ r.parameters.size = pattern.places.length ∧
        event.Tells s.kind strategy r.sql pattern.places.length) ∧
    (∀ i : RecordsInsert,
      (∃ e, ∀ strategy, (i.renderBatch strategy).run.run before = (.error e, before)) ∨
      ∃ pattern : Pattern, ∀ strategy, ∃ b event,
        (i.renderBatch strategy).run.run before = (.ok b, before ++ [event]) ∧
        b.sql = pattern.sql strategy ∧
        (∀ parameters ∈ b.records, parameters.size = pattern.places.length) ∧
        event.Tells "insert_batch" strategy b.sql i.records.length ∧
        (event.Tells "insert_batch" strategy b.sql pattern.places.length ↔
          pattern.places.length = i.records.length)) := by
  constructor
  · intro s
    cases hf : s.fragment [] with
    | error e =>
        refine .inl ⟨e, fun strategy => ?_⟩
        have hr : s.rendered strategy = .error e := by
          rw [s.rendered_eq, hf]
          rfl
        rw [Statement.render, Traced.run_told, hr]
    | ok f =>
        refine .inr ⟨f.pattern, fun strategy => ?_⟩
        let r := f.rendered s.verb strategy
        have hr : s.rendered strategy = .ok r := by
          rw [s.rendered_eq, hf]
          rfl
        refine ⟨r, .rendered s.kind strategy r.parameters.size r.sql.utf8ByteSize, ?_,
          f.rendered_sql _ _, f.size_rendered _ _, ?_⟩
        · rw [Statement.render, Traced.run_told, hr]
        · exact Event.tells_rendered_iff.mpr (f.size_rendered s.verb strategy).symm
  · intro i
    cases hf : i.records.mapM i.recordFragment with
    | error e =>
        refine .inl ⟨e, fun strategy => ?_⟩
        have hb : i.renderedBatch strategy = .error e := by
          rw [i.renderedBatch_eq, hf]
          rfl
        rw [RecordsInsert.renderBatch, Traced.run_told, hb]
    | ok fs =>
        refine .inr ⟨i.shape.pattern, fun strategy => ?_⟩
        obtain ⟨b, hb, hsql, hrecords, hsize⟩ := i.renderedBatch_of_fragments hf strategy
        refine ⟨b, .rendered "insert_batch" strategy b.records.length b.sql.utf8ByteSize, ?_,
          hsql, hsize, ?_, ?_⟩
        · rw [RecordsInsert.renderBatch, Traced.run_told, hb]
        · rw [Event.tells_rendered_iff, hrecords]
        · rw [Event.tells_rendered_iff, hrecords]

/-- Two records with one column. -/
def twoIds : RecordsInsert :=
  ⟨"Person", [.object [("id", .bool true)], .object [("id", .bool false)]],
    [⟨.ofTable "Person" "id", .property "id"⟩], {}, List.cons_ne_nil _ _,
    by simp [RecordValue.isOptional]⟩

/-- The event of a batch with one placeholder and two records tells two parameters. -/
theorem batch_event_counts_records :
    ∃ b event, (twoIds.renderBatch .postgres).outcome = (.ok b, [event]) ∧
      b.sql = "insert into Person (id) values ($1)" ∧
      (∀ parameters ∈ b.records, parameters.size = 1) ∧
      event.Tells "insert_batch" .postgres b.sql 2 ∧
      ¬ event.Tells "insert_batch" .postgres b.sql 1 := by
  refine ⟨_, _, rfl, rfl, ?_, ?_, ?_⟩
  · decide
  · exact Event.tells_rendered_iff.mpr rfl
  · rw [Event.tells_rendered_iff]
    decide

end SqlComposer
