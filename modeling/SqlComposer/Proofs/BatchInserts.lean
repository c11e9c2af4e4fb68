import SqlComposer.Mapper
import SqlComposer.Proofs.Numbering

/-! # A batch insert is the list of its single inserts

    A batch renders its text once, from its first record, and hands it out with the parameters of
    every record.  A single insert takes another way: it pairs its columns with the values that are
    there and leaves out the columns that have none.  Where every column has a value, both ways
    denote the same fragment (`RecordsInsert.single_fragment`), and the fragments of all records
    have one shape, so one text serves them all. -/

namespace SqlComposer

/-! ## Lists of results -/

section Results

variable {α β : Type} {k : α → Except Error β}

/-- A list of results that are all there is the list of the results. -/
theorem mapM_eq_ok_iff {items : List α} {results : List β} :
    items.mapM k = .ok results ↔ items.map k = results.map .ok := by
  induction items generalizing results with
  | nil =>
      cases results with
      | nil => exact ⟨fun _ => rfl, fun _ => rfl⟩
      | cons b bs => constructor <;> intro h <;> cases h
  | cons a rest ih =>
      rw [List.mapM_cons, List.map_cons]
      constructor
      · intro h
        obtain ⟨b, hb, h⟩ := exists_of_bind_ok h
        obtain ⟨bs, hbs, hr⟩ := exists_of_bind_ok h
        cases hr
        rw [List.map_cons, hb, ih.mp hbs]
      · intro h
        cases results with
        | nil => cases h
        | cons b bs =>
            rw [List.map_cons, List.cons.injEq] at h
            obtain ⟨hb, hbs⟩ := h
            rw [hb, ih.mpr hbs]
            rfl

/-- There is a list of results exactly when all results are there. -/
theorem exists_mapM_eq_ok_iff {items : List α} :
    (∃ results, items.mapM k = .ok results) ↔ ∀ a ∈ items, ∃ b, k a = .ok b := by
  induction items with
  | nil =>
      refine ⟨fun _ a ha => absurd ha List.not_mem_nil, fun _ => ⟨[], rfl⟩⟩
  | cons a rest ih =>
      rw [List.mapM_cons, List.forall_mem_cons, ← ih]
      constructor
      · rintro ⟨results, h⟩
        obtain ⟨b, hb, h⟩ := exists_of_bind_ok h
        obtain ⟨bs, hbs, -⟩ := exists_of_bind_ok h
        exact ⟨⟨b, hb⟩, bs, hbs⟩
      · rintro ⟨⟨b, hb⟩, bs, hbs⟩
        refine ⟨b :: bs, ?_⟩
        rw [hb, hbs]
        rfl

/-- A list of results fails at its first item, or behind it. -/
theorem mapM_cons_eq_error_iff {a : α} {rest : List α} {e : Error} :
    (a :: rest).mapM k = .error e ↔
      k a = .error e ∨ (∃ b, k a = .ok b) ∧ rest.mapM k = .error e := by
  rw [List.mapM_cons]
  cases k a with
  | error e' => simp [bind, Except.bind]
  | ok b =>
      cases rest.mapM k with
      | error e' => simp [bind, Except.bind]
      | ok bs => simp [bind, Except.bind, pure, Except.pure]

/-- A list of results fails with the error of the first one that fails. -/
theorem mapM_eq_error_iff {items : List α} {e : Error} :
    items.mapM k = .error e ↔
      ∃ before a behind, items = before ++ a :: behind ∧ (∀ b ∈ before, ∃ r, k b = .ok r) ∧
        k a = .error e := by
  induction items with
  | nil =>
      constructor
      · intro h
        cases h
      · rintro ⟨before, a, behind, h, -⟩
        simp at h
  | cons a rest ih =>
      rw [mapM_cons_eq_error_iff, ih]
      constructor
      · rintro (herr | ⟨hfirst, before, a', behind, rfl, hok, herr⟩)
        · exact ⟨[], a, rest, rfl, fun b hb => absurd hb List.not_mem_nil, herr⟩
        · exact ⟨a :: before, a', behind, rfl, List.forall_mem_cons.mpr ⟨hfirst, hok⟩, herr⟩
      · rintro ⟨before, a', behind, h, hok, herr⟩
        cases before with
        | nil =>
            obtain ⟨rfl, -⟩ := List.cons.inj h
            exact .inl herr
        | cons c others =>
            obtain ⟨rfl, rfl⟩ := List.cons.inj h
            obtain ⟨hfirst, hok⟩ := List.forall_mem_cons.mp hok
            exact .inr ⟨hfirst, others, a', behind, rfl, hok, herr⟩

end Results

/-! ## One record of a batch -/

/-- A record gives every column that is never left out a value. -/
theorem presentFragments_of_fixed {record : Json} {mappings : List (Assignment RecordValue)}
    {values : List (Option Fragment)}
    (hm : ∀ mapping ∈ mappings, mapping.value.isOptional = false)
    (h : recordFragments record mappings = .ok values) :
    presentFragments mappings values =
      (mappings.map (·.column.name)).zip (values.filterMap id) ∧
    (values.filterMap id).length = mappings.length := by
  induction mappings generalizing values with
  | nil =>
      cases h
      exact ⟨rfl, rfl⟩
  | cons mapping rest ih =>
      obtain ⟨value, hv, h⟩ := exists_of_bind_ok h
      obtain ⟨others, ho, hr⟩ := exists_of_bind_ok h
      cases hr
      obtain ⟨f, rfl, -⟩ := shape_recordFragment? (hm mapping (List.mem_cons_self ..)) hv
      obtain ⟨hp, hl⟩ := ih (fun m h => hm m (List.mem_cons_of_mem _ h)) ho
      constructor
      · show (mapping.column.name, f) :: presentFragments rest others = _
        rw [hp]
        rfl
      · show (others.filterMap id).length + 1 = _
        rw [hl, List.length_cons]

/-- Columns that were composed are one at least. -/
theorem InsertDraft.mappings_ne_nil {α : Type} {calls : List (InsertCall α)} {d : InsertDraft α}
    (h : InsertDraft.build calls = .ok d) : d.mappings ≠ [] := by
  obtain ⟨_, hc, hd⟩ := exists_of_bind_ok h
  cases hd
  intro hn
  rw [hn] at hc
  cases hc

namespace RecordsInsert

/-- The insert of one record with the columns of a batch. -/
def single (i : RecordsInsert) (record : Json) : RecordInsert :=
  ⟨i.table, record, i.mappings, i.config⟩

/-- The insert of one record with the columns of a batch, rendered as a statement of its own. -/
def renderedSingle (i : RecordsInsert) (strategy : Strategy) (record : Json) :
    Except Error Rendered :=
  (Statement.insertRecord (i.single record)).rendered strategy

/-- The insert of one record denotes what its batch denotes for this record. -/
theorem single_fragment (i : RecordsInsert) (hm : i.mappings ≠ []) (record : Json) :
    (i.single record).fragment = i.recordFragment record := by
  rw [RecordInsert.fragment, recordFragment, rowOf]
  show (recordFragments record i.mappings >>= _) = _
  cases hv : recordFragments record i.mappings with
  | error e => rfl
  | ok values =>
      obtain ⟨hp, hl⟩ := presentFragments_of_fixed i.fixed_columns hv
      have hn : (i.mappings.map (·.column.name)).length = (values.filterMap id).length := by
        rw [List.length_map, hl]
      have h1 : (presentFragments i.mappings values).map (·.1) = i.columns := by
        rw [hp, List.map_fst_zip (Nat.le_of_eq hn)]
        rfl
      have h2 : (presentFragments i.mappings values).map (·.2) = values.filterMap id := by
        rw [hp, List.map_snd_zip (Nat.le_of_eq hn.symm)]
      -- there is a column, so the single insert has a value to insert
      show singleRowFragment i.config i.table (presentFragments i.mappings values) = _
      cases hc : presentFragments i.mappings values with
      | nil =>
          rw [hc] at h1
          exact absurd (List.map_eq_nil_iff.mp h1.symm) hm
      | cons value rest =>
          rw [hc] at h1 h2
          rw [singleRowFragment, h1, h2]
          rfl

theorem renderedSingle_eq (i : RecordsInsert) (hm : i.mappings ≠ []) (strategy : Strategy)
    (record : Json) :
    i.renderedSingle strategy record =
      (i.recordFragment record).map fun f => f.rendered .insert strategy := by
  rw [renderedSingle, Statement.rendered_eq, ← i.single_fragment hm]
  rfl

/-- A batch is rendered as its single inserts are: the text of the first one, the parameters of
    all. -/
theorem renderedBatch_eq_singles (i : RecordsInsert) (hm : i.mappings ≠ []) (strategy : Strategy) :
    i.renderedBatch strategy = (i.records.mapM (i.renderedSingle strategy)).map fun statements =>
      ⟨(statements.head?.map (·.sql)).getD "", statements.map (·.parameters), strategy⟩ := by
  have hs : i.renderedSingle strategy
      = fun record => (i.recordFragment record).map fun f => f.rendered .insert strategy := by
    funext record
    exact i.renderedSingle_eq hm strategy record
  rw [i.renderedBatch_eq, hs, mapM_map_result]
  cases i.records.mapM i.recordFragment with
  | error e => rfl
  | ok fs => rfl

/-- The single inserts of a batch have one text. -/
theorem renderedSingle_sql (i : RecordsInsert) (hm : i.mappings ≠ []) {strategy : Strategy}
    {record : Json} {r : Rendered} (h : i.renderedSingle strategy record = .ok r) :
    r.verb = .insert ∧ r.sql = i.shape.pattern.sql strategy ∧ r.strategy = strategy := by
  rw [i.renderedSingle_eq hm] at h
  cases hf : i.recordFragment record with
  | error e =>
      rw [hf] at h
      cases h
  | ok f =>
      rw [hf] at h
      cases h
      refine ⟨rfl, ?_, rfl⟩
      rw [f.rendered_sql, ← f.pattern_shape, shape_eq hf]

/-- A batch that is rendered has the statements of its single inserts. -/
theorem statements_eq_singles (i : RecordsInsert) (hm : i.mappings ≠ []) {strategy : Strategy}
    {statements : List Rendered}
    (h : i.records.mapM (i.renderedSingle strategy) = .ok statements) :
    ∃ b, i.renderedBatch strategy = .ok b ∧ b.sql = i.shape.pattern.sql strategy ∧
      b.records = statements.map (·.parameters) ∧ b.statements = statements := by
  have hall := mapM_eq_ok_iff.mp h
  have hone : ∀ r ∈ statements,
      r.verb = .insert ∧ r.sql = i.shape.pattern.sql strategy ∧ r.strategy = strategy := by
    intro r hr
    have hr' : Except.ok r ∈ i.records.map (i.renderedSingle strategy) := by
      rw [hall]
      exact List.mem_map_of_mem hr
    obtain ⟨record, -, he⟩ := List.mem_map.mp hr'
    exact i.renderedSingle_sql hm he
  have hsql : (statements.head?.map (·.sql)).getD "" = i.shape.pattern.sql strategy := by
    cases statements with
    -- a batch has a record, so there is a first statement
    | nil =>
        rw [List.map_nil, List.map_eq_nil_iff] at hall
        exact absurd hall i.records_ne_nil
    | cons first rest => exact (hone first (List.mem_cons_self ..)).2.1
  refine ⟨⟨i.shape.pattern.sql strategy, statements.map (·.parameters), strategy⟩, ?_, rfl, rfl, ?_⟩
  · rw [i.renderedBatch_eq_singles hm, h, ← hsql]
    rfl
  · rw [RenderedBatch.statements, List.map_map]
    -- a statement is made of the one text, its parameters and the strategy
    refine (List.map_congr_left ?_).trans (List.map_id statements)
    intro r hr
    obtain ⟨hv, hq, ht⟩ := hone r hr
    have hr : r = ⟨.insert, i.shape.pattern.sql strategy, r.parameters, strategy⟩ := by
      rw [← hv, ← hq, ← ht]
    exact hr.symm

/-- A batch is rendered exactly when all of its single inserts are. -/
theorem renderedBatch_isOk_iff (i : RecordsInsert) (hm : i.mappings ≠ []) (strategy : Strategy) :
    (∃ b, i.renderedBatch strategy = .ok b) ↔
      ∀ record ∈ i.records, ∃ r, i.renderedSingle strategy record = .ok r := by
  rw [← exists_mapM_eq_ok_iff, i.renderedBatch_eq_singles hm]
  cases i.records.mapM (i.renderedSingle strategy) with
  | error e => simp [Except.map]
  | ok statements => simp [Except.map]

/-- A batch that fails fails as the first of its single inserts that fails. -/
theorem renderedBatch_eq_error_iff (i : RecordsInsert) (hm : i.mappings ≠ [])
    (strategy : Strategy) (e : Error) :
    i.renderedBatch strategy = .error e ↔
      ∃ before record behind, i.records = before ++ record :: behind ∧
        (∀ earlier ∈ before, ∃ r, i.renderedSingle strategy earlier = .ok r) ∧
        i.renderedSingle strategy record = .error e := by
  rw [← mapM_eq_error_iff, i.renderedBatch_eq_singles hm]
  cases i.records.mapM (i.renderedSingle strategy) with
  | error e' => simp [Except.map]
  | ok statements => simp [Except.map]

/-- A batch that is rendered is its single inserts. -/
theorem singles_of_renderedBatch (i : RecordsInsert) (hm : i.mappings ≠ []) {strategy : Strategy}
    {b : RenderedBatch} (h : i.renderedBatch strategy = .ok b) :
    i.records.map (i.renderedSingle strategy) = b.statements.map .ok ∧
    b.records = b.statements.map (·.parameters) ∧
    ∀ record ∈ i.records, ∃ r, i.renderedSingle strategy record = .ok r ∧ r.sql = b.sql := by
  obtain ⟨statements, hs⟩ :=
    exists_mapM_eq_ok_iff.mpr ((i.renderedBatch_isOk_iff hm strategy).mp ⟨b, h⟩)
  obtain ⟨b', hb', hsql, hr, hst⟩ := i.statements_eq_singles hm hs
  rw [hb'] at h
  cases h
  refine ⟨by rw [mapM_eq_ok_iff.mp hs, hst], by rw [hr, hst], ?_⟩
  intro record hrecord
  obtain ⟨r, hok⟩ := exists_mapM_eq_ok_iff.mp ⟨statements, hs⟩ record hrecord
  exact ⟨r, hok, (i.renderedSingle_sql hm hok).2.1.trans hsql.symm⟩

/-! ## Composing and mapping -/

/-- What composes a batch composes the single insert of each of its records. -/
theorem build_single {i : RecordsInsert} {records : List (Except String Json)} {table : String}
    {calls : List (InsertCall RecordValue)} (h : buildBatch records table calls = .ok i) :
    records.mapM orSerialization = .ok i.records ∧ i.mappings ≠ [] ∧
      ∀ record, RecordInsert.build (.ok record) table calls = .ok (i.single record) := by
  obtain ⟨parsed, hp, h⟩ := exists_of_bind_ok h
  by_cases hr : parsed.isEmpty = true
  · rw [dif_pos hr] at h
    cases h
  · rw [dif_neg hr] at h
    obtain ⟨d, hd, h⟩ := exists_of_bind_ok h
    have hd : InsertDraft.build calls = .ok d := by
      cases hc : InsertDraft.build calls with
      | error e =>
          rw [hc] at hd
          cases hd
      | ok d' =>
          rw [hc] at hd
          cases hd
          rfl
    by_cases ho : d.mappings.any (·.value.isOptional) = true
    · rw [dif_pos ho] at h
      cases h
    · rw [dif_neg ho] at h
      cases h
      refine ⟨hp, InsertDraft.mappings_ne_nil hd, ?_⟩
      intro record
      rw [RecordInsert.build, hd]
      rfl

end RecordsInsert

/-- A batch is handed to a mapper as its single inserts. -/
theorem Mapper.renderBatch_eq_singles (i : RecordsInsert) (hm : i.mappings ≠ []) :
    renderBatch (.ok i) = i.records.mapM (i.renderedSingle strategy) := by
  show (i.renderedBatch strategy >>= fun b => pure b.statements) = _
  cases hs : i.records.mapM (i.renderedSingle strategy) with
  | error e =>
      rw [i.renderedBatch_eq_singles hm, hs]
      rfl
  | ok statements =>
      obtain ⟨b, hb, -, -, hst⟩ := i.statements_eq_singles hm hs
      rw [hb, ← hst]
      rfl

/-- A mapper gets the statements of a batch one after the other, or none of them. -/
theorem Mapper.insertBatch_run {σ R : Type} (mapper : Rendered → StateM σ R)
    (i : Except Error RecordsInsert) (s : σ) :
    (insertBatch mapper i).run.run s =
      match renderBatch i with
      | .error e => (.error e, s)
      | .ok statements =>
        (.ok ((statements.mapM mapper).run s).1, ((statements.mapM mapper).run s).2) := by
  cases h : renderBatch i with
  | error e =>
      rw [insertBatch, h]
      rfl
  | ok statements =>
      rw [insertBatch, h]
      rfl

/-- **A batch insert is the list of its single inserts.**  For columns of which none is left out,
    the batch is rendered exactly when each of its records is rendered as an insert of its own, and
    else it fails as the first of them that fails.  Its text is the text of every single insert, the
    parameters of its records are theirs, and its statements are these inserts.  A mapper gets
    exactly these inserts, one after the other, or none. -/
theorem RecordsInsert.batch_is_its_single_inserts (i : RecordsInsert) (hm : i.mappings ≠ []) :
    (∀ strategy,
      ((∃ b, i.renderedBatch strategy = .ok b) ↔
        ∀ record ∈ i.records, ∃ r, i.renderedSingle strategy record = .ok r) ∧
      (∀ e, i.renderedBatch strategy = .error e ↔
        ∃ before record behind, i.records = before ++ record :: behind ∧
          (∀ earlier ∈ before, ∃ r, i.renderedSingle strategy earlier = .ok r) ∧
          i.renderedSingle strategy record = .error e) ∧
      ∀ b, i.renderedBatch strategy = .ok b →
        i.records.map (i.renderedSingle strategy) = b.statements.map .ok ∧
        b.records = b.statements.map (·.parameters) ∧
        ∀ record ∈ i.records, ∃ r, i.renderedSingle strategy record = .ok r ∧ r.sql = b.sql) ∧
    (∀ (σ R : Type) (mapper : Rendered → StateM σ R) (s : σ),
      (Mapper.insertBatch mapper (.ok i)).run.run s =
        match i.records.mapM (i.renderedSingle Mapper.strategy) with
        | .error e => (.error e, s)
        | .ok statements =>
          (.ok ((statements.mapM mapper).run s).1, ((statements.mapM mapper).run s).2)) ∧
    ∀ records table calls, buildBatch records table calls = .ok i →
      records.mapM orSerialization = .ok i.records ∧
        ∀ record, RecordInsert.build (.ok record) table calls = .ok (i.single record) := by
  refine ⟨?_, ?_, ?_⟩
  · intro strategy
    refine ⟨i.renderedBatch_isOk_iff hm strategy, i.renderedBatch_eq_error_iff hm strategy, ?_⟩
    intro b h
    exact i.singles_of_renderedBatch hm h
  · intro σ R mapper s
    rw [Mapper.insertBatch_run, Mapper.renderBatch_eq_singles i hm]
  · intro records table calls h
    obtain ⟨hp, -, hsingle⟩ := build_single h
    exact ⟨hp, hsingle⟩

/-- A batch of two columns, one for a property of the record and one for the whole record. -/
def codeBatch (records : List Json) (h : records ≠ []) : RecordsInsert :=
  ⟨"t", records, [⟨.ofTable "t" "code", .property "code"⟩, ⟨.ofTable "t" "source", .row⟩], {}, h,
    by simp [RecordValue.isOptional]⟩

/-- A record with a code. -/
def codeRecord (code : Json) : Json := .object [("code", code)]

/-- A record with a text and a record with null. -/
def twoCodes : RecordsInsert :=
  codeBatch [codeRecord (.string "a"), codeRecord .null] (List.cons_ne_nil _ _)

/-- A record with null and a value that is no record. -/
def missingCode : RecordsInsert := codeBatch [codeRecord .null, .null] (List.cons_ne_nil _ _)

/-- Records of different shapes, one of them with a code that is null, have one text; a record
    without a code keeps the mapper from being called at all. -/
theorem RecordsInsert.batch_is_its_single_inserts_codes :
    twoCodes.mappings ≠ [] ∧
    (∃ b, twoCodes.renderedBatch .postgres = .ok b ∧
      b.sql = "insert into t (code, source) values ($1, $2)" ∧
      twoCodes.records.map (twoCodes.renderedSingle .postgres) = b.statements.map .ok) ∧
    (Mapper.insertBatch (fun r => modify (· ++ [r.sql])) (.ok missingCode)).run.run
        ([] : List String)
      = (.error (.invalidSql (.missingProperty "code")), []) := by
  have hm : twoCodes.mappings ≠ [] := List.cons_ne_nil _ _
  obtain ⟨hrender, -, -⟩ := RecordsInsert.batch_is_its_single_inserts twoCodes hm
  obtain ⟨-, -, hok⟩ := hrender .postgres
  obtain ⟨-, hmapper, -⟩ :=
    RecordsInsert.batch_is_its_single_inserts missingCode (List.cons_ne_nil _ _)
  refine ⟨hm, ⟨_, rfl, rfl, (hok _ rfl).1⟩, ?_⟩
  rw [hmapper]
  rfl

end SqlComposer
