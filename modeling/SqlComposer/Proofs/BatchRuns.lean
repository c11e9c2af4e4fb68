import SqlComposer.Proofs.BatchInserts
import SqlComposer.Proofs.PlaceholderNumbers
import SqlComposer.Session.Template

/-! # Batches run through a template

    A batch is composed, all of its records are rendered, and then one statement for each record is
    handed to the server.  The placeholders of a statement are numbered just before it is handed
    over, so a failure there might come after other statements were executed.  It does not:

    * whether placeholders can be numbered, and the text with the numbers, depend on the keys of the
      parameters only (`Positional.ofNamed_map_sql`);
    * all records of a batch have one text and the same keys (`RecordsInsert.renderedRecord_ok`), so
      the first record fails when any fails (`Template.executeBatch_error`), and else all get one
      text with numbers (`Template.executeBatch_runs`).

    What is left are answers of the server.  One execution takes the next reply
    (`Template.executeWith_run`), and by induction on the records a batch goes on until the first
    reply that is an error (`Template.executeEach_runs`).  Together:
    `Template.executeBuiltBatch_runs`. -/

namespace SqlComposer

/-! ## Numbers depend on the keys -/

/-- Parameters with the same keys give one text with numbers, or fail alike. -/
theorem Positional.ofNamed_map_sql {a b : ParameterMap} (h : a.keys = b.keys) (sql : String) :
    (ofNamed sql a).map (·.sql) = (ofNamed sql b).map (·.sql) := by
  have hmissing : (fun name => (a.get? name).isNone) = fun name => (b.get? name).isNone := by
    funext name
    have hsome : (a.get? name).isSome = (b.get? name).isSome := by
      rw [Bool.eq_iff_iff, a.isSome_get?, b.isSome_get?, h]
    rw [← Option.not_isSome, ← Option.not_isSome, hsome]
  rw [ofNamed_eq_ofSymbols, ofNamed_eq_ofSymbols, ofSymbols, ofSymbols, hmissing]
  split <;> rfl

theorem Positional.ofNamed_error_of_keys {a b : ParameterMap} (h : a.keys = b.keys) {sql : String}
    {e : InvalidSql} (ha : ofNamed sql a = .error e) : ofNamed sql b = .error e := by
  have hmap := ofNamed_map_sql h sql
  rw [ha] at hmap
  cases hb : ofNamed sql b with
  | error e' =>
      rw [hb] at hmap
      cases hmap
      rfl
  | ok q =>
      rw [hb] at hmap
      cases hmap

theorem Positional.ofNamed_ok_of_keys {a b : ParameterMap} (h : a.keys = b.keys) {sql : String}
    {p : Positional} (ha : ofNamed sql a = .ok p) :
    ∃ values, ofNamed sql b = .ok ⟨p.sql, values⟩ := by
  have hmap := ofNamed_map_sql h sql
  rw [ha] at hmap
  obtain ⟨q, hq, hsql⟩ := exists_of_map_ok hmap.symm
  replace hsql : q.sql = p.sql := hsql
  exact ⟨q.values, by rw [hq, ← hsql]⟩

/-! ## The records of a batch -/

namespace RecordsInsert

/-- The statement of one record of a batch, rendered for a template. -/
def renderedRecord (i : RecordsInsert) (record : Json) : Except Error Rendered :=
  (i.renderRecord record).rendered .insert Template.strategy

/-- The keys that every record of a batch gives. -/
def keys (i : RecordsInsert) : List String :=
  (List.range' 1 i.shape.pattern.places.length).map Template.strategy.parameterKey

/-- A record gives the text and the keys that all records of its batch give. -/
theorem renderedRecord_ok {i : RecordsInsert} {record : Json} {r : Rendered}
    (h : i.renderedRecord record = .ok r) :
    r.sql = i.shape.pattern.sql Template.strategy ∧ r.parameters.keys = i.keys := by
  have hr : i.renderedRecord record
      = (i.recordFragment record).map fun f => f.rendered .insert Template.strategy :=
    Yields.rendered .insert (i.renderRecord_yields record _)
  rw [hr] at h
  obtain ⟨f, hf, rfl⟩ := exists_of_map_ok h
  have hpattern : f.pattern = i.shape.pattern := by rw [← f.pattern_shape, shape_eq hf]
  constructor
  · rw [f.rendered_sql, hpattern]
  · rw [ParameterMap.keys, f.rendered_entries, Strategy.map_fst_keyed, f.length_values, hpattern,
      keys]

/-- A batch is rendered when all of its records are. -/
theorem renderedBatch_eq_records (i : RecordsInsert) :
    i.renderedBatch Template.strategy = (i.records.mapM i.renderedRecord).map fun rendered =>
      ⟨(rendered.head?.map (·.sql)).getD "", rendered.map (·.parameters), Template.strategy⟩ := by
  rw [renderedBatch]
  show (i.records.mapM i.renderedRecord >>= _) = _
  cases i.records.mapM i.renderedRecord with
  | error e => rfl
  | ok rendered => rfl

/-- Records that are rendered are one at least, and all have the text and the keys of their batch. -/
theorem renderedRecords_ok {i : RecordsInsert} {rendered : List Rendered}
    (h : i.records.mapM i.renderedRecord = .ok rendered) :
    rendered ≠ [] ∧ ∀ r ∈ rendered,
      r.sql = i.shape.pattern.sql Template.strategy ∧ r.parameters.keys = i.keys := by
  have hall := mapM_eq_ok_iff.mp h
  constructor
  · rintro rfl
    rw [List.map_nil, List.map_eq_nil_iff] at hall
    exact i.records_ne_nil hall
  · intro r hr
    have hr' : Except.ok r ∈ i.records.map i.renderedRecord := by
      rw [hall]
      exact List.mem_map_of_mem hr
    obtain ⟨record, -, he⟩ := List.mem_map.mp hr'
    exact renderedRecord_ok he

/-- A rendered batch has the parameters of its records, which have its text. -/
theorem exists_of_renderedBatch {i : RecordsInsert} {b : RenderedBatch}
    (h : i.renderedBatch Template.strategy = .ok b) :
    ∃ rendered, i.records.mapM i.renderedRecord = .ok rendered ∧
      b = ⟨b.sql, rendered.map (·.parameters), Template.strategy⟩ ∧
      ∀ r ∈ rendered, r.sql = b.sql := by
  rw [renderedBatch_eq_records] at h
  obtain ⟨rendered, hr, rfl⟩ := exists_of_map_ok h
  obtain ⟨hne, hone⟩ := renderedRecords_ok hr
  refine ⟨rendered, hr, rfl, ?_⟩
  cases rendered with
  | nil => exact absurd rfl hne
  -- the text of a batch is that of its first record
  | cons first rest =>
      intro r hm
      exact (hone r hm).1.trans (hone first (List.mem_cons_self ..)).1.symm

/-- All records of a rendered batch have the same keys. -/
theorem keys_of_renderedBatch {i : RecordsInsert} {b : RenderedBatch}
    (h : i.renderedBatch Template.strategy = .ok b) :
    b.records ≠ [] ∧ ∀ parameters ∈ b.records, parameters.keys = i.keys := by
  obtain ⟨rendered, hr, hb, -⟩ := exists_of_renderedBatch h
  obtain ⟨hne, hone⟩ := renderedRecords_ok hr
  rw [hb]
  refine ⟨mt List.map_eq_nil_iff.mp hne, ?_⟩
  intro parameters hm
  obtain ⟨r, hr, rfl⟩ := List.mem_map.mp hm
  exact (hone r hr).2

/-- A batch with a record that is not rendered is not rendered. -/
theorem renderedBatch_error {i : RecordsInsert} {record : Json} (hm : record ∈ i.records)
    {e : Error} (h : i.renderedRecord record = .error e) :
    ∃ first, i.renderedBatch Template.strategy = .error first := by
  rw [renderedBatch_eq_records]
  cases hr : i.records.mapM i.renderedRecord with
  | error first => exact ⟨first, rfl⟩
  | ok rendered =>
      obtain ⟨r, hok⟩ := exists_mapM_eq_ok_iff.mp ⟨rendered, hr⟩ record hm
      rw [h] at hok
      cases hok

end RecordsInsert

/-! ## Answers to statements -/

/-- What a server answers to a statement when some others were handed over before. -/
def Server.answer (server : Server) (before : Nat) (statement : Sent) : Except Error Answer :=
  (server.replies.getD before .noRows).answerTo statement

/-- A server that was told of statements and got them, one after the other. -/
def Server.got (server : Server) (told : Sent → Event) (statements : List Sent) : Server :=
  ⟨server.replies.drop statements.length, server.sent ++ statements,
    server.events ++ statements.map told⟩

theorem Server.got_nil (server : Server) (told : Sent → Event) : server.got told [] = server := by
  simp [got]

theorem Server.got_append (server : Server) (told : Sent → Event) (first second : List Sent) :
    server.got told (first ++ second) = (server.got told first).got told second := by
  simp [got, List.drop_drop]

/-- The statements that were got before have taken their replies. -/
theorem Server.answer_got (server : Server) (told : Sent → Event) (first : List Sent)
    (before : Nat) (statement : Sent) :
    (server.got told first).answer before statement =
      server.answer (first.length + before) statement := by
  simp [answer, got]

namespace Template

/-- What a template tells of a statement. -/
def told (t : Template) (statement : Sent) : Event :=
  .executing .template statement.values.length (shownSql t.config.sqlLimit statement.sql)

/-- Statements handed over one after the other, what comes of it, and the server behind them.
    Either all are answered with rows or counts, or one is answered with an error, which comes of
    it, and those behind it are not handed over. -/
inductive Runs (t : Template) (server : Server) (statements : List Sent) :
    Except Error (List Nat) → Server → Prop where
  | all (answers : List Answer) :
      statements.mapIdx server.answer = answers.map .ok →
      Runs t server statements (.ok (answers.map Answer.affected)) (server.got t.told statements)
  | refused (before : List Sent) (statement : Sent) (behind : List Sent) (answers : List Answer)
      (e : Error) :
      statements = before ++ statement :: behind →
      before.mapIdx server.answer = answers.map .ok →
      server.answer before.length statement = .error e →
      Runs t server statements (.error e) (server.got t.told (before ++ [statement]))

namespace Runs

variable {t : Template} {server after : Server} {statement : Sent} {rest : List Sent}

/-- A first statement that is answered with an error is the only one that is handed over. -/
theorem head {e : Error} (h : server.answer 0 statement = .error e) :
    Runs t server (statement :: rest) (.error e) (server.got t.told [statement]) :=
  .refused [] statement rest [] e rfl rfl h

/-- A first statement that is answered, and a run behind it. -/
theorem cons {a : Answer} {result : Except Error (List Nat)}
    (h : server.answer 0 statement = .ok a)
    (hr : Runs t (server.got t.told [statement]) rest result after) :
    Runs t server (statement :: rest) (result.map (a.affected :: ·)) after := by
  -- behind the first statement the answers are those to the second, the third, …
  have hanswer : (server.got t.told [statement]).answer = fun i => server.answer (i + 1) := by
    funext i s
    rw [server.answer_got, List.length_singleton, Nat.add_comm]
  cases hr with
  | all answers hall =>
      rw [hanswer] at hall
      rw [← server.got_append]
      refine .all (a :: answers) ?_
      rw [List.mapIdx_cons, h, hall, List.map_cons]
  | refused before last behind answers e hsplit hall hlast =>
      rw [hanswer] at hall hlast
      rw [← server.got_append]
      refine .refused (statement :: before) last behind (a :: answers) e ?_ ?_ hlast
      · rw [hsplit, List.cons_append]
      · rw [List.mapIdx_cons, h, hall, List.map_cons]

end Runs

end Template

/-! ## Executions -/

/-- Parts of a session one after the other: a failure ends it. -/
theorem Session.run_bind {α β : Type} (x : Session α) (k : α → Session β) (server : Server) :
    (x >>= k).run.run server =
      match x.run.run server with
      | (.ok a, behind) => (k a).run.run behind
      | (.error e, behind) => (.error e, behind) := by
  show ((x.run.run server) >>= fun r => (ExceptT.bindCont k r.1).run r.2) = _
  obtain ⟨result, behind⟩ := x.run.run server
  cases result with
  | ok a => rfl
  | error e => rfl

/-- A statement that is handed over gets the next answer. -/
theorem send_run (statement : Sent) (server : Server) :
    (send statement).run.run server =
      (server.answer 0 statement,
        { server with
          replies := server.replies.drop 1
          sent := server.sent ++ [statement] }) := by
  have hreply : server.replies.headD .noRows = server.replies.getD 0 .noRows := by
    cases server.replies with
    | nil => rfl
    | cons reply rest => rfl
  rw [Server.answer, ← hreply]
  rfl

/-- The answer to an execution is how many rows it affects. -/
theorem execute_run (sql : String) (values : List Value) (server : Server) :
    (execute sql values).run.run server =
      ((server.answer 0 ⟨.execute, sql, values⟩).map Answer.affected,
        { server with
          replies := server.replies.drop 1
          sent := server.sent ++ [⟨.execute, sql, values⟩] }) := by
  rw [execute, Session.run_bind, send_run]
  cases server.answer 0 ⟨.execute, sql, values⟩ with
  | ok answer => rfl
  | error e => rfl

namespace Template

variable {t : Template} {sql : String} {parameters : ParameterMap}

/-- An execution whose placeholders cannot be numbered does not reach the server. -/
theorem executeWith_error {e : InvalidSql} (h : Positional.ofNamed sql parameters = .error e)
    (server : Server) :
    (t.executeWith sql parameters strategy).run.run server = (.error (.invalidSql e), server) := by
  rw [executeWith, prepare, strategy, positional, h]
  rfl

/-- One execution tells of its statement, hands it over and takes the answer. -/
theorem executeWith_run {p : Positional} (h : Positional.ofNamed sql parameters = .ok p)
    (server : Server) :
    (t.executeWith sql parameters strategy).run.run server =
      ((server.answer 0 ⟨.execute, p.sql, p.values⟩).map Answer.affected,
        server.got t.told [⟨.execute, p.sql, p.values⟩]) := by
  have hprepare : (t.prepare sql parameters strategy).run.run server =
      (.ok p, { server with events := server.events ++ [t.told ⟨.execute, p.sql, p.values⟩] }) := by
    rw [prepare, strategy, positional, h]
    rfl
  rw [executeWith, Session.run_bind, hprepare]
  exact execute_run p.sql p.values _

/-- The statement for the parameters of a record: the text with numbers, and the values in their
    order. -/
def StatementFor (sql numbered : String) (parameters : ParameterMap) (statement : Sent) : Prop :=
  ∃ values, Positional.ofNamed sql parameters = .ok ⟨numbered, values⟩ ∧
    statement = ⟨.execute, numbered, values⟩

theorem exists_statements {numbered : String} {records : List ParameterMap}
    (h : ∀ parameters ∈ records,
      ∃ values, Positional.ofNamed sql parameters = .ok ⟨numbered, values⟩) :
    ∃ statements, List.Forall₂ (StatementFor sql numbered) records statements := by
  induction records with
  | nil => exact ⟨[], .nil⟩
  | cons first rest ih =>
      obtain ⟨hfirst, hrest⟩ := List.forall_mem_cons.mp h
      obtain ⟨values, hv⟩ := hfirst
      obtain ⟨statements, hs⟩ := ih hrest
      exact ⟨⟨.execute, numbered, values⟩ :: statements, .cons ⟨values, hv, rfl⟩ hs⟩

/-- Executions one after the other are a run of their statements. -/
theorem executeEach_runs {numbered : String} {records : List ParameterMap}
    {statements : List Sent} (h : List.Forall₂ (StatementFor sql numbered) records statements)
    (server : Server) :
    ∃ result behind,
      (records.mapM fun parameters => t.executeWith sql parameters strategy).run.run server =
        (result, behind) ∧ Runs t server statements result behind := by
  induction h generalizing server with
  | nil =>
      have hall : Runs t server [] (.ok (List.map Answer.affected [])) (server.got t.told []) :=
        .all [] rfl
      rw [server.got_nil] at hall
      exact ⟨.ok [], server, rfl, hall⟩
  | cons hfirst _ ih =>
      obtain ⟨values, hv, rfl⟩ := hfirst
      rw [List.mapM_cons, Session.run_bind, executeWith_run hv]
      cases ha : server.answer 0 ⟨.execute, numbered, values⟩ with
      | error e => exact ⟨.error e, _, rfl, Runs.head ha⟩
      | ok answer =>
          obtain ⟨result, behind, hrun, hr⟩ :=
            ih (server.got t.told [⟨.execute, numbered, values⟩])
          refine ⟨result.map (answer.affected :: ·), behind, ?_, Runs.cons ha hr⟩
          dsimp only [Except.map]
          rw [Session.run_bind, hrun]
          cases result with
          | ok counts => rfl
          | error e => rfl

/-- What is told of a batch that was rendered. -/
def batchRendered (b : RenderedBatch) : Event :=
  .rendered "insert_batch" strategy b.records.length b.sql.utf8ByteSize

/-- A composed batch is rendered before its records are executed. -/
theorem executeBuiltBatch_run (i : RecordsInsert) (server : Server) :
    (t.executeBuiltBatch (.ok i)).run.run server =
      match i.renderedBatch strategy with
      | .error e => (.error e, server)
      | .ok b =>
        (t.executeBatch b).run.run { server with events := server.events ++ [batchRendered b] } := by
  have hrender : (Session.ofTraced (i.renderBatch strategy)).run.run server =
      match i.renderedBatch strategy with
      | .error e => (.error e, server)
      | .ok b => (.ok b, { server with events := server.events ++ [batchRendered b] }) := by
    rw [RecordsInsert.renderBatch]
    cases i.renderedBatch strategy with
    | error e => rfl
    | ok b => rfl
  show (Session.ofTraced (i.renderBatch strategy) >>= t.executeBatch).run.run server = _
  rw [Session.run_bind, hrender]
  cases i.renderedBatch strategy with
  | error e => rfl
  | ok b => rfl

/-- A rendered batch executes its text with the parameters of each record. -/
theorem executeBatch_eq {i : RecordsInsert} {b : RenderedBatch}
    (h : i.renderedBatch strategy = .ok b) :
    t.executeBatch b =
      b.records.mapM fun parameters => t.executeWith b.sql parameters strategy := by
  obtain ⟨rendered, -, hb, -⟩ := RecordsInsert.exists_of_renderedBatch h
  rw [executeBatch, hb]

/-- A batch of which the placeholders of one record cannot be numbered does not reach the server. -/
theorem executeBatch_error {i : RecordsInsert} {b : RenderedBatch}
    (h : i.renderedBatch strategy = .ok b) (hm : parameters ∈ b.records) {e : InvalidSql}
    (he : Positional.ofNamed b.sql parameters = .error e) (server : Server) :
    (t.executeBatch b).run.run server = (.error (.invalidSql e), server) := by
  obtain ⟨-, hkeys⟩ := RecordsInsert.keys_of_renderedBatch h
  rw [executeBatch_eq h]
  cases hb : b.records with
  | nil =>
      rw [hb] at hm
      cases hm
  | cons first rest =>
      -- the first record has the same keys, so it fails as well
      have hfirst : first ∈ b.records := by
        rw [hb]
        exact List.mem_cons_self ..
      have hsame : parameters.keys = first.keys :=
        (hkeys parameters hm).trans (hkeys first hfirst).symm
      rw [List.mapM_cons, Session.run_bind,
        executeWith_error (Positional.ofNamed_error_of_keys hsame he)]

/-- A batch of which the placeholders of all records can be numbered runs its statements, which have
    one text. -/
theorem executeBatch_runs {i : RecordsInsert} {b : RenderedBatch}
    (h : i.renderedBatch strategy = .ok b)
    (hall : ∀ parameters ∈ b.records, ∃ p, Positional.ofNamed b.sql parameters = .ok p)
    (server : Server) :
    ∃ numbered statements, List.Forall₂ (StatementFor b.sql numbered) b.records statements ∧
      ∃ result behind, (t.executeBatch b).run.run server = (result, behind) ∧
        Runs t server statements result behind := by
  obtain ⟨hne, hkeys⟩ := RecordsInsert.keys_of_renderedBatch h
  obtain ⟨first, hfirst⟩ := List.exists_mem_of_ne_nil _ hne
  obtain ⟨p, hp⟩ := hall first hfirst
  -- all records have the keys of the first one, so they have its text with numbers
  have hone : ∀ parameters ∈ b.records,
      ∃ values, Positional.ofNamed b.sql parameters = .ok ⟨p.sql, values⟩ := by
    intro parameters hm
    have hsame : first.keys = parameters.keys :=
      (hkeys first hfirst).trans (hkeys parameters hm).symm
    exact Positional.ofNamed_ok_of_keys hsame hp
  obtain ⟨statements, hs⟩ := exists_statements hone
  rw [executeBatch_eq h]
  exact ⟨p.sql, statements, hs, executeEach_runs hs server⟩

end Template

/-- **A batch executes a prefix of its statements, and nothing else.**  A batch that cannot be
    composed, of which a record cannot be rendered or the placeholders of a record cannot be
    numbered sends nothing.  Otherwise each record has its statement: the text of the batch, which
    is that of each record, with numbers, and the values of the record; the text with numbers is the
    same for all.  These statements are handed over in the order of the records, up to the first one
    that is answered with an error, which is returned; when none is, how many rows each affects is
    returned. -/
theorem Template.executeBuiltBatch_runs (t : Template) (records : List (Except String Json))
    (table : String) (calls : List (InsertCall RecordValue)) (server : Server) :
    let built := RecordsInsert.buildBatch records table calls
    let run := (t.executeBuiltBatch built).run.run server
    (∀ e, built = .error e → run = (.error e, server)) ∧
    ∀ i, built = .ok i →
      records.mapM orSerialization = .ok i.records ∧
      (∀ record ∈ i.records, ∀ e, i.renderedRecord record = .error e →
        ∃ first, i.renderedBatch strategy = .error first ∧ run = (.error first, server)) ∧
      ∀ b, i.renderedBatch strategy = .ok b →
        let next := { server with events := server.events ++ [batchRendered b] }
        (∃ rendered, i.records.mapM i.renderedRecord = .ok rendered ∧
          b = ⟨b.sql, rendered.map (·.parameters), strategy⟩ ∧ ∀ r ∈ rendered, r.sql = b.sql) ∧
        (∀ parameters ∈ b.records, ∀ e, Positional.ofNamed b.sql parameters = .error e →
          run = (.error (.invalidSql e), next)) ∧
        ((∀ parameters ∈ b.records, ∃ p, Positional.ofNamed b.sql parameters = .ok p) →
          ∃ numbered statements,
            List.Forall₂ (StatementFor b.sql numbered) b.records statements ∧
            ∃ result behind, run = (result, behind) ∧ Runs t next statements result behind) := by
  intro built run
  constructor
  · intro e he
    show (t.executeBuiltBatch built).run.run server = _
    rw [he]
    rfl
  · intro i hi
    have hrun : run = (t.executeBuiltBatch (.ok i)).run.run server := by rw [← hi]
    rw [executeBuiltBatch_run] at hrun
    obtain ⟨hrecords, -, -⟩ := RecordsInsert.build_single hi
    refine ⟨hrecords, ?_, ?_⟩
    · intro record hm e he
      obtain ⟨first, hfirst⟩ := RecordsInsert.renderedBatch_error hm he
      rw [hfirst] at hrun
      exact ⟨first, hfirst, hrun⟩
    · intro b hb next
      rw [hb] at hrun
      refine ⟨RecordsInsert.exists_of_renderedBatch hb, ?_, ?_⟩
      · intro parameters hm e he
        exact hrun.trans (executeBatch_error hb hm he next)
      · intro hall
        rw [hrun]
        exact executeBatch_runs hb hall next

/-- Three records with a code. -/
def threeCodes : List (Except String Json) :=
  ["a", "b", "c"].map fun code => .ok (.object [("code", .string code)])

/-- The column for the code of a record. -/
def codeColumn : List (InsertCall RecordValue) := [.set (.ofTable "t" "code") (.property "code")]

/-- The batch of three codes, rendered. -/
def renderedCodes : RenderedBatch :=
  ⟨"insert into t (code) values (:p1)",
    ["a", "b", "c"].map fun code => .ofList [("p1", .text code)], Template.strategy⟩

/-- A server that refuses the second of the statements it gets. -/
def refusingServer : Server :=
  ⟨[⟨.count 1, none⟩, ⟨.failure "23505" "there already", none⟩], [], []⟩

theorem isOk_iff_exists {ε α : Type} {x : Except ε α} : x.isOk = true ↔ ∃ a, x = .ok a := by
  cases x with
  | ok a => exact iff_of_true rfl ⟨a, rfl⟩
  | error e =>
      refine iff_of_false Bool.false_ne_true ?_
      rintro ⟨a, h⟩
      cases h

/-- The second of three statements is refused, and the third is not handed over. -/
theorem Template.executeBuiltBatch_runs_codes :
    ∃ i, RecordsInsert.buildBatch threeCodes "t" codeColumn = .ok i ∧
      i.renderedBatch strategy = .ok renderedCodes ∧
      (∀ parameters ∈ renderedCodes.records,
        ∃ p, Positional.ofNamed renderedCodes.sql parameters = .ok p) ∧
      ∃ numbered statements result behind,
        List.Forall₂ (StatementFor renderedCodes.sql numbered) renderedCodes.records statements ∧
        (executeBuiltBatch {} (RecordsInsert.buildBatch threeCodes "t" codeColumn)).run.run
          refusingServer = (result, behind) ∧
        Runs {} { refusingServer with events := [batchRendered renderedCodes] } statements result
          behind ∧
        result.isOk = false ∧ behind.sent.length = 2 := by
  have hnumbered : ∀ parameters ∈ renderedCodes.records,
      ∃ p, Positional.ofNamed renderedCodes.sql parameters = .ok p := by
    simp only [← isOk_iff_exists]
    decide +kernel
  obtain ⟨-, hbuilt⟩ := executeBuiltBatch_runs {} threeCodes "t" codeColumn refusingServer
  obtain ⟨-, -, hrendered⟩ := hbuilt _ rfl
  obtain ⟨-, -, hruns⟩ := hrendered renderedCodes rfl
  obtain ⟨numbered, statements, hs, result, behind, hrun, hr⟩ := hruns hnumbered
  have hlast :
      let run := (executeBuiltBatch {} (RecordsInsert.buildBatch threeCodes "t" codeColumn)).run.run
        refusingServer
      run.1.isOk = false ∧ run.2.sent.length = 2 := by
    decide +kernel
  rw [hrun] at hlast
  exact ⟨_, rfl, rfl, hnumbered, numbered, statements, result, behind, hs, hrun, hr, hlast⟩

end SqlComposer
