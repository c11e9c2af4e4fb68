import SqlComposer.Proofs.BatchInserts

/-! # A multi-row insert is the list of its rows

    A multi-row insert and a batch are composed alike and hold the same records and columns.  A
    batch numbers every record anew, a multi-row insert numbers all of them in one go, so the one
    row that a batch repeats stands in the multi-row insert once for each record, with its
    placeholders moved on.

    * `RecordsInsert.cells` is this row before it has numbers: for each column a text, or the place
      of a value.  `Strategy.cellTexts` numbers its places from any number on.
    * **`Fragment.writeAll_cells`** — whatever a record puts in the places, writing its row gives
      the cells numbered from the context, and moves the number on by their places.
    * **`Fragment.writeAll_rows`** — so the rows of records are the cells, numbered one row behind
      the other.
    * **`RecordsInsert.rows_are_the_batch`** — the result, with the values and the failures. -/

namespace SqlComposer

open Fragment (ofText ofValue writeAll)

/-! ## The row of a batch without numbers -/

/-- What a column gets in a row: a text, or the place of a value with its type. -/
inductive Cell where
  | text (s : String)
  | place (type : Option JdbcType)
  deriving DecidableEq, Repr

namespace Cell

/-- What a column that is never left out gets. -/
def ofColumn (mapping : Assignment RecordValue) : Cell :=
  match mapping.value with
  | .property _ | .propertyWhenPresent _ | .row => .place mapping.column.jdbcType
  | .null => .text "null"
  | .constant s => .text s
  | .stringConstant s => .text (stringLiteral s)

/-- Whether a value stands there. -/
def isPlace : Cell → Bool
  | .text _ => false
  | .place _ => true

/-- A cell as a fragment without value. -/
def shape : Cell → Fragment
  | .text s => ofText s
  | .place type => ofValue .null type

theorem shape_ofColumn (mapping : Assignment RecordValue) :
    (ofColumn mapping).shape = columnShape mapping := by
  obtain ⟨column, value⟩ := mapping
  cases value <;> rfl

end Cell

/-- The texts of cells; the numbers of places count up from the given one. -/
def Strategy.cellTexts (strategy : Strategy) : (number : Nat) → List Cell → List String
  | _, [] => []
  | number, .text s :: rest => s :: cellTexts strategy number rest
  | number, .place type :: rest =>
    strategy.numberedPlaceholder number type :: cellTexts strategy (number + 1) rest

/-- Every cell has one text. -/
theorem Strategy.length_cellTexts (strategy : Strategy) (number : Nat) (cells : List Cell) :
    (strategy.cellTexts number cells).length = cells.length := by
  induction cells generalizing number with
  | nil => rfl
  | cons cell rest ih =>
      cases cell with
      | text s => exact congrArg (· + 1) (ih number)
      | place type => exact congrArg (· + 1) (ih (number + 1))

namespace Fragment

/-- A fragment without value is text only as it was before its values were forgotten. -/
theorem eq_ofText_of_shape {f : Fragment} {s : String} (h : f.shape = ofText s) : f = ofText s := by
  match f with
  | [] => cases h
  | .slot value type :: rest => cases h
  | .text t :: [] => exact h
  | .text t :: piece :: rest => cases h

/-- A fragment of the shape of one place holds one value. -/
theorem exists_ofValue_of_shape {f : Fragment} {type : Option JdbcType}
    (h : f.shape = ofValue .null type) : ∃ value, f = ofValue value type := by
  match f with
  | [] => cases h
  | .text t :: rest => cases h
  | .slot value type' :: [] =>
      cases h
      exact ⟨value, rfl⟩
  | .slot value type' :: piece :: rest => cases h

/-- Fragments of the shapes of cells are written as the cells, numbered from the context. -/
theorem writeAll_cells {cells : List Cell} {fs : List Fragment}
    (h : fs.map Fragment.shape = cells.map Cell.shape) (c : Context) :
    (writeAll fs c).1 = c.strategy.cellTexts c.nextNumber cells ∧
      (writeAll fs c).2.nextNumber = c.nextNumber + cells.countP Cell.isPlace ∧
      (writeAll fs c).2.strategy = c.strategy ∧
      (fs.flatMap Fragment.values).length = cells.countP Cell.isPlace := by
  induction cells generalizing fs c with
  | nil =>
      rw [List.map_nil, List.map_eq_nil_iff] at h
      subst h
      exact ⟨rfl, rfl, rfl, rfl⟩
  | cons cell rest ih =>
      cases fs with
      | nil => cases h
      | cons f others =>
          rw [List.map_cons, List.map_cons, List.cons.injEq] at h
          obtain ⟨hf, ho⟩ := h
          cases cell with
          | text s =>
              rw [eq_ofText_of_shape hf, writeAll_cons, write_ofText]
              obtain ⟨htexts, hnumber, hstrategy, hvalues⟩ := ih ho c
              refine ⟨congrArg (s :: ·) htexts, ?_, hstrategy, ?_⟩
              · rw [List.countP_cons_of_neg (by simp [Cell.isPlace])]
                exact hnumber
              · rw [List.countP_cons_of_neg (by simp [Cell.isPlace])]
                exact hvalues
          | place type =>
              obtain ⟨value, rfl⟩ := exists_ofValue_of_shape hf
              rw [writeAll_cons, write_ofValue]
              -- the place takes the number of the context, the others go on behind it
              obtain ⟨htexts, hnumber, hstrategy, hvalues⟩ := ih ho (c.bind value type).2
              refine ⟨congrArg (_ :: ·) htexts, ?_, hstrategy, ?_⟩
              · rw [List.countP_cons_of_pos rfl]
                refine hnumber.trans ?_
                show c.nextNumber + 1 + _ = _
                omega
              · rw [List.countP_cons_of_pos rfl, List.flatMap_cons, List.length_append, hvalues]
                exact Nat.add_comm 1 _

/-- Rows of the shapes of cells are the cells, numbered one row behind the other. -/
theorem writeAll_rows {cells : List Cell} {rows : List (List Fragment)}
    (h : ∀ fs ∈ rows, fs.map Fragment.shape = cells.map Cell.shape) (c : Context) :
    (writeAll (rows.map rowFragment) c).1 =
      (List.range rows.length).map fun row =>
        rowText (c.strategy.cellTexts (row * cells.countP Cell.isPlace + c.nextNumber) cells) := by
  induction rows generalizing c with
  | nil => rfl
  | cons fs rest ih =>
      obtain ⟨hfs, hrest⟩ := List.forall_mem_cons.mp h
      obtain ⟨htexts, hnumber, hstrategy, -⟩ := writeAll_cells hfs c
      rw [List.map_cons, writeAll_cons, write_rowFragment, ih hrest, htexts, hnumber, hstrategy,
        List.length_cons, List.range_succ_eq_map, List.map_cons, List.map_map, Nat.zero_mul,
        Nat.zero_add]
      refine congrArg (_ :: ·) (List.map_congr_left fun row _ => ?_)
      show _ = rowText (c.strategy.cellTexts ((row + 1) * _ + c.nextNumber) cells)
      rw [Nat.succ_mul, Nat.add_assoc, Nat.add_comm c.nextNumber]

end Fragment

/-! ## The rows of records -/

theorem values_insertFragment (config : Config) (table : String) (columns : List String)
    (tail : Fragment) : (insertFragment config table columns tail).values = tail.values := by
  rw [insertFragment, Config.values_wrapped, Fragment.values_spaced]
  simp [ofText, Fragment.values]

theorem values_rowFragment (fs : List Fragment) :
    (rowFragment fs).values = fs.flatMap Fragment.values := by
  rw [rowFragment, Fragment.parenthesized, Fragment.values_append, Fragment.values_append,
    Fragment.listed, Fragment.values_separatedBy]
  exact List.append_nil _

/-- The value that a record gives a column, where the column has a place. -/
def boundValue? (record : Json) (mapping : Assignment RecordValue) : Option Value :=
  match mapping.value with
  | .property path | .propertyWhenPresent path => (record.property? path).map Value.ofJson
  | .row => some (Value.ofJson record)
  | .null | .constant _ | .stringConstant _ => none

/-- A column that is never left out binds its value, if it has one. -/
theorem values_recordFragment? {record : Json} {mapping : Assignment RecordValue}
    {value : Option Fragment} (hm : mapping.value.isOptional = false)
    (h : recordFragment? record mapping = .ok value) :
    value.toList.flatMap Fragment.values = (boundValue? record mapping).toList := by
  obtain ⟨column, place⟩ := mapping
  cases place with
  | property path =>
      cases hp : record.property? path with
      | none =>
          simp only [recordFragment?, hp] at h
          cases h
      | some property =>
          simp only [recordFragment?, hp] at h
          cases h
          simp [boundValue?, hp, ofValue, Fragment.values]
  | propertyWhenPresent path => cases hm
  | row => cases h; rfl
  | null => cases h; rfl
  | constant s => cases h; rfl
  | stringConstant s => cases h; rfl

/-- A record binds the values of its columns in their order. -/
theorem values_recordFragments {record : Json} {mappings : List (Assignment RecordValue)}
    {values : List (Option Fragment)}
    (hm : ∀ mapping ∈ mappings, mapping.value.isOptional = false)
    (h : recordFragments record mappings = .ok values) :
    (values.filterMap id).flatMap Fragment.values = mappings.filterMap (boundValue? record) := by
  induction mappings generalizing values with
  | nil =>
      cases h
      rfl
  | cons mapping rest ih =>
      obtain ⟨value, hv, h⟩ := exists_of_bind_ok h
      obtain ⟨others, ho, hr⟩ := exists_of_bind_ok h
      cases hr
      have hfirst := values_recordFragment? (hm mapping (List.mem_cons_self ..)) hv
      have hrest := ih (fun m h => hm m (List.mem_cons_of_mem _ h)) ho
      have hvalues : ((value :: others).filterMap id).flatMap Fragment.values =
          value.toList.flatMap Fragment.values ++
            (others.filterMap id).flatMap Fragment.values := by
        cases value <;> simp
      have hbound : (mapping :: rest).filterMap (boundValue? record) =
          (boundValue? record mapping).toList ++ rest.filterMap (boundValue? record) := by
        rw [List.filterMap_cons]
        cases boundValue? record mapping <;> rfl
      rw [hvalues, hfirst, hrest, hbound]

namespace RecordsInsert

/-- The row of every record before it has numbers. -/
def cells (i : RecordsInsert) : List Cell := i.mappings.map Cell.ofColumn

/-- A record gives a row of the shape of the cells, with the values of its columns. -/
theorem exists_row {i : RecordsInsert} {record : Json} {f : Fragment} (h : i.rowOf record = .ok f) :
    ∃ fs, f = rowFragment fs ∧ fs.map Fragment.shape = i.cells.map Cell.shape ∧
      fs.flatMap Fragment.values = i.mappings.filterMap (boundValue? record) := by
  obtain ⟨values, hv, hf⟩ := exists_of_bind_ok h
  cases hf
  refine ⟨values.filterMap id, rfl, ?_, values_recordFragments i.fixed_columns hv⟩
  rw [shape_recordFragments i.fixed_columns hv, cells, List.map_map]
  exact List.map_congr_left fun mapping _ => (Cell.shape_ofColumn mapping).symm

/-- Records that give rows give one each. -/
theorem exists_rows {i : RecordsInsert} {records : List Json} {fs : List Fragment}
    (h : records.mapM i.rowOf = .ok fs) :
    ∃ rows : List (List Fragment), fs = rows.map rowFragment ∧
      (∀ row ∈ rows, row.map Fragment.shape = i.cells.map Cell.shape) ∧
      rows.map (·.flatMap Fragment.values) =
        records.map fun record => i.mappings.filterMap (boundValue? record) := by
  induction records generalizing fs with
  | nil =>
      cases h
      exact ⟨[], rfl, by simp, rfl⟩
  | cons record rest ih =>
      rw [List.mapM_cons] at h
      obtain ⟨f, hf, h⟩ := exists_of_bind_ok h
      obtain ⟨others, ho, hr⟩ := exists_of_bind_ok h
      cases hr
      obtain ⟨row, rfl, hshape, hvalues⟩ := exists_row hf
      obtain ⟨rows, rfl, hshapes, hall⟩ := ih ho
      refine ⟨row :: rows, rfl, List.forall_mem_cons.mpr ⟨hshape, hshapes⟩, ?_⟩
      rw [List.map_cons, List.map_cons, hvalues, hall]

theorem rowsOf_eq_mapM (i : RecordsInsert) (records : List Json) :
    i.rowsOf records = records.mapM i.rowOf := by
  induction records with
  | nil => rfl
  | cons record rest ih => rw [rowsOf, List.mapM_cons, ih]

/-- An insert of these columns with rows behind it. -/
def withRows (i : RecordsInsert) (rows : Fragment) : Fragment :=
  insertFragment i.config i.table i.columns (ofText "values " ++ rows)

/-- Writing an insert writes its rows. -/
theorem write_withRows (i : RecordsInsert) (rows : Fragment) (c : Context) :
    ((i.withRows rows).write c).1 =
      insertText i.config i.table i.columns ("values " ++ (rows.write c).1) := by
  rw [withRows, write_insertFragment, Fragment.write_append, Fragment.write_ofText]

theorem values_withRows (i : RecordsInsert) (rows : Fragment) :
    (i.withRows rows).values = rows.values := by
  rw [withRows, values_insertFragment, Fragment.values_append]
  rfl

/-- A multi-row insert fails as its rows do. -/
theorem rendered_eq_rows (i : RecordsInsert) (strategy : Strategy) :
    (Statement.insertRows i).rendered strategy =
      (i.records.mapM i.rowOf).map fun rows =>
        (i.withRows (Fragment.listed rows)).rendered .insert strategy := by
  rw [Statement.rendered_eq]
  show Except.map _ (i.rowsOf i.records >>= _) = _
  rw [i.rowsOf_eq_mapM]
  cases i.records.mapM i.rowOf with
  | error e => rfl
  | ok rows => rfl

/-- A batch fails as its rows do, too. -/
theorem renderedBatch_eq_rows (i : RecordsInsert) (strategy : Strategy) :
    i.renderedBatch strategy = (i.records.mapM i.rowOf).map fun rows =>
      ⟨((rows.map fun row => (i.withRows row).rendered .insert strategy).head?.map (·.sql)).getD "",
        rows.map fun row => ((i.withRows row).rendered .insert strategy).parameters, strategy⟩ := by
  have hrecord : i.recordFragment = fun record => (i.rowOf record).map i.withRows := by
    funext record
    rw [recordFragment]
    cases i.rowOf record with
    | error e => rfl
    | ok row => rfl
  rw [i.renderedBatch_eq, hrecord, mapM_map_result]
  cases i.records.mapM i.rowOf with
  | error e => rfl
  | ok rows =>
      show Except.ok _ = Except.ok _
      simp only [List.map_map]
      rfl

/-- What is composed for records that are there is composed alike for both. -/
theorem buildRows_eq_buildBatch {records : List (Except String Json)} (h : records ≠ [])
    (table : String) (calls : List (InsertCall RecordValue)) :
    buildRows records table calls = buildBatch records table calls := by
  rw [buildRows, buildBatch, build, build]
  cases hp : records.mapM orSerialization with
  | error e => rfl
  | ok parsed =>
      have hn : ¬parsed.isEmpty = true := by
        rw [List.isEmpty_iff]
        rintro rfl
        rw [mapM_eq_ok_iff, List.map_nil, List.map_eq_nil_iff] at hp
        exact h hp
      show dite _ _ _ = dite _ _ _
      rw [dif_neg hn, dif_neg hn]

/-- Rows that are there, in both renderings. -/
theorem rows_of_mapM (i : RecordsInsert) {strategy : Strategy} {fs : List Fragment}
    (h : i.records.mapM i.rowOf = .ok fs) {r : Rendered} {b : RenderedBatch}
    (hr : (Statement.insertRows i).rendered strategy = .ok r)
    (hb : i.renderedBatch strategy = .ok b) :
    (∀ parameters ∈ b.records, parameters.size = i.cells.countP Cell.isPlace) ∧
      b.records.map (·.values) =
        i.records.map (fun record => i.mappings.filterMap (boundValue? record)) ∧
      r.parameters.values = b.records.flatMap (·.values) ∧
      b.sql = insertText i.config i.table i.columns
        ("values " ++ rowText (strategy.cellTexts 1 i.cells)) ∧
      r.sql = insertText i.config i.table i.columns
        ("values " ++ listed ((List.range b.records.length).map fun row =>
          rowText (strategy.cellTexts (row * i.cells.countP Cell.isPlace + 1) i.cells))) := by
  obtain ⟨rows, rfl, hshapes, hvalues⟩ := exists_rows h
  rw [i.rendered_eq_rows, h] at hr
  rw [i.renderedBatch_eq_rows, h] at hb
  cases hr
  cases hb
  have hrecord : ∀ row : List Fragment,
      ((i.withRows (rowFragment row)).rendered .insert strategy).parameters.values =
        row.flatMap Fragment.values := by
    intro row
    rw [Fragment.rendered_values, values_withRows, values_rowFragment]
  refine ⟨?_, ?_, ?_, ?_, ?_⟩
  · simp only [List.map_map, List.forall_mem_map]
    intro row hrow
    obtain ⟨-, -, -, hlength⟩ := Fragment.writeAll_cells (hshapes row hrow) (.initial strategy)
    have hsize := congrArg List.length (hrecord row)
    rw [hlength, ParameterMap.values, List.length_map] at hsize
    exact hsize
  · rw [← hvalues, List.map_map, List.map_map]
    exact List.map_congr_left fun row _ => hrecord row
  · rw [Fragment.rendered_values, values_withRows, Fragment.listed, Fragment.values_separatedBy]
    simp only [List.flatMap_map]
    refine congrArg List.flatten (List.map_congr_left fun row _ => ?_)
    rw [values_rowFragment]
    exact (hrecord row).symm
  · cases rows with
    -- a batch has a record, so it has the text of a first row
    | nil =>
        rw [List.map_nil, eq_comm, List.map_eq_nil_iff] at hvalues
        exact absurd hvalues i.records_ne_nil
    | cons row rest =>
        show ((i.withRows (rowFragment row)).write (.initial strategy)).1 = _
        rw [write_withRows, write_rowFragment,
          (Fragment.writeAll_cells (hshapes row (List.mem_cons_self ..)) _).1]
        rfl
  · show ((i.withRows (Fragment.listed (rows.map rowFragment))).write (.initial strategy)).1 = _
    rw [write_withRows, Fragment.write_listed, Fragment.writeAll_rows hshapes]
    simp only [List.length_map]
    rfl

end RecordsInsert

/-- **A multi-row insert is the list of its rows.**  For records that are there, it is composed as a
    batch is, and it is rendered exactly when the batch is, else with the same failure.  The records
    of the batch bind the values of the columns, as many for every record.  The multi-row insert
    binds these values record after record; its text has the row of the batch once for each record,
    with the numbers of the places counting on.  Every row has one cell for each column. -/
theorem RecordsInsert.rows_are_the_batch :
    (∀ records table calls, records ≠ [] →
      buildRows records table calls = buildBatch records table calls) ∧
    ∀ (i : RecordsInsert) (strategy : Strategy),
      ((∃ r, (Statement.insertRows i).rendered strategy = .ok r) ↔
        ∃ b, i.renderedBatch strategy = .ok b) ∧
      (∀ e, (Statement.insertRows i).rendered strategy = .error e ↔
        i.renderedBatch strategy = .error e) ∧
      (∀ r b, (Statement.insertRows i).rendered strategy = .ok r →
        i.renderedBatch strategy = .ok b →
        (∀ parameters ∈ b.records, parameters.size = i.cells.countP Cell.isPlace) ∧
        b.records.map (·.values) =
          i.records.map (fun record => i.mappings.filterMap (boundValue? record)) ∧
        r.parameters.values = b.records.flatMap (·.values) ∧
        b.sql = insertText i.config i.table i.columns
          ("values " ++ rowText (strategy.cellTexts 1 i.cells)) ∧
        r.sql = insertText i.config i.table i.columns
          ("values " ++ listed ((List.range b.records.length).map fun row =>
            rowText (strategy.cellTexts (row * i.cells.countP Cell.isPlace + 1) i.cells)))) ∧
      ∀ number, (strategy.cellTexts number i.cells).length = i.columns.length := by
  refine ⟨fun records table calls h => buildRows_eq_buildBatch h table calls, ?_⟩
  intro i strategy
  refine ⟨?_, ?_, ?_, ?_⟩
  · rw [i.rendered_eq_rows, i.renderedBatch_eq_rows]
    cases i.records.mapM i.rowOf <;> simp [Except.map]
  · intro e
    rw [i.rendered_eq_rows, i.renderedBatch_eq_rows]
    cases i.records.mapM i.rowOf <;> simp [Except.map]
  · intro r b hr hb
    cases h : i.records.mapM i.rowOf with
    | error e =>
        rw [i.rendered_eq_rows, h] at hr
        cases hr
    | ok fs => exact i.rows_of_mapM h hr hb
  · intro number
    rw [Strategy.length_cellTexts, cells, columns, List.length_map, List.length_map]

/-- Two records of two columns: four placeholders in two rows, and the values of the batch in its
    order. -/
theorem RecordsInsert.rows_are_the_batch_codes :
    ∃ r b, (Statement.insertRows twoCodes).rendered .postgres = .ok r ∧
      twoCodes.renderedBatch .postgres = .ok b ∧
      r.sql = "insert into t (code, source) values ($1, $2), ($3, $4)" ∧
      b.sql = "insert into t (code, source) values ($1, $2)" ∧
      r.parameters.values = b.records.flatMap (·.values) ∧
      buildRows [.ok .null] "t" [.set (.ofTable "t" "source") .row] =
        buildBatch [.ok .null] "t" [.set (.ofTable "t" "source") .row] := by
  obtain ⟨hbuild, hrows⟩ := RecordsInsert.rows_are_the_batch
  obtain ⟨-, -, hok, -⟩ := hrows twoCodes .postgres
  obtain ⟨-, -, hvalues, -, -⟩ := hok _ _ rfl rfl
  exact ⟨_, _, rfl, rfl, rfl, rfl, hvalues, hbuild _ _ _ (List.cons_ne_nil _ _)⟩

end SqlComposer
