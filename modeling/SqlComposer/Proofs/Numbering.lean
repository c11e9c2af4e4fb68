import SqlComposer.Proofs.StatementRealization
import Std.Data.String.ToNat

/-! # Numbering — the i-th placeholder belongs to the i-th parameter

    Rendering one statement with two strategies gives two texts and two maps that should differ in
    nothing but the placeholders and the keys.  The route:

    * `Pattern` is a text with numbered places and `Pattern.sql` fills the places with the
      placeholders of a strategy; `keyed` puts values under the keys of the same numbers;
    * `Fragment.write_fst`: what is written is the filled pattern of the fragment, since a number
      is taken from left to right and never twice;
    * `Fragment.write_entries`: the parameters are the values of the fragment in that order.  A key
      that is inserted must be new for this, which is the invariant `Context.Fresh`;
    * every pass writes a fragment (`Statement.rendered_eq`) that knows no strategy, and the records
      of a batch denote fragments that differ in their values only (`RecordsInsert.shape_eq`). -/

namespace SqlComposer

/-! ## Patterns -/

/-- SQL with places for placeholders: the text before the first place, then for each place the type
    of its value and the text behind it. -/
structure Pattern where
  first : String
  places : List (Option JdbcType × String)

namespace Strategy

/-- The placeholder of the parameter with a number. -/
def numberedPlaceholder (strategy : Strategy) (number : Nat) (type : Option JdbcType) : String :=
  strategy.placeholder (strategy.parameterKey number) type

/-- The text of places whose numbers count up from the given one. -/
def fill (strategy : Strategy) : (number : Nat) → List (Option JdbcType × String) → String
  | _, [] => ""
  | number, (type, behind) :: rest =>
    strategy.numberedPlaceholder number type ++ behind ++ fill strategy (number + 1) rest

/-- Values under the keys whose numbers count up from the given one. -/
def keyed (strategy : Strategy) : (number : Nat) → List Value → List (String × Value)
  | _, [] => []
  | number, value :: rest =>
    (strategy.parameterKey number, value) :: keyed strategy (number + 1) rest

/-- Parameters with different numbers have different keys. -/
theorem parameterKey_injective (strategy : Strategy) {m n : Nat}
    (h : strategy.parameterKey m = strategy.parameterKey n) : m = n := by
  cases strategy with
  | mybatis => exact Nat.repr_injective ((String.append_right_inj "p").mp h)
  | spring => exact Nat.repr_injective ((String.append_right_inj "p").mp h)
  | postgres => exact Nat.repr_injective ((String.append_right_inj "$").mp h)
  | jdbc => exact Nat.repr_injective h

/-- The value under the key of a number is the value in the place of that number. -/
theorem find?_keyed (strategy : Strategy) {number i : Nat} {values : List Value}
    {value : Value} (h : values[i]? = some value) :
    (strategy.keyed number values).find? (·.1 == strategy.parameterKey (number + i)) =
      some (strategy.parameterKey (number + i), value) := by
  induction values generalizing number i with
  | nil => cases h
  | cons first rest ih =>
      cases i with
      | zero =>
          cases h
          rw [keyed, List.find?_cons_of_pos]
          · rfl
          · exact beq_self_eq_true _
      | succ i =>
          rw [keyed, List.find?_cons_of_neg, ← Nat.add_assoc, Nat.add_right_comm]
          · exact ih h
          · rw [beq_iff_eq]
            intro he
            exact absurd (strategy.parameterKey_injective he) (by omega)

/-- The values of keyed entries. -/
theorem map_snd_keyed (strategy : Strategy) (number : Nat) (values : List Value) :
    (strategy.keyed number values).map (·.2) = values := by
  induction values generalizing number with
  | nil => rfl
  | cons value rest ih =>
      rw [keyed, List.map_cons, ih]

/-- The keys of keyed entries. -/
theorem map_fst_keyed (strategy : Strategy) (number : Nat) (values : List Value) :
    (strategy.keyed number values).map (·.1) =
      (List.range' number values.length).map strategy.parameterKey := by
  induction values generalizing number with
  | nil => rfl
  | cons value rest ih =>
      rw [keyed, List.map_cons, ih, List.length_cons, List.range'_succ, List.map_cons]

/-- Every value has an entry. -/
theorem length_keyed (strategy : Strategy) (number : Nat) (values : List Value) :
    (strategy.keyed number values).length = values.length := by
  rw [← List.length_map (f := Prod.snd)]
  exact congrArg List.length (strategy.map_snd_keyed number values)

end Strategy

/-- The text of a pattern under a strategy: its places get the placeholders 1, 2, … -/
def Pattern.sql (pattern : Pattern) (strategy : Strategy) : String :=
  pattern.first ++ strategy.fill 1 pattern.places

namespace Fragment

/-- The pattern of a fragment, in which the values are forgotten. -/
def pattern : Fragment → Pattern
  | [] => ⟨"", []⟩
  | .text s :: rest => ⟨s ++ (pattern rest).first, (pattern rest).places⟩
  | .slot _ type :: rest => ⟨"", (type, (pattern rest).first) :: (pattern rest).places⟩

/-- The values of a fragment in their order. -/
def values : Fragment → List Value
  | [] => []
  | .text _ :: rest => values rest
  | .slot value _ :: rest => value :: values rest

/-- A fragment has a value for each place of its pattern. -/
theorem length_values (f : Fragment) : f.values.length = f.pattern.places.length := by
  induction f with
  | nil => rfl
  | cons piece rest ih =>
      cases piece with
      | text s => exact ih
      | slot value type => exact congrArg (· + 1) ih

/-- What is written is the pattern of the fragment, filled from the number of the context on. -/
theorem write_fst (f : Fragment) (c : Context) :
    (f.write c).1 = f.pattern.first ++ c.strategy.fill c.nextNumber f.pattern.places := by
  induction f generalizing c with
  | nil => rfl
  | cons piece rest ih =>
      cases piece with
      | text s =>
          show s ++ (write rest c).1 = s ++ _ ++ _
          rw [ih, String.append_assoc]
          rfl
      | slot value type =>
          show (c.bind value type).1 ++ (write rest (c.bind value type).2).1
            = "" ++ (c.strategy.numberedPlaceholder c.nextNumber type ++ _ ++ _)
          rw [ih, String.empty_append, String.append_assoc]
          rfl

/-! ### The values of fragments that are put together -/

/-- The values of two fragments come one behind the other. -/
theorem values_append (f g : Fragment) : (f ++ g).values = f.values ++ g.values := by
  induction f with
  | nil => rfl
  | cons piece rest ih =>
      cases piece with
      | text s => exact ih
      | slot value type => exact congrArg (value :: ·) ih

/-- Separators have no values. -/
theorem values_separatedBy (separator : String) (fs : List Fragment) :
    (separatedBy separator fs).values = fs.flatMap values := by
  induction fs with
  | nil => rfl
  | cons f rest ih =>
      cases rest with
      | nil => exact (List.append_nil _).symm
      | cons g others =>
          rw [separatedBy, values_append, values_append, ih, List.flatMap_cons]
          exact congrArg (· ++ _) (List.append_nil _)

/-- A fragment of nothing has no values. -/
theorem values_of_isNothing {f : Fragment} (h : f.isNothing = true) : f.values = [] := by
  induction f with
  | nil => rfl
  | cons piece rest ih =>
      cases piece with
      | text s =>
          have h' : s.isEmpty = true ∧ isNothing rest = true := by
            simpa [isNothing, Piece.isNothing] using h
          exact ih h'.2
      | slot value type => simp [isNothing, Piece.isNothing] at h

/-- What is left out between blanks had no values. -/
theorem values_spaced (fs : List Fragment) : (spaced fs).values = fs.flatMap values := by
  rw [spaced, values_separatedBy]
  induction fs with
  | nil => rfl
  | cons f rest ih =>
      cases hf : f.isNothing with
      | true => rw [List.filter_cons_of_neg (by simp [hf]), ih, List.flatMap_cons,
          values_of_isNothing hf, List.nil_append]
      | false => rw [List.filter_cons_of_pos (by simp [hf]), List.flatMap_cons, ih,
          List.flatMap_cons]

end Fragment

/-- The texts before and behind a statement have no values. -/
theorem Config.values_wrapped (config : Config) (f : Fragment) :
    (config.wrapped f).values = f.values := by
  rw [Config.wrapped]
  split
  · rfl
  · rw [Fragment.values_spaced]
    simp [Fragment.ofText, Fragment.values]

/-! ## Fresh keys -/

/-- The keys of the numbers that are still to come are not in the map yet. -/
def Context.Fresh (c : Context) : Prop :=
  ∀ number, c.nextNumber ≤ number → c.strategy.parameterKey number ∉ c.parameters.keys

theorem Context.fresh_initial (strategy : Strategy) : (Context.initial strategy).Fresh := by
  intro number _ hm
  cases hm

/-- Binding appends one entry. -/
theorem Context.Fresh.bind_entries {c : Context} (h : c.Fresh) (value : Value)
    (type : Option JdbcType) :
    (c.bind value type).2.parameters.entries =
      c.parameters.entries ++ [(c.strategy.parameterKey c.nextNumber, value)] :=
  (c.parameters.entries_insert _ value).trans
    (setEntry_of_not_mem value (h c.nextNumber (Nat.le_refl _)))

/-- Binding keeps the keys to come fresh. -/
theorem Context.Fresh.bind {c : Context} (h : c.Fresh) (value : Value) (type : Option JdbcType) :
    (c.bind value type).2.Fresh := by
  intro number hn
  -- the new key is at the end, so the map has the old keys and this one
  have hk : (c.bind value type).2.parameters.keys
      = c.parameters.keys ++ [c.strategy.parameterKey c.nextNumber] := by
    show ((c.bind value type).2.parameters.entries).map (·.1) = _
    rw [h.bind_entries value type, List.map_append]
    rfl
  have hlt : c.nextNumber < number := hn
  rw [hk, List.mem_append, List.mem_singleton, not_or]
  refine ⟨h number (Nat.le_of_lt hlt), ?_⟩
  intro he
  exact absurd (c.strategy.parameterKey_injective he) (Nat.ne_of_gt hlt)

/-- Writing appends the values of the fragment under the keys of their numbers. -/
theorem Fragment.write_entries (f : Fragment) {c : Context} (h : c.Fresh) :
    (f.write c).2.parameters.entries =
      c.parameters.entries ++ c.strategy.keyed c.nextNumber f.values := by
  induction f generalizing c with
  | nil => exact (List.append_nil _).symm
  | cons piece rest ih =>
      cases piece with
      | text s => exact ih h
      | slot value type =>
          -- the slot takes one number, and its key was fresh, so its entry comes last
          show (Fragment.write rest (c.bind value type).2).2.parameters.entries = _
          rw [ih (h.bind value type), h.bind_entries value type, List.append_assoc]
          rfl

/-- A fragment as a whole statement is its filled pattern. -/
theorem Fragment.rendered_sql (f : Fragment) (verb : Verb) (strategy : Strategy) :
    (f.rendered verb strategy).sql = f.pattern.sql strategy :=
  f.write_fst (.initial strategy)

/-- The parameters of a fragment as a whole statement are its values. -/
theorem Fragment.rendered_entries (f : Fragment) (verb : Verb) (strategy : Strategy) :
    (f.rendered verb strategy).parameters.entries = strategy.keyed 1 f.values :=
  f.write_entries (Context.fresh_initial strategy)

theorem Fragment.rendered_values (f : Fragment) (verb : Verb) (strategy : Strategy) :
    (f.rendered verb strategy).parameters.values = f.values := by
  rw [ParameterMap.values, f.rendered_entries, strategy.map_snd_keyed]

/-! ## The records of a batch -/

/-- A piece whose value is forgotten. -/
def Piece.shape : Piece → Piece
  | .text s => .text s
  | .slot _ type => .slot .null type

namespace Fragment

/-- A fragment whose values are forgotten. -/
def shape (f : Fragment) : Fragment := f.map Piece.shape

theorem shape_append (f g : Fragment) : (f ++ g).shape = f.shape ++ g.shape := List.map_append

/-- A shape is nothing if the fragment is. -/
theorem shape_isNothing (f : Fragment) : f.shape.isNothing = f.isNothing := by
  induction f with
  | nil => rfl
  | cons piece rest ih =>
      cases piece with
      | text s => exact congrArg (s.isEmpty && ·) ih
      | slot value type => rfl

/-- The pattern is a matter of the shape. -/
theorem pattern_shape (f : Fragment) : f.shape.pattern = f.pattern := by
  induction f with
  | nil => rfl
  | cons piece rest ih =>
      cases piece with
      | text s =>
          show (⟨s ++ (pattern (shape rest)).first, (pattern (shape rest)).places⟩ : Pattern) = _
          rw [ih]
          rfl
      | slot value type =>
          show (⟨"", (type, (pattern (shape rest)).first) :: (pattern (shape rest)).places⟩ :
            Pattern) = _
          rw [ih]
          rfl

/-- Separators stand between the shapes. -/
theorem shape_separatedBy (separator : String) (fs : List Fragment) :
    (separatedBy separator fs).shape = separatedBy separator (fs.map shape) := by
  induction fs with
  | nil => rfl
  | cons f rest ih =>
      cases rest with
      | nil => rfl
      | cons g others =>
          rw [separatedBy, shape_append, shape_append, ih]
          rfl

theorem shape_spaced (fs : List Fragment) : (spaced fs).shape = spaced (fs.map shape) := by
  have hf : (fun f : Fragment => !f.isNothing) ∘ shape = fun f => !f.isNothing := by
    funext f
    exact congrArg (!·) f.shape_isNothing
  rw [spaced, shape_separatedBy, spaced, List.filter_map, hf]

end Fragment

theorem Config.shape_wrapped (config : Config) (f : Fragment) :
    (config.wrapped f).shape = config.wrapped f.shape := by
  by_cases hn : (config.beforeStatement.isNone && config.afterStatement.isNone) = true
  · rw [Config.wrapped, Config.wrapped, if_pos hn, if_pos hn]
  · rw [Config.wrapped, Config.wrapped, if_neg hn, if_neg hn, Fragment.shape_spaced]
    rfl

theorem shape_insertFragment (config : Config) (table : String) (columns : List String)
    (tail : Fragment) :
    (insertFragment config table columns tail).shape =
      insertFragment config table columns tail.shape := by
  rw [insertFragment, Config.shape_wrapped, Fragment.shape_spaced]
  rfl

theorem shape_rowFragment (fs : List Fragment) :
    (rowFragment fs).shape = rowFragment (fs.map Fragment.shape) := by
  rw [rowFragment, Fragment.parenthesized, Fragment.shape_append, Fragment.shape_append]
  rw [Fragment.listed, Fragment.shape_separatedBy]
  rfl

/-- The shape of what a column that is never left out gets. -/
def columnShape (mapping : Assignment RecordValue) : Fragment :=
  match mapping.value with
  | .property _ | .propertyWhenPresent _ | .row => Fragment.ofValue .null mapping.column.jdbcType
  | .null => Fragment.ofText "null"
  | .constant s => Fragment.ofText s
  | .stringConstant s => Fragment.ofText (stringLiteral s)

/-- The value of a record for a column has the shape of the column, whatever the record is. -/
theorem shape_recordFragment? {record : Json} {mapping : Assignment RecordValue}
    {value : Option Fragment} (hm : mapping.value.isOptional = false)
    (h : recordFragment? record mapping = .ok value) :
    ∃ f, value = some f ∧ f.shape = columnShape mapping := by
  obtain ⟨column, place⟩ := mapping
  cases place with
  | property path =>
      cases hp : record.property? path with
      | none =>
          simp only [recordFragment?, hp] at h
          cases h
      | some property =>
          simp only [recordFragment?, hp] at h
          cases h
          exact ⟨_, rfl, rfl⟩
  | propertyWhenPresent path => cases hm
  | row => cases h; exact ⟨_, rfl, rfl⟩
  | null => cases h; exact ⟨_, rfl, rfl⟩
  | constant s => cases h; exact ⟨_, rfl, rfl⟩
  | stringConstant s => cases h; exact ⟨_, rfl, rfl⟩

/-- So the values of a record have the shapes of the columns. -/
theorem shape_recordFragments {record : Json} {mappings : List (Assignment RecordValue)}
    {values : List (Option Fragment)}
    (hm : ∀ mapping ∈ mappings, mapping.value.isOptional = false)
    (h : recordFragments record mappings = .ok values) :
    (values.filterMap id).map Fragment.shape = mappings.map columnShape := by
  induction mappings generalizing values with
  | nil => cases h; rfl
  | cons mapping rest ih =>
      obtain ⟨value, hv, h⟩ := exists_of_bind_ok h
      obtain ⟨others, ho, hr⟩ := exists_of_bind_ok h
      cases hr
      obtain ⟨f, rfl, hf⟩ := shape_recordFragment? (hm mapping (List.mem_cons_self ..)) hv
      have hrest := ih (fun m h => hm m (List.mem_cons_of_mem _ h)) ho
      show f.shape :: (others.filterMap id).map Fragment.shape = _
      rw [hf, hrest]
      rfl

namespace RecordsInsert

/-- The shape of the statement for one record. -/
def shape (i : RecordsInsert) : Fragment :=
  insertFragment i.config i.table i.columns
    (Fragment.ofText "values " ++ rowFragment (i.mappings.map columnShape))

/-- The statements for two records of a batch differ in their values only. -/
theorem shape_eq {i : RecordsInsert} {record : Json} {f : Fragment}
    (h : i.recordFragment record = .ok f) : f.shape = i.shape := by
  obtain ⟨row, hrow, hr⟩ := exists_of_bind_ok h
  obtain ⟨values, hv, hv'⟩ := exists_of_bind_ok hrow
  cases hv'
  cases hr
  rw [shape_insertFragment, Fragment.shape_append, shape_rowFragment,
    shape_recordFragments i.fixed_columns hv]
  rfl

/-- All records of a batch denote fragments of one shape. -/
theorem map_shape {i : RecordsInsert} {records : List Json} {fs : List Fragment}
    (h : records.mapM i.recordFragment = .ok fs) :
    fs.map Fragment.shape = records.map fun _ => i.shape := by
  induction records generalizing fs with
  | nil => cases h; rfl
  | cons record rest ih =>
      rw [List.mapM_cons] at h
      obtain ⟨f, hf, h⟩ := exists_of_bind_ok h
      obtain ⟨others, ho, hr⟩ := exists_of_bind_ok h
      cases hr
      rw [List.map_cons, List.map_cons, shape_eq hf, ih ho]

end RecordsInsert

/-! ## All statements -/

/-- **Strategies change placeholders and keys, and nothing else.**  A statement has one error under
    all strategies, or one pattern and one list of values: under each strategy its text is the
    filled pattern and its parameters are the values under the keys of the places.  A batch has one
    list of values for each record, and they all fit the one pattern. -/
theorem rendering_fills_pattern :
    (∀ s : Statement,
      (∃ e, ∀ strategy, s.rendered strategy = .error e) ∨
      ∃ (pattern : Pattern) (values : List Value),
        values.length = pattern.places.length ∧
        ∀ strategy, ∃ r, s.rendered strategy = .ok r ∧ r.sql = pattern.sql strategy ∧
          r.parameters.entries = strategy.keyed 1 values) ∧
    (∀ i : RecordsInsert,
      (∃ e, ∀ strategy, i.renderedBatch strategy = .error e) ∨
      ∃ (pattern : Pattern) (rows : List (List Value)),
        rows.length = i.records.length ∧
        (∀ values ∈ rows, values.length = pattern.places.length) ∧
        ∀ strategy, ∃ b, i.renderedBatch strategy = .ok b ∧ b.sql = pattern.sql strategy ∧
          b.records.map (·.entries) = rows.map (strategy.keyed 1)) := by
  constructor
  · intro s
    cases hf : s.fragment [] with
    | error e =>
        refine .inl ⟨e, fun strategy => ?_⟩
        rw [s.rendered_eq, hf]
        rfl
    | ok f =>
        refine .inr ⟨f.pattern, f.values, f.length_values, ?_⟩
        intro strategy
        refine ⟨f.rendered s.verb strategy, ?_, f.rendered_sql _ _, f.rendered_entries _ _⟩
        rw [s.rendered_eq, hf]
        rfl
  · intro i
    cases hf : i.records.mapM i.recordFragment with
    | error e =>
        refine .inl ⟨e, fun strategy => ?_⟩
        rw [i.renderedBatch_eq, hf]
        rfl
    | ok fs =>
        -- all records have the shape of the insert, so one pattern serves them all
        have hs := RecordsInsert.map_shape hf
        have hl : fs.length = i.records.length := by
          simpa using congrArg List.length hs
        have ht : ∀ f ∈ fs, f.pattern = i.shape.pattern := by
          intro f hm
          have hm' : f.shape ∈ fs.map Fragment.shape := List.mem_map_of_mem hm
          rw [hs] at hm'
          obtain ⟨record, -, he⟩ := List.mem_map.mp hm'
          rw [← f.pattern_shape, he]
        refine .inr ⟨i.shape.pattern, fs.map Fragment.values, ?_, ?_, ?_⟩
        · rw [List.length_map, hl]
        · intro values hv
          obtain ⟨f, hm, rfl⟩ := List.mem_map.mp hv
          rw [f.length_values, ht f hm]
        · intro strategy
          refine ⟨_, by rw [i.renderedBatch_eq, hf]; rfl, ?_, ?_⟩
          · cases fs with
            -- a batch has a record, so the text is that of its first one
            | nil =>
                rw [eq_comm, List.length_nil, List.length_eq_zero_iff] at hl
                exact absurd hl i.records_ne_nil
            | cons f rest =>
                show (f.rendered .insert strategy).sql = _
                rw [f.rendered_sql, ht f (List.mem_cons_self ..)]
          · rw [List.map_map, List.map_map, List.map_map]
            exact List.map_congr_left fun f _ => f.rendered_entries .insert strategy

end SqlComposer
