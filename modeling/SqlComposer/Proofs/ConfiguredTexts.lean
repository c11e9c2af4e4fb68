import SqlComposer.Proofs.Correspondence
import SqlComposer.Proofs.KeptClauses

/-! # Configured texts are kept

    A configuration puts a text before the statement, one behind its keyword and one behind the
    statement.  The statement without them is rendered side by side with the statement that has
    them.

    * The first part of a list with blanks stands at the beginning whatever else drops out
      (`Fragment.spaced_cons`); with the keyword there, a text behind it moves the rest on
      (`Config.decorates_spaced`).
    * A query block is rendered with the configuration of its select, but it looks at the
      permission for empty where clauses only (`QueryBlock.fragment_eq_of_permission`).  The first
      block of a select begins with the keyword of the configuration, all others with the bare one.
    * A union of selects never asks for the text behind its keyword, so this text is lost
      (`multiSelect_loses_hint`).

    Together: all other statements, and batches, keep the three texts
    (`configured_texts_are_kept`). -/

namespace SqlComposer

open Fragment (ofText)

/-! ## Configurations with and without texts -/

namespace Config

/-- The configuration without texts. -/
def withoutTexts (config : Config) : Config := { emptyWhereAllowed := config.emptyWhereAllowed }

/-- The configuration with texts before the statement, behind its keyword and behind it. -/
def withTexts (before hint behind : String) (config : Config) : Config :=
  config.applyAll [.beforeStatement before, .afterKeyword hint, .afterStatement behind]

end Config

/-- The insert with its configuration changed. -/
def RecordsInsert.mapConfig (change : Config → Config) (i : RecordsInsert) : RecordsInsert :=
  { i with config := change i.config }

/-- The statement with its own configuration changed; the selects in it keep theirs. -/
def Statement.mapConfig (change : Config → Config) : Statement → Statement
  | .select q => .select { q with config := change q.config }
  | .multiSelect q => .multiSelect { q with config := change q.config }
  | .update u => .update { u with config := change u.config }
  | .delete d => .delete { d with config := change d.config }
  | .insert i => .insert { i with config := change i.config }
  | .insertRecord i => .insertRecord { i with config := change i.config }
  | .insertRows i => .insertRows (i.mapConfig change)
  | .insertSelect i => .insertSelect { i with config := change i.config }

/-- Whether a statement is a union of selects, each in parentheses. -/
def Statement.isMultiSelect : Statement → Bool
  | .multiSelect _ => true
  | _ => false

/-- A text `configured` is `plain`, which begins with a word, with a text before it, one behind that
    word and one behind it all. -/
def Decorated (word before hint behind plain configured : String) : Prop :=
  ∃ rest, plain = word ++ rest ∧
    configured = before ++ " " ++ (word ++ " " ++ hint ++ rest) ++ " " ++ behind

/-- A text `configured` is `plain` with a text before it and one behind it. -/
def Surrounded (before behind plain configured : String) : Prop :=
  configured = before ++ " " ++ plain ++ " " ++ behind

/-! ## Fragments with texts around them -/

open Fragment (spaced_cons isNothing_ofText isNothing_append)

/-- A fragment `f'` is `f`, which begins with a word, with a text before it, one behind that word
    and one behind it all. -/
def Fragment.Decorates (word before hint behind : String) (f f' : Fragment) : Prop :=
  ∃ g, f = ofText word ++ g ∧ f' = ofText before ++ ofText " " ++
    (ofText (word ++ " " ++ hint) ++ g) ++ ofText " " ++ ofText behind

/-- A fragment `f'` is `f` with a text before it and one behind it. -/
def Fragment.Surrounds (before behind : String) (f f' : Fragment) : Prop :=
  f' = ofText before ++ ofText " " ++ f ++ ofText " " ++ ofText behind

namespace Fragment

/-- Texts around a fragment bind nothing. -/
theorem write_surrounded (before behind : String) (f : Fragment) (c : Context) :
    (ofText before ++ ofText " " ++ f ++ ofText " " ++ ofText behind).write c =
      (before ++ " " ++ (f.write c).1 ++ " " ++ behind, (f.write c).2) := by
  simp only [write_append, write_ofText]

theorem relatesTexts_surrounds (before behind : String) :
    RelatesTexts (Surrounds before behind) (Surrounded before behind) := by
  rintro f _ c rfl
  rw [write_surrounded]
  exact ⟨rfl, rfl⟩

theorem relatesTexts_decorates (word before hint behind : String) :
    RelatesTexts (Decorates word before hint behind) (Decorated word before hint behind) := by
  rintro _ _ c ⟨g, rfl, rfl⟩
  rw [write_surrounded, write_append, write_append, write_ofText, write_ofText]
  exact ⟨⟨(g.write c).1, rfl, rfl⟩, rfl⟩

end Fragment

/-! ## The configuration around a statement -/

theorem isEmpty_of_ne {s : String} (h : s ≠ "") : s.isEmpty = false := by
  rw [← Bool.not_eq_true, String.isEmpty_iff]
  exact h

section Texts

variable {before hint behind : String}

namespace Config

theorem keyword_withoutTexts (config : Config) {word : String} (hw : word ≠ "") :
    config.withoutTexts.keyword word = word := by
  show spaced [word, ""] = word
  simp [spaced, isEmpty_of_ne hw]

/-- The configured text stands behind the keyword. -/
theorem keyword_withTexts (config : Config) {word : String} (hw : word ≠ "") (hh : hint ≠ "") :
    (config.withTexts before hint behind).keyword word = word ++ " " ++ hint := by
  show spaced [word, hint] = word ++ " " ++ hint
  simp [spaced, isEmpty_of_ne hw, isEmpty_of_ne hh]

/-- The other two stand around the statement. -/
theorem surrounds_wrapped (config : Config) (hb : before ≠ "") (ha : behind ≠ "") {f : Fragment}
    (hf : f.isNothing = false) :
    Fragment.Surrounds before behind (config.withoutTexts.wrapped f)
      ((config.withTexts before hint behind).wrapped f) := by
  show Fragment.spaced [ofText before, f, ofText behind] = _
  simp only [Fragment.spaced, List.filter, isNothing_ofText hb, isNothing_ofText ha, hf]
  simp only [Bool.not_false, Fragment.separatedBy, List.append_assoc]
  rfl

/-- A statement that begins with its keyword gets all three. -/
theorem decorates_wrapped (config : Config) (hb : before ≠ "") (hh : hint ≠ "") (ha : behind ≠ "")
    {word : String} (hw : word ≠ "") (g : Fragment) :
    Fragment.Decorates word before hint behind
      (config.withoutTexts.wrapped (ofText (config.withoutTexts.keyword word) ++ g))
      ((config.withTexts before hint behind).wrapped
        (ofText ((config.withTexts before hint behind).keyword word) ++ g)) := by
  have hne : word ++ " " ++ hint ≠ "" := Fragment.append_ne_empty (Fragment.append_ne_empty hw _) _
  rw [config.keyword_withoutTexts hw, config.keyword_withTexts hw hh]
  refine ⟨g, rfl, config.surrounds_wrapped hb ha ?_⟩
  rw [isNothing_append, isNothing_ofText hne, Bool.false_and]

/-- The same for a list of parts with blanks between them, of which the keyword is the first. -/
theorem decorates_spaced (config : Config) (hb : before ≠ "") (hh : hint ≠ "") (ha : behind ≠ "")
    {word : String} (hw : word ≠ "") (rest : List Fragment) :
    Fragment.Decorates word before hint behind
      (config.withoutTexts.wrapped
        (Fragment.spaced (ofText (config.withoutTexts.keyword word) :: rest)))
      ((config.withTexts before hint behind).wrapped
        (Fragment.spaced
          (ofText ((config.withTexts before hint behind).keyword word) :: rest))) := by
  rw [spaced_cons (isNothing_ofText (keyword_ne_empty _ hw)),
    spaced_cons (isNothing_ofText (keyword_ne_empty _ hw))]
  exact config.decorates_wrapped hb hh ha hw _

end Config

/-! ## Queries -/

/-- A where clause asks the configuration for its permission only. -/
theorem Fragment.whereClause_eq_of_permission {config config' : Config}
    (h : config.emptyWhereAllowed = config'.emptyWhereAllowed) (parts : Option CriteriaParts) :
    Fragment.whereClause config parts = Fragment.whereClause config' parts := by
  match parts with
  | none => rfl
  | some [] => rw [Fragment.whereClause, Fragment.whereClause, h]
  | some (_ :: _) => rfl

namespace QueryBlock

/-- And so does a query block. -/
theorem fragment_eq_of_permission {config config' : Config}
    (h : config.emptyWhereAllowed = config'.emptyWhereAllowed) (block : QueryBlock)
    (keyword : String) (scopes : List Scope) :
    block.fragment keyword config scopes = block.fragment keyword config' scopes := by
  obtain ⟨distinct, columns, source, joins, filter, groupBy, having⟩ := block
  simp only [QueryBlock.fragment, Fragment.whereClause_eq_of_permission h]

/-- Blocks behind unions look at the permission for empty where clauses only. -/
theorem unionFragments_eq_of_permission {config config' : Config}
    (h : config.emptyWhereAllowed = config'.emptyWhereAllowed)
    (unions : List (UnionKind × QueryBlock)) (scopes : List Scope) :
    unionFragments unions config scopes = unionFragments unions config' scopes := by
  induction unions with
  | nil => rfl
  | cons union rest ih =>
      obtain ⟨kind, block⟩ := union
      rw [unionFragments, unionFragments, block.fragment_eq_of_permission h, ih]

/-- A query block begins with its keyword, and the rest knows nothing of it. -/
theorem fragment_corresponds (block : QueryBlock) {word word' : String} (hw : word ≠ "")
    (hw' : word' ≠ "") (config : Config) (scopes : List Scope) :
    Corresponds (fun f f' => ∃ g, f = ofText word ++ g ∧ f' = ofText word' ++ g)
      (block.fragment word config scopes) (block.fragment word' config scopes) := by
  obtain ⟨distinct, columns, source, joins, filter, groupBy, having⟩ := block
  refine Corresponds.same _ fun columns => ?_
  refine Corresponds.same _ fun source => ?_
  refine Corresponds.same _ fun joins => ?_
  refine Corresponds.same _ fun filterParts => ?_
  refine Corresponds.same _ fun filter => ?_
  refine Corresponds.same _ fun groups => ?_
  refine Corresponds.same _ fun havingParts => ?_
  exact ⟨_, spaced_cons (isNothing_ofText hw) _, spaced_cons (isNothing_ofText hw') _⟩

end QueryBlock

/-- A select has the three texts, behind the keyword of its first block. -/
theorem Select.fragment_decorated (hb : before ≠ "") (hh : hint ≠ "") (ha : behind ≠ "")
    (q : Select) (scopes : List Scope) :
    Corresponds (Fragment.Decorates "select" before hint behind)
      (Select.fragment { q with config := q.config.withoutTexts } scopes)
      (Select.fragment { q with config := q.config.withTexts before hint behind } scopes) := by
  obtain ⟨first, unions, orderBy, paging, lock, config⟩ := q
  have hp : (config.withTexts before hint behind).emptyWhereAllowed
      = config.withoutTexts.emptyWhereAllowed := rfl
  have hw : "select" ≠ "" := by decide
  rw [Select.fragment, Select.fragment, first.fragment_eq_of_permission hp,
    QueryBlock.unionFragments_eq_of_permission hp]
  refine Corresponds.bind (first.fragment_corresponds (Config.keyword_ne_empty _ hw)
    (Config.keyword_ne_empty _ hw) _ scopes) ?_
  rintro _ _ ⟨g, rfl, rfl⟩
  refine Corresponds.same _ fun fs => ?_
  have hfirst (config : Config) : (ofText (config.keyword "select") ++ g).isNothing = false := by
    rw [isNothing_append, isNothing_ofText (config.keyword_ne_empty hw), Bool.false_and]
  -- what stands behind the keyword of the first block goes on with all that follows the block
  show Fragment.Decorates _ _ _ _ (Config.wrapped _ (Fragment.spaced (_ :: _)))
    (Config.wrapped _ (Fragment.spaced (_ :: _)))
  rw [spaced_cons (hfirst _), spaced_cons (hfirst _), List.append_assoc, List.append_assoc]
  exact config.decorates_wrapped hb hh ha hw _

/-! ## Statements -/

/-- An insert of one row has the three texts. -/
theorem singleRowFragment_decorated (hb : before ≠ "") (hh : hint ≠ "") (ha : behind ≠ "")
    (config : Config) (table : String) (values : List (String × Fragment)) :
    Corresponds (Fragment.Decorates "insert" before hint behind)
      (singleRowFragment config.withoutTexts table values)
      (singleRowFragment (config.withTexts before hint behind) table values) := by
  cases values with
  | nil => exact rfl
  | cons value rest => exact config.decorates_spaced hb hh ha (by decide) _

namespace RecordsInsert

/-- The rows of records know nothing of the configuration. -/
theorem rowsOf_mapConfig (i : RecordsInsert) (change : Config → Config) (records : List Json) :
    (i.mapConfig change).rowsOf records = i.rowsOf records := by
  induction records with
  | nil => rfl
  | cons record rest ih =>
      rw [rowsOf, rowsOf, ih]
      rfl

theorem recordFragment_decorated (hb : before ≠ "") (hh : hint ≠ "") (ha : behind ≠ "")
    (i : RecordsInsert) (record : Json) :
    Corresponds (Fragment.Decorates "insert" before hint behind)
      ((i.mapConfig .withoutTexts).recordFragment record)
      ((i.mapConfig (.withTexts before hint behind)).recordFragment record) := by
  refine Corresponds.same (i.rowOf record) fun row => ?_
  exact i.config.decorates_spaced hb hh ha (by decide) _

end RecordsInsert

/-- A statement that is not a union of selects begins with its keyword. -/
theorem Statement.fragment_decorated (hb : before ≠ "") (hh : hint ≠ "") (ha : behind ≠ "")
    (s : Statement) (hs : s.isMultiSelect = false) :
    Corresponds (Fragment.Decorates s.verb.name before hint behind)
      ((s.mapConfig .withoutTexts).fragment [])
      ((s.mapConfig (.withTexts before hint behind)).fragment []) := by
  cases s with
  | select q => exact q.fragment_decorated hb hh ha []
  | multiSelect q => cases hs
  | update u =>
      refine Corresponds.same _ fun sets => ?_
      refine Corresponds.same _ fun _ => ?_
      refine Corresponds.same _ fun filter => ?_
      exact u.config.decorates_spaced hb hh ha (by decide) _
  | delete d =>
      refine Corresponds.same _ fun filter => ?_
      exact d.config.decorates_spaced hb hh ha (by decide) _
  | insert i => exact singleRowFragment_decorated hb hh ha i.config i.table _
  | insertRecord i =>
      refine Corresponds.same _ fun values => ?_
      exact singleRowFragment_decorated hb hh ha i.config i.table _
  | insertRows i =>
      rw [mapConfig, mapConfig, fragment, fragment, RecordsInsert.fragment, RecordsInsert.fragment,
        i.rowsOf_mapConfig, i.rowsOf_mapConfig]
      refine Corresponds.same (i.rowsOf i.records) fun rows => ?_
      exact i.config.decorates_spaced hb hh ha (by decide) _
  | insertSelect i =>
      refine Corresponds.same _ fun select => ?_
      exact i.config.decorates_spaced hb hh ha (by decide) _

/-- A union of selects begins with the parenthesis of its first select. -/
theorem MultiSelect.fragment_surrounded (hb : before ≠ "") (ha : behind ≠ "") (m : MultiSelect) :
    Corresponds (Fragment.Surrounds before behind)
      (MultiSelect.fragment { m with config := m.config.withoutTexts } [])
      (MultiSelect.fragment { m with config := m.config.withTexts before hint behind } []) := by
  refine Corresponds.same _ fun first => ?_
  refine Corresponds.same _ fun others => ?_
  refine m.config.surrounds_wrapped hb ha ?_
  show (Fragment.spaced (Fragment.parenthesized first :: _)).isNothing = false
  rw [spaced_cons rfl]
  rfl

/-- **Configured texts are kept.**  With texts before a statement, behind its keyword and behind the
    statement, a statement or a batch fails as it does without them, or has the same parameters and
    the text that it has without them, with the three texts in their places.  A union of selects has
    two of them only. -/
theorem configured_texts_are_kept (hb : before ≠ "") (hh : hint ≠ "") (ha : behind ≠ "")
    (strategy : Strategy) :
    (∀ s : Statement, s.isMultiSelect = false →
      Corresponds (fun plain configured =>
          Decorated s.verb.name before hint behind plain.sql configured.sql ∧
            plain.parameters = configured.parameters)
        ((s.mapConfig .withoutTexts).rendered strategy)
        ((s.mapConfig (.withTexts before hint behind)).rendered strategy)) ∧
    (∀ s : Statement, s.isMultiSelect = true →
      Corresponds (fun plain configured =>
          Surrounded before behind plain.sql configured.sql ∧
            plain.parameters = configured.parameters)
        ((s.mapConfig .withoutTexts).rendered strategy)
        ((s.mapConfig (.withTexts before hint behind)).rendered strategy)) ∧
    (∀ i : RecordsInsert,
      Corresponds (fun plain configured =>
          Decorated "insert" before hint behind plain.sql configured.sql ∧
            plain.records = configured.records)
        ((i.mapConfig .withoutTexts).renderedBatch strategy)
        ((i.mapConfig (.withTexts before hint behind)).renderedBatch strategy)) := by
  refine ⟨fun s hs => ?_, fun s hs => ?_, fun i => ?_⟩
  · exact Statement.rendered_corresponds (Fragment.relatesTexts_decorates _ _ _ _)
      (s.fragment_decorated hb hh ha hs) strategy
  · cases s with
    | multiSelect m =>
        exact Statement.rendered_corresponds (Fragment.relatesTexts_surrounds _ _)
          (m.fragment_surrounded hb ha) strategy
    | _ => cases hs
  · refine RecordsInsert.renderedBatch_corresponds (Fragment.relatesTexts_decorates _ _ _ _) ?_
      (i.recordFragment_decorated hb hh ha) strategy
    rfl

/-- A delete with all three texts. -/
theorem configured_texts_are_kept_delete :
    "/* b */" ≠ "" ∧ "/* k */" ≠ "" ∧ "/* a */" ≠ "" ∧
      (Statement.delete ⟨"Person", some "p", none, [], some 3, {}⟩).isMultiSelect = false ∧
      Corresponds (fun plain configured =>
          Decorated "delete" "/* b */" "/* k */" "/* a */" plain.sql configured.sql ∧
            plain.parameters = configured.parameters)
        ((Statement.delete ⟨"Person", some "p", none, [], some 3, {}⟩).rendered .postgres)
        ((Statement.delete ⟨"Person", some "p", none, [], some 3,
          ⟨false, some "/* b */", some "/* k */", some "/* a */"⟩⟩).rendered .postgres) :=
  ⟨by decide, by decide, by decide, rfl,
    (configured_texts_are_kept (by decide) (by decide) (by decide) .postgres).1
      (.delete ⟨"Person", some "p", none, [], some 3, {}⟩) rfl⟩

/-- A union of selects is rendered without the text that was configured to stand behind its
    keyword. -/
theorem multiSelect_loses_hint :
    let query : Select := ⟨.ofColumns false [.constant "1"], [], [], {}, none, {}⟩
    let union : Statement := .multiSelect ⟨query, [], [], {}, {}⟩
    (union.mapConfig .withoutTexts).rendered .postgres =
        .ok ⟨.select, "(select 1)", .empty, .postgres⟩ ∧
      (union.mapConfig (.withTexts "/* b */" "/* k */" "/* a */")).rendered .postgres =
        .ok ⟨.select, "/* b */ (select 1) /* a */", .empty, .postgres⟩ :=
  ⟨rfl, rfl⟩

end Texts

end SqlComposer
