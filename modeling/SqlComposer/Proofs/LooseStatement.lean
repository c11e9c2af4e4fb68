import SqlComposer.Proofs.LooseQuery
import SqlComposer.Proofs.StatementFragment

/-! # Statements with neutral texts denote loose fragments

    Updates, deletes, inserts and unions of selects put the parts of queries together with joints of
    their own. -/

namespace SqlComposer

open Fragment

variable {scopes : List Scope} {f : Fragment}

/-! ## Updates and deletes -/

/-- A set is loose, if its value is there. -/
theorem loose_setFragment {set : Assignment SetValue} {r : Option Fragment}
    (hn : AllNeutral set.value.rawTexts) (hs : AllNeutral (Scope.allRawTexts scopes))
    (h : setFragment? set scopes = .ok r) : ∀ g ∈ r, g.Loose := by
  obtain ⟨column, value⟩ := set
  cases value with
  | bound value =>
      cases value with
      | none =>
          cases h
          intro g hg
          cases hg
      | some value =>
          cases h
          rintro g ⟨⟩
          exact loose_ofValue value _
  | null =>
      cases h
      rintro g ⟨⟩
      exact loose_plain (by rfl)
  | constant s =>
      cases h
      rintro g ⟨⟩
      exact loose_of_neutral (hn s (List.mem_singleton_self _))
  | stringConstant s =>
      cases h
      rintro g ⟨⟩
      exact loose_stringConstant s
  | expr e =>
      obtain ⟨g, hg, hr⟩ := exists_of_bind_ok h
      cases hr
      rintro g' ⟨⟩
      exact e.loose_fragment hn hs hg
  | subquery query =>
      obtain ⟨g, hg, hr⟩ := exists_of_bind_ok h
      cases hr
      rintro g' ⟨⟩
      exact (query.loose_fragment hn hs hg).parenthesized

/-- The sets of an update are loose. -/
theorem loose_setFragments {sets : List (Assignment SetValue)} {fs : List Fragment}
    (hn : AllNeutral (Assignment.allRawTexts SetValue.rawTexts sets))
    (hs : AllNeutral (Scope.allRawTexts scopes)) (h : setFragments sets scopes = .ok fs) :
    ∀ g ∈ fs, g.Loose := by
  induction sets generalizing fs with
  | nil =>
      cases h
      exact List.forall_mem_nil _
  | cons set rest ih =>
      obtain ⟨hset, hrest⟩ := List.forall_mem_append.mp hn
      obtain ⟨hcolumn, hvalue⟩ := List.forall_mem_append.mp hset
      obtain ⟨value, hv, h⟩ := exists_of_bind_ok h
      obtain ⟨others, ho, hr⟩ := exists_of_bind_ok h
      cases hr
      refine List.forall_mem_append.mpr ⟨?_, ih hrest ho⟩
      intro g hg
      obtain ⟨own, hm, rfl⟩ := List.mem_map.mp hg
      have hl := loose_setFragment hvalue hs hv own (Option.mem_toList.mp hm)
      have hname := loose_of_neutral (hcolumn set.column.name (List.mem_cons_self ..))
      exact loose_labelled hname (by rfl) hl

theorem loose_filterFragment {config : Config} {filter : Option CriteriaGroup}
    (hn : AllNeutral (CriteriaGroup.optionRawTexts filter))
    (hs : AllNeutral (Scope.allRawTexts scopes))
    (h : filterFragment config filter scopes = .ok f) : f.Loose := by
  obtain ⟨parts, hp, hw⟩ := exists_of_bind_ok h
  exact loose_whereClause (CriteriaGroup.loose_clauseParts filter hn hs hp) hw

/-- A limit at the end of an update or a delete. -/
theorem loose_limit (limit : Option Int64) : (Fragment.countClause "limit " limit "").Loose :=
  loose_countClause (by rfl) trailing_empty limit

/-- An update with neutral texts is loose. -/
theorem Update.loose_fragment {u : Update} (hn : AllNeutral (Statement.update u).rawTexts)
    (h : u.fragment [] = .ok f) : f.Loose := by
  obtain ⟨htable, hn⟩ := List.forall_mem_cons.mp hn
  obtain ⟨hn, hconfig⟩ := List.forall_mem_append.mp hn
  obtain ⟨hn, horder⟩ := List.forall_mem_append.mp hn
  obtain ⟨hn, hfilter⟩ := List.forall_mem_append.mp hn
  obtain ⟨halias, hsets⟩ := List.forall_mem_append.mp hn
  -- the scope of the update gives its alias and nothing else
  have hs := neutral_ofTable u.table halias
  obtain ⟨sets, hset, h⟩ := exists_of_bind_ok h
  obtain ⟨-, -, h⟩ := exists_of_bind_ok h
  obtain ⟨filter, hf, hr⟩ := exists_of_bind_ok h
  cases hr
  refine Config.loose_wrapped hconfig (loose_spaced ?_)
  refine List.forall_mem_cons.mpr ⟨Config.loose_keyword (by rfl) hconfig, ?_⟩
  refine List.forall_mem_cons.mpr ⟨loose_tableText htable halias, ?_⟩
  refine List.forall_mem_cons.mpr
    ⟨loose_listClause (by rfl) (loose_setFragments hsets hs hset), ?_⟩
  refine List.forall_mem_cons.mpr ⟨loose_filterFragment hfilter hs hf, ?_⟩
  refine List.forall_mem_cons.mpr ⟨loose_orderClause horder, ?_⟩
  exact List.forall_mem_cons.mpr ⟨loose_limit u.limit, List.forall_mem_nil _⟩

/-- A delete with neutral texts is loose. -/
theorem Delete.loose_fragment {d : Delete} (hn : AllNeutral (Statement.delete d).rawTexts)
    (h : d.fragment [] = .ok f) : f.Loose := by
  obtain ⟨htable, hn⟩ := List.forall_mem_cons.mp hn
  obtain ⟨hn, hconfig⟩ := List.forall_mem_append.mp hn
  obtain ⟨hn, horder⟩ := List.forall_mem_append.mp hn
  obtain ⟨halias, hfilter⟩ := List.forall_mem_append.mp hn
  have hs := neutral_ofTable d.table halias
  obtain ⟨filter, hf, hr⟩ := exists_of_bind_ok h
  cases hr
  refine Config.loose_wrapped hconfig (loose_spaced ?_)
  refine List.forall_mem_cons.mpr ⟨Config.loose_keyword (by rfl) hconfig, ?_⟩
  refine List.forall_mem_cons.mpr
    ⟨loose_prefixedText (by rfl) (loose_tableText htable halias), ?_⟩
  refine List.forall_mem_cons.mpr ⟨loose_filterFragment hfilter hs hf, ?_⟩
  refine List.forall_mem_cons.mpr ⟨loose_orderClause horder, ?_⟩
  exact List.forall_mem_cons.mpr ⟨loose_limit d.limit, List.forall_mem_nil _⟩

/-! ## Inserts -/

/-- The names of columns in parentheses. -/
theorem loose_columnNames {columns : List String} (hc : AllNeutral columns) :
    Fragment.Loose (ofText (SqlComposer.parenthesized (SqlComposer.listed columns))) := by
  have hl := loose_listedTexts fun s hs => loose_of_neutral (hc s hs)
  exact loose_followedText (loose_prefixedText (by rfl) hl) (by rfl)

/-- The texts around the rows of an insert keep them loose. -/
theorem loose_insertFragment {config : Config} {table : String} {columns : List String}
    (hconfig : AllNeutral config.rawTexts) (ht : Neutral table.toList) (hc : AllNeutral columns)
    (hf : f.Loose) : (insertFragment config table columns f).Loose := by
  refine Config.loose_wrapped hconfig (loose_spaced ?_)
  refine List.forall_mem_cons.mpr ⟨Config.loose_keyword (by rfl) hconfig, ?_⟩
  refine List.forall_mem_cons.mpr ⟨loose_plain (by rfl), ?_⟩
  refine List.forall_mem_cons.mpr ⟨loose_of_neutral ht, ?_⟩
  exact List.forall_mem_cons.mpr
    ⟨loose_columnNames hc, List.forall_mem_cons.mpr ⟨hf, List.forall_mem_nil _⟩⟩

theorem loose_rowFragment {values : List Fragment} (h : ∀ g ∈ values, g.Loose) :
    (rowFragment values).Loose :=
  (loose_listed h).parenthesized

/-- An insert of one row is loose if its columns are neutral and its values loose. -/
theorem loose_singleRowFragment {config : Config} {table : String}
    {values : List (String × Fragment)} (hconfig : AllNeutral config.rawTexts)
    (ht : Neutral table.toList) (hv : ∀ value ∈ values, Neutral value.1.toList ∧ value.2.Loose)
    (h : singleRowFragment config table values = .ok f) : f.Loose := by
  cases values with
  | nil => cases h
  | cons value rest =>
      cases h
      refine loose_insertFragment hconfig ht ?_ ?_
      · intro s hs
        obtain ⟨value, hm, rfl⟩ := List.mem_map.mp hs
        exact (hv value hm).1
      · refine (tight_ofText (by rfl)).append_loose (loose_rowFragment ?_)
        intro g hg
        obtain ⟨value, hm, rfl⟩ := List.mem_map.mp hg
        exact (hv value hm).2

/-- The columns that have a value: neutral names with loose values. -/
theorem loose_presentFragments {α : Type} {texts : α → List String}
    {mappings : List (Assignment α)} {values : List (Option Fragment)}
    (hn : AllNeutral (Assignment.allRawTexts texts mappings))
    (hv : ∀ value ∈ values, ∀ g ∈ value, g.Loose) :
    ∀ value ∈ presentFragments mappings values, Neutral value.1.toList ∧ value.2.Loose := by
  intro value hm
  obtain ⟨⟨mapping, own⟩, hz, hp⟩ := List.mem_filterMap.mp hm
  obtain ⟨g, hg, rfl⟩ := Option.map_eq_some_iff.mp hp
  obtain ⟨hmapping, hown⟩ := List.of_mem_zip hz
  refine ⟨hn _ ?_, hv own hown g hg⟩
  exact List.mem_flatMap.mpr ⟨mapping, hmapping, List.mem_append_left _ (List.mem_cons_self ..)⟩

/-- The texts of one column among those of all. -/
theorem neutral_of_mem_mappings {α : Type} {texts : α → List String}
    {mappings : List (Assignment α)} (hn : AllNeutral (Assignment.allRawTexts texts mappings))
    {mapping : Assignment α} (hm : mapping ∈ mappings) : AllNeutral (texts mapping.value) := by
  intro s hs
  exact hn s (List.mem_flatMap.mpr ⟨mapping, hm, List.mem_append_right _ hs⟩)

/-- A value of an insert is loose, if it is there. -/
theorem loose_insertValue {mapping : Assignment InsertValue}
    (hn : AllNeutral mapping.value.rawTexts) : ∀ g ∈ insertFragment? mapping, g.Loose := by
  obtain ⟨column, value⟩ := mapping
  match value with
  | .bound none =>
      intro g hg
      cases hg
  | .bound (some value) =>
      rintro g ⟨⟩
      exact loose_ofValue value _
  | .null =>
      rintro g ⟨⟩
      exact loose_plain (by rfl)
  | .constant s =>
      rintro g ⟨⟩
      exact loose_of_neutral (hn s (List.mem_singleton_self _))
  | .stringConstant s =>
      rintro g ⟨⟩
      exact loose_stringConstant s

theorem Insert.loose_fragment {i : Insert} (hn : AllNeutral (Statement.insert i).rawTexts)
    (h : i.fragment = .ok f) : f.Loose := by
  obtain ⟨htable, hn⟩ := List.forall_mem_cons.mp hn
  obtain ⟨hmappings, hconfig⟩ := List.forall_mem_append.mp hn
  refine loose_singleRowFragment hconfig htable (loose_presentFragments hmappings ?_) h
  intro value hv
  obtain ⟨mapping, hm, rfl⟩ := List.mem_map.mp hv
  exact loose_insertValue (neutral_of_mem_mappings hmappings hm)

/-! ## Inserts of records -/

/-- A value of a record is a slot, or a raw text that is neutral. -/
theorem loose_recordValue {record : Json} {mapping : Assignment RecordValue}
    {r : Option Fragment} (hn : AllNeutral mapping.value.rawTexts)
    (h : recordFragment? record mapping = .ok r) : ∀ g ∈ r, g.Loose := by
  obtain ⟨column, value⟩ := mapping
  cases value with
  | property path =>
      cases hp : record.property? path with
      | none =>
          simp only [recordFragment?, hp] at h
          cases h
      | some property =>
          simp only [recordFragment?, hp] at h
          cases h
          rintro g ⟨⟩
          exact loose_ofValue _ _
  | propertyWhenPresent path =>
      cases hp : record.property? path with
      | none =>
          simp only [recordFragment?, hp] at h
          cases h
          intro g hg
          cases hg
      | some property =>
          simp only [recordFragment?, hp] at h
          by_cases hnull : property.isNull = true
          · rw [if_pos hnull] at h
            cases h
            intro g hg
            cases hg
          · rw [if_neg hnull] at h
            cases h
            rintro g ⟨⟩
            exact loose_ofValue _ _
  | row =>
      cases h
      rintro g ⟨⟩
      exact loose_ofValue _ _
  | null =>
      cases h
      rintro g ⟨⟩
      exact loose_plain (by rfl)
  | constant s =>
      cases h
      rintro g ⟨⟩
      exact loose_of_neutral (hn s (List.mem_singleton_self _))
  | stringConstant s =>
      cases h
      rintro g ⟨⟩
      exact loose_stringConstant s

/-- The values of a record are loose. -/
theorem loose_recordFragments {record : Json} {mappings : List (Assignment RecordValue)}
    {values : List (Option Fragment)}
    (hn : AllNeutral (Assignment.allRawTexts RecordValue.rawTexts mappings))
    (h : recordFragments record mappings = .ok values) :
    ∀ value ∈ values, ∀ g ∈ value, g.Loose := by
  induction mappings generalizing values with
  | nil =>
      cases h
      exact List.forall_mem_nil _
  | cons mapping rest ih =>
      obtain ⟨hmapping, hrest⟩ := List.forall_mem_append.mp hn
      obtain ⟨-, hvalue⟩ := List.forall_mem_append.mp hmapping
      obtain ⟨value, hv, h⟩ := exists_of_bind_ok h
      obtain ⟨others, ho, hr⟩ := exists_of_bind_ok h
      cases hr
      exact List.forall_mem_cons.mpr ⟨loose_recordValue hvalue hv, ih hrest ho⟩

theorem RecordInsert.loose_fragment {i : RecordInsert}
    (hn : AllNeutral (Statement.insertRecord i).rawTexts) (h : i.fragment = .ok f) : f.Loose := by
  obtain ⟨htable, hn⟩ := List.forall_mem_cons.mp hn
  obtain ⟨hmappings, hconfig⟩ := List.forall_mem_append.mp hn
  obtain ⟨values, hv, h⟩ := exists_of_bind_ok h
  have hl := loose_presentFragments hmappings (loose_recordFragments hmappings hv)
  exact loose_singleRowFragment hconfig htable hl h

namespace RecordsInsert

variable {i : RecordsInsert}

theorem loose_rowOf {record : Json}
    (hn : AllNeutral (Assignment.allRawTexts RecordValue.rawTexts i.mappings))
    (h : i.rowOf record = .ok f) : f.Loose := by
  obtain ⟨values, hv, hr⟩ := exists_of_bind_ok h
  cases hr
  refine loose_rowFragment ?_
  intro g hg
  obtain ⟨value, hm, rfl⟩ := List.mem_filterMap.mp hg
  exact loose_recordFragments hn hv _ hm g rfl

/-- The rows of several records are loose. -/
theorem loose_rowsOf {records : List Json} {fs : List Fragment}
    (hn : AllNeutral (Assignment.allRawTexts RecordValue.rawTexts i.mappings))
    (h : i.rowsOf records = .ok fs) : ∀ g ∈ fs, g.Loose := by
  induction records generalizing fs with
  | nil =>
      cases h
      exact List.forall_mem_nil _
  | cons record rest ih =>
      obtain ⟨row, hrow, h⟩ := exists_of_bind_ok h
      obtain ⟨others, ho, hr⟩ := exists_of_bind_ok h
      cases hr
      exact List.forall_mem_cons.mpr ⟨loose_rowOf hn hrow, ih ho⟩

/-- An insert of several records is loose if the texts of its mappings are neutral. -/
theorem loose_fragment (hn : AllNeutral (Statement.insertRows i).rawTexts)
    (h : i.fragment = .ok f) : f.Loose := by
  obtain ⟨htable, hn⟩ := List.forall_mem_cons.mp hn
  obtain ⟨hmappings, hconfig⟩ := List.forall_mem_append.mp hn
  obtain ⟨rows, hrows, hr⟩ := exists_of_bind_ok h
  cases hr
  -- the columns are those of the mappings, whatever the records are
  refine loose_insertFragment hconfig htable ?_ ?_
  · intro s hs
    obtain ⟨mapping, hm, rfl⟩ := List.mem_map.mp hs
    refine hmappings _ (List.mem_flatMap.mpr ⟨mapping, hm, ?_⟩)
    exact List.mem_append_left _ (List.mem_cons_self ..)
  · exact (tight_ofText (by rfl)).append_loose (loose_listed (loose_rowsOf hmappings hrows))

end RecordsInsert

/-! ## Selects in statements -/

/-- An insert from a select is loose if both have neutral texts. -/
theorem InsertSelect.loose_fragment {i : InsertSelect}
    (hn : AllNeutral (Statement.insertSelect i).rawTexts) (h : i.fragment [] = .ok f) :
    f.Loose := by
  obtain ⟨htable, hn⟩ := List.forall_mem_cons.mp hn
  obtain ⟨hn, hconfig⟩ := List.forall_mem_append.mp hn
  obtain ⟨hcolumns, hselect⟩ := List.forall_mem_append.mp hn
  obtain ⟨select, hs, hr⟩ := exists_of_bind_ok h
  cases hr
  refine Config.loose_wrapped hconfig (loose_spaced ?_)
  refine List.forall_mem_cons.mpr ⟨Config.loose_keyword (by rfl) hconfig, ?_⟩
  refine List.forall_mem_cons.mpr ⟨loose_plain (by rfl), ?_⟩
  refine List.forall_mem_cons.mpr ⟨loose_of_neutral htable, ?_⟩
  refine List.forall_mem_cons.mpr ⟨?_, List.forall_mem_cons.mpr ⟨?_, List.forall_mem_nil _⟩⟩
  · split
    · exact loose_plain (by rfl)
    · exact loose_columnNames hcolumns
  · exact i.select.loose_fragment hselect (List.forall_mem_nil _) hs

/-- Selects behind unions are loose, each in its parentheses. -/
theorem MultiSelect.loose_unionFragments {unions : List (UnionKind × Select)}
    {fs : List Fragment} (hn : AllNeutral (MultiSelect.unionRawTexts unions))
    (h : MultiSelect.unionFragments unions [] = .ok fs) : ∀ g ∈ fs, g.Loose := by
  induction unions generalizing fs with
  | nil =>
      cases h
      exact List.forall_mem_nil _
  | cons union rest ih =>
      obtain ⟨kind, select⟩ := union
      obtain ⟨hselect, hrest⟩ := List.forall_mem_append.mp hn
      obtain ⟨g, hg, h⟩ := exists_of_bind_ok h
      obtain ⟨others, ho, hr⟩ := exists_of_bind_ok h
      cases hr
      have hk : Fragment.Loose (ofText kind.text) := by
        cases kind <;> exact loose_plain (by rfl)
      have hl := select.loose_fragment hselect (List.forall_mem_nil _) hg
      exact List.forall_mem_cons.mpr ⟨hk, List.forall_mem_cons.mpr ⟨hl.parenthesized, ih hrest ho⟩⟩

/-- A union of selects with neutral texts is loose. -/
theorem MultiSelect.loose_fragment {m : MultiSelect}
    (hn : AllNeutral (Statement.multiSelect m).rawTexts) (h : m.fragment [] = .ok f) :
    f.Loose := by
  obtain ⟨hn, hconfig⟩ := List.forall_mem_append.mp hn
  obtain ⟨hn, horder⟩ := List.forall_mem_append.mp hn
  obtain ⟨hfirst, hunions⟩ := List.forall_mem_append.mp hn
  obtain ⟨first, hf, h⟩ := exists_of_bind_ok h
  obtain ⟨others, ho, hr⟩ := exists_of_bind_ok h
  cases hr
  have hl := m.first.loose_fragment hfirst (List.forall_mem_nil _) hf
  refine Config.loose_wrapped hconfig (loose_spaced (List.forall_mem_append.mpr ⟨?_, ?_⟩))
  · exact List.forall_mem_cons.mpr
      ⟨hl.parenthesized, MultiSelect.loose_unionFragments hunions ho⟩
  · exact List.forall_mem_cons.mpr ⟨loose_orderClause horder,
      List.forall_mem_cons.mpr ⟨m.paging.loose_fragment, List.forall_mem_nil _⟩⟩

/-- **A statement whose raw texts are neutral denotes a loose fragment.** -/
theorem Statement.loose_fragment {s : Statement} (hn : AllNeutral s.rawTexts)
    (h : s.fragment [] = .ok f) : f.Loose := by
  cases s with
  | select q => exact q.loose_fragment hn (List.forall_mem_nil _) h
  | multiSelect q => exact MultiSelect.loose_fragment hn h
  | update u => exact Update.loose_fragment hn h
  | delete d => exact Delete.loose_fragment hn h
  | insert i => exact Insert.loose_fragment hn h
  | insertRecord i => exact RecordInsert.loose_fragment hn h
  | insertRows i => exact RecordsInsert.loose_fragment hn h
  | insertSelect i => exact InsertSelect.loose_fragment hn h

end SqlComposer
