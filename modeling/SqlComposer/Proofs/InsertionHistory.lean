import Mathlib.Data.List.Forall2
import Mathlib.Data.List.Induction
import SqlComposer.Session.Template

/-! # Parameter maps after any history

    A parameter map is an association list in the order of insertion, with an index beside it.  What
    it holds after a history of insertions, extensions and collections depends only on the keys and
    values that were inserted, one after the other.  The route:

    * the laws of one insertion into entries: a second value replaces the first
      (`setEntry_setEntry`), and a key that is there is set before or after other keys alike
      (`setEntry_comm`);
    * by them, inserting entries that insertions have left is inserting what they inserted
      (`setEntries_setEntries`), so every history is one list of insertions
      (`MapHistory.run_eq_ofList`);
    * for a list of insertions the keys and the values are read off, insertion by insertion
      (`map_fst_setEntries`, `find?_setEntries`).

    The index is in step with the entries after every operation, so maps with equal entries are
    equal (`ParameterMap.equals_iff`).  Together: `MapHistory.run_holds`. -/

namespace SqlComposer

/-! ## One insertion into entries -/

/-- The keys stay as they are, or the new one follows them. -/
theorem map_fst_setEntry (key : String) (value : Value) (entries : List (String × Value)) :
    (setEntry key value entries).map (·.1) =
      if key ∈ entries.map (·.1) then entries.map (·.1) else entries.map (·.1) ++ [key] := by
  induction entries with
  | nil => rfl
  | cons entry rest ih =>
      obtain ⟨k, v⟩ := entry
      by_cases h : k = key
      · simp [setEntry, h]
      · rw [setEntry, if_neg h, List.map_cons, ih, List.map_cons]
        by_cases hm : key ∈ rest.map (·.1)
        · rw [if_pos hm, if_pos (List.mem_cons_of_mem k hm)]
        · have hnot : key ∉ k :: rest.map (·.1) := by
            rw [List.mem_cons, not_or]
            exact ⟨Ne.symm h, hm⟩
          rw [if_neg hm, if_neg hnot, List.cons_append]

theorem mem_map_fst_setEntry (key : String) (value : Value) (entries : List (String × Value)) :
    key ∈ (setEntry key value entries).map (·.1) := by
  rw [map_fst_setEntry]
  by_cases h : key ∈ entries.map (·.1)
  · rwa [if_pos h]
  · rw [if_neg h]
    exact List.mem_append_right _ (List.mem_singleton_self key)

/-- The first entry is found under its own key. -/
theorem find?_cons_entry (key other : String) (value : Value) (rest : List (String × Value)) :
    ((key, value) :: rest).find? (·.1 == other) =
      if key = other then some (key, value) else rest.find? (·.1 == other) := by
  by_cases h : key = other
  · rw [if_pos h, List.find?_cons_of_pos]
    exact beq_iff_eq.2 h
  · rw [if_neg h, List.find?_cons_of_neg]
    exact mt beq_iff_eq.1 h

/-- The value of the key is the new one, all others are kept. -/
theorem find?_setEntry (key other : String) (value : Value) (entries : List (String × Value)) :
    (setEntry key value entries).find? (·.1 == other) =
      if key = other then some (key, value) else entries.find? (·.1 == other) := by
  induction entries with
  | nil => rw [setEntry, find?_cons_entry]
  | cons entry rest ih =>
      obtain ⟨k, v⟩ := entry
      by_cases h : k = key
      · subst h
        rw [setEntry, if_pos rfl, find?_cons_entry, find?_cons_entry]
        split <;> rfl
      · rw [setEntry, if_neg h, find?_cons_entry, find?_cons_entry, ih]
        by_cases ho : key = other
        · subst ho
          rw [if_pos rfl, if_neg h, if_pos rfl]
        · rw [if_neg ho, if_neg ho]

/-- A second value under a key replaces the first. -/
theorem setEntry_setEntry (key : String) (old value : Value) (entries : List (String × Value)) :
    setEntry key value (setEntry key old entries) = setEntry key value entries := by
  induction entries with
  | nil => simp [setEntry]
  | cons entry rest ih =>
      obtain ⟨k, v⟩ := entry
      by_cases h : k = key
      · simp [setEntry, h]
      · simp [setEntry, h, ih]

/-- A key that is there has its place, so it is set before another key or after it alike. -/
theorem setEntry_comm {key other : String} (hne : key ≠ other) (value otherValue : Value)
    {entries : List (String × Value)} (h : key ∈ entries.map (·.1)) :
    setEntry key value (setEntry other otherValue entries) =
      setEntry other otherValue (setEntry key value entries) := by
  induction entries with
  | nil => cases h
  | cons entry rest ih =>
      obtain ⟨k, v⟩ := entry
      by_cases hk : k = key
      · subst hk
        simp [setEntry, hne]
      · have hrest : key ∈ rest.map (·.1) := by simpa [Ne.symm hk] using h
        by_cases ho : k = other
        · subst ho
          simp [setEntry, hk]
        · simp [setEntry, hk, ho, ih hrest]

/-! ## Many insertions -/

/-- Entries after insertions one after the other. -/
def setEntries (entries insertions : List (String × Value)) : List (String × Value) :=
  insertions.foldl (fun entries entry => setEntry entry.1 entry.2 entries) entries

theorem setEntries_cons (entries : List (String × Value)) (key : String) (value : Value)
    (rest : List (String × Value)) :
    setEntries entries ((key, value) :: rest) = setEntries (setEntry key value entries) rest := rfl

theorem setEntries_append (entries first second : List (String × Value)) :
    setEntries entries (first ++ second) = setEntries (setEntries entries first) second :=
  List.foldl_append

theorem setEntries_concat (entries insertions : List (String × Value)) (key : String)
    (value : Value) :
    setEntries entries (insertions ++ [(key, value)]) =
      setEntry key value (setEntries entries insertions) := setEntries_append _ _ _

/-- A key that is there and is not inserted may be set before the insertions or after them. -/
theorem setEntry_setEntries {key : String} (value : Value)
    {entries insertions : List (String × Value)} (h : key ∈ entries.map (·.1))
    (hnot : key ∉ insertions.map (·.1)) :
    setEntry key value (setEntries entries insertions) =
      setEntries (setEntry key value entries) insertions := by
  induction insertions generalizing entries with
  | nil => rfl
  | cons entry rest ih =>
      obtain ⟨k, v⟩ := entry
      rw [List.map_cons, List.mem_cons, not_or] at hnot
      have hmem : key ∈ (setEntry k v entries).map (·.1) := by
        rw [map_fst_setEntry]
        by_cases hk : k ∈ entries.map (·.1)
        · rwa [if_pos hk]
        · rw [if_neg hk]
          exact List.mem_append_left _ h
      rw [setEntries_cons, setEntries_cons, ih hmem hnot.2, setEntry_comm hnot.1 value v h]

/-- Inserting entries of which one has been set is inserting the entries and then that one. -/
theorem setEntries_setEntry (entries : List (String × Value)) (key : String) (value : Value)
    {insertions : List (String × Value)} (h : (insertions.map (·.1)).Nodup) :
    setEntries entries (setEntry key value insertions) =
      setEntry key value (setEntries entries insertions) := by
  induction insertions generalizing entries with
  | nil => rfl
  | cons entry rest ih =>
      obtain ⟨k, v⟩ := entry
      rw [List.map_cons, List.nodup_cons] at h
      by_cases hk : k = key
      · -- the key is set where it stood, and nothing behind it has the key again
        subst hk
        rw [setEntry, if_pos rfl, setEntries_cons, setEntries_cons,
          setEntry_setEntries value (mem_map_fst_setEntry k v entries) h.1, setEntry_setEntry]
      · rw [setEntry, if_neg hk, setEntries_cons, setEntries_cons, ih _ h.2]

/-! ## Keys and values of insertions -/

/-- The value that was inserted last under a key. -/
def lastValue? (insertions : List (String × Value)) (key : String) : Option Value :=
  (insertions.reverse.find? (·.1 == key)).map (·.2)

/-- An element behind others is kept when it is new. -/
theorem eraseDups_concat (keys : List String) (key : String) :
    (keys ++ [key]).eraseDups =
      if key ∈ keys then keys.eraseDups else keys.eraseDups ++ [key] := by
  rw [List.eraseDups_append, List.removeAll]
  by_cases h : key ∈ keys
  · simp [h]
  · simp [h, List.eraseDups_cons]

/-- The keys after insertions are the distinct ones, in the order in which they first came. -/
theorem map_fst_setEntries (insertions : List (String × Value)) :
    (setEntries [] insertions).map (·.1) = (insertions.map (·.1)).eraseDups := by
  induction insertions using List.reverseRecOn with
  | nil => rfl
  | append_singleton rest entry ih =>
      obtain ⟨k, v⟩ := entry
      rw [setEntries_concat, map_fst_setEntry, ih, List.map_append, List.map_singleton,
        eraseDups_concat]
      simp only [List.mem_eraseDups]

/-- The value of a key after insertions is the one inserted last. -/
theorem find?_setEntries (insertions : List (String × Value)) (key : String) :
    ((setEntries [] insertions).find? (·.1 == key)).map (·.2) = lastValue? insertions key := by
  induction insertions using List.reverseRecOn with
  | nil => rfl
  | append_singleton rest entry ih =>
      obtain ⟨k, v⟩ := entry
      rw [setEntries_concat, find?_setEntry, lastValue?, List.reverse_append,
        List.reverse_singleton, List.singleton_append, find?_cons_entry]
      split
      · rfl
      · exact ih

namespace ParameterMap

/-- A map holds each key once. -/
theorem nodup_keys (map : ParameterMap) : map.keys.Nodup := by
  rw [List.nodup_iff_pairwise_ne, List.pairwise_iff_getElem]
  intro i j hi hj hlt he
  -- the index knows one place of the key only
  have hplace := (map.inStep map.keys[j] j).2 (List.getElem?_eq_getElem hj)
  have hsame := (map.inStep.place_unique hplace i).1 (he ▸ List.getElem?_eq_getElem hi)
  omega

theorem entries_insertAll (map : ParameterMap) (insertions : List (String × Value)) :
    (map.insertAll insertions).entries = setEntries map.entries insertions := by
  induction insertions generalizing map with
  | nil => rfl
  | cons entry rest ih =>
      show ((map.insert entry.1 entry.2).insertAll rest).entries = _
      rw [ih, entries_insert]
      rfl

theorem entries_ofList (insertions : List (String × Value)) :
    (ofList insertions).entries = setEntries [] insertions := entries_insertAll empty insertions

/-- What is inserted behind other insertions is inserted into what they have left. -/
theorem ofList_append (first second : List (String × Value)) :
    ofList (first ++ second) = (ofList first).insertAll second := List.foldl_append

end ParameterMap

/-- Inserting what insertions have left is inserting what they inserted. -/
theorem setEntries_setEntries (entries insertions : List (String × Value)) :
    setEntries entries (setEntries [] insertions) = setEntries entries insertions := by
  induction insertions using List.reverseRecOn with
  | nil => rfl
  | append_singleton rest entry ih =>
      obtain ⟨key, value⟩ := entry
      have hnodup : ((setEntries [] rest).map (·.1)).Nodup := by
        rw [← ParameterMap.entries_ofList]
        exact (ParameterMap.ofList rest).nodup_keys
      rw [setEntries_concat, setEntries_setEntry entries key value hnodup, ih, setEntries_concat]

/-! ## Histories -/

/-- How a map has come about. -/
inductive MapHistory where
  | empty
  | insert (before : MapHistory) (key : String) (value : Value)
  | extend (before other : MapHistory)
  | collect (pairs : List (String × Value))

namespace MapHistory

/-- The map that a history leaves. -/
def run : MapHistory → ParameterMap
  | empty => .empty
  | insert before key value => before.run.insert key value
  | extend before other => before.run.extend other.run
  | collect pairs => .ofList pairs

/-- What a history inserts, one after the other. -/
def insertions : MapHistory → List (String × Value)
  | empty => []
  | insert before key value => before.insertions ++ [(key, value)]
  | extend before other => before.insertions ++ other.insertions
  | collect pairs => pairs

/-- A history leaves what its insertions leave. -/
theorem run_eq_ofList (h : MapHistory) : h.run = .ofList h.insertions := by
  induction h with
  | empty => rfl
  | insert before key value ih =>
      rw [insertions, ParameterMap.ofList_append, ← ih]
      rfl
  | extend before other ihb iho =>
      rw [insertions, ParameterMap.ofList_append, ← ihb]
      apply ParameterMap.ext
      -- the other map has been collected from its insertions, and nothing else of it matters
      rw [run, ParameterMap.extend, ParameterMap.entries_insertAll, iho,
        ParameterMap.entries_ofList, setEntries_setEntries, ParameterMap.entries_insertAll]
  | collect pairs => rfl

end MapHistory

/-! ## What a map holds -/

/-- A map holds insertions: the distinct keys in the order in which they first came, each in the
    place that the index knows and with the value inserted last.  Everything that is read off the
    map follows its keys. -/
structure ParameterMap.Holds (map : ParameterMap) (insertions : List (String × Value)) : Prop where
  keys : map.keys = (insertions.map (·.1)).eraseDups
  once : map.keys.Nodup
  index : ∀ (key : String) (place : Nat),
    map.index[key]? = some place ↔ map.keys[place]? = some key
  value : ∀ key, map.get? key = lastValue? insertions key
  present : ∀ key, map.contains key = (map.get? key).isSome
  values : map.values.map some = map.keys.map map.get?
  entries : map.entries = map.keys.zip map.values
  size : map.size = map.keys.length
  isEmpty : map.isEmpty = map.keys.isEmpty
  jsonText : map.jsonText = Json.braced (map.keys.zip (map.values.map Value.jsonText))
  bound : ∀ sql, Template.positional sql map .postgres = .ok ⟨sql, map.values⟩

namespace ParameterMap

/-- The index knows the keys that have a value. -/
theorem contains_eq (map : ParameterMap) (key : String) :
    map.contains key = (map.get? key).isSome := by
  rw [contains, get?, Std.ExtTreeMap.contains_eq_isSome_getElem?]
  cases h : map.index[key]? with
  | none => rfl
  | some place =>
      have hkey := (map.inStep key place).1 h
      rw [List.getElem?_map] at hkey
      cases he : map.entries[place]? with
      | none =>
          rw [he] at hkey
          cases hkey
      | some entry => simp [he]

/-- The value of a place is that of its key. -/
theorem values_eq_get? (map : ParameterMap) : map.values.map some = map.keys.map map.get? := by
  refine List.ext_getElem? fun place => ?_
  rw [values, keys, List.getElem?_map, List.getElem?_map, List.getElem?_map, List.getElem?_map]
  cases he : map.entries[place]? with
  | none => rfl
  | some entry =>
      have hkey : (map.entries.map (·.1))[place]? = some entry.1 := by
        rw [List.getElem?_map, he]
        rfl
      have hindex := (map.inStep entry.1 place).2 hkey
      simp [get?, hindex, he]

/-- A map holds what it was collected from. -/
theorem holds_ofList (insertions : List (String × Value)) :
    (ofList insertions).Holds insertions where
  keys := by
    rw [keys, entries_ofList]
    exact map_fst_setEntries insertions
  once := nodup_keys _
  index := (ofList insertions).inStep
  value key := by
    rw [get?_eq_find?, entries_ofList]
    exact find?_setEntries insertions key
  present := contains_eq _
  values := values_eq_get? _
  entries := List.zip_of_prod rfl rfl
  size := (List.length_map _).symm
  isEmpty := List.isEmpty_map.symm
  jsonText := by
    rw [jsonText, keys, values, List.map_map, List.zip_map']
    rfl
  bound _ := rfl

end ParameterMap

/-! ## Equality -/

/-- Entries with the same key and equal values. -/
def EqualEntries (a b : String × Value) : Prop := a.1 = b.1 ∧ a.2.equals b.2

/-- Equal entries have the same keys. -/
theorem map_fst_of_equalEntries {a b : List (String × Value)} (h : List.Forall₂ EqualEntries a b) :
    a.map (·.1) = b.map (·.1) := by
  induction h with
  | nil => rfl
  | cons hxy _ ih => rw [List.map_cons, List.map_cons, hxy.1, ih]

namespace ParameterMap

/-- Lists of entries are compared entry by entry. -/
theorem entriesEqual_iff (a b : List (String × Value)) :
    entriesEqual a b ↔ List.Forall₂ EqualEntries a b := by
  induction a generalizing b with
  | nil => cases b <;> simp [entriesEqual]
  | cons x a ih =>
      cases b with
      | nil => simp [entriesEqual]
      | cons y b =>
          rw [List.forall₂_cons, ← ih, EqualEntries]
          simp only [entriesEqual, List.length_cons, List.zip_cons_cons, List.all_cons,
            Bool.and_eq_true, beq_iff_eq, Nat.add_right_cancel_iff]
          tauto

/-- Maps are equal exactly when their entries are, for these tell the places of the keys. -/
theorem equals_iff (a b : ParameterMap) :
    a.equals b ↔ List.Forall₂ EqualEntries a.entries b.entries := by
  rw [equals, Bool.and_eq_true, entriesEqual_iff]
  refine and_iff_left_of_imp fun h => ?_
  rw [a.inStep.unique b.inStep (map_fst_of_equalEntries h)]
  exact beq_self_eq_true _

end ParameterMap

/-- **Maps as lists of insertions.**  Whatever insertions, extensions and collections have made a
    map, it holds what they inserted, one after the other, as if it had been collected from these
    insertions; and how a map was made does not matter for its equality with another one, which is
    the equality of their entries in order. -/
theorem MapHistory.run_holds (h : MapHistory) :
    h.run.Holds h.insertions ∧
    h.run = ParameterMap.empty.insertAll h.insertions ∧
    (∀ other : MapHistory, (h.extend other).run = h.run.insertAll other.run.entries) ∧
    (∀ pairs, (collect pairs).run = ParameterMap.empty.insertAll pairs) ∧
    ∀ other : MapHistory,
      (h.run.equals other.run ↔ List.Forall₂ EqualEntries h.run.entries other.run.entries) ∧
      (h.run = other.run ↔ h.run.entries = other.run.entries) := by
  refine ⟨?_, h.run_eq_ofList, fun _ => rfl, fun _ => rfl, ?_⟩
  · rw [run_eq_ofList]
    exact ParameterMap.holds_ofList h.insertions
  · intro other
    refine ⟨h.run.equals_iff other.run, ?_, ParameterMap.ext⟩
    intro he
    rw [he]

example :
    let first := MapHistory.empty.insert "b" (.int 1)
    let second := MapHistory.collect [("a", .int 2), ("b", .int 3), ("a", .int 4)]
    (first.extend second).run.entries = [("b", .int 3), ("a", .int 4)] := by rfl

end SqlComposer
