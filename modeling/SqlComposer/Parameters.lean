import SqlComposer.Value.Text
import Std.Data.ExtTreeMap.Lemmas

/-! # Parameter maps

A parameter map holds each key once, in the order in which the keys first came.  Inserting under a
key that is there replaces its value and keeps its place.  Beside the entries the map keeps an index
of the places of the keys, by which values are looked up; it is in step with the entries, so a map
is determined by its list of entries. -/

namespace SqlComposer

open Std (ExtTreeMap)

/-- Entries with the value of one key set: in its place when the key is there, else at the end. -/
def setEntry (key : String) (value : Value) : List (String × Value) → List (String × Value)
  | [] => [(key, value)]
  | (k, v) :: rest =>
    if k = key then (k, value) :: rest else (k, v) :: setEntry key value rest

/-- A key that is not there is set behind all entries. -/
theorem setEntry_of_not_mem {key : String} (value : Value) {entries : List (String × Value)}
    (h : key ∉ entries.map (·.1)) : setEntry key value entries = entries ++ [(key, value)] := by
  induction entries with
  | nil => rfl
  | cons entry rest ih =>
    obtain ⟨k, v⟩ := entry
    rw [List.map_cons, List.mem_cons, not_or] at h
    obtain ⟨hk, hr⟩ := h
    rw [setEntry, if_neg (Ne.symm hk), ih hr]
    rfl

/-- A key that is in one place only is set there. -/
theorem setEntry_of_place {key : String} (value : Value) {entries : List (String × Value)}
    {place : Nat} (h : ∀ p, (entries.map (·.1))[p]? = some key ↔ p = place) :
    setEntry key value entries = entries.modify place fun entry => (entry.1, value) := by
  induction entries generalizing place with
  | nil => exact absurd ((h place).2 rfl) (by simp)
  | cons entry rest ih =>
    obtain ⟨k, v⟩ := entry
    cases place with
    | zero =>
      have hk : k = key := by simpa using (h 0).2 rfl
      rw [setEntry, if_pos hk, List.modify_zero_cons]
    | succ place =>
      have hk : ¬k = key := fun e => absurd ((h 0).1 (congrArg some e)) (Nat.succ_ne_zero place).symm
      rw [setEntry, if_neg hk, List.modify_succ_cons, ih]
      intro p
      simpa using h (p + 1)

/-- A key that is in one place only is found there. -/
theorem find?_of_place {key : String} {entries : List (String × Value)} {place : Nat}
    (h : ∀ p, (entries.map (·.1))[p]? = some key ↔ p = place) :
    entries.find? (·.1 == key) = entries[place]? := by
  induction entries generalizing place with
  | nil => rfl
  | cons entry rest ih =>
    obtain ⟨k, v⟩ := entry
    cases place with
    | zero =>
      have hk : k = key := by simpa using (h 0).2 rfl
      rw [List.find?_cons_of_pos]
      · rfl
      · exact beq_iff_eq.2 hk
    | succ place =>
      have hk : ¬k = key := fun e => absurd ((h 0).1 (congrArg some e)) (Nat.succ_ne_zero place).symm
      rw [List.find?_cons_of_neg, ih]
      · rfl
      · intro p
        simpa using h (p + 1)
      · exact mt beq_iff_eq.1 hk

/-! ## The index -/

/-- An index is in step with entries when it holds each key with its place, and nothing else. -/
def InStep (entries : List (String × Value)) (index : ExtTreeMap String Nat) : Prop :=
  ∀ (key : String) (place : Nat),
    index[key]? = some place ↔ (entries.map (·.1))[place]? = some key

namespace InStep

variable {entries : List (String × Value)} {index : ExtTreeMap String Nat}

theorem nil : InStep [] ∅ := by
  intro key place
  simp

/-- A key that the index does not hold is not there. -/
theorem not_mem (h : InStep entries index) {key : String} (hk : index[key]? = none) :
    key ∉ entries.map (·.1) := by
  intro hm
  obtain ⟨place, hp⟩ := List.mem_iff_getElem?.1 hm
  rw [← h key place, hk] at hp
  cases hp

/-- A key that the index holds is in its place only. -/
theorem place_unique (h : InStep entries index) {key : String} {place : Nat}
    (hk : index[key]? = some place) (p : Nat) :
    (entries.map (·.1))[p]? = some key ↔ p = place := by
  rw [← h key p, hk, Option.some_inj, eq_comm]

/-- Another value in a place leaves the keys where they are. -/
theorem modify (h : InStep entries index) (place : Nat) (value : Value) :
    InStep (entries.modify place fun entry => (entry.1, value)) index := by
  have hkeys : (entries.modify place fun entry => (entry.1, value)).map (·.1) =
      entries.map (·.1) := by
    refine List.ext_getElem? fun i => ?_
    rw [List.getElem?_map, List.getElem?_modify, List.getElem?_map]
    cases entries[i]? with
    | none => rfl
    | some entry =>
      show some (if place = i then (entry.1, value) else entry).1 = some entry.1
      split <;> rfl
  intro key place
  rw [hkeys]
  exact h key place

/-- A new key gets the place behind all entries. -/
theorem push (h : InStep entries index) {key : String} (hk : index[key]? = none) (value : Value) :
    InStep (entries ++ [(key, value)]) (index.insert key entries.length) := by
  intro k place
  rw [ExtTreeMap.getElem?_insert, List.map_append, List.getElem?_append, List.length_map]
  by_cases hkey : key = k
  · -- the new key: it is not among the old ones, so its place is the last one
    subst hkey
    rw [if_pos Std.ReflOrd.compare_self]
    constructor
    · intro hp
      rw [← Option.some.inj hp, if_neg (Nat.lt_irrefl _), Nat.sub_self]
      rfl
    · intro hp
      split at hp
      · rw [← h key place, hk] at hp
        cases hp
      · rename_i hlt
        have hlast : place - entries.length < 1 := (List.getElem?_eq_some_iff.1 hp).1
        exact congrArg some (by omega)
  · rw [if_neg (by rwa [Std.LawfulEqOrd.compare_eq_iff_eq]), h k place]
    split
    · exact Iff.rfl
    · rename_i hp
      rw [List.getElem?_eq_none (by simpa using hp)]
      constructor
      · intro he
        cases he
      · intro he
        exact absurd (List.mem_singleton.1 (List.mem_of_getElem? he)).symm hkey

/-- The keys say what an index in step with them holds. -/
theorem unique {others : List (String × Value)} {other : ExtTreeMap String Nat}
    (h : InStep entries index) (ho : InStep others other)
    (hkeys : entries.map (·.1) = others.map (·.1)) : index = other := by
  refine ExtTreeMap.ext_getElem? fun key => Option.ext fun place => ?_
  rw [h key place, ho key place, hkeys]

end InStep

/-- Keys with values, each key once, in the order of the first insertion, and the places of the
keys. -/
structure ParameterMap where
  entries : List (String × Value)
  index : ExtTreeMap String Nat
  inStep : InStep entries index

namespace ParameterMap

/-- Two maps with the same entries are the same map. -/
@[ext]
theorem ext {a b : ParameterMap} (h : a.entries = b.entries) : a = b := by
  obtain ⟨entries, index, ha⟩ := a
  obtain ⟨_, other, hb⟩ := b
  cases h
  cases ha.unique hb rfl
  rfl

/-- The map without entries. -/
def empty : ParameterMap := ⟨[], ∅, InStep.nil⟩

/-- The map with the value of one key set: in the place that the index knows, else at the end. -/
def insert (map : ParameterMap) (key : String) (value : Value) : ParameterMap :=
  match h : map.index[key]? with
  | some place =>
    ⟨map.entries.modify place fun entry => (entry.1, value), map.index,
      map.inStep.modify place value⟩
  | none =>
    ⟨map.entries ++ [(key, value)], map.index.insert key map.entries.length,
      map.inStep.push h value⟩

/-- The map with the given entries inserted one after the other. -/
def insertAll (map : ParameterMap) (entries : List (String × Value)) : ParameterMap :=
  entries.foldl (fun map entry => map.insert entry.1 entry.2) map

/-- The map that collects the given entries. -/
def ofList (entries : List (String × Value)) : ParameterMap := empty.insertAll entries

/-- The map with the entries of another one inserted in their order. -/
def extend (map other : ParameterMap) : ParameterMap := map.insertAll other.entries

/-- The value under a key, in the place that the index knows. -/
def get? (map : ParameterMap) (key : String) : Option Value :=
  map.index[key]?.bind fun place => map.entries[place]?.map (·.2)

/-- Whether there is a value under a key. -/
def contains (map : ParameterMap) (key : String) : Bool := map.index.contains key

/-- How many keys there are. -/
def size (map : ParameterMap) : Nat := map.entries.length

/-- Whether there is no key. -/
def isEmpty (map : ParameterMap) : Bool := map.entries.isEmpty

/-- The keys in order. -/
def keys (map : ParameterMap) : List String := map.entries.map (·.1)

/-- The values in the order of their keys. -/
def values (map : ParameterMap) : List Value := map.entries.map (·.2)

/-- Entries with the same keys in the same order, and with equal values. -/
def entriesEqual (a b : List (String × Value)) : Bool :=
  a.length == b.length && (a.zip b).all fun (x, y) => x.1 == y.1 && x.2.equals y.2

/-- Equal entries and equal places. -/
def equals (a b : ParameterMap) : Bool := entriesEqual a.entries b.entries && a.index == b.index

/-- The text of a map as a JSON object, in the order of the keys. -/
def jsonText (map : ParameterMap) : String :=
  Json.braced (map.entries.map fun entry => (entry.1, entry.2.jsonText))

/-- A map as a JSON value, whose fields are sorted. -/
def toJson (map : ParameterMap) : Json :=
  Json.ofFields (map.entries.map fun entry => (entry.1, entry.2.toJson))

/-- Inserting sets the entry of the key. -/
theorem entries_insert (map : ParameterMap) (key : String) (value : Value) :
    (map.insert key value).entries = setEntry key value map.entries := by
  unfold insert
  split
  · rename_i place h
    exact (setEntry_of_place value (map.inStep.place_unique h)).symm
  · rename_i h
    exact (setEntry_of_not_mem value (map.inStep.not_mem h)).symm

/-- Looking up in the place that the index knows finds the entry of the key. -/
theorem get?_eq_find? (map : ParameterMap) (key : String) :
    map.get? key = (map.entries.find? (·.1 == key)).map (·.2) := by
  rw [get?]
  cases h : map.index[key]? with
  | none =>
    have hnone : map.entries.find? (·.1 == key) = none := by
      refine List.find?_eq_none.2 fun entry he hkey => map.inStep.not_mem h ?_
      exact beq_iff_eq.1 hkey ▸ List.mem_map_of_mem he
    rw [hnone]
    rfl
  | some place =>
    rw [find?_of_place (map.inStep.place_unique h)]
    rfl

/-- The keys that are there are those that have a value. -/
theorem isSome_get? (map : ParameterMap) (key : String) :
    (map.get? key).isSome ↔ key ∈ map.keys := by
  rw [get?_eq_find?, Option.isSome_map, List.find?_isSome, keys, List.mem_map]
  simp only [beq_iff_eq]

end ParameterMap

end SqlComposer
