import SqlComposer.Render.Record

/-! # Paths into records compose

    A path is cut at its points into names, and every name leads from an object to one of its
    fields.

    * Two paths with a point between them have the names of the first one and then those of the
      second one (`pathNames_append`).  This holds for every two texts: a point at an end, or next
      to another one, has an empty name beside it, and an empty name is looked up like any other.
    * `Json.Leads` follows names from object to object, and the lookup finds exactly what they lead
      to (`Json.foldlM_field?_eq_some_iff`).  As no path is without names, nothing is found in a
      value that is no object. -/

namespace SqlComposer

/-- Names lead from a value to what is inside it: each of them is the name of a field of the object
    that the names before it lead to. -/
inductive Json.Leads : Json → List String → Json → Prop where
  | here (value : Json) : Leads value [] value
  | field {fields : List (String × Json)} {name : String} {names : List String}
      {value found : Json} (hfield : (Json.object fields).field? name = some value)
      (hrest : Leads value names found) : Leads (.object fields) (name :: names) found

/-! ## Names -/

/-- A point between two paths separates their names. -/
theorem pathNames_append (p q : String) :
    pathNames (p ++ "." ++ q) = pathNames p ++ pathNames q := by
  have htext : (p ++ "." ++ q).toList = p.toList ++ '.' :: q.toList := by
    rw [String.toList_append, String.toList_append, List.append_assoc]
    rfl
  rw [pathNames, htext, List.splitOn_append_cons_self, List.map_append]
  rfl

/-- Every path has a name. -/
theorem pathNames_ne_nil (path : String) : pathNames path ≠ [] := by
  rw [pathNames, ne_eq, List.map_eq_nil_iff]
  exact List.splitOn_ne_nil '.' path.toList

namespace Json

/-! ## Objects on the way -/

/-- Only objects have fields. -/
theorem eq_object_of_field? {value child : Json} {name : String}
    (h : value.field? name = some child) : ∃ fields, value = .object fields := by
  cases value with
  | object fields => exact ⟨fields, rfl⟩
  | null => cases h
  | bool b => cases h
  | number n => cases h
  | string s => cases h
  | array items => cases h

/-- Looking up names one after the other finds what they lead to, and nothing else. -/
theorem foldlM_field?_eq_some_iff {names : List String} {value found : Json} :
    names.foldlM (fun value name => value.field? name) value = some found ↔
      value.Leads names found := by
  induction names generalizing value with
  | nil =>
      constructor
      · intro h
        cases h
        exact .here _
      · rintro ⟨⟩
        rfl
  | cons name rest ih =>
      rw [List.foldlM_cons, Option.bind_eq_bind, Option.bind_eq_some_iff]
      constructor
      · rintro ⟨child, hchild, hrest⟩
        obtain ⟨fields, rfl⟩ := eq_object_of_field? hchild
        exact .field hchild (ih.1 hrest)
      · intro h
        cases h with
        | field hfield hrest => exact ⟨_, hfield, ih.2 hrest⟩

/-- What has names to follow is an object. -/
theorem Leads.eq_object {names : List String} {value found : Json}
    (h : value.Leads names found) (hn : names ≠ []) : ∃ fields, value = .object fields := by
  cases h with
  | here => exact absurd rfl hn
  | field _ _ => exact ⟨_, rfl⟩

/-- **Paths compose.**  A path behind another one is looked up in what that one finds, and nothing
    is found behind a path that finds nothing.  A path finds exactly what its names lead to through
    objects, and in a value that is no object it finds nothing. -/
theorem paths_compose (record : Json) (p q : String) :
    record.property? (p ++ "." ++ q) = (record.property? p).bind (fun found => found.property? q) ∧
      (∀ found, record.property? p = some found ↔ record.Leads (pathNames p) found) ∧
      ∀ found, record.property? p = some found → ∃ fields, record = .object fields := by
  have hleads : ∀ found, record.property? p = some found ↔ record.Leads (pathNames p) found :=
    fun _ => foldlM_field?_eq_some_iff
  refine ⟨?_, hleads, fun found h => ?_⟩
  · rw [property?, pathNames_append, List.foldlM_append]
    rfl
  · exact ((hleads found).1 h).eq_object (pathNames_ne_nil p)

/-- The empty name between two points is the name of a field, and a list has no fields. -/
example :
    let record : Json :=
      .object [("a", .object [("", .object [("b", .bool true)])]), ("l", .array [])]
    record.property? "a..b" = some (.bool true) ∧ record.property? "l.0" = none ∧
      record.property? "" = none :=
  ⟨rfl, rfl, rfl⟩

end Json

end SqlComposer
