import Mathlib.Data.Option.Basic
import SqlComposer.Value.Basic

/-! # Values that are read back

    A statement keeps the values of a type without it, and reads them back when they are filtered or
    mapped.

    * Reading never fails on a value that was kept, and what is read is kept as the same value again
      (`ValueType.exists_ofValue?_toValue`, `ValueType.toValue_of_ofValue?`).
    * It need not be the same value, though.  An optional value that is there may be kept as null,
      and null is read as an absent value (`ValueType.recovers_some_iff`).
    * This happens where one optional type is put around another one, and nowhere else
      (`ValueType.recovers_all_iff`). -/

namespace SqlComposer

namespace ValueType

/-- Whether values of a type may be kept as null. -/
def isNullable : ValueType → Bool
  | .exact _ => false
  | .any => true
  | .optional _ => true

/-- A value is recovered if it is read back as it was. -/
def Recovers (type : ValueType) (x : type.Carrier) : Prop := type.ofValue? (type.toValue x) = some x

/-- Only null is read as an absent value. -/
theorem ofValue?_optional {type : ValueType} {v : Value} (h : v ≠ .null) :
    (optional type).ofValue? v = (type.ofValue? v).map some := by
  cases v with
  | null => exact absurd rfl h
  | _ => rfl

/-- What is read is kept as the value that it was read from. -/
theorem toValue_of_ofValue? {type : ValueType} {v : Value} {x : type.Carrier}
    (h : type.ofValue? v = some x) : type.toValue x = v := by
  induction type with
  | exact kind => exact ValueKind.toValue_of_ofValue? h
  | any => exact (Option.some.inj h).symm
  | optional type ih =>
      by_cases hv : v = .null
      · subst hv
        cases h
        rfl
      · rw [ofValue?_optional hv, Option.map_eq_some_iff] at h
        obtain ⟨y, hy, rfl⟩ := h
        exact ih hy

/-- Every value that was kept can be read. -/
theorem exists_ofValue?_toValue (type : ValueType) (x : type.Carrier) :
    ∃ y, type.ofValue? (type.toValue x) = some y := by
  induction type with
  | exact kind => exact ⟨x, kind.ofValue?_toValue x⟩
  | any => exact ⟨x, rfl⟩
  | optional type ih =>
      cases x with
      | none => exact ⟨none, rfl⟩
      | some x =>
          by_cases hv : type.toValue x = .null
          · exact ⟨none, by rw [toValue, hv]; rfl⟩
          · obtain ⟨y, hy⟩ := ih x
            exact ⟨some y, by rw [toValue, ofValue?_optional hv, hy]; rfl⟩

/-- An optional value that is there is recovered if what it holds is, and is not kept as null. -/
theorem recovers_some_iff {type : ValueType} {x : type.Carrier} :
    (optional type).Recovers (some x) ↔ type.toValue x ≠ .null ∧ type.Recovers x := by
  rw [Recovers, toValue]
  by_cases hv : type.toValue x = .null
  · rw [hv]
    constructor
    · intro h
      have hread : some none = some (some x) := h
      cases hread
    · rintro ⟨hne, -⟩
      exact absurd rfl hne
  · rw [ofValue?_optional hv, Option.map_eq_some_iff]
    constructor
    · rintro ⟨y, hy, hxy⟩
      cases hxy
      exact ⟨hv, hy⟩
    · rintro ⟨-, hx⟩
      exact ⟨x, hx, rfl⟩

/-- A nullable type has a value that is kept as null. -/
theorem exists_toValue_eq_null {type : ValueType} (h : type.isNullable = true) :
    ∃ x, type.toValue x = .null := by
  cases type with
  | exact kind => cases h
  | any => exact ⟨.null, rfl⟩
  | optional type => exact ⟨none, rfl⟩

/-- **All values of a type are recovered, unless it is an optional type around one that may be kept
    as null.**  There, a value that is present and is kept as null is read as an absent one. -/
theorem recovers_all_iff {type : ValueType} :
    (∀ x, type.Recovers x) ↔ ∀ inner, type = .optional inner → inner.isNullable = false := by
  constructor
  · rintro h inner rfl
    cases hn : inner.isNullable with
    | false => rfl
    | true =>
        obtain ⟨x, hx⟩ := exists_toValue_eq_null hn
        exact absurd hx (recovers_some_iff.mp (h (some x))).1
  · intro h x
    cases type with
    | exact kind => exact kind.ofValue?_toValue x
    | any => rfl
    | optional inner =>
        cases inner with
        | exact kind =>
            cases x with
            | none => rfl
            | some x =>
                exact recovers_some_iff.mpr ⟨kind.toValue_ne_null x, kind.ofValue?_toValue x⟩
        | any => exact absurd (h .any rfl) Bool.noConfusion
        | optional type => exact absurd (h (.optional type) rfl) Bool.noConfusion

/-- A number that need not be there is recovered; wrapped once more, its absence is read as the
    absence of all. -/
example :
    (optional int).ofValue? ((optional int).toValue none) = some none ∧
      (optional (optional int)).ofValue? ((optional (optional int)).toValue (some none)) =
        some none :=
  ⟨rfl, rfl⟩

end ValueType

/-- A value that was kept stays the same when it is read and kept again. -/
theorem Value.as?_toValue {type : ValueType} (x : type.Carrier) :
    (type.toValue x).as? type = some (type.toValue x) := by
  obtain ⟨y, hy⟩ := type.exists_ofValue?_toValue x
  rw [Value.as?, hy, Option.map_some, ValueType.toValue_of_ofValue? hy]

end SqlComposer
