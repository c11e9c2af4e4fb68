import SqlComposer.Proofs.DecimalReading
import SqlComposer.Value.Text

/-! # Properties of records are kept

    A property of a record is JSON that becomes a value, and the value is written as JSON again
    where the parameters of a statement are.  The two ways undo each other but for one kind of
    property: a whole number above the greatest big integer becomes a double, which never is the
    whole number again.

    * A whole number of up to 63 bits becomes a big integer and comes back (`toJson_ofJson`), and
      so does everything that is no whole number.
    * A double is never written as digits alone (`Binary.exists_notDigit_jsonText`), so the text of
      a number that became a double tells it from the whole number.

    Together: the value and its text are kept exactly for the properties that do not exceed the big
    integers (`Value.property_kept_iff`). -/

namespace SqlComposer

/-- Whether a value is a whole number above the greatest big integer. -/
def Json.exceedsBigInt : Json → Bool
  | .number (.integer i _) => Value.greatestBigInt < i
  | _ => false

/-! ## Doubles are not written as digits alone -/

/-- Digits with a point or an exponent are not digits alone. -/
theorem Decimal.exists_notDigit_pointed (range : PointRange) (d : Decimal) :
    ∃ c ∈ d.pointed range, c.isDigit = false := by
  simp only [pointed]
  split
  · refine ⟨'.', ?_, rfl⟩
    split
    · exact List.mem_append_right _ List.mem_cons_self
    · rename_i hexponent
      -- a negative exponent puts the point among the digits or in front of them
      simp only [plain, if_neg hexponent]
      split
      · exact List.mem_append_right _ List.mem_cons_self
      · exact List.mem_cons_of_mem _ List.mem_cons_self
  · exact ⟨'e', List.mem_append_right _ List.mem_cons_self, rfl⟩

theorem Binary.exists_notDigit_jsonText {f : Format} (range : PointRange) (x : Binary f) :
    ∃ c ∈ (x.jsonText range).toList, c.isDigit = false := by
  obtain ⟨c, hc, hd⟩ := (x.shortest .even).exists_notDigit_pointed range
  refine ⟨c, ?_, hd⟩
  rw [jsonText, String.toList_ofList]
  split
  · exact List.mem_cons_of_mem _ hc
  · exact hc

/-- A whole number that is not negative is written in digits. -/
theorem Json.isDigit_of_mem_numberText {i : Int}
    (inRange : leastInteger ≤ i ∧ i ≤ greatestInteger) (hi : 0 ≤ i) {c : Char}
    (hc : c ∈ (numberText (.integer i inRange)).toList) : c.isDigit = true := by
  obtain ⟨n, rfl⟩ := Int.eq_ofNat_of_zero_le hi
  have ht : (numberText (.integer (n : Int) inRange)).toList = decimalDigits n :=
    Nat.toList_repr
  rw [ht] at hc
  exact isDigit_of_mem_decimalDigits hc

namespace Value

/-- A double is written as a number with a point or an exponent, or as the null. -/
theorem exists_notDigit_jsonText_double (x : Binary64) :
    ∃ c ∈ (Value.double x).jsonText.toList, c.isDigit = false := by
  show ∃ c ∈ (jsonBinary x).text.toList, c.isDigit = false
  by_cases hx : x.isFinite = true
  · rw [jsonBinary, JsonNumber.ofBinary?, dif_pos hx]
    exact x.exists_notDigit_jsonText .double
  · rw [jsonBinary, JsonNumber.ofBinary?, dif_neg hx]
    exact ⟨'n', by decide, rfl⟩

/-! ## Back to JSON -/

/-- A property that does not exceed the big integers comes back. -/
theorem toJson_ofJson {j : Json} (h : j.exceedsBigInt = false) : (ofJson j).toJson = j := by
  match j with
  | .null | .bool _ | .string _ | .array _ | .object _ => rfl
  | .number (.real x finite) =>
      show jsonBinary x = _
      rw [jsonBinary, JsonNumber.ofBinary?, dif_pos finite]
      rfl
  | .number (.integer i inRange) =>
      have hi : i ≤ greatestBigInt := Int.not_lt.1 (of_decide_eq_false h)
      have hback : (Int64.ofInt i).toInt = i :=
        Int64.toInt_ofInt_of_le inRange.1 (Int.lt_add_one_of_le hi)
      rw [ofJson, if_pos hi, toJson, hback, jsonInt, JsonNumber.ofInt?, dif_pos inRange]
      rfl

/-- Properties are never numbers of 32 bits, so their text is that of their JSON value. -/
theorem jsonText_ofJson (j : Json) : (ofJson j).jsonText = (ofJson j).toJson.text := by
  match j with
  | .null | .bool _ | .string _ | .array _ | .object _ | .number (.real _ _) => rfl
  | .number (.integer i _) =>
      rw [ofJson]
      split <;> rfl

/-- A text that comes back is not that of a number above the big integers. -/
theorem exceedsBigInt_of_jsonText {j : Json} (h : (ofJson j).jsonText = j.text) :
    j.exceedsBigInt = false := by
  match j with
  | .null | .bool _ | .string _ | .array _ | .object _ | .number (.real _ _) => rfl
  | .number (.integer i inRange) =>
      refine decide_eq_false fun hi => ?_
      -- the number is written in digits, but the double that it became is not
      obtain ⟨c, hc, hd⟩ := exists_notDigit_jsonText_double (Binary.ofInt .double i)
      rw [ofJson, if_neg (Int.not_le.2 hi)] at h
      rw [h] at hc
      have hpositive : 0 ≤ i := Int.le_of_lt (Int.lt_trans (by decide) hi)
      rw [Json.isDigit_of_mem_numberText inRange hpositive hc] at hd
      cases hd

theorem exceedsBigInt_of_toJson {j : Json} (h : (ofJson j).toJson = j) :
    j.exceedsBigInt = false :=
  exceedsBigInt_of_jsonText (by rw [jsonText_ofJson, h])

/-- **Properties of records are kept**, as values and as texts, exactly when they do not exceed the
    big integers. -/
theorem property_kept_iff (j : Json) :
    ((ofJson j).toJson = j ↔ j.exceedsBigInt = false) ∧
      ((ofJson j).jsonText = j.text ↔ j.exceedsBigInt = false) := by
  refine ⟨⟨exceedsBigInt_of_toJson, toJson_ofJson⟩, ⟨exceedsBigInt_of_jsonText, fun h => ?_⟩⟩
  rw [jsonText_ofJson, toJson_ofJson h]

/-- The first number above the big integers does not come back, and it becomes the same double as
    the next one. -/
theorem number_above_bigInt_changes :
    (ofJson (jsonInt 9223372036854775808)).toJson ≠ jsonInt 9223372036854775808 ∧
      ofJson (jsonInt 9223372036854775808) = ofJson (jsonInt 9223372036854775809) := by
  refine ⟨fun h => ?_, congrArg Value.double (by decide +kernel)⟩
  exact absurd (exceedsBigInt_of_toJson h) (by decide)

end Value

end SqlComposer
