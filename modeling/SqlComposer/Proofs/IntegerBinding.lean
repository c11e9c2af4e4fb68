import SqlComposer.Proofs.FloatBinding

/-! # Whole numbers are bound exactly or not at all

    A whole number is narrowed to the integer type of the parameter before anything of it is
    written.  The route:

    * `ofSignedBigEndian_signedBigEndian`: two's complement in a count of bytes gives the number
      back, as long as it is in the range of the count;
    * `bindInteger_of_holds` and `bindInteger_of_not_holds`: the number is converted exactly when it
      is in the range of the type;
    * a conversion that fails writes nothing (`Writing.outcome_appendConverted_error`).

    Together: the bytes behind the buffer are the number in the width of the type, or there are none
    (`Value.integer_exact_or_refused`). -/

namespace SqlComposer

/-! ## Two's complement -/

/-- The numbers of a count of bytes, half of them negative. -/
theorem two_mul_pow_half {count : Nat} (h : 0 < count) :
    2 * Nat.pow 2 (8 * count - 1) = Nat.pow 256 count := by
  have hbits : 8 * count = (8 * count - 1) + 1 := by omega
  calc 2 * Nat.pow 2 (8 * count - 1)
      = Nat.pow 2 (8 * count - 1 + 1) := Nat.mul_comm _ _
    _ = Nat.pow 2 (8 * count) := by rw [← hbits]
    _ = Nat.pow 256 count := Nat.pow_mul 2 8 count

/-- What is written is read back modulo the numbers that there is room for. -/
theorem ofSignedBigEndian_eq_bmod (count : Nat) (i : Int) :
    ofSignedBigEndian (signedBigEndian count i) = i.bmod (Nat.pow 256 count) := by
  have hpos : 0 < Nat.pow 256 count := Nat.pow_pos (by decide)
  have hroom : 0 ≤ i % (Nat.pow 256 count : Nat) ∧
      i % (Nat.pow 256 count : Nat) < (Nat.pow 256 count : Nat) :=
    ⟨Int.emod_nonneg i (by omega), Int.emod_lt_of_pos i (by omega)⟩
  have hlt : (i % (Nat.pow 256 count : Nat)).toNat < Nat.pow 256 count := by omega
  rw [ofSignedBigEndian, signedBigEndian, length_bigEndian, ofBigEndian_bigEndian,
    Nat.mod_eq_of_lt hlt, Int.toNat_of_nonneg hroom.1, Int.emod_bmod]

/-- A number in the range of a count of bytes is read back from them. -/
theorem ofSignedBigEndian_signedBigEndian {count : Nat} {i : Int} (hcount : 0 < count)
    (hlow : -(Nat.pow 2 (8 * count - 1) : Nat) ≤ i)
    (hhigh : i < (Nat.pow 2 (8 * count - 1) : Nat)) :
    ofSignedBigEndian (signedBigEndian count i) = i := by
  have hroom := two_mul_pow_half hcount
  rw [ofSignedBigEndian_eq_bmod]
  exact Int.bmod_eq_of_le_mul_two (by omega) (by omega)

@[simp] theorem length_signedBigEndian (count : Nat) (i : Int) :
    (signedBigEndian count i).length = count := length_bigEndian count _

/-! ## Conversions -/

/-- Whether a whole number is in the range of a type of that width. -/
def NumberType.Holds (t : NumberType) (i : Int) : Prop :=
  -(Nat.pow 2 (8 * t.width - 1) : Nat) ≤ i ∧ i < (Nat.pow 2 (8 * t.width - 1) : Nat)

instance (t : NumberType) (i : Int) : Decidable (t.Holds i) := inferInstanceAs (Decidable (_ ∧ _))

namespace NumberType

variable {t : NumberType} {i : Int}

theorem width_pos (t : NumberType) : 0 < t.width := by cases t <;> decide

/-- A number is not narrowed to another size. -/
theorem encodeInteger_of_not_holds (h : ¬t.Holds i) : ∃ e, encodeInteger t.width i = .error e := by
  rw [encodeInteger]
  by_cases hhigh : (Nat.pow 2 (8 * t.width - 1) : Nat) ≤ i
  · exact ⟨.tooLarge, by simp only [if_pos hhigh]⟩
  · have hlow : i < -(Nat.pow 2 (8 * t.width - 1) : Nat) :=
      Int.not_le.1 fun hlow => h ⟨hlow, Int.not_le.1 hhigh⟩
    exact ⟨.tooSmall, by simp only [if_neg hhigh, if_pos hlow]⟩

/-- A number in the range of an integer type is converted to its bytes. -/
theorem bindInteger_of_holds (ht : t.isInteger = true) (h : t.Holds i) :
    bindInteger i t.type = .ok (signedBigEndian t.width i) := by
  cases t with
  | int2 => exact encodeInteger_fits h.1 h.2
  | int4 => exact encodeInteger_fits h.1 h.2
  | int8 => rfl
  | float4 | float8 => cases ht

/-- A number of at most 64 bits that is not in the range of an integer type is refused. -/
theorem bindInteger_of_not_holds (ht : t.isInteger = true) (h64 : NumberType.int8.Holds i)
    (h : ¬t.Holds i) : ∃ e, bindInteger i t.type = .error e := by
  cases t with
  | int2 => exact encodeInteger_of_not_holds h
  | int4 => exact encodeInteger_of_not_holds h
  | int8 => exact absurd h64 h
  | float4 | float8 => cases ht

end NumberType

/-! ## Buffers -/

namespace Writing

theorem outcome_appendConverted_ok (bytes buffer : List UInt8) :
    (appendConverted (.ok bytes)).outcome buffer = (.ok .no, buffer ++ bytes) := rfl

/-- A conversion that fails leaves the buffer as it was. -/
theorem outcome_appendConverted_error (e : BindError) (buffer : List UInt8) :
    (appendConverted (.error e)).outcome buffer = (.error e, buffer) := rfl

end Writing

namespace Value

/-- The number of a value that is a whole number of any size. -/
def integer? : Value → Option Int
  | .smallInt i => some i.toInt
  | .int i => some i.toInt
  | .bigInt i => some i.toInt
  | _ => none

variable {v : Value} {i : Int}

/-- A whole number is converted before it is written. -/
theorem write_of_integer (h : v.integer? = some i) (type : PgType) :
    v.write type = Writing.appendConverted (bindInteger i type) := by
  cases v with
  | smallInt | int | bigInt =>
      cases h
      rfl
  | _ => cases h

/-- Every whole number has at most 64 bits. -/
theorem int8_holds_of_integer (h : v.integer? = some i) : NumberType.int8.Holds i := by
  show -9223372036854775808 ≤ i ∧ i < 9223372036854775808
  cases v with
  | smallInt n =>
      cases h
      have hn : -32768 ≤ n.toInt ∧ n.toInt < 32768 := ⟨n.le_toInt, n.toInt_lt⟩
      omega
  | int n =>
      cases h
      have hn : -2147483648 ≤ n.toInt ∧ n.toInt < 2147483648 := ⟨n.le_toInt, n.toInt_lt⟩
      omega
  | bigInt n =>
      cases h
      exact ⟨n.le_toInt, n.toInt_lt⟩
  | _ => cases h

/-- **Exact or refused.**  Binding a whole number to an integer type succeeds exactly when the
    number is in the range of the type.  Then as many bytes as the type has are written behind the
    buffer, which read in two's complement are the number; else nothing is written. -/
theorem integer_exact_or_refused (hv : v.integer? = some i) {t : NumberType}
    (ht : t.isInteger = true) (buffer : List UInt8) :
    (((v.write t.type).outcome buffer).1.isOk = true ↔ t.Holds i) ∧
      (t.Holds i → ∃ bytes, (v.write t.type).outcome buffer = (.ok .no, buffer ++ bytes) ∧
        bytes.length = t.width ∧ ofSignedBigEndian bytes = i) ∧
      (¬t.Holds i → ∃ e, (v.write t.type).outcome buffer = (.error e, buffer)) := by
  rw [write_of_integer hv]
  by_cases h : t.Holds i
  · rw [NumberType.bindInteger_of_holds ht h, Writing.outcome_appendConverted_ok]
    refine ⟨iff_of_true rfl h, ?_, ?_⟩
    · intro _
      exact ⟨signedBigEndian t.width i, rfl, length_signedBigEndian _ _,
        ofSignedBigEndian_signedBigEndian t.width_pos h.1 h.2⟩
    · intro hn
      exact absurd h hn
  · obtain ⟨e, he⟩ :=
      NumberType.bindInteger_of_not_holds ht (int8_holds_of_integer hv) h
    rw [he, Writing.outcome_appendConverted_error]
    refine ⟨iff_of_false Bool.false_ne_true h, ?_, ?_⟩
    · intro hh
      exact absurd hh h
    · intro _
      exact ⟨e, rfl⟩

/-- The least number of 16 bits behind two bytes of a message, and the one below it, which does not
    fit. -/
theorem integer_exact_or_refused_least :
    ((int (-32768)).integer? = some (-32768) ∧ NumberType.int2.isInteger = true ∧
      ∃ bytes, ((int (-32768)).write .int2).outcome [7, 7] = (.ok .no, [7, 7] ++ bytes) ∧
        bytes.length = 2 ∧ ofSignedBigEndian bytes = -32768) ∧
    ((bigInt (-32769)).integer? = some (-32769) ∧ NumberType.int2.isInteger = true ∧
      ∃ e, ((bigInt (-32769)).write .int2).outcome [7, 7] = (.error e, [7, 7])) := by
  refine ⟨⟨rfl, rfl, ?_⟩, rfl, rfl, ?_⟩
  · obtain ⟨-, hexact, -⟩ :=
      integer_exact_or_refused (v := int (-32768)) rfl (t := .int2) rfl [7, 7]
    exact hexact (by decide)
  · obtain ⟨-, -, hrefused⟩ :=
      integer_exact_or_refused (v := bigInt (-32769)) rfl (t := .int2) rfl [7, 7]
    exact hrefused (by decide)

end Value

end SqlComposer
