import SqlComposer.Postgres.Binding
import SqlComposer.Proofs.BigEndian
import SqlComposer.Proofs.ExactWidening

/-! # What a floating-point number is bound as

    A floating-point number is written in the four or eight bytes of its own format, whatever number
    type the parameter has.  For the floating-point types this is what they take.  For the whole
    number types it is not: two of them are smaller than what is written, and the third one reads
    the sign, the exponent and the fraction as one number.

    * **`Binary.ofSignedBigEndian_bytes64`** — that number: the magnitude, moved down by the sign.
    * **`Binary.denotes_reading_iff`** — it is the number that was meant for the positive zero
      only.  The encoding grows by one where the number grows by its unit, so both meet at most
      where the unit passes one, and there they miss each other by a remainder.
    * **`Value.float_fits_target_iff`** — the result over all numbers and types. -/

namespace SqlComposer

/-! ## The encoding read as a whole number -/

namespace Binary

@[simp] theorem length_bytes32 (x : Binary32) : x.bytes32.length = 4 := length_bigEndian 4 _

@[simp] theorem length_bytes64 (x : Binary64) : x.bytes64.length = 8 := length_bigEndian 8 _

/-- The bytes of 64 bits in two's complement. -/
theorem ofSignedBigEndian_bytes64 (x : Binary64) :
    ofSignedBigEndian x.bytes64 =
      if x.negative then (x.magnitude : Int) - 9223372036854775808 else x.magnitude := by
  have hm : x.magnitude < 9223372036854775808 := x.magnitude_lt
  have hbits : x.bits = (if x.negative then 9223372036854775808 else 0) + x.magnitude := rfl
  have hroom : Nat.pow 256 8 = 18446744073709551616 := rfl
  have hread : ofBigEndian x.bytes64 = x.bits := by
    rw [bytes64, ofBigEndian_bigEndian, hroom]
    refine Nat.mod_eq_of_lt ?_
    rw [hbits]
    split <;> omega
  rw [ofSignedBigEndian, hread, length_bytes64, hroom, Int.bmod_def, hbits]
  cases x.negative with
  | false =>
      rw [if_neg Bool.false_ne_true, if_neg Bool.false_ne_true]
      omega
  | true =>
      rw [if_pos rfl, if_pos rfl]
      omega

/-- The significand and the exponent of 64 bits. -/
theorem fields_double (x : Binary64) :
    (x.magnitude < 4503599627370496 ∧ x.significand = x.magnitude ∧ x.exponent = -1074) ∨
    ∃ place fraction : Nat, fraction < 4503599627370496 ∧
      x.magnitude = (place + 1) * 4503599627370496 + fraction ∧
      x.significand = 4503599627370496 + fraction ∧ x.exponent = (place : Int) - 1074 := by
  by_cases h : x.magnitude < 4503599627370496
  · refine .inl ⟨h, ?_, ?_⟩
    · show (if x.magnitude / 4503599627370496 = 0 then x.magnitude % 4503599627370496
        else 4503599627370496 + x.magnitude % 4503599627370496) = _
      rw [if_pos (Nat.div_eq_of_lt h), Nat.mod_eq_of_lt h]
    · show -1074 + ((x.magnitude / 4503599627370496 - 1 : Nat) : Int) = _
      omega
  · refine .inr ⟨x.magnitude / 4503599627370496 - 1, x.magnitude % 4503599627370496,
      Nat.mod_lt _ (by decide), by omega, ?_, ?_⟩
    · show (if x.magnitude / 4503599627370496 = 0 then x.magnitude % 4503599627370496
        else 4503599627370496 + x.magnitude % 4503599627370496) = _
      rw [if_neg (by omega)]
    · show -1074 + ((x.magnitude / 4503599627370496 - 1 : Nat) : Int) = _
      omega

/-- A significand that is shifted up by few bits or by many. -/
theorem shifted_bounds (s low high : Nat) {e : Int} (hlow : (low : Int) ≤ e) (hhigh : e ≤ high) :
    s * Nat.pow 2 low ≤ s * Nat.pow 2 e.toNat ∧ s * Nat.pow 2 e.toNat ≤ s * Nat.pow 2 high :=
  ⟨Nat.mul_le_mul_left _ (Nat.pow_le_pow_right Nat.two_pos (by omega)),
    Nat.mul_le_mul_left _ (Nat.pow_le_pow_right Nat.two_pos (by omega))⟩

/-- A whole number with an exponent that is not positive is not above its significand, and at half
    of it where the exponent is negative. -/
theorem whole_le_significand {s n : Nat} {e : Int} (he : e ≤ 0)
    (h : s * Nat.pow 2 e.toNat = n * Nat.pow 2 (-e).toNat) : n ≤ s ∧ (e < 0 → n * 2 ≤ s) := by
  have hzero : e.toNat = 0 := by omega
  have hs : s = n * Nat.pow 2 (-e).toNat := by
    rw [hzero] at h
    exact (Nat.mul_one s).symm.trans h
  rw [hs]
  refine ⟨Nat.le_mul_of_pos_right n (Nat.two_pow_pos _), fun hneg => ?_⟩
  exact Nat.mul_le_mul_left n (Nat.pow_le_pow_right Nat.two_pos (by omega : 1 ≤ (-e).toNat))

/-- A whole number with a positive exponent is the significand shifted up. -/
theorem whole_eq_shifted {s n : Nat} {e : Int} (he : 0 ≤ e)
    (h : s * Nat.pow 2 e.toNat = n * Nat.pow 2 (-e).toNat) : s * Nat.pow 2 e.toNat = n := by
  have hzero : (-e).toNat = 0 := by omega
  rw [hzero] at h
  exact h.trans (Nat.mul_one n)

/-- The encoding of a positive number is the number for zero only. -/
theorem magnitude_eq_zero_of_whole {x : Binary64}
    (h : x.significand * Nat.pow 2 x.exponent.toNat =
      x.magnitude * Nat.pow 2 (-x.exponent).toNat) : x.magnitude = 0 := by
  have hm : x.magnitude < 9223372036854775808 := x.magnitude_lt
  rcases x.fields_double with ⟨-, hs, he⟩ | ⟨place, fraction, hf, hx, hs, he⟩
  · have hhalf := (whole_le_significand (by omega) h).2 (by omega)
    omega
  · exfalso
    by_cases hsmall : x.exponent ≤ 0
    · -- the encoding is the larger one, but for the least place; there the number is too small
      obtain ⟨hle, hhalf⟩ := whole_le_significand hsmall h
      have hplace : place = 0 := by omega
      have := hhalf (by omega)
      omega
    · have hn := whole_eq_shifted (by omega) h
      by_cases hten : x.exponent = 10
      · -- the unit has passed one, and both grow toward each other: 1023 does not divide the gap
        rw [hten] at hn
        have hshifted : x.significand * 1024 = x.magnitude := hn
        omega
      · by_cases hnine : x.exponent ≤ 9
        · have hupper : x.significand * Nat.pow 2 x.exponent.toNat ≤ x.significand * 512 :=
            (shifted_bounds x.significand 0 9 (by omega) hnine).2
          omega
        · have hlower : x.significand * 2048 ≤ x.significand * Nat.pow 2 x.exponent.toNat :=
            (shifted_bounds x.significand 11 x.exponent.toNat (by omega) (by omega)).1
          omega

/-- The encoding of a negative number, with its sign, is never the number. -/
theorem not_whole_of_negative {x : Binary64}
    (h : x.significand * Nat.pow 2 x.exponent.toNat =
      (9223372036854775808 - x.magnitude) * Nat.pow 2 (-x.exponent).toNat) : False := by
  have hm : x.magnitude < 9223372036854775808 := x.magnitude_lt
  rcases x.fields_double with ⟨hx, hs, he⟩ | ⟨place, fraction, hf, hx, hs, he⟩
  · have hle := (whole_le_significand (by omega) h).1
    omega
  · by_cases hsmall : x.exponent ≤ 0
    · have hle := (whole_le_significand hsmall h).1
      omega
    · have hn := whole_eq_shifted (by omega) h
      by_cases hnine : x.exponent = 9
      · rw [hnine] at hn
        have hshifted : x.significand * 512 = 9223372036854775808 - x.magnitude := hn
        omega
      · by_cases height : x.exponent ≤ 8
        · have hupper : x.significand * Nat.pow 2 x.exponent.toNat ≤ x.significand * 256 :=
            (shifted_bounds x.significand 0 8 (by omega) height).2
          omega
        · have hlower : x.significand * 1024 ≤ x.significand * Nat.pow 2 x.exponent.toNat :=
            (shifted_bounds x.significand 10 x.exponent.toNat (by omega) (by omega)).1
          omega

/-- A number without a significand is zero. -/
theorem magnitude_eq_zero {f : Format} (x : Binary f) (h : x.significand = 0) :
    x.magnitude = 0 := by
  have hpow : 0 < Nat.pow 2 f.fractionBits := Nat.two_pow_pos _
  have hdiv := Nat.div_add_mod x.magnitude (Nat.pow 2 f.fractionBits)
  simp only [significand] at h
  split at h
  · rename_i hplace
    rw [hplace, h] at hdiv
    simpa using hdiv.symm
  · omega

/-- The encoding of a number, read as a whole number, is that number for the positive zero
    only. -/
theorem denotes_reading_iff (x : Binary64) :
    x.Denotes (ofSignedBigEndian x.bytes64) ↔ x.bits = 0 := by
  have hm : x.magnitude < 9223372036854775808 := x.magnitude_lt
  have hbits : x.bits = (if x.negative then 9223372036854775808 else 0) + x.magnitude := rfl
  rw [Denotes, ofSignedBigEndian_bytes64, ratio_eq, hbits]
  cases hn : x.negative with
  | false =>
      rw [if_neg Bool.false_ne_true, if_neg Bool.false_ne_true, if_neg Bool.false_ne_true,
        Nat.zero_add]
      constructor
      · rintro ⟨-, h⟩
        exact magnitude_eq_zero_of_whole (by exact_mod_cast h)
      · intro h
        refine ⟨decide_eq_true (by rw [h]; decide), ?_⟩
        have hs : x.significand = 0 := by simp [significand, h]
        simp [hs, h]
  | true =>
      rw [if_pos rfl, if_pos rfl, if_pos rfl]
      constructor
      · rintro ⟨-, h⟩
        refine (not_whole_of_negative (x := x) ?_).elim
        have hsub : ((9223372036854775808 - x.magnitude : Nat) : Int) =
            -((x.magnitude : Int) - 9223372036854775808) := by omega
        have hneg := congrArg (- ·) h
        simp only [Int.neg_neg, ← Int.neg_mul, ← hsub] at hneg
        exact_mod_cast hneg
      · intro h
        omega

/-- The encoding of zero is zero, and of nothing else. -/
theorem bits_eq_zero_iff {f : Format} (x : Binary f) :
    x.bits = 0 ↔ x.negative = false ∧ x.magnitude = 0 := by
  have hm := x.magnitude_lt
  rw [bits]
  cases x.negative with
  | false => simp
  | true =>
      rw [if_pos rfl]
      constructor
      · intro h
        omega
      · rintro ⟨h, -⟩
        cases h

end Binary

/-! ## The number types -/

/-- The types of numbers that have a fixed width. -/
inductive NumberType where
  | int2
  | int4
  | int8
  | float4
  | float8
  deriving DecidableEq, Repr

namespace NumberType

/-- The type of the parameter. -/
def type : NumberType → PgType
  | .int2 => .int2
  | .int4 => .int4
  | .int8 => .int8
  | .float4 => .float4
  | .float8 => .float8

/-- How many bytes a number of the type takes. -/
def width : NumberType → Nat
  | .int2 => 2
  | .int4 => 4
  | .int8 => 8
  | .float4 => 4
  | .float8 => 8

/-- Whether the numbers of the type are whole. -/
def isInteger : NumberType → Bool
  | .int2 | .int4 | .int8 => true
  | .float4 | .float8 => false

end NumberType

namespace Value

/-- A floating-point number of either size. -/
def isFloat : Value → Bool
  | .real _ | .double _ => true
  | _ => false

/-- The floating-point number is that whole number. -/
def Denotes (v : Value) (i : Int) : Prop :=
  match v with
  | .real x => x.Denotes i
  | .double x => x.Denotes i
  | _ => False

/-- The floating-point zero without a sign. -/
def isPositiveZero : Value → Bool
  | .real x => x.bits = 0
  | .double x => x.bits = 0
  | _ => false

/-- The zero without a sign is the only number of 32 bits that the encoding of its widened number
    denotes. -/
theorem real_denotes_reading_iff (x : Binary32) :
    x.Denotes (ofSignedBigEndian (x.convert .double).bytes64) ↔ x.bits = 0 := by
  constructor
  · intro h
    have hzero := ((x.convert .double).denotes_reading_iff).mp h.widened
    obtain ⟨hsign, hmagnitude⟩ := (Binary.bits_eq_zero_iff _).mp hzero
    have hnegative : x.negative = false := by
      rw [Binary.convert_of_isFinite .double h.1] at hsign
      exact hsign
    obtain ⟨-, hx⟩ := h
    rw [Binary.ofSignedBigEndian_bytes64, hsign, hmagnitude, hnegative, Binary.ratio_eq] at hx
    have hproduct : x.significand * Nat.pow 2 x.exponent.toNat = 0 := by
      have hcast : ((x.significand * Nat.pow 2 x.exponent.toNat : Nat) : Int) = 0 := by
        simpa using hx
      exact_mod_cast hcast
    have hsignificand : x.significand = 0 :=
      (Nat.mul_eq_zero.mp hproduct).resolve_right (Nat.ne_of_gt (Nat.two_pow_pos _))
    exact (Binary.bits_eq_zero_iff x).mpr ⟨hnegative, x.magnitude_eq_zero hsignificand⟩
  · intro h
    obtain ⟨hnegative, hmagnitude⟩ := (Binary.bits_eq_zero_iff x).mp h
    obtain ⟨negative, magnitude, hlt⟩ := x
    subst hnegative hmagnitude
    have hzero : (Binary.ofInt .single 0).Denotes
        (ofSignedBigEndian ((Binary.ofInt .single 0).convert .double).bytes64) := by
      decide
    exact hzero

/-- A floating-point number is bound through a number of 64 bits, whose encoding it denotes for the
    zero without a sign only. -/
theorem bind_of_isFloat {v : Value} (h : v.isFloat = true) :
    ∃ x : Binary64, (∀ type, v.bind type = .ok (.bytes (bindFloat x type))) ∧
      (v.Denotes (ofSignedBigEndian x.bytes64) ↔ v.isPositiveZero = true) := by
  cases v with
  | real x =>
      refine ⟨x.convert .double, fun type => rfl, ?_⟩
      rw [isPositiveZero, decide_eq_true_iff]
      exact real_denotes_reading_iff x
  | double x =>
      refine ⟨x, fun type => rfl, ?_⟩
      rw [isPositiveZero, decide_eq_true_iff]
      exact x.denotes_reading_iff
  | _ => cases h

/-- Every floating-point number can be bound to every number type, and the floating-point types
    take what is written.  A whole number type takes it in one case: eight zero bytes for the zero
    without a sign.  In every other one it gets too many bytes or the wrong number. -/
theorem float_fits_target_iff {v : Value} (h : v.isFloat = true) (t : NumberType) :
    ∃ bytes, v.bind t.type = .ok (.bytes bytes) ∧
      ((bytes.length = t.width ∧ (t.isInteger = true → v.Denotes (ofSignedBigEndian bytes))) ↔
        t.isInteger = false ∨ (t = .int8 ∧ v.isPositiveZero = true)) := by
  obtain ⟨x, hbind, hzero⟩ := bind_of_isFloat h
  refine ⟨bindFloat x t.type, hbind t.type, ?_⟩
  cases t with
  | int2 | int4 =>
      have hlength : (bindFloat x PgType.int2).length = 8 := x.length_bytes64
      constructor
      · rintro ⟨hwidth, -⟩
        exact absurd (hwidth.symm.trans hlength) (by decide)
      · rintro (hfloat | ⟨hint8, -⟩)
        · cases hfloat
        · cases hint8
  | int8 =>
      constructor
      · rintro ⟨-, hdenotes⟩
        exact .inr ⟨rfl, hzero.mp (hdenotes rfl)⟩
      · rintro (hfloat | ⟨-, hv⟩)
        · cases hfloat
        · exact ⟨x.length_bytes64, fun _ => hzero.mpr hv⟩
  | float4 =>
      refine ⟨fun _ => .inl rfl, fun _ => ⟨(x.convert .single).length_bytes32, ?_⟩⟩
      intro hinteger
      cases hinteger
  | float8 =>
      refine ⟨fun _ => .inl rfl, fun _ => ⟨x.length_bytes64, ?_⟩⟩
      intro hinteger
      cases hinteger

/-- The zero without a sign as a number of 64 bits, for the type that takes it. -/
theorem float_fits_target_zero :
    (Value.double (Binary.ofInt .double 0)).isFloat = true ∧
      ∃ bytes, (Value.double (Binary.ofInt .double 0)).bind NumberType.int8.type =
          .ok (.bytes bytes) ∧
        ((bytes.length = NumberType.int8.width ∧ (NumberType.int8.isInteger = true →
            (Value.double (Binary.ofInt .double 0)).Denotes (ofSignedBigEndian bytes))) ↔
          NumberType.int8.isInteger = false ∨ (NumberType.int8 = .int8 ∧
            (Value.double (Binary.ofInt .double 0)).isPositiveZero = true)) :=
  ⟨rfl, float_fits_target_iff rfl .int8⟩

/-- One, bound to a type of four bytes and to one of eight: the same eight bytes, which are too many
    for the one and another number for the other. -/
theorem double_one_as_integer :
    ∃ bytes, (Value.double (Binary.ofInt .double 1)).bind .int4 = .ok (.bytes bytes) ∧
      (Value.double (Binary.ofInt .double 1)).bind .int8 = .ok (.bytes bytes) ∧
      bytes.length ≠ 4 ∧ ofSignedBigEndian bytes = 4607182418800017408 :=
  ⟨[0x3f, 0xf0, 0, 0, 0, 0, 0, 0], rfl, rfl, by decide, by decide⟩

end Value

end SqlComposer

