import SqlComposer.Proofs.FiniteRounding

/-! # A number of 32 bits is the same number in 64 bits

    A finite number is its significand times a power of two (`Binary.ratio_eq`).  Widening rounds
    this fraction anew, but there is nothing to round: with a significand of 24 bits at most, the
    fraction is a whole number of the units that 64 bits have at this place
    (`Format.roundRatio_double`), and the magnitude found is decoded to the same fraction
    (`Binary.ratio_widened`).

    `Binary.Denotes` says that a number is a whole number; it survives widening. -/

namespace SqlComposer

/-! ## Fractions of a power of two -/

/-- A whole number of units is not rounded. -/
theorem divHalfEven_of_mul (n : Nat) {den : Nat} (h : 0 < den) : divHalfEven (n * den) den = n := by
  have hq : n * den / den = n := Nat.mul_div_cancel n h
  have hr : n * den % den = 0 := Nat.mul_mod_left n den
  simp [divHalfEven, hq, hr, h]

/-- A number times a power of two, over a smaller power of two. -/
theorem overPowerOfTwo_eq {s a b k : Nat} {e : Int} (h : (a : Int) - b - e = k) :
    (overPowerOfTwo (s * Nat.pow 2 a) (Nat.pow 2 b) e).1 =
        s * Nat.pow 2 k * (overPowerOfTwo (s * Nat.pow 2 a) (Nat.pow 2 b) e).2 ∧
      0 < (overPowerOfTwo (s * Nat.pow 2 a) (Nat.pow 2 b) e).2 := by
  rw [overPowerOfTwo]
  split
  · refine ⟨?_, Nat.mul_pos (Nat.two_pow_pos _) (Nat.two_pow_pos _)⟩
    have ha : a = k + (b + e.toNat) := by omega
    simp only [Nat.pow_eq, ha, Nat.pow_add, Nat.mul_assoc]
  · refine ⟨?_, Nat.two_pow_pos _⟩
    have ha : a + (-e).toNat = k + b := by omega
    have hpow : Nat.pow 2 a * Nat.pow 2 (-e).toNat = Nat.pow 2 k * Nat.pow 2 b := by
      simp only [Nat.pow_eq, ← Nat.pow_add, ha]
    rw [Nat.mul_assoc, hpow, Nat.mul_assoc]

/-- Shifting a number adds to its logarithm. -/
theorem log2_mul_two_pow {s : Nat} (hs : s ≠ 0) (a : Nat) :
    (s * Nat.pow 2 a).log2 = s.log2 + a := by
  have hne : s * Nat.pow 2 a ≠ 0 := Nat.mul_ne_zero hs (Nat.ne_of_gt (Nat.two_pow_pos _))
  refine (Nat.log2_eq_iff hne).mpr ⟨?_, ?_⟩
  · rw [Nat.pow_add]
    exact Nat.mul_le_mul_right _ (Nat.log2_self_le hs)
  · rw [Nat.add_right_comm, Nat.pow_add]
    exact Nat.mul_lt_mul_of_pos_right Nat.lt_log2_self (Nat.two_pow_pos _)

/-- A number of at most 53 bits times a power of two that 64 bits have room for: the place of its
    leading bit and the number shifted to 53 bits make up the magnitude. -/
theorem Format.roundRatio_double {s a b : Nat} (hs : s ≠ 0) (hlog : s.log2 ≤ 52)
    (hplace : -1022 ≤ (a : Int) - b) :
    Format.double.roundRatio (s * Nat.pow 2 a) (Nat.pow 2 b) =
      min Format.double.infinity
        (((a : Int) - b + s.log2 + 1022).toNat * Nat.pow 2 52 + s * Nat.pow 2 (52 - s.log2)) := by
  have hne : s * Nat.pow 2 a ≠ 0 := Nat.mul_ne_zero hs (Nat.ne_of_gt (Nat.two_pow_pos _))
  have hden : (Nat.pow 2 b).log2 = b := Nat.log2_two_pow
  have hlow : ((s * Nat.pow 2 a).log2 : Int) - (Nat.pow 2 b).log2 - Format.double.precision =
      (a : Int) - b + s.log2 - 53 := by
    rw [log2_mul_two_pow hs, hden]
    show ((s.log2 + a : Nat) : Int) - b - ((52 + 1 : Nat) : Int) = _
    omega
  have hleast : Format.double.leastExponent = -1074 := by decide
  -- one unit below the place of the leading bit the quotient has 54 bits
  obtain ⟨hfine, hfinePos⟩ := overPowerOfTwo_eq (s := s) (a := a) (b := b) (k := 53 - s.log2)
    (e := (a : Int) - b + s.log2 - 53) (by omega)
  have hbig : ¬(s * Nat.pow 2 (53 - s.log2) < Nat.pow 2 Format.double.precision) := by
    have hself : Nat.pow 2 s.log2 ≤ s := Nat.log2_self_le hs
    have hpow : Nat.pow 2 s.log2 * Nat.pow 2 (53 - s.log2) = Nat.pow 2 53 := by
      simp only [Nat.pow_eq, ← Nat.pow_add]
      congr 1
      omega
    have hle := Nat.mul_le_mul_right (Nat.pow 2 (53 - s.log2)) hself
    rw [hpow] at hle
    exact Nat.not_lt.mpr hle
  -- so the unit is twice as large, and the quotient by it is whole
  obtain ⟨hunit, hunitPos⟩ := overPowerOfTwo_eq (s := s) (a := a) (b := b) (k := 52 - s.log2)
    (e := (a : Int) - b + s.log2 - 53 + 1) (by omega)
  have hmax : max Format.double.leastExponent ((a : Int) - b + s.log2 - 53 + 1) =
      (a : Int) - b + s.log2 - 53 + 1 := by
    rw [hleast]
    omega
  simp only [roundRatio, if_neg hne, hlow]
  rw [hfine, Nat.mul_div_cancel _ hfinePos, if_neg hbig, hmax, hunit, divHalfEven_of_mul _ hunitPos,
    hleast]
  congr 3
  omega

namespace Binary

/-- A finite number is its significand times the power of two of its exponent. -/
theorem ratio_eq {f : Format} (x : Binary f) :
    x.ratio = (x.significand * Nat.pow 2 x.exponent.toNat, Nat.pow 2 (-x.exponent).toNat) := by
  rw [ratio, overPowerOfTwo]
  split
  · rename_i h
    have hzero : x.exponent.toNat = 0 := by omega
    rw [hzero, Nat.one_mul]
    simp
  · rename_i h
    have hzero : (-x.exponent).toNat = 0 := by omega
    rw [hzero, Int.neg_neg]

theorem ratio_snd_pos {f : Format} (x : Binary f) : 0 < x.ratio.2 := by
  rw [ratio_eq]
  exact Nat.two_pow_pos _

/-- A magnitude whose lower part is a significand with its leading bit. -/
theorem significand_of_magnitude {y : Binary64} {place n : Nat}
    (hm : y.magnitude = place * Nat.pow 2 52 + n) (hlow : Nat.pow 2 52 ≤ n)
    (hhigh : n < Nat.pow 2 53) : y.significand = n ∧ y.exponent = (place : Int) - 1074 := by
  have hm' : y.magnitude = place * 4503599627370496 + n := hm
  have hlow' : 4503599627370496 ≤ n := hlow
  have hhigh' : n < 9007199254740992 := hhigh
  have hplace : y.magnitude / 4503599627370496 = place + 1 := by omega
  refine ⟨?_, ?_⟩
  · show (if y.magnitude / 4503599627370496 = 0 then y.magnitude % 4503599627370496
      else 4503599627370496 + y.magnitude % 4503599627370496) = n
    rw [hplace, if_neg (Nat.succ_ne_zero place)]
    omega
  · show -1074 + ((y.magnitude / 4503599627370496 - 1 : Nat) : Int) = (place : Int) - 1074
    omega

theorem convert_of_isFinite {f : Format} (g : Format) {x : Binary f} (h : x.isFinite = true) :
    x.convert g = ofRatio g x.negative x.ratio.1 x.ratio.2 := by
  have hm : x.magnitude < f.infinity := of_decide_eq_true h
  have hnan : ¬x.isNaN = true := by simp [isNaN, Nat.le_of_lt hm]
  rw [convert, if_neg hnan, if_pos h]

/-- The exponents of 32 bits. -/
theorem exponent_single (x : Binary32) : -149 ≤ x.exponent := by
  show -149 ≤ -149 + ((x.magnitude / 8388608 - 1 : Nat) : Int)
  omega

/-- A finite number of 32 bits is the same fraction in 64 bits. -/
theorem ratio_widened {x : Binary32} (h : x.isFinite = true) :
    x.ratio.1 * (x.convert .double).ratio.2 = (x.convert .double).ratio.1 * x.ratio.2 := by
  have hfinite : (x.convert .double).isFinite = true := isFinite_widened h
  have hy := convert_of_isFinite .double h
  generalize x.convert .double = y at hy hfinite
  have hratio : x.ratio = (x.significand * Nat.pow 2 x.exponent.toNat,
    Nat.pow 2 (-x.exponent).toNat) := x.ratio_eq
  have hmagnitude : y.magnitude = Format.double.roundRatio x.ratio.1 x.ratio.2 := by
    rw [hy]
    rfl
  by_cases hs : x.significand = 0
  · have hx : x.ratio.1 = 0 := by rw [hratio, hs, Nat.zero_mul]
    have hm : y.magnitude = 0 := by
      rw [hmagnitude, hx]
      rfl
    have hn : y.significand = 0 := by simp [significand, hm]
    have hzero : y.ratio.1 = 0 := by rw [ratio_eq, hn, Nat.zero_mul]
    rw [hx, hzero, Nat.zero_mul, Nat.zero_mul]
  · have hlog : x.significand.log2 ≤ 23 :=
      Nat.le_of_lt_succ ((Nat.log2_lt hs).mpr x.significand_lt)
    have hexp := x.exponent_single
    have hplace : ((x.exponent.toNat : Int) - (-x.exponent).toNat) = x.exponent := by omega
    -- the magnitude is below the infinity, so it is what the significand and its place make up
    have hm : y.magnitude = (x.exponent + x.significand.log2 + 1022).toNat * Nat.pow 2 52 +
        x.significand * Nat.pow 2 (52 - x.significand.log2) := by
      have hlt : y.magnitude < Format.double.infinity := of_decide_eq_true hfinite
      rw [hratio, Format.roundRatio_double hs (by omega) (by omega), hplace] at hmagnitude
      omega
    have hlow : Nat.pow 2 52 ≤ x.significand * Nat.pow 2 (52 - x.significand.log2) := by
      calc Nat.pow 2 52 = Nat.pow 2 x.significand.log2 * Nat.pow 2 (52 - x.significand.log2) := by
            simp only [Nat.pow_eq, ← Nat.pow_add]
            congr 1
            omega
        _ ≤ x.significand * Nat.pow 2 (52 - x.significand.log2) :=
            Nat.mul_le_mul_right _ (Nat.log2_self_le hs)
    have hhigh : x.significand * Nat.pow 2 (52 - x.significand.log2) < Nat.pow 2 53 := by
      calc x.significand * Nat.pow 2 (52 - x.significand.log2)
          < Nat.pow 2 (x.significand.log2 + 1) * Nat.pow 2 (52 - x.significand.log2) :=
            Nat.mul_lt_mul_of_pos_right Nat.lt_log2_self (Nat.two_pow_pos _)
        _ = Nat.pow 2 53 := by
            simp only [Nat.pow_eq, ← Nat.pow_add]
            congr 1
            omega
    obtain ⟨hn, he⟩ := significand_of_magnitude hm hlow hhigh
    have hpow : x.exponent.toNat + (-y.exponent).toNat =
        52 - x.significand.log2 + y.exponent.toNat + (-x.exponent).toNat := by
      omega
    rw [hratio, y.ratio_eq, hn]
    simp only [Nat.pow_eq, Nat.mul_assoc, ← Nat.pow_add]
    rw [hpow, Nat.add_assoc]

/-! ## Whole numbers -/

/-- A finite number that is a whole number: the fraction with its sign is that number. -/
def Denotes {f : Format} (x : Binary f) (i : Int) : Prop :=
  x.isFinite = true ∧ (if x.negative then -(x.ratio.1 : Int) else x.ratio.1) = i * x.ratio.2

instance {f : Format} (x : Binary f) (i : Int) : Decidable (x.Denotes i) :=
  inferInstanceAs (Decidable (_ ∧ _))

/-- A number of 32 bits that is a whole number is the same one in 64 bits. -/
theorem Denotes.widened {x : Binary32} {i : Int} (h : x.Denotes i) :
    (x.convert .double).Denotes i := by
  obtain ⟨hfinite, hx⟩ := h
  have hsign : (x.convert .double).negative = x.negative := by
    rw [convert_of_isFinite .double hfinite]
    rfl
  have hcross : (x.ratio.1 : Int) * (x.convert .double).ratio.2 =
      (x.convert .double).ratio.1 * x.ratio.2 := by
    exact_mod_cast ratio_widened hfinite
  refine ⟨isFinite_widened hfinite, ?_⟩
  have hpos : (x.ratio.2 : Int) ≠ 0 := by
    have := x.ratio_snd_pos
    omega
  -- both sides over the denominator of the narrow number
  refine Int.eq_of_mul_eq_mul_right hpos ?_
  rw [hsign]
  cases hn : x.negative with
  | false =>
      rw [hn, if_neg Bool.false_ne_true] at hx
      rw [if_neg Bool.false_ne_true, ← hcross, hx, Int.mul_assoc, Int.mul_assoc,
        Int.mul_comm (x.ratio.2 : Int)]
  | true =>
      rw [hn, if_pos rfl] at hx
      rw [if_pos rfl, Int.neg_mul, ← hcross, ← Int.neg_mul, hx, Int.mul_assoc, Int.mul_assoc,
        Int.mul_comm (x.ratio.2 : Int)]

end Binary

end SqlComposer
