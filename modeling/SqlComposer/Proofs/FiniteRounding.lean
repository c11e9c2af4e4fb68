import SqlComposer.Number.Binary

/-! # Rounding to a finite number

    Rounding a fraction picks the power of two of the lowest bit so that the quotient has at most
    two bits more than a significand, and gives the infinity only when the magnitude field is left.
    So a fraction below a power of two that the format has room for is rounded to a finite number
    (`Format.roundRatio_lt_infinity`).

    A finite number of 32 bits is below the 128th power of two (`Binary.ratio_lt`), far inside of
    what 64 bits hold: widened it is finite again (`Binary.isFinite_widened`). -/

namespace SqlComposer

/-! ## Quotients -/

/-- The quotient of a fraction that is divided by a power of two. -/
theorem overPowerOfTwo_div_lt {num den a b k : Nat} {e : Int} (hn : num < Nat.pow 2 a)
    (hd : Nat.pow 2 b ≤ den) (h : (a : Int) ≤ b + e + k) :
    (overPowerOfTwo num den e).1 / (overPowerOfTwo num den e).2 < Nat.pow 2 k := by
  refine Nat.div_lt_of_lt_mul ?_
  rw [overPowerOfTwo]
  split
  · rename_i he
    calc num < Nat.pow 2 a := hn
      _ ≤ Nat.pow 2 (b + e.toNat + k) := Nat.pow_le_pow_right Nat.two_pos (by omega)
      _ = Nat.pow 2 b * Nat.pow 2 e.toNat * Nat.pow 2 k := by
        simp only [Nat.pow_eq, Nat.pow_add]
      _ ≤ den * Nat.pow 2 e.toNat * Nat.pow 2 k :=
        Nat.mul_le_mul_right _ (Nat.mul_le_mul_right _ hd)
  · rename_i he
    calc num * Nat.pow 2 (-e).toNat
        < Nat.pow 2 a * Nat.pow 2 (-e).toNat :=
          Nat.mul_lt_mul_of_pos_right hn (Nat.two_pow_pos _)
      _ = Nat.pow 2 (a + (-e).toNat) := (Nat.pow_add 2 _ _).symm
      _ ≤ Nat.pow 2 (b + k) := Nat.pow_le_pow_right Nat.two_pos (by omega)
      _ = Nat.pow 2 b * Nat.pow 2 k := Nat.pow_add 2 _ _
      _ ≤ den * Nat.pow 2 k := Nat.mul_le_mul_right _ hd

theorem divHalfEven_le (num den : Nat) : divHalfEven num den ≤ num / den + 1 := by
  simp only [divHalfEven]
  split
  · omega
  · split
    · omega
    · split <;> omega

/-! ## Rounding -/

/-- A fraction below a power of two that lies inside the format is not rounded to the infinity. -/
theorem Format.roundRatio_lt_infinity (f : Format) {num den k : Nat} (hn : num < Nat.pow 2 k)
    (hd : den ≠ 0)
    (hf : (k - f.precision - f.leastExponent : Int).toNat * Nat.pow 2 f.fractionBits +
      Nat.pow 2 (f.precision + 1) < f.infinity) : f.roundRatio num den < f.infinity := by
  simp only [roundRatio]
  split
  · exact Nat.lt_of_le_of_lt (Nat.zero_le _) hf
  · rename_i h0
    generalize hlow : ((num.log2 : Int) - den.log2 - f.precision) = low
    generalize hexact : (if (overPowerOfTwo num den low).1 / (overPowerOfTwo num den low).2 <
      Nat.pow 2 f.precision then low else low + 1) = exact
    generalize he : max f.leastExponent exact = e
    have hlog : num.log2 < k := (Nat.log2_lt h0).2 hn
    have hexact' : low ≤ exact ∧ exact ≤ low + 1 := by
      rw [← hexact]
      split <;> omega
    have hplace : (e - f.leastExponent).toNat ≤
        (k - f.precision - f.leastExponent : Int).toNat := by
      omega
    have hquotient : (overPowerOfTwo num den e).1 / (overPowerOfTwo num den e).2 <
        Nat.pow 2 (f.precision + 1) :=
      overPowerOfTwo_div_lt Nat.lt_log2_self (Nat.log2_self_le hd) (by omega)
    have hround := divHalfEven_le (overPowerOfTwo num den e).1 (overPowerOfTwo num den e).2
    have hmul := Nat.mul_le_mul_right (Nat.pow 2 f.fractionBits) hplace
    omega

namespace Binary

/-! ## Widening -/

/-- A significand has one bit more than a fraction. -/
theorem significand_lt {f : Format} (x : Binary f) :
    x.significand < Nat.pow 2 (f.fractionBits + 1) := by
  have hmod : x.magnitude % Nat.pow 2 f.fractionBits < Nat.pow 2 f.fractionBits :=
    Nat.mod_lt _ (Nat.two_pow_pos _)
  have hsucc : Nat.pow 2 (f.fractionBits + 1) = Nat.pow 2 f.fractionBits * 2 :=
    Nat.pow_succ 2 _
  simp only [significand, hsucc]
  split <;> omega

/-- A finite number of 32 bits as a fraction. -/
theorem ratio_lt {x : Binary32} (h : x.isFinite = true) :
    x.ratio.1 < Nat.pow 2 128 ∧ x.ratio.2 ≠ 0 := by
  have hs : x.significand < Nat.pow 2 24 := x.significand_lt
  have hm : x.magnitude < 255 * 8388608 := of_decide_eq_true h
  have he : x.exponent ≤ 104 := by
    show -149 + ((x.magnitude / 8388608 - 1 : Nat) : Int) ≤ 104
    omega
  rw [ratio, overPowerOfTwo]
  split
  · exact ⟨Nat.lt_trans hs (by decide), Nat.ne_of_gt (Nat.mul_pos Nat.one_pos (Nat.two_pow_pos _))⟩
  · refine ⟨?_, Nat.one_ne_zero⟩
    rw [Int.neg_neg]
    calc x.significand * Nat.pow 2 x.exponent.toNat
        < Nat.pow 2 24 * Nat.pow 2 x.exponent.toNat :=
          Nat.mul_lt_mul_of_pos_right hs (Nat.two_pow_pos _)
      _ ≤ Nat.pow 2 24 * Nat.pow 2 104 :=
        Nat.mul_le_mul_left _ (Nat.pow_le_pow_right Nat.two_pos (by omega))

/-- A finite number of 32 bits stays finite when it is widened. -/
theorem isFinite_widened {x : Binary32} (h : x.isFinite = true) :
    (x.convert .double).isFinite = true := by
  obtain ⟨hn, hd⟩ := ratio_lt h
  have hnan : ¬x.isNaN = true := by
    have hm : x.magnitude < Format.single.infinity := of_decide_eq_true h
    simp [isNaN, Nat.le_of_lt hm]
  rw [convert, if_neg hnan, if_pos h]
  exact decide_eq_true (Format.double.roundRatio_lt_infinity hn hd (by decide))

end Binary

end SqlComposer
