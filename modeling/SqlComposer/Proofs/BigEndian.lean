import SqlComposer.Text.Bytes

/-! # Numbers are read back from their bytes

    A number is written in a fixed count of bytes, the highest first.  There are as many bytes as
    were asked for (`length_bigEndian`), and read as a natural number they give the number modulo
    what the bytes have room for (`ofBigEndian_bigEndian`). -/

namespace SqlComposer

/-- As many bytes are written as are asked for. -/
@[simp] theorem length_bigEndian (count n : Nat) : (bigEndian count n).length = count := by
  induction count generalizing n with
  | zero => rfl
  | succ count ih => rw [bigEndian, List.length_append, ih, List.length_singleton]

/-- One more byte at the low end. -/
theorem ofBigEndian_append_singleton (bytes : List UInt8) (b : UInt8) :
    ofBigEndian (bytes ++ [b]) = 256 * ofBigEndian bytes + b.toNat := by
  rw [ofBigEndian, List.foldl_append]
  rfl

/-- What is read back is the number, as far as the bytes go. -/
theorem ofBigEndian_bigEndian (count n : Nat) :
    ofBigEndian (bigEndian count n) = n % Nat.pow 256 count := by
  induction count generalizing n with
  | zero => exact (Nat.mod_one n).symm
  | succ count ih =>
      have hbyte : (UInt8.ofNat (n % 256)).toNat = n % 256 := by simp
      have hpow : Nat.pow 256 (count + 1) = 256 * Nat.pow 256 count := by
        show Nat.pow 256 count * 256 = _
        rw [Nat.mul_comm]
      rw [bigEndian, ofBigEndian_append_singleton, ih, hbyte, hpow, Nat.mod_mul, Nat.add_comm]

end SqlComposer
