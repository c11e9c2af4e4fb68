import SqlComposer.Value.Uuid

/-! # Numbers read back from hexadecimal digits

    The lowest digits of a number are written by taking one off its end after the other, and read
    from the front, so each step of writing is undone by the last step of reading
    (`hexNumber?_hexDigits`).  An identifier is 32 such digits in hyphenated groups; none of the
    digits is a hyphen, so the groups are told apart again (`Uuid.ofText?_text`). -/

namespace SqlComposer

/-! ## Digits -/

/-- A hexadecimal digit is read back. -/
theorem hexValue?_hexDigit : ∀ n, n < 16 → hexValue? (hexDigit n) = some n := by
  decide

theorem hexDigit_ne_hyphen : ∀ n, n < 16 → hexDigit n ≠ '-' := by
  decide

/-- One more digit at the end. -/
theorem hexNumber?_append (digits : List Char) (c : Char) :
    hexNumber? (digits ++ [c]) =
      (hexNumber? digits).bind fun n => (hexValue? c).map fun d => 16 * n + d := by
  rw [hexNumber?, List.foldl_append]
  rfl

@[simp]
theorem length_hexDigits (count n : Nat) : (hexDigits count n).length = count := by
  induction count generalizing n with
  | zero => rfl
  | succ count ih => rw [hexDigits, List.length_append, ih, List.length_singleton]

/-- Numbers in hexadecimal digits have no hyphens. -/
theorem ne_hyphen_of_mem_hexDigits {count n : Nat} {c : Char} (h : c ∈ hexDigits count n) :
    c ≠ '-' := by
  induction count generalizing n with
  | zero => cases h
  | succ count ih =>
      rcases List.mem_append.1 h with h | h
      · exact ih h
      · rw [List.mem_singleton.1 h]
        exact hexDigit_ne_hyphen _ (Nat.mod_lt _ (by decide))

/-- The digits of a number stand for as much of it as they can. -/
theorem hexNumber?_hexDigits (count n : Nat) :
    hexNumber? (hexDigits count n) = some (n % Nat.pow 16 count) := by
  induction count generalizing n with
  | zero =>
      show some 0 = some (n % 1)
      rw [Nat.mod_one]
  | succ count ih =>
      rw [hexDigits, hexNumber?_append, ih, hexValue?_hexDigit _ (Nat.mod_lt _ (by decide))]
      show some (16 * (n / 16 % Nat.pow 16 count) + n % 16) = some (n % Nat.pow 16 (count + 1))
      rw [Nat.pow_eq, Nat.pow_eq, Nat.pow_succ, Nat.mul_comm (16 ^ count), Nat.mod_mul,
        Nat.add_comm]

namespace Uuid

/-! ## Identifiers -/

/-- Without its hyphens a text of groups is the digits. -/
theorem filter_hyphenated {digits : List Char} (h : ∀ c ∈ digits, c ≠ '-') :
    (hyphenated digits).filter (· != '-') = digits := by
  have hp : ∀ part : List Char, part ⊆ digits → part.filter (· != '-') = part := by
    intro part hs
    exact List.filter_eq_self.2 fun c hc => bne_iff_ne.2 (h c (hs hc))
  have hgroup : ∀ n k, ((digits.drop n).take k).filter (· != '-') = (digits.drop n).take k :=
    fun _ _ => hp _ fun _ hc => List.mem_of_mem_drop (List.mem_of_mem_take hc)
  have hlast := hp (digits.drop 20) fun _ hc => List.mem_of_mem_drop hc
  have hfirst := hp (digits.take 8) fun _ hc => List.mem_of_mem_take hc
  have hhyphen : ∀ rest : List Char, ('-' :: rest).filter (· != '-') = rest.filter (· != '-') :=
    fun _ => rfl
  have hjoin : ∀ n k, (digits.drop n).take k ++ digits.drop (n + k) = digits.drop n := by
    intro n k
    rw [← List.drop_drop, List.take_append_drop]
  rw [hyphenated]
  simp only [List.filter_append, hhyphen, hfirst, hgroup, hlast]
  rw [hjoin 16 4, hjoin 12 4, hjoin 8 4]
  exact hjoin 0 8

/-- Four hyphens come to the 32 digits. -/
theorem length_hyphenated {digits : List Char} (h : digits.length = 32) :
    (hyphenated digits).length = 36 := by
  simp [hyphenated, h]

/-- An identifier is read back. -/
theorem ofText?_text (u : Uuid) : ofText? u.text = some u := by
  have hlength : (hyphenated (hexDigits 32 u.value.toNat)).length = 36 :=
    length_hyphenated (length_hexDigits _ _)
  have hfilter : (hyphenated (hexDigits 32 u.value.toNat)).filter (· != '-') =
      hexDigits 32 u.value.toNat := filter_hyphenated fun _ => ne_hyphen_of_mem_hexDigits
  have hvalue : u.value.toNat % Nat.pow 16 32 = u.value.toNat :=
    Nat.mod_eq_of_lt u.value.isLt
  simp only [ofText?, text, String.toList_ofList, hlength, ofHyphenated?, hfilter]
  rw [if_neg (by decide), if_pos trivial, if_pos trivial, ofDigits?, if_pos (length_hexDigits _ _),
    hexNumber?_hexDigits, hvalue, Option.map_some, BitVec.ofNat_toNat, BitVec.setWidth_eq]

end Uuid

end SqlComposer
