import SqlComposer.Calendar.Reader

/-! # Numbers read back from their digits

    Dates and times are written in digits of a fixed width, with zeros in front, and years outside
    of four digits with a sign and as many digits as they need.

    * The digits of a number, also with zeros in front, stand for it (`ofDigits_padded`) and take
      the width they are given (`length_padded`).
    * A reader of so many digits takes them and leaves the rest (`Reader.number_padded`), whatever
      the rest is; a year is read up to the hyphen behind it (`Reader.year_yearText`).
    * The fewest groups of three digits that are exact give the nanoseconds back
      (`Reader.fraction_fractionText`). -/

namespace SqlComposer

/-! ## Digits -/

/-- The digits of a number stand for it. -/
theorem ofDigits_decimalDigits (n : Nat) : ofDigits (decimalDigits n) = n :=
  Nat.ofDigitChars_toDigits (by decide) (by decide)

/-- Zeros in front change nothing. -/
theorem ofDigits_padded (width n : Nat) : ofDigits (padded width n) = n := by
  show Nat.ofDigitChars 10 (List.replicate _ '0' ++ decimalDigits n) 0 = n
  rw [Nat.ofDigitChars_append, Nat.ofDigitChars_replicate_zero, Nat.mul_zero]
  exact ofDigits_decimalDigits n

theorem isDigit_of_mem_decimalDigits {c : Char} {n : Nat} (h : c ∈ decimalDigits n) :
    c.isDigit = true :=
  Nat.isDigit_of_mem_toDigits (by decide) (by decide) h

/-- Numbers with zeros in front have nothing but digits. -/
theorem isDigit_of_mem_padded {c : Char} {width n : Nat} (h : c ∈ padded width n) :
    c.isDigit = true := by
  rcases List.mem_append.1 h with h | h
  · rw [List.eq_of_mem_replicate h]
    rfl
  · exact isDigit_of_mem_decimalDigits h

theorem padded_ne_nil (width n : Nat) : padded width n ≠ [] :=
  List.append_ne_nil_of_right_ne_nil _ Nat.toDigits_ne_nil

/-- A number that the width is enough for takes the width. -/
theorem length_padded {width n : Nat} (hw : 0 < width) (h : n < Nat.pow 10 width) :
    (padded width n).length = width := by
  have hd : (decimalDigits n).length ≤ width := (Nat.length_toDigits_le_iff (by decide) hw).2 h
  rw [padded, List.length_append, List.length_replicate, Nat.sub_add_cancel hd]

/-- No sign stands in front of digits. -/
theorem padded_append_ne_cons {width n : Nat} {sign : Char} (h : sign.isDigit = false)
    {rest more : List Char} : padded width n ++ rest ≠ sign :: more := by
  intro heq
  obtain ⟨c, digits, hc⟩ := List.exists_cons_of_ne_nil (padded_ne_nil width n)
  rw [hc] at heq
  have hd : c.isDigit = true := isDigit_of_mem_padded (hc ▸ List.mem_cons_self)
  rw [(List.cons.inj heq).1, h] at hd
  cases hd

/-- A digit is no blank. -/
theorem isBlank_of_isDigit {c : Char} (h : c.isDigit = true) : isBlank c = false := by
  have hc : 48 ≤ c.toNat ∧ c.toNat ≤ 57 := by
    simpa [Char.isDigit, UInt32.le_iff_toNat_le] using h
  simp only [isBlank, blankRanges, List.any_eq_false, List.mem_cons, List.not_mem_nil, or_false,
    Bool.and_eq_true, decide_eq_true_eq]
  rintro range (rfl | rfl | rfl | rfl | rfl | rfl | rfl | rfl | rfl | rfl) <;> omega

/-- There is no blank in front of a text that begins with a digit. -/
theorem skipBlanks_digits {digits : List Char} (hd : ∀ c ∈ digits, c.isDigit = true)
    (hne : digits ≠ []) (rest : List Char) : skipBlanks (digits ++ rest) = digits ++ rest := by
  obtain ⟨c, more, rfl⟩ := List.exists_cons_of_ne_nil hne
  exact List.dropWhile_cons_of_neg (by simp [isBlank_of_isDigit (hd c List.mem_cons_self)])

/-- A text that does not go on with digits. -/
def EndsDigits (rest : List Char) : Prop := rest.takeWhile Char.isDigit = []

theorem takeWhile_digits {digits rest : List Char} (hd : ∀ c ∈ digits, c.isDigit = true)
    (h : EndsDigits rest) : (digits ++ rest).takeWhile Char.isDigit = digits := by
  rw [List.takeWhile_append_of_pos hd, h, List.append_nil]

theorem dropWhile_digits {digits rest : List Char} (hd : ∀ c ∈ digits, c.isDigit = true)
    (h : EndsDigits rest) : (digits ++ rest).dropWhile Char.isDigit = rest := by
  have hsplit := List.takeWhile_append_dropWhile (p := Char.isDigit) (l := rest)
  rw [h, List.nil_append] at hsplit
  rw [List.dropWhile_append_of_pos hd, hsplit]

namespace Reader

/-! ## Readers -/

/-- A number of the given width is read, and the rest is left. -/
theorem number_padded {width n : Nat} (hw : 0 < width) (h : n < Nat.pow 10 width)
    (rest : List Char) : number width (padded width n ++ rest) = some (n, rest) := by
  have hd : ∀ c ∈ padded width n, c.isDigit = true := fun _ => isDigit_of_mem_padded
  have htake : ((padded width n ++ rest).take width).takeWhile Char.isDigit = padded width n := by
    have hnil : EndsDigits [] := rfl
    have hall := takeWhile_digits hd hnil
    rw [List.append_nil] at hall
    rw [List.take_left' (length_padded hw h), hall]
  have hne : ¬(padded width n).isEmpty = true := by simpa using padded_ne_nil width n
  simp only [number, skipBlanks_digits hd (padded_ne_nil width n), htake]
  rw [if_neg hne, ofDigits_padded, List.drop_left]

/-- The digits behind a sign. -/
theorem signed_padded (negative : Bool) (n : Nat) {rest : List Char} (h : EndsDigits rest) :
    year.signed negative (padded 4 n ++ rest) =
      some (if negative then -(n : Int) else n, rest) := by
  have hd : ∀ c ∈ padded 4 n, c.isDigit = true := fun _ => isDigit_of_mem_padded
  have hne : ¬(padded 4 n).isEmpty = true := by simpa using padded_ne_nil 4 n
  simp only [year.signed, takeWhile_digits hd h, dropWhile_digits hd h]
  rw [if_neg hne, ofDigits_padded]

/-- A year without a sign is one of four digits. -/
theorem year_padded {n : Nat} (h : n < Nat.pow 10 4) (rest : List Char) :
    year (padded 4 n ++ rest) = some ((n : Int), rest) := by
  rw [year, skipBlanks_digits (fun _ => isDigit_of_mem_padded) (padded_ne_nil 4 n)]
  split
  · rename_i heq
    exact (padded_append_ne_cons rfl heq).elim
  · rename_i heq
    exact (padded_append_ne_cons rfl heq).elim
  · rw [number_padded (by decide) h]
    rfl

/-- A year is read back. -/
theorem year_yearText (y : Int) {rest : List Char} (h : EndsDigits rest) :
    year (yearText y ++ rest) = some (y, rest) := by
  rw [yearText]
  by_cases hy : 0 ≤ y ∧ y ≤ 9999
  · rw [if_pos hy, year_padded (by show y.natAbs < 10000; omega), Int.natAbs_of_nonneg hy.1]
  · rw [if_neg hy]
    by_cases hn : y < 0
    · rw [if_pos hn]
      show year.signed true (padded 4 y.natAbs ++ rest) = _
      rw [signed_padded true _ h, if_pos rfl, Int.ofNat_natAbs_of_nonpos (Int.le_of_lt hn),
        Int.neg_neg]
    · rw [if_neg hn]
      show year.signed false (padded 4 y.natAbs ++ rest) = _
      rw [signed_padded false _ h, if_neg Bool.false_ne_true,
        Int.natAbs_of_nonneg (Int.not_lt.1 hn)]

/-! ## Fractions of a second -/

/-- A text behind a time, where neither digits nor a fraction go on. -/
def EndsTime (rest : List Char) : Prop := EndsDigits rest ∧ rest.head? ≠ some '.'

/-- Up to nine digits behind the point. -/
theorem fraction_padded {width n : Nat} (hw : 0 < width) (hw' : width ≤ 9)
    (h : n < Nat.pow 10 width) {rest : List Char} (hr : EndsDigits rest) :
    fraction ('.' :: padded width n ++ rest) = some (n * Nat.pow 10 (9 - width), rest) := by
  have hd : ∀ c ∈ padded width n, c.isDigit = true := fun _ => isDigit_of_mem_padded
  have htake : (padded width n).take 9 = padded width n :=
    List.take_of_length_le (by rwa [length_padded hw h])
  have hne : ¬(padded width n).isEmpty = true := by simpa using padded_ne_nil width n
  show fraction ('.' :: (padded width n ++ rest)) = _
  simp only [fraction, takeWhile_digits hd hr, dropWhile_digits hd hr, htake]
  rw [if_neg hne, ofDigits_padded, length_padded hw h]

/-- Nanoseconds are read back. -/
theorem fraction_fractionText {n : Nat} (h : n < 1000000000) {rest : List Char}
    (hr : EndsTime rest) : fraction (Time.fractionText n ++ rest) = some (n, rest) := by
  rw [Time.fractionText]
  split
  · rename_i h0
    rw [List.nil_append, fraction.eq_def, h0]
    split
    · exact (hr.2 rfl).elim
    · rfl
  · split
    · rename_i h6
      rw [fraction_padded (by decide) (by decide) (by show _ < 1000; omega) hr.1]
      show some (n / 1000000 * 1000000, rest) = _
      rw [Nat.div_mul_cancel (Nat.dvd_of_mod_eq_zero h6)]
    · split
      · rename_i h3
        rw [fraction_padded (by decide) (by decide) (by show _ < 1000000; omega) hr.1]
        show some (n / 1000 * 1000, rest) = _
        rw [Nat.div_mul_cancel (Nat.dvd_of_mod_eq_zero h3)]
      · rw [fraction_padded (by decide) (by decide) (by exact h) hr.1]
        show some (n * 1, rest) = _
        rw [Nat.mul_one]

end Reader

end SqlComposer
