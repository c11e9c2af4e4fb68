/-! # Binary floating-point numbers as sign and magnitude

A number of a binary interchange format is its sign and its magnitude field, the exponent and
fraction bits read as one natural number.  Magnitudes below `Format.infinity` are the finite
numbers in increasing order, `Format.infinity` is the infinity, everything above is not a number.
All arithmetic here is exact arithmetic on natural numbers followed by one rounding,
`Format.roundRatio`, to the nearest number of the format with ties to the even magnitude. -/

namespace SqlComposer

/-- A binary interchange format, given by the sizes of its exponent and fraction fields. -/
structure Format where
  exponentBits : Nat
  fractionBits : Nat
  deriving DecidableEq, Repr

namespace Format

/-- The format of 32 bits. -/
def single : Format := ⟨8, 23⟩

/-- The format of 64 bits. -/
def double : Format := ⟨11, 52⟩

/-- How many significant bits a normal number has. -/
def precision (f : Format) : Nat := f.fractionBits + 1

/-- The number of magnitudes. -/
def magnitudes (f : Format) : Nat := Nat.pow 2 (f.exponentBits + f.fractionBits)

/-- The magnitude of an infinity: all exponent bits set, no fraction bit. -/
def infinity (f : Format) : Nat := (Nat.pow 2 f.exponentBits - 1) * Nat.pow 2 f.fractionBits

/-- The power of two that the lowest bit of a subnormal number stands for. -/
def leastExponent (f : Format) : Int :=
  2 - (Nat.pow 2 (f.exponentBits - 1) : Nat) - f.fractionBits

theorem infinity_lt_magnitudes (f : Format) : f.infinity < f.magnitudes := by
  have h₁ : 0 < Nat.pow 2 f.exponentBits := Nat.two_pow_pos _
  have h₂ : 0 < Nat.pow 2 f.fractionBits := Nat.two_pow_pos _
  have h : Nat.pow 2 (f.exponentBits + f.fractionBits) =
      Nat.pow 2 f.exponentBits * Nat.pow 2 f.fractionBits := Nat.pow_add 2 _ _
  unfold infinity magnitudes
  rw [h]
  exact Nat.mul_lt_mul_of_pos_right (by omega) h₂

end Format

/-- The quotient of two natural numbers rounded to the nearest, a half going to the even one. -/
def divHalfEven (num den : Nat) : Nat :=
  let q := num / den
  let twice := 2 * (num % den)
  if twice < den then q
  else if den < twice then q + 1
  else if q % 2 = 0 then q else q + 1

/-- The fraction `num / den` divided by two to the power `e`, again as a fraction. -/
def overPowerOfTwo (num den : Nat) (e : Int) : Nat × Nat :=
  if 0 ≤ e then (num, den * Nat.pow 2 e.toNat) else (num * Nat.pow 2 (-e).toNat, den)

/-- The magnitude nearest to the fraction `num / den`, ties going to the even one.  Beyond the
largest finite number the answer is the infinity. -/
def Format.roundRatio (f : Format) (num den : Nat) : Nat :=
  if num = 0 then 0
  else
    let low : Int := num.log2 - den.log2 - f.precision
    let scaled := overPowerOfTwo num den low
    let exact := if scaled.1 / scaled.2 < Nat.pow 2 f.precision then low else low + 1
    let e := max f.leastExponent exact
    let scaled := overPowerOfTwo num den e
    min f.infinity
      ((e - f.leastExponent).toNat * Nat.pow 2 f.fractionBits + divHalfEven scaled.1 scaled.2)

theorem Format.roundRatio_lt (f : Format) (num den : Nat) :
    f.roundRatio num den < f.magnitudes := by
  have h := f.infinity_lt_magnitudes
  simp only [Format.roundRatio]
  split
  · omega
  · exact Nat.lt_of_le_of_lt (Nat.min_le_left _ _) h

/-- A number of a binary format. -/
structure Binary (f : Format) where
  negative : Bool
  magnitude : Nat
  magnitude_lt : magnitude < f.magnitudes
  deriving DecidableEq, Repr

/-- A number of 32 bits. -/
abbrev Binary32 := Binary .single

/-- A number of 64 bits. -/
abbrev Binary64 := Binary .double

namespace Binary

variable {f : Format}

/-- Not a number. -/
def isNaN (x : Binary f) : Bool := f.infinity < x.magnitude

/-- Neither infinite nor NaN. -/
def isFinite (x : Binary f) : Bool := x.magnitude < f.infinity

/-- Zero of either sign. -/
def isZero (x : Binary f) : Bool := x.magnitude = 0

/-- Equality of numbers: the two zeros are equal, and nothing equals a NaN. -/
def equals (x y : Binary f) : Bool :=
  !x.isNaN && (x == y || (x.isZero && y.isZero))

/-- The significant bits as a whole number; a normal number has its leading one put in front. -/
def significand (x : Binary f) : Nat :=
  let fraction := x.magnitude % Nat.pow 2 f.fractionBits
  if x.magnitude / Nat.pow 2 f.fractionBits = 0 then fraction
  else Nat.pow 2 f.fractionBits + fraction

/-- The power of two that the lowest bit of the significand stands for. -/
def exponent (x : Binary f) : Int :=
  f.leastExponent + ((x.magnitude / Nat.pow 2 f.fractionBits - 1 : Nat) : Int)

/-- The absolute value of a finite number as a fraction of natural numbers. -/
def ratio (x : Binary f) : Nat × Nat := overPowerOfTwo x.significand 1 (-x.exponent)

/-- Plus or minus the number nearest to `num / den`. -/
def ofRatio (f : Format) (negative : Bool) (num den : Nat) : Binary f :=
  ⟨negative, f.roundRatio num den, f.roundRatio_lt num den⟩

/-- The number nearest to an integer. -/
def ofInt (f : Format) (i : Int) : Binary f := ofRatio f (i < 0) i.natAbs 1

/-- Plus or minus infinity. -/
def infinite (f : Format) (negative : Bool) : Binary f :=
  ⟨negative, f.infinity, f.infinity_lt_magnitudes⟩

/-- The quiet NaN: all exponent bits and the first fraction bit are set. -/
def nan (f : Format) (negative : Bool) : Binary f :=
  ⟨negative, (f.infinity + Nat.pow 2 (f.fractionBits - 1)) % f.magnitudes,
    Nat.mod_lt _ (Nat.two_pow_pos _)⟩

/-- The nearest number of another format. -/
def convert (g : Format) (x : Binary f) : Binary g :=
  if x.isNaN then nan g x.negative
  else if x.isFinite then
    let r := x.ratio
    ofRatio g x.negative r.1 r.2
  else infinite g x.negative

/-- The interchange encoding as a natural number: the sign above the magnitude. -/
def bits (x : Binary f) : Nat :=
  (if x.negative then f.magnitudes else 0) + x.magnitude

/-- The number with the given interchange encoding. -/
def ofBits (f : Format) (bits : Nat) : Binary f :=
  ⟨f.magnitudes ≤ bits, bits % f.magnitudes, Nat.mod_lt _ (Nat.two_pow_pos _)⟩

end Binary

end SqlComposer
