import SqlComposer.Json.Basic

/-! # Reading JSON numerals

Leading digits are kept as long as the number they form has at most 64 bits; a digit before the
point that is left out counts as a power of ten, one after the point as nothing.  The kept digits
are then converted to a binary number and multiplied or divided by a power of ten, each step rounded
on its own, so a numeral with many digits may end up next to the nearest binary number. -/

namespace SqlComposer

namespace Json

/-- Appends digits to a number while the result has at most 64 bits, and counts those appended. -/
def keepDigits : (kept : Nat) → List Char → Nat × Nat
  | kept, [] => (kept, 0)
  | kept, c :: rest =>
    let next := 10 * kept + (c.toNat - '0'.toNat)
    if (next : Int) ≤ greatestInteger then
      let (all, count) := keepDigits next rest
      (all, count + 1)
    else (kept, 0)

/-- The greatest power of ten that is a finite number. -/
def greatestPower : Nat := 308

/-- The binary number nearest to a power of ten. -/
def powerOfTen (e : Nat) : Binary64 := .ofDecimal .double false ⟨1, e⟩

/-- The product of two finite numbers without sign, rounded. -/
def product (x y : Binary64) : Binary64 :=
  .ofRatio .double false (x.ratio.1 * y.ratio.1) (x.ratio.2 * y.ratio.2)

/-- The quotient of two finite numbers without sign, rounded. -/
def quotient (x y : Binary64) : Binary64 :=
  .ofRatio .double false (x.ratio.1 * y.ratio.2) (x.ratio.2 * y.ratio.1)

/-- Divides by the greatest power of ten when the exponent is beyond it. -/
def shrink (x : Binary64 × Int) : Binary64 × Int :=
  if x.2 < -greatestPower then (quotient x.1 (powerOfTen greatestPower), x.2 + greatestPower) else x

/-- The kept digits times ten to the exponent.  Two divisions by the greatest power already give
zero, so no more of them are needed. -/
def scaleDigits? (kept : Nat) (exponent : Int) : Option Binary64 :=
  let (x, e) := shrink (shrink (.ofInt .double kept, exponent))
  if x.isZero then some x
  else if e < 0 then some (quotient x (powerOfTen e.natAbs))
  else if greatestPower < e then none
  else
    let result := product x (powerOfTen e.toNat)
    if result.isFinite then some result else none

/-- The exponents that are told apart; beyond them a number is zero or out of range. -/
def exponentLimit : Int := 0x7FFFFFFF

/-- The binary number of kept digits, a power of ten for the digits left out, and a written
exponent. -/
def binaryOfParts? (kept : Nat) (offset written : Int) : Option Binary64 :=
  if written.natAbs ≤ exponentLimit.natAbs then scaleDigits? kept (offset + written)
  else if kept = 0 ∨ written < 0 then some (.ofInt .double 0)
  else none

/-- The digits in front, when there are any. -/
def splitDigits? (text : List Char) : Option (List Char × List Char) :=
  let digits := text.takeWhile Char.isDigit
  if digits.isEmpty then none else some (digits, text.dropWhile Char.isDigit)

/-- The digits of a fraction after its point; no digits when there is no point. -/
def splitFraction? : List Char → Option (List Char × List Char)
  | '.' :: rest => splitDigits? rest
  | rest => some ([], rest)

/-- A number without its sign. -/
def unsignedNumeral? (negative : Bool) (text : List Char) : Option JsonNumber := do
  let (whole, rest) ← splitDigits? text
  if whole.length > 1 && whole.head? == some '0' then none
  let (fraction, rest) ← splitFraction? rest
  let exponent ← readExponent? rest
  let (kept, wholeKept) := keepDigits 0 whole
  let (all, fractionKept) := keepDigits kept fraction
  let dropped := whole.length - wholeKept
  let magnitudeFits := dropped = 0 ∧ (negative → 0 < kept ∧ leastInteger ≤ -(kept : Int))
  if fraction.isEmpty && rest.isEmpty && decide magnitudeFits then
    JsonNumber.ofInt? (if negative then -(kept : Int) else kept)
  else
    let x ← binaryOfParts? all ((dropped : Int) - fractionKept) exponent
    JsonNumber.ofBinary? { x with negative := negative }

/-- A JSON numeral: a minus or none, digits without a leading zero, a fraction and an exponent. -/
def numeral? : List Char → Option JsonNumber
  | '-' :: rest => unsignedNumeral? true rest
  | text => unsignedNumeral? false text

end Json

end SqlComposer
