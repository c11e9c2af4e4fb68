import SqlComposer.Number.Binary

/-! # Decimal forms of binary numbers

`Binary.shortest` gives the decimal with the fewest digits that reads back as the same number: it
walks the decimal grids from coarse to fine, looks at the two neighbours of the number on each
grid, and takes the nearer one that rounds to the number.  Two layouts write such a decimal: plain
digits without exponent, and digits with a point or an exponent, as `PointRange` decides.
`Binary.ofText?` reads any decimal text, rounding to the nearest number. -/

namespace SqlComposer

/-- A decimal number: the coefficient times ten to the exponent. -/
structure Decimal where
  coefficient : Nat
  exponent : Int
  deriving DecidableEq, Repr

/-- The fraction `num / den` divided by ten to the power `e`, again as a fraction. -/
def overPowerOfTen (num den : Nat) (e : Int) : Nat × Nat :=
  if 0 ≤ e then (num, den * Nat.pow 10 e.toNat) else (num * Nat.pow 10 (-e).toNat, den)

/-- The decimal digits of a natural number. -/
def decimalDigits (n : Nat) : List Char := Nat.toDigits 10 n

namespace Decimal

/-- The value as a fraction. -/
def ratio (d : Decimal) : Nat × Nat := overPowerOfTen d.coefficient 1 (-d.exponent)

/-- The same decimal without the zeros at the end of its coefficient. -/
def stripped (d : Decimal) : Decimal :=
  let zeros := ((decimalDigits d.coefficient).reverse.takeWhile (· == '0')).length
  ⟨d.coefficient / Nat.pow 10 zeros, d.exponent + zeros⟩

/-- Digits with a point where one is needed, never an exponent. -/
def plain (d : Decimal) : List Char :=
  let digits := decimalDigits d.coefficient
  if 0 ≤ d.exponent then digits ++ List.replicate d.exponent.toNat '0'
  else
    let places := (-d.exponent).toNat
    if places < digits.length then
      digits.take (digits.length - places) ++ '.' :: digits.drop (digits.length - places)
    else '0' :: '.' :: (List.replicate (places - digits.length) '0' ++ digits)

end Decimal

/-- The decimal exponents of the leading digit for which a number is written without an exponent. -/
structure PointRange where
  least : Int
  greatest : Int

namespace PointRange

/-- Numbers of 64 bits are positional from `0.00001` up to below `1e16`. -/
def double : PointRange := ⟨-5, 15⟩

/-- Numbers of 32 bits are positional from `0.000001` up to below `1e13`. -/
def single : PointRange := ⟨-6, 12⟩

end PointRange

/-- Digits with a point, always one, inside the range, and with an exponent outside it. -/
def Decimal.pointed (range : PointRange) (d : Decimal) : List Char :=
  let digits := decimalDigits d.coefficient
  let lead : Int := digits.length - 1 + d.exponent
  if range.least ≤ lead ∧ lead ≤ range.greatest then
    if 0 ≤ d.exponent then d.plain ++ ['.', '0'] else d.plain
  else
    let fraction := if digits.length ≤ 1 then [] else '.' :: digits.drop 1
    let sign := if lead < 0 then '-' else '+'
    digits.take 1 ++ fraction ++ 'e' :: sign :: decimalDigits lead.natAbs

/-! ## The shortest decimal -/

/-- Which of two equally near decimals is taken. -/
inductive Tie where
  | up
  | even
  deriving DecidableEq, Repr

/-- The exponent of the leading decimal digit of a positive fraction. -/
def leadingExponent (num den : Nat) : Int :=
  let guess : Int := (decimalDigits num).length - (decimalDigits den).length
  let scaled := overPowerOfTen num den guess
  if scaled.1 / scaled.2 = 0 then guess - 1 else guess

namespace Binary

variable {f : Format}

/-- The decimal rounds to the magnitude of `x`. -/
def readsBack (x : Binary f) (d : Decimal) : Bool :=
  f.roundRatio d.ratio.1 d.ratio.2 == x.magnitude

/-- The neighbours of `x` among the multiples of ten to the power `e`, the nearer one first. -/
def neighbours (tie : Tie) (x : Binary f) (e : Int) : List Decimal :=
  let scaled := overPowerOfTen x.ratio.1 x.ratio.2 e
  let low := scaled.1 / scaled.2
  let twice := 2 * (scaled.1 % scaled.2)
  if twice < scaled.2 ∨ (twice = scaled.2 ∧ tie = .even ∧ low % 2 = 0) then
    [⟨low, e⟩, ⟨low + 1, e⟩]
  else [⟨low + 1, e⟩, ⟨low, e⟩]

/-- Every digit of a finite number, which always reads back. -/
def expansion (x : Binary f) : Decimal :=
  if 0 ≤ x.exponent then ⟨x.significand * Nat.pow 2 x.exponent.toNat, 0⟩
  else ⟨x.significand * Nat.pow 5 (-x.exponent).toNat, x.exponent⟩

/-- How many digits are tried before all digits are written; no number of 64 bits needs more. -/
def digitLimit : Nat := 17

/-- The decimal with the fewest digits that reads back as the absolute value of a finite number. -/
def shortest (tie : Tie) (x : Binary f) : Decimal :=
  if x.isZero then ⟨0, 0⟩
  else
    let lead := leadingExponent x.ratio.1 x.ratio.2
    let grids := (List.range digitLimit).map fun (k : Nat) => lead - (k : Int)
    match (grids.flatMap (x.neighbours tie)).find? x.readsBack with
    | some d => d.stripped
    | none => x.expansion

/-- The text of a number: shortest digits that read back, a tie going up, without exponent. -/
def text (x : Binary f) : String :=
  if x.isNaN then "NaN"
  else
    let body := if x.isFinite then (x.shortest .up).plain else ['i', 'n', 'f']
    String.ofList (if x.negative then '-' :: body else body)

/-- The text of a finite number in JSON: shortest digits that read back, a tie going to the even
digit. -/
def jsonText (range : PointRange) (x : Binary f) : String :=
  let body := (x.shortest .even).pointed range
  String.ofList (if x.negative then '-' :: body else body)

end Binary

/-! ## Reading -/

/-- A natural number written in the given decimal digits. -/
def ofDigits (digits : List Char) : Nat :=
  digits.foldl (fun n c => 10 * n + (c.toNat - '0'.toNat)) 0

/-- A sign in front of a text: whether it is a minus, and the text without it. -/
def splitSign : List Char → Bool × List Char
  | '-' :: rest => (true, rest)
  | '+' :: rest => (false, rest)
  | rest => (false, rest)

/-- A whole number of digits with an optional sign. -/
def readInteger? (text : List Char) : Option Int :=
  let (negative, digits) := splitSign text
  if digits.isEmpty || !digits.all Char.isDigit then none
  else some (if negative then -(ofDigits digits : Int) else ofDigits digits)

/-- The exponent part of a decimal text, which may be missing. -/
def readExponent? : List Char → Option Int
  | [] => some 0
  | c :: rest => if c = 'e' ∨ c = 'E' then readInteger? rest else none

/-- An unsigned decimal text: digits, a point among them or not, and an exponent or none. -/
def Decimal.ofText? (text : List Char) : Option Decimal :=
  let whole := text.takeWhile Char.isDigit
  let rest := text.dropWhile Char.isDigit
  let (places, rest) :=
    match rest with
    | '.' :: rest => (rest.takeWhile Char.isDigit, rest.dropWhile Char.isDigit)
    | _ => ([], rest)
  if whole.isEmpty && places.isEmpty then none
  else (readExponent? rest).map fun e => ⟨ofDigits (whole ++ places), e - places.length⟩

namespace Binary

/-- Far above the decimal exponents of both formats. -/
def exponentLimit : Int := 400

/-- The number nearest to a decimal.  Exponents out of all range are decided without computing the
power of ten. -/
def ofDecimal (f : Format) (negative : Bool) (d : Decimal) : Binary f :=
  let lead : Int := (decimalDigits d.coefficient).length + d.exponent
  if d.coefficient = 0 ∨ lead < -exponentLimit then ofRatio f negative 0 1
  else if exponentLimit < lead then infinite f negative
  else ofRatio f negative d.ratio.1 d.ratio.2

/-- A signed decimal text, an infinity or a NaN, the letters in any case. -/
def ofText? (f : Format) (text : String) : Option (Binary f) :=
  let (negative, body) := splitSign text.toList
  let word := String.ofList (body.map Char.toLower)
  if word = "nan" then some (nan f negative)
  else if word = "inf" ∨ word = "infinity" then some (infinite f negative)
  else (Decimal.ofText? body).map (ofDecimal f negative)

end Binary

end SqlComposer
