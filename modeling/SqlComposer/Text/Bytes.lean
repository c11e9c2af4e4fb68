/-! # Bytes and texts

The bytes of a text in UTF-8, bytes as pairs of hexadecimal digits, numbers as bytes with the
highest one first, and texts cut between two characters so that they fit into a number of bytes. -/

namespace SqlComposer

/-- The bytes of a text in UTF-8. -/
def utf8 (s : String) : List UInt8 := s.toUTF8.data.toList

/-! ## Hexadecimal digits -/

/-- The lower case hexadecimal digit of a number below sixteen. -/
def hexDigit (n : Nat) : Char :=
  if n < 10 then Char.ofNat ('0'.toNat + n) else Char.ofNat ('a'.toNat + (n - 10))

/-- The number that a hexadecimal digit of either case stands for. -/
def hexValue? (c : Char) : Option Nat :=
  if '0' ≤ c ∧ c ≤ '9' then some (c.toNat - '0'.toNat)
  else if 'a' ≤ c ∧ c ≤ 'f' then some (c.toNat - 'a'.toNat + 10)
  else if 'A' ≤ c ∧ c ≤ 'F' then some (c.toNat - 'A'.toNat + 10)
  else none

/-- The number written in the given hexadecimal digits. -/
def hexNumber? (digits : List Char) : Option Nat :=
  digits.foldl (fun n c => n.bind fun n => (hexValue? c).map fun d => 16 * n + d) (some 0)

/-- The lowest `count` hexadecimal digits of a number. -/
def hexDigits : (count : Nat) → (n : Nat) → List Char
  | 0, _ => []
  | count + 1, n => hexDigits count (n / 16) ++ [hexDigit (n % 16)]

/-- Two digits for each byte. -/
def hexText (bytes : List UInt8) : String :=
  String.ofList (bytes.flatMap fun b => hexDigits 2 b.toNat)

/-- The bytes that pairs of hexadecimal digits stand for. -/
def bytesOfHex? : List Char → Option (List UInt8)
  | [] => some []
  | [_] => none
  | a :: b :: rest => do
    let high ← hexValue? a
    let low ← hexValue? b
    let bytes ← bytesOfHex? rest
    return UInt8.ofNat (16 * high + low) :: bytes

/-! ## Numbers as bytes -/

/-- The lowest `count` bytes of a natural number, the highest first. -/
def bigEndian : (count : Nat) → (n : Nat) → List UInt8
  | 0, _ => []
  | count + 1, n => bigEndian count (n / 256) ++ [UInt8.ofNat (n % 256)]

/-- An integer in two's complement in `count` bytes, the highest first. -/
def signedBigEndian (count : Nat) (i : Int) : List UInt8 :=
  bigEndian count (i % (Nat.pow 256 count : Nat)).toNat

/-- The natural number that bytes stand for, the highest first. -/
def ofBigEndian (bytes : List UInt8) : Nat := bytes.foldl (fun n b => 256 * n + b.toNat) 0

/-- The integer that bytes stand for in two's complement. -/
def ofSignedBigEndian (bytes : List UInt8) : Int :=
  (ofBigEndian bytes : Int).bmod (Nat.pow 256 bytes.length)

/-! ## Texts of limited size -/

/-- The last place between two characters with at most `limit` bytes in front of it, looked for from
`limit` backwards. -/
def lastCut (s : String) : (limit : Nat) → s.Pos
  | 0 => s.startPos
  | limit + 1 =>
    if h : (String.Pos.Raw.mk (limit + 1)).IsValid s then s.pos ⟨limit + 1⟩ h else lastCut s limit

/-- A text cut at the last place that the limit allows, unless it fits. -/
def cutText (limit : Nat) (s : String) : String :=
  if s.utf8ByteSize ≤ limit then s else (s.sliceTo (lastCut s limit)).copy

end SqlComposer
