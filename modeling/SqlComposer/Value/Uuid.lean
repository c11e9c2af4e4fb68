import SqlComposer.Text.Bytes

/-! # Universally unique identifiers

An identifier is 128 bits.  It is written as 32 lower case hexadecimal digits in groups of 8, 4, 4,
4 and 12, and read in that form, without hyphens, in braces or as a name of the `urn:uuid:` space.
Letters are read in any case. -/

namespace SqlComposer

/-- A universally unique identifier. -/
structure Uuid where
  value : BitVec 128
  deriving DecidableEq, Repr

namespace Uuid

/-- The digits with a hyphen after each group but the last. -/
def hyphenated (digits : List Char) : List Char :=
  digits.take 8 ++ '-' :: ((digits.drop 8).take 4 ++ '-' :: ((digits.drop 12).take 4 ++
    '-' :: ((digits.drop 16).take 4 ++ '-' :: digits.drop 20)))

/-- The text of an identifier. -/
def text (u : Uuid) : String := String.ofList (hyphenated (hexDigits 32 u.value.toNat))

/-- The identifier written in 32 hexadecimal digits. -/
def ofDigits? (digits : List Char) : Option Uuid :=
  if digits.length = 32 then (hexNumber? digits).map fun n => ⟨BitVec.ofNat 128 n⟩ else none

/-- The identifier written in groups with hyphens. -/
def ofHyphenated? (text : List Char) : Option Uuid :=
  let digits := text.filter (· != '-')
  if hyphenated digits = text then ofDigits? digits else none

/-- The text inside braces. -/
def unbraced? : List Char → Option (List Char)
  | '{' :: rest => if rest.getLast? = some '}' then some rest.dropLast else none
  | _ => none

/-- What stands in front of an identifier as a uniform resource name. -/
def urnMark : List Char := "urn:uuid:".toList

/-- The text after the mark of a uniform resource name, whose letters may be of any case. -/
def unmarked? (text : List Char) : Option (List Char) :=
  if (text.take urnMark.length).map Char.toLower = urnMark then some (text.drop urnMark.length)
  else none

/-- The identifier that a text is. -/
def ofText? (text : String) : Option Uuid :=
  let chars := text.toList
  if chars.length = 32 then ofDigits? chars
  else if chars.length = 36 then ofHyphenated? chars
  else ((unmarked? chars).or (unbraced? chars)).bind ofHyphenated?

/-- The sixteen bytes, the highest first. -/
def bytes (u : Uuid) : List UInt8 := bigEndian 16 u.value.toNat

end Uuid

end SqlComposer
