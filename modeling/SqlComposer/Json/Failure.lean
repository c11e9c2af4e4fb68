import SqlComposer.Json.Basic
import SqlComposer.Number.Decimal

/-! # Failures of serialization

A failure is a message and the place in a text that it speaks of.  The place stands at the end of
the message, ` at line 3 column 14`, and is read from there as numbers.  Line 0 is no line of a
text: such a place is not written. -/

namespace SqlComposer

namespace Json

/-- Why a value could not be serialized: what happened, and at which line and column. -/
structure Failure where
  message : List Char
  line : Nat
  column : Nat
  deriving DecidableEq, Repr

namespace Failure

/-- What stands before the line of a place. -/
def lineMark : List Char := " at line ".toList

/-- What stands before the column of a place. -/
def columnMark : List Char := " column ".toList

/-- A text that ends in a mark and a number of at most 64 bits: what is before them, and the
number. -/
def markedNumber? (mark text : List Char) : Option (List Char × Nat) :=
  let digits := (text.reverse.takeWhile Char.isDigit).reverse
  let before := text.take (text.length - digits.length)
  if digits.isEmpty || !mark.isSuffixOf before || greatestInteger < ofDigits digits then none
  else some (before.take (before.length - mark.length), ofDigits digits)

/-- The failure that a message with a place at its end tells of. -/
def ofPlaced? (message : List Char) : Option Failure := do
  let (rest, column) ← markedNumber? columnMark message
  let (rest, line) ← markedNumber? lineMark rest
  return ⟨rest, line, column⟩

/-- The failure that a message tells of, at line 0 when the message ends in no place. -/
def ofMessage (message : List Char) : Failure := (ofPlaced? message).getD ⟨message, 0, 0⟩

/-- The text of a failure. -/
def chars (f : Failure) : List Char :=
  if f.line = 0 then f.message
  else f.message ++ lineMark ++ decimalDigits f.line ++ columnMark ++ decimalDigits f.column

end Failure

end Json

end SqlComposer
