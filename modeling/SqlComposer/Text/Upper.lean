import SqlComposer.Text.UpperTable

/-! # Full upper case

A character goes to the character or characters that the Unicode database gives for it, and to
itself when the database gives none.  No mapping depends on the neighbours of a character, so a
text is mapped character by character. -/

namespace SqlComposer

/-- Whether a code point is in a run. -/
def UpperRun.contains (run : UpperRun) (code : Nat) : Bool :=
  run.first ≤ code && code ≤ run.last && (code - run.first) % run.stride == 0

/-- The upper case form of one character. -/
def upperChar (c : Char) : List Char :=
  if c.toNat < 0x80 then [c.toUpper]
  else
    match upperExpansions.find? (·.1 == c.toNat) with
    | some (_, codes) => codes.map Char.ofNat
    | none =>
      match upperRuns.find? (·.contains c.toNat) with
      | some run => [Char.ofNat ((c.toNat : Int) + run.shift).toNat]
      | none => [c]

/-- The upper case form of a text. -/
def upperText (s : String) : String := String.ofList (s.toList.flatMap upperChar)

end SqlComposer
