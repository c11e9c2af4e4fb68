import SqlComposer.Calendar.Time
import SqlComposer.Text.Blank

/-! # Reading dates and times

Readers take a text and give what they read together with the rest.  Blanks are allowed in front of
every number and, except in the form with a blank between date and time, around the separators.
An offset from UTC is subtracted, so that every instant is kept in UTC. -/

namespace SqlComposer

/-- Something read from the front of a text, and the rest of the text. -/
abbrev Reader (α : Type) := List Char → Option (α × List Char)

namespace Reader

/-- At most `width` digits as a number, after blanks. -/
def number (width : Nat) : Reader Nat := fun text =>
  let text := skipBlanks text
  let digits := (text.take width).takeWhile Char.isDigit
  if digits.isEmpty then none else some (ofDigits digits, text.drop digits.length)

/-- A year: four digits at most, or a sign and any number of digits. -/
def year : Reader Int := fun text =>
  match skipBlanks text with
  | '-' :: rest => signed true rest
  | '+' :: rest => signed false rest
  | rest => (number 4 rest).map fun (n, rest) => (n, rest)
where
  /-- All the digits after a sign, without blanks between. -/
  signed (negative : Bool) (text : List Char) : Option (Int × List Char) :=
    let digits := text.takeWhile Char.isDigit
    if digits.isEmpty then none
    else some (if negative then -(ofDigits digits : Int) else ofDigits digits,
      text.dropWhile Char.isDigit)

/-- One character that has to be there. -/
def literal (c : Char) : Reader Unit
  | d :: rest => if c = d then some ((), rest) else none
  | [] => none

/-- One character that has to be there, after blanks. -/
def spacedLiteral (c : Char) : Reader Unit := fun text => literal c (skipBlanks text)

/-- A fraction of a second in nanoseconds, when a point is there; digits after the ninth are
skipped. -/
def fraction : Reader Nat
  | '.' :: rest =>
    let digits := (rest.takeWhile Char.isDigit).take 9
    if digits.isEmpty then none
    else some (ofDigits digits * Nat.pow 10 (9 - digits.length), rest.dropWhile Char.isDigit)
  | rest => some (0, rest)

/-- Year, month and day; `separator` reads what stands between them. -/
def date (separator : Reader Unit) : Reader Date := fun text => do
  let (year, text) ← year text
  let (_, text) ← separator text
  let (month, text) ← number 2 text
  let (_, text) ← separator text
  let (day, text) ← number 2 text
  let date ← Date.ofParts? year month day
  return (date, text)

/-- Hour and minute. -/
def minutes (separator : Reader Unit) : Reader (Nat × Nat) := fun text => do
  let (hour, text) ← number 2 text
  let (_, text) ← separator text
  let (minute, text) ← number 2 text
  return ((hour, minute), text)

/-- A second and its fraction, after a separator. -/
def seconds (separator : Reader Unit) : Reader (Nat × Nat) := fun text => do
  let (_, text) ← separator text
  let (second, text) ← number 2 text
  let (nanosecond, text) ← fraction text
  return ((second, nanosecond), text)

/-- Hour, minute, second and fraction. -/
def time (separator : Reader Unit) : Reader Time := fun text => do
  let ((hour, minute), text) ← minutes separator text
  let ((second, nanosecond), text) ← seconds separator text
  let time ← Time.ofParts? hour minute second nanosecond
  return (time, text)

/-- Two digits in front of a text as a number. -/
def twoDigits : Reader Nat
  | a :: b :: rest => if a.isDigit && b.isDigit then some (ofDigits [a, b], rest) else none
  | _ => none

/-- The hours and minutes of an offset after its sign, in minutes, below a whole day. -/
def offsetMinutes (negative : Bool) : Reader Int := fun text => do
  let (hours, text) ← twoDigits text
  let (minutes, text) ← twoDigits (text.dropWhile fun c => c == ':' || isBlank c)
  if minutes < 60 ∧ hours * 60 + minutes < 1440 then
    let total : Int := (hours * 60 + minutes : Nat)
    return (if negative then -total else total, text)
  else none

/-- Whether a text begins with the given letters in any case. -/
def startsWithWord (word : List Char) (text : List Char) : Bool :=
  (text.take word.length).map Char.toUpper == word

/-- An offset from UTC in minutes: the name of UTC, its short form, or a sign and a time. -/
def offset : Reader Int := fun text =>
  if startsWithWord ['U', 'T', 'C'] text then some (0, text.drop 3)
  else
    match text with
    | 'Z' :: rest => some (0, rest)
    | 'z' :: rest => some (0, rest)
    | '+' :: rest => offsetMinutes false rest
    | '-' :: rest => offsetMinutes true rest
    | '−' :: rest => offsetMinutes true rest
    | _ => none

/-- What was read, when nothing but blanks follows. -/
def complete {α : Type} (read : Option (α × List Char)) : Option α :=
  read.bind fun (a, rest) => if (skipBlanks rest).isEmpty then some a else none

/-- What was read, when nothing follows. -/
def exact {α : Type} (read : Option (α × List Char)) : Option α :=
  read.bind fun (a, rest) => if rest.isEmpty then some a else none

/-- Date and time with a `T` between them. -/
def joined : Reader Timestamp := fun text => do
  let (date, text) ← date (spacedLiteral '-') text
  let (_, text) ← spacedLiteral 'T' text
  let (time, text) ← time (spacedLiteral ':') text
  return (⟨date, time⟩, text)

/-- Date and time with blanks between them and none around the separators. -/
def blankSeparated : Reader Timestamp := fun text => do
  let (date, text) ← date (literal '-') text
  let (time, text) ← time (literal ':') text
  return (⟨date, time⟩, text)

/-- Date and time with a `T` or a blank between them, and an offset from UTC. -/
def zoned : Reader (Timestamp × Int) := fun text => do
  let (date, text) ← date (spacedLiteral '-') text
  let separator ← text.head?
  if separator = 'T' ∨ separator = 't' ∨ separator = ' ' then
    let (time, text) ← time (spacedLiteral ':') (text.drop 1)
    let (minutes, text) ← offset (skipBlanks text)
    return ((⟨date, time⟩, minutes), text)
  else none

end Reader

/-- The date that a text is. -/
def Date.ofText? (text : String) : Option Date :=
  Reader.complete (Reader.date (Reader.spacedLiteral '-') text.toList)

/-- The time that a text is; it may end after the minute. -/
def Time.ofText? (text : String) : Option Time := do
  let separator := Reader.spacedLiteral ':'
  let ((hour, minute), rest) ← Reader.minutes separator text.toList
  match Reader.seconds separator rest with
  | some ((second, nanosecond), rest) =>
    if (skipBlanks rest).isEmpty then Time.ofParts? hour minute second nanosecond else none
  | none => if (skipBlanks rest).isEmpty then Time.ofParts? hour minute 0 0 else none

/-- The timestamp that a text is, with a `T` or with blanks between date and time. -/
def Timestamp.ofText? (text : String) : Option Timestamp :=
  match Reader.complete (Reader.joined text.toList) with
  | some timestamp => some timestamp
  | none => Reader.exact (Reader.blankSeparated text.toList)

/-- The instant that a text is, in UTC. -/
def Timestamp.ofZonedText? (text : String) : Option Timestamp := do
  let (timestamp, minutes) ← Reader.complete (Reader.zoned text.toList)
  timestamp.addMinutes? (-minutes)

end SqlComposer
