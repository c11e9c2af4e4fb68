import SqlComposer.Json.Basic
import SqlComposer.Text.Bytes

/-! # Compact JSON text

No blanks, fields in their order, and in strings an escape for the quote, the backslash and the
control characters only. -/

namespace SqlComposer

namespace Json

/-- A character inside a quoted string. -/
def escaped (c : Char) : List Char :=
  if c = '"' then ['\\', '"']
  else if c = '\\' then ['\\', '\\']
  else if c = '\n' then ['\\', 'n']
  else if c = '\r' then ['\\', 'r']
  else if c = '\t' then ['\\', 't']
  else if c.toNat = 8 then ['\\', 'b']
  else if c.toNat = 12 then ['\\', 'f']
  else if c.toNat < 32 then '\\' :: 'u' :: hexDigits 4 c.toNat
  else [c]

/-- A quoted string. -/
def quoted (s : String) : String :=
  String.ofList ('"' :: (s.toList.flatMap escaped ++ ['"']))

/-- The text of a number. -/
def numberText : JsonNumber → String
  | .integer i _ => toString i
  | .real x _ => x.jsonText .double

/-- A list of texts in brackets. -/
def bracketed (items : List String) : String := "[" ++ String.intercalate "," items ++ "]"

/-- Keys and texts of values in braces. -/
def braced (fields : List (String × String)) : String :=
  let texts := fields.map fun field => quoted field.1 ++ ":" ++ field.2
  String.singleton '{' ++ String.intercalate "," texts ++ String.singleton '}'

mutual

/-- The compact text of a value. -/
def text : Json → String
  | .null => "null"
  | .bool b => if b then "true" else "false"
  | .number n => numberText n
  | .string s => quoted s
  | .array items => bracketed (itemTexts items)
  | .object fields => braced (fieldTexts fields)

/-- The compact texts of the values of a list. -/
def itemTexts : List Json → List String
  | [] => []
  | item :: rest => text item :: itemTexts rest

/-- The compact texts of the values of fields. -/
def fieldTexts : List (String × Json) → List (String × String)
  | [] => []
  | (key, value) :: rest => (key, text value) :: fieldTexts rest

end

end Json

end SqlComposer
