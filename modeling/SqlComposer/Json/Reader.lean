import SqlComposer.Json.Numeral
import SqlComposer.Text.Bytes

/-! # Reading JSON text

`tokens?` cuts a text into tokens, one character at a time; `Json.ofTokens?` builds the value with a
stack of the lists and objects that are still open.  Both walk their list once, so reading ends on
every text.  `Json.parse?` accepts standard JSON with at most `depthLimit` containers around each
other. -/

namespace SqlComposer

/-- A token of JSON text. -/
inductive JsonToken where
  | openArray
  | closeArray
  | openObject
  | closeObject
  | comma
  | colon
  | scalar (value : Json)
  deriving Repr

namespace JsonToken

/-- Where the cutting of a text is. -/
inductive Mode where
  | between
  | word (reversed : List Char)
  | quoted (reversed : List Char)
  | escape (reversed : List Char)
  | unicode (reversed : List Char) (high : Option Nat) (digits : List Char)
  | lowEscape (reversed : List Char) (high : Nat)
  | lowUnicode (reversed : List Char) (high : Nat)
  deriving Repr

/-- A position in a text: the tokens so far, the last one first, and the mode. -/
structure Cursor where
  reversed : List JsonToken
  mode : Mode

/-- The characters of numerals and of the three literal words. -/
def isWordChar (c : Char) : Bool := c.isAlphanum || c == '+' || c == '-' || c == '.'

/-- The value that a word stands for. -/
def ofWord? (word : List Char) : Option JsonToken :=
  if word = "null".toList then some (.scalar .null)
  else if word = "true".toList then some (.scalar (.bool true))
  else if word = "false".toList then some (.scalar (.bool false))
  else (Json.numeral? word).map fun n => .scalar (.number n)

/-- The token of a single character. -/
def ofPunctuation? : Char → Option JsonToken
  | '[' => some .openArray
  | ']' => some .closeArray
  | '{' => some .openObject
  | '}' => some .closeObject
  | ',' => some .comma
  | ':' => some .colon
  | _ => none

/-- The blanks of JSON. -/
def isJsonBlank (c : Char) : Bool := c == ' ' || c == '\n' || c == '\t' || c == '\r'

/-- The character of a short escape. -/
def escapeChar? : Char → Option Char
  | '"' => some '"'
  | '\\' => some '\\'
  | '/' => some '/'
  | 'b' => some (Char.ofNat 8)
  | 'f' => some (Char.ofNat 12)
  | 'n' => some '\n'
  | 'r' => some '\r'
  | 't' => some '\t'
  | _ => none

/-- One character between tokens. -/
def startToken? (tokens : List JsonToken) (c : Char) : Option Cursor :=
  if isJsonBlank c then some ⟨tokens, .between⟩
  else if c = '"' then some ⟨tokens, .quoted []⟩
  else if isWordChar c then some ⟨tokens, .word [c]⟩
  else (ofPunctuation? c).map fun token => ⟨token :: tokens, .between⟩

/-- What four hexadecimal digits give: a character, the first half of a pair, or nothing. -/
def ofUnit? (tokens : List JsonToken) (reversed : List Char) (high : Option Nat) (unit : Nat) :
    Option Cursor :=
  match high with
  | some high =>
    if 0xDC00 ≤ unit ∧ unit < 0xE000 then
      some ⟨tokens, .quoted
        (Char.ofNat (0x10000 + (high - 0xD800) * 0x400 + (unit - 0xDC00)) :: reversed)⟩
    else none
  | none =>
    if 0xD800 ≤ unit ∧ unit < 0xDC00 then some ⟨tokens, .lowEscape reversed unit⟩
    else if 0xDC00 ≤ unit ∧ unit < 0xE000 then none
    else some ⟨tokens, .quoted (Char.ofNat unit :: reversed)⟩

/-- One character of the text. -/
def step? (cursor : Cursor) (c : Char) : Option Cursor :=
  let tokens := cursor.reversed
  match cursor.mode with
  | .between => startToken? tokens c
  | .word reversed =>
    if isWordChar c then some ⟨tokens, .word (c :: reversed)⟩
    else (ofWord? reversed.reverse).bind fun token => startToken? (token :: tokens) c
  | .quoted reversed =>
    if c = '"' then some ⟨.scalar (.string (String.ofList reversed.reverse)) :: tokens, .between⟩
    else if c = '\\' then some ⟨tokens, .escape reversed⟩
    else if c.toNat < 32 then none
    else some ⟨tokens, .quoted (c :: reversed)⟩
  | .escape reversed =>
    if c = 'u' then some ⟨tokens, .unicode reversed none []⟩
    else (escapeChar? c).map fun e => ⟨tokens, .quoted (e :: reversed)⟩
  | .unicode reversed high digits =>
    if digits.length < 3 then
      (hexValue? c).map fun _ => ⟨tokens, .unicode reversed high (digits ++ [c])⟩
    else (hexNumber? (digits ++ [c])).bind (ofUnit? tokens reversed high)
  | .lowEscape reversed high => if c = '\\' then some ⟨tokens, .lowUnicode reversed high⟩ else none
  | .lowUnicode reversed high =>
    if c = 'u' then some ⟨tokens, .unicode reversed (some high) []⟩ else none

/-- The tokens of a whole text. -/
def ofText? (text : List Char) : Option (List JsonToken) := do
  let cursor ← text.foldlM step? ⟨[], .between⟩
  match cursor.mode with
  | .between => some cursor.reversed.reverse
  | .word reversed => (ofWord? reversed.reverse).map fun token =>
      (token :: cursor.reversed).reverse
  | _ => none

end JsonToken

namespace Json

/-- A container that is still open: the items of a list, the last one first, or the fields of an
object and the key whose value is next. -/
inductive Frame where
  | items (reversed : List Json)
  | fields (sorted : List (String × Json)) (key : String)

/-- What may come next. -/
inductive Expecting where
  | value
  | firstValue
  | firstKey
  | key
  | colon
  | separator
  | nothing (result : Json)

/-- The open containers, the innermost first, and what may come next. -/
structure Progress where
  frames : List Frame
  expecting : Expecting

/-- How many containers may be open at once. -/
def depthLimit : Nat := 127

/-- Puts a finished value into the innermost container. -/
def Progress.place (value : Json) : List Frame → Progress
  | [] => ⟨[], .nothing value⟩
  | .items reversed :: outer => ⟨.items (value :: reversed) :: outer, .separator⟩
  | .fields sorted key :: outer => ⟨.fields (insertField key value sorted) key :: outer, .separator⟩

/-- A value begins. -/
def Progress.begin? (frames : List Frame) : JsonToken → Option Progress
  | .scalar value => some (Progress.place value frames)
  | .openArray =>
    if frames.length < depthLimit then some ⟨.items [] :: frames, .firstValue⟩ else none
  | .openObject =>
    if frames.length < depthLimit then some ⟨.fields [] "" :: frames, .firstKey⟩ else none
  | _ => none

/-- The innermost container ends. -/
def Progress.close? : JsonToken → List Frame → Option Progress
  | .closeArray, .items reversed :: outer => some (Progress.place (.array reversed.reverse) outer)
  | .closeObject, .fields sorted _ :: outer => some (Progress.place (.object sorted) outer)
  | _, _ => none

/-- One token of the text. -/
def Progress.step? (progress : Progress) (token : JsonToken) : Option Progress :=
  match progress.expecting, token, progress.frames with
  | .value, token, frames => Progress.begin? frames token
  | .firstValue, .closeArray, frames => Progress.close? .closeArray frames
  | .firstValue, token, frames => Progress.begin? frames token
  | .firstKey, .closeObject, frames => Progress.close? .closeObject frames
  | .firstKey, .scalar (.string key), .fields sorted _ :: outer =>
    some ⟨.fields sorted key :: outer, .colon⟩
  | .key, .scalar (.string key), .fields sorted _ :: outer =>
    some ⟨.fields sorted key :: outer, .colon⟩
  | .colon, .colon, frames => some ⟨frames, .value⟩
  | .separator, .comma, .items reversed :: outer => some ⟨.items reversed :: outer, .value⟩
  | .separator, .comma, .fields sorted key :: outer => some ⟨.fields sorted key :: outer, .key⟩
  | .separator, token, frames => Progress.close? token frames
  | _, _, _ => none

/-- The value that a list of tokens is. -/
def ofTokens? (tokens : List JsonToken) : Option Json := do
  let progress ← tokens.foldlM Progress.step? ⟨[], .value⟩
  match progress.expecting with
  | .nothing result => some result
  | _ => none

/-- The value that a JSON text is. -/
def parse? (text : String) : Option Json := do
  let tokens ← JsonToken.ofText? text.toList
  ofTokens? tokens

end Json

end SqlComposer
