import SqlComposer.Error
import SqlComposer.Parameters

/-! # Named and numbered placeholders

A statement with placeholders like `:name` is cut into spans of text that is copied and into
placeholders; then each name gets a number in the order of its first use, and the values of the
names are listed in that order.  Quoted sections, comments and double colons are copied, so a name
inside them is no placeholder. -/

namespace SqlComposer

/-- A span of a statement: text that is copied, or a placeholder. -/
inductive Span where
  | copied (text : List Char)
  | placeholder (name : List Char)
  deriving DecidableEq, Repr

namespace Span

/-- Whether a character can begin a name. -/
def isNameStart (c : Char) : Bool := c.isAlpha || c == '_'

/-- Whether a character can stand in a name. -/
def isNameChar (c : Char) : Bool := c.isAlphanum || c == '_'

/-- How many characters a quoted section takes after its opening quote, the closing one included.  A
doubled quote does not close it, and a section that is not closed takes the rest. -/
def quotedLength (quote : Char) : List Char → Nat
  | [] => 0
  | [_] => 1
  | c :: d :: rest =>
    if c = quote then
      if d = quote then quotedLength quote rest + 2 else 1
    else quotedLength quote (d :: rest) + 1

/-- How many characters a block comment takes after its opening, up to its first closing. -/
def blockCommentLength : List Char → Nat
  | [] => 0
  | [_] => 1
  | c :: d :: rest => if c = '*' ∧ d = '/' then 2 else blockCommentLength (d :: rest) + 1

/-- The first span of a text that is not empty, as its length and whether it is a placeholder. -/
def firstLength (c : Char) (rest : List Char) : Nat × Bool :=
  if c = '\'' ∨ c = '"' then (1 + quotedLength c rest, false)
  else
    match c, rest with
    | '-', '-' :: more => (2 + (more.takeWhile (· ≠ '\n')).length, false)
    | '/', '*' :: more => (2 + blockCommentLength more, false)
    | ':', ':' :: _ => (2, false)
    | ':', d :: more =>
      if isNameStart d then (2 + (more.takeWhile isNameChar).length, true) else (1, false)
    | _, _ => (1, false)

/-- A first span takes at least one character. -/
theorem firstLength_pos (c : Char) (rest : List Char) : 0 < (firstLength c rest).1 := by
  unfold firstLength
  split
  · exact Nat.add_pos_left Nat.one_pos _
  · split
    · exact Nat.add_pos_left Nat.two_pos _
    · exact Nat.add_pos_left Nat.two_pos _
    · exact Nat.two_pos
    · split
      · exact Nat.add_pos_left Nat.two_pos _
      · exact Nat.one_pos
    · exact Nat.one_pos

/-- The spans of a statement.  Joined again, with a colon before each name, they are the
statement. -/
def ofText (text : List Char) : List Span :=
  match text with
  | [] => []
  | c :: rest =>
    let first := firstLength c rest
    let taken := (c :: rest).take first.1
    (if first.2 then .placeholder (taken.drop 1) else .copied taken) ::
      ofText ((c :: rest).drop first.1)
termination_by text.length
decreasing_by
  simp only [List.length_drop]
  have := firstLength_pos c rest
  exact Nat.sub_lt (Nat.succ_pos _) this

end Span

/-- A statement with numbered placeholders and the values in their order. -/
structure Positional where
  sql : String
  values : List Value

namespace Positional

/-- What is written so far: the text, and the names in the order of their numbers with their
values. -/
structure Progress where
  sql : String
  names : List String
  values : List Value

/-- Writes a span behind what is written. -/
def Progress.write (parameters : ParameterMap) (p : Progress) : Span → Except InvalidSql Progress
  | .copied text => .ok { p with sql := p.sql ++ String.ofList text }
  | .placeholder chars =>
    let name := String.ofList chars
    match p.names.findIdx? (· == name) with
    | some place => .ok { p with sql := p.sql ++ "$" ++ toString (place + 1) }
    | none =>
      match parameters.get? name with
      | none => .error (.missingParameter name)
      | some value =>
        .ok ⟨p.sql ++ "$" ++ toString (p.names.length + 1), p.names ++ [name], p.values ++ [value]⟩

/-- The statement with its named placeholders replaced by numbered ones. -/
def ofNamed (sql : String) (parameters : ParameterMap) : Except InvalidSql Positional := do
  let p ← (Span.ofText sql.toList).foldlM (Progress.write parameters) ⟨"", [], []⟩
  return ⟨p.sql, p.values⟩

end Positional

end SqlComposer
