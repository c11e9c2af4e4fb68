import Mathlib.Tactic.SplitIfs
import SqlComposer.Proofs.Scanning

/-! # Scanning one character at a time

    The scanner for named placeholders jumps: it takes a quoted section, a comment or a name as a
    whole.  Here the same text is read one character at a time, with a look at the next one, and all
    that is kept from character to character is a `ScanState`: outside of everything, between
    apostrophes, between quotation marks, in a line comment or in a block comment.

    * a quote closes the section that it opened, so a doubled quote closes a section and opens the
      next one, where the scanner goes over both (`ScanState.read_quoted`);
    * a line comment ends with its line, a block comment with the first closing;
    * the first span of a text is told by its first two characters (`firstLength_eq`), and is what
      is read from it (`ScanState.read_cut`).

    Both ways of reading give the same symbols on every text (`ScanState.symbols_eq_read`), and the
    symbols hold the whole text (`ScanState.source_read`). -/

namespace SqlComposer

/-! ## The reader -/

/-- What a reader of single characters is inside of. -/
inductive ScanState where
  | normal
  | singleQuoted
  | doubleQuoted
  | lineComment
  | blockComment
  deriving DecidableEq, Repr

namespace ScanState

/-- The symbols of a text, read one character at a time.  Outside of quotes and comments a double
    colon is a unit, and a colon before a letter or an underscore is a placeholder that takes the
    longest run of letters, digits and underscores. -/
def read : ScanState → List Char → List Symbol
  | _, [] => []
  | .normal, c :: rest =>
    if c = '\'' then .char c :: read .singleQuoted rest
    else if c = '"' then .char c :: read .doubleQuoted rest
    else if c = '-' ∧ rest.head? = some '-' then .char c :: .char '-' :: read .lineComment rest.tail
    else if c = '/' ∧ rest.head? = some '*' then
      .char c :: .char '*' :: read .blockComment rest.tail
    else if c = ':' ∧ rest.head? = some ':' then .char c :: .char ':' :: read .normal rest.tail
    else if c = ':' ∧ rest.head?.any Span.isNameStart then
      .placeholder (rest.takeWhile Span.isNameChar) ::
        read .normal (rest.dropWhile Span.isNameChar)
    else .char c :: read .normal rest
  | .singleQuoted, c :: rest =>
    .char c :: read (if c = '\'' then .normal else .singleQuoted) rest
  | .doubleQuoted, c :: rest =>
    .char c :: read (if c = '"' then .normal else .doubleQuoted) rest
  | .lineComment, c :: rest =>
    .char c :: read (if c = '\n' then .normal else .lineComment) rest
  | .blockComment, c :: rest =>
    if c = '*' ∧ rest.head? = some '/' then .char c :: .char '/' :: read .normal rest.tail
    else .char c :: read .blockComment rest
termination_by _ text => text.length
decreasing_by
  all_goals
    have := (List.dropWhile_suffix (l := rest) Span.isNameChar).length_le
    simp only [List.length_cons, List.length_tail]
    omega

@[simp]
theorem read_nil (state : ScanState) : state.read [] = [] := by
  rw [read]

end ScanState

/-! ## What is in front of a text -/

/-- A run of characters, and what is behind it. -/
theorem take_drop_takeWhile {α : Type} (p : α → Bool) (l : List α) :
    l.take (l.takeWhile p).length = l.takeWhile p ∧
      l.drop (l.takeWhile p).length = l.dropWhile p := by
  have h := List.takeWhile_append_dropWhile (p := p) (l := l)
  constructor
  · calc l.take (l.takeWhile p).length
        = (l.takeWhile p ++ l.dropWhile p).take (l.takeWhile p).length := by rw [h]
      _ = l.takeWhile p := List.take_left
  · calc l.drop (l.takeWhile p).length
        = (l.takeWhile p ++ l.dropWhile p).drop (l.takeWhile p).length := by rw [h]
      _ = l.dropWhile p := List.drop_left

/-- What may begin a name may go on in it. -/
theorem isNameChar_of_isNameStart {c : Char} (h : Span.isNameStart c = true) :
    Span.isNameChar c = true := by
  rw [Span.isNameStart, Bool.or_eq_true] at h
  rw [Span.isNameChar, Char.isAlphanum, Bool.or_eq_true, Bool.or_eq_true]
  exact h.imp_left .inl

/-- The first span is told by the first character and the next one. -/
theorem firstLength_eq (c : Char) (rest : List Char) :
    Span.firstLength c rest =
      if c = '\'' ∨ c = '"' then (1 + Span.quotedLength c rest, false)
      else if c = '-' ∧ rest.head? = some '-' then
        (2 + (rest.tail.takeWhile (· ≠ '\n')).length, false)
      else if c = '/' ∧ rest.head? = some '*' then (2 + Span.blockCommentLength rest.tail, false)
      else if c = ':' ∧ rest.head? = some ':' then (2, false)
      else if c = ':' ∧ rest.head?.any Span.isNameStart then
        (1 + (rest.takeWhile Span.isNameChar).length, true)
      else (1, false) := by
  fun_cases Span.firstLength c rest with
  | case1 _ _ hq => rw [if_pos hq]
  | case2 | case3 | case4 => rfl
  | case5 d more hd hn hq =>
      rw [if_neg hq, if_neg (by simp), if_neg (by simp), if_neg (by simpa using hd),
        if_pos ⟨rfl, hn⟩, List.takeWhile_cons_of_pos (isNameChar_of_isNameStart hn),
        List.length_cons, ← Nat.add_assoc, Nat.add_right_comm]
  | case6 d more hd hn hq =>
      rw [if_neg hq, if_neg (by simp), if_neg (by simp), if_neg (by simpa using hd),
        if_neg (by simpa using hn)]
  | case7 c rest hq h1 h2 h3 h4 =>
      have hnext : ∀ a b, (∀ more, c = a → rest = b :: more → False) →
          ¬(c = a ∧ rest.head? = some b) := by
        rintro a b h ⟨hc, hd⟩
        obtain ⟨more, hm⟩ := List.head?_eq_some_iff.1 hd
        exact h more hc hm
      have hname : ¬(c = ':' ∧ rest.head?.any Span.isNameStart = true) := by
        rintro ⟨hc, hd⟩
        cases rest with
        | nil => cases hd
        | cons d more => exact h4 d more hc rfl
      rw [if_neg hq, if_neg (hnext _ _ h1), if_neg (hnext _ _ h2), if_neg (hnext _ _ h3),
        if_neg hname]

/-- The span in front of a text that has the given length and is a placeholder or not. -/
def Span.cut (first : Nat × Bool) (text : List Char) : Span :=
  if first.2 then .placeholder ((text.take first.1).drop 1) else .copied (text.take first.1)

/-- The symbols of a text are those of its first span and those of the rest. -/
theorem symbols_cut (c : Char) (rest : List Char) :
    symbols (c :: rest) = (Span.cut (Span.firstLength c rest) (c :: rest)).symbols ++
      symbols ((c :: rest).drop (Span.firstLength c rest).1) := by
  rw [symbols, Span.ofText]
  rfl

namespace ScanState

/-! ## Sections -/

/-- The state between quotes of the given kind. -/
def ofQuote (quote : Char) : ScanState := if quote = '\'' then .singleQuoted else .doubleQuoted

/-- A quote begins a section. -/
theorem read_quote {quote : Char} (h : quote = '\'' ∨ quote = '"') (rest : List Char) :
    normal.read (quote :: rest) = .char quote :: (ofQuote quote).read rest := by
  rcases h with rfl | rfl
  · rw [read]
    rfl
  · rw [read]
    rfl

/-- In a section all characters are copied, up to the quote that ends it. -/
theorem read_quoted_cons {quote : Char} (h : quote = '\'' ∨ quote = '"') (c : Char)
    (rest : List Char) :
    (ofQuote quote).read (c :: rest) =
      .char c :: (if c = quote then normal else ofQuote quote).read rest := by
  rcases h with rfl | rfl
  · show singleQuoted.read (c :: rest) = _
    rw [read]
    rfl
  · show doubleQuoted.read (c :: rest) = _
    rw [read]
    rfl

/-- A quoted section ends where its length says: a doubled quote closes it and opens it again. -/
theorem read_quoted {quote : Char} (h : quote = '\'' ∨ quote = '"') (text : List Char) :
    (ofQuote quote).read text =
      (text.take (Span.quotedLength quote text)).map Symbol.char ++
        normal.read (text.drop (Span.quotedLength quote text)) := by
  induction text using closesQuoted.induct quote with
  | case1 => simp
  | case2 c =>
      rw [read_quoted_cons h, read_nil]
      show _ = [Symbol.char c] ++ normal.read []
      rw [read_nil]
      rfl
  | case3 rest ih =>
      rw [read_quoted_cons h, if_pos rfl, read_quote h, ih, Span.quotedLength, if_pos rfl,
        if_pos rfl]
      rfl
  | case4 d rest hd =>
      rw [read_quoted_cons h, if_pos rfl, Span.quotedLength, if_pos rfl, if_neg hd]
      rfl
  | case5 c d rest hc ih =>
      rw [read_quoted_cons h, if_neg hc, ih, Span.quotedLength, if_neg hc]
      rfl

/-- A line comment goes on to the end of its line. -/
theorem read_lineComment (text : List Char) :
    lineComment.read text =
      (text.takeWhile (· ≠ '\n')).map Symbol.char ++ normal.read (text.dropWhile (· ≠ '\n')) := by
  induction text with
  | nil => simp
  | cons c rest ih =>
      rw [read]
      by_cases hc : c = '\n'
      · -- the end of the line is copied inside the comment as it is outside
        subst hc
        rw [if_pos rfl]
        show _ = normal.read ('\n' :: rest)
        rw [read]
        rfl
      · rw [if_neg hc, ih, List.takeWhile_cons_of_pos (by simpa using hc),
          List.dropWhile_cons_of_pos (by simpa using hc)]
        rfl

/-- A block comment goes on to its first closing. -/
theorem read_blockComment (text : List Char) :
    blockComment.read text =
      (text.take (Span.blockCommentLength text)).map Symbol.char ++
        normal.read (text.drop (Span.blockCommentLength text)) := by
  induction text using closesComment.induct with
  | case1 => simp
  | case2 c =>
      rw [read, if_neg (by simp), read_nil]
      show _ = [Symbol.char c] ++ normal.read []
      rw [read_nil]
      rfl
  | case3 c d rest hc =>
      obtain ⟨rfl, rfl⟩ := hc
      rw [read, if_pos ⟨rfl, rfl⟩, Span.blockCommentLength, if_pos ⟨rfl, rfl⟩]
      rfl
  | case4 c d rest hc ih =>
      rw [read, if_neg (by simpa using hc), ih, Span.blockCommentLength, if_neg hc]
      rfl

/-! ## Whole texts -/

/-- Outside of quotes and comments the reader reads the first span of the text. -/
theorem read_cut (c : Char) (rest : List Char) :
    normal.read (c :: rest) = (Span.cut (Span.firstLength c rest) (c :: rest)).symbols ++
      normal.read ((c :: rest).drop (Span.firstLength c rest).1) := by
  rw [firstLength_eq]
  by_cases hq : c = '\'' ∨ c = '"'
  · rw [if_pos hq, read_quote hq, read_quoted hq, Nat.add_comm 1]
    rfl
  · rw [not_or] at hq
    rw [if_neg (not_or.2 hq), read, if_neg hq.1, if_neg hq.2]
    -- both sides ask the same questions about the first two characters
    split_ifs with h1 h2 h3 h4
    · obtain ⟨rfl, h⟩ := h1
      obtain ⟨more, rfl⟩ := List.head?_eq_some_iff.1 h
      obtain ⟨htake, hdrop⟩ := take_drop_takeWhile (· ≠ '\n') more
      rw [List.tail_cons, read_lineComment, Nat.add_comm 2]
      show _ = Symbol.char '-' :: .char '-' ::
        ((more.take _).map Symbol.char ++ normal.read (more.drop _))
      rw [htake, hdrop]
    · obtain ⟨rfl, h⟩ := h2
      obtain ⟨more, rfl⟩ := List.head?_eq_some_iff.1 h
      rw [List.tail_cons, read_blockComment, Nat.add_comm 2]
      rfl
    · obtain ⟨rfl, h⟩ := h3
      obtain ⟨more, rfl⟩ := List.head?_eq_some_iff.1 h
      rfl
    · obtain ⟨rfl, h⟩ := h4
      obtain ⟨htake, hdrop⟩ := take_drop_takeWhile Span.isNameChar rest
      rw [Nat.add_comm 1]
      show _ = Symbol.placeholder (rest.take _) :: normal.read (rest.drop _)
      rw [htake, hdrop]
    · rfl

/-- **Jumping and reading agree.**  The spans of a text show what is read from it one character at a
    time. -/
theorem symbols_eq_read (text : List Char) : symbols text = normal.read text := by
  induction text using Span.ofText.induct with
  | case1 => rw [symbols_nil, read_nil]
  | case2 c rest first ih =>
      rw [symbols_cut, read_cut]
      exact congrArg _ ih

end ScanState

/-! ## Nothing is lost -/

/-- The part of a text that a symbol is read from. -/
def Symbol.source : Symbol → List Char
  | .char c => [c]
  | .placeholder name => ':' :: name

theorem Symbol.source_char {c : Char} {rest : List Char} {read : List Symbol}
    (h : read.flatMap Symbol.source = rest) :
    (Symbol.char c :: read).flatMap Symbol.source = c :: rest :=
  congrArg (c :: ·) h

theorem Symbol.source_pair {c d : Char} {rest : List Char} {read : List Symbol}
    (hd : rest.head? = some d) (h : read.flatMap Symbol.source = rest.tail) :
    (Symbol.char c :: .char d :: read).flatMap Symbol.source = c :: rest := by
  obtain ⟨more, rfl⟩ := List.head?_eq_some_iff.1 hd
  exact source_char (source_char h)

/-- The symbols that are read from a text hold all of it and nothing else. -/
theorem ScanState.source_read (state : ScanState) (text : List Char) :
    (state.read text).flatMap Symbol.source = text := by
  fun_induction ScanState.read state text with
  | case1 => rfl
  | case4 _ _ _ _ h ih | case5 _ _ _ _ _ h ih | case6 _ _ _ _ _ _ h ih | case12 _ _ h ih =>
      exact Symbol.source_pair h.2 ih
  | case7 c rest _ _ _ _ _ h ih =>
      obtain ⟨rfl, -⟩ := h
      show ':' :: (rest.takeWhile _ ++ (normal.read _).flatMap Symbol.source) = _
      rw [ih, List.takeWhile_append_dropWhile]
  | case2 _ ih | case3 _ _ ih | case8 _ _ _ _ _ _ _ _ ih | case9 _ _ ih | case10 _ _ ih
  | case11 _ _ ih | case13 _ _ _ ih => exact Symbol.source_char ih

end SqlComposer
