import SqlComposer.Proofs.PlaceholderNumbers

/-! # Sections of a statement as the server delimits them

    A statement with numbered placeholders goes to a server that has sections of its own: besides
    strings with doubled quotes, quoted identifiers and comments there are escape strings, in which
    a backslash takes the next character with it, strings between dollars with a tag, and comments
    inside of comments.  `ServerState.read` reads a text as the server delimits it, with `:name` as
    a placeholder outside of all sections.  Plain strings take no backslashes, which is the
    server's default, and each string is a section of its own.

    * Nothing of the text is lost (`ServerState.source_read`).
    * As long as no section has a rule that the scanner for named placeholders lacks
      (`Lexeme.isShared`), both readings agree from state to state (`ServerState.read_shared`), and
      replacing copies every section and numbers the other names (`Positional.ofNamed_of_shared`).
    * A comment inside of a comment takes the condition away: behind the inner one the scanner is
      outside again, and asks for the value of a name in the comment
      (`Positional.ofNamed_nested_comment`). -/

namespace SqlComposer

/-! ## The reader -/

/-- The sections in which the server reads nothing else. -/
inductive ServerSection where
  | string
  | escapeString
  | dollarString (tag : List Char)
  | identifier
  | lineComment
  | blockComment (depth : Nat)
  deriving DecidableEq, Repr

/-- What the server is inside of.  Outside of all sections it matters whether a name goes on, as
    the `E` of an escape string and the dollar of a tag begin a word. -/
inductive ServerState where
  | outside (inName : Bool)
  | inside (kind : ServerSection)
  deriving DecidableEq, Repr

/-- A character outside or inside of a section, or a placeholder. -/
inductive Lexeme where
  | outside (c : Char)
  | inside (kind : ServerSection) (c : Char)
  | placeholder (name : List Char)
  deriving DecidableEq, Repr

namespace ServerState

/-- Whether a character can begin a name of the server. -/
def isWordStart (c : Char) : Bool := c.isAlpha || c == '_' || 128 ≤ c.toNat

/-- Whether a character can stand in the tag of a dollar-quoted string. -/
def isTagChar (c : Char) : Bool := isWordStart c || c.isDigit

/-- Whether a character goes on with a name or begins one. -/
def staysInName (inName : Bool) (c : Char) : Bool :=
  isWordStart c || (inName && (c.isDigit || c == '$'))

/-- The tag of the dollar-quoted string that a character opens, if it opens one. -/
def openedTag? (inName : Bool) (c : Char) (rest : List Char) : Option (List Char) :=
  let tag := rest.takeWhile isTagChar
  if c = '$' ∧ inName = false ∧ (rest.dropWhile isTagChar).head? = some '$' ∧
      tag.head?.all (fun d => !d.isDigit) then some tag
  else none

/-- The dollars of a string with their tag between them. -/
def delimiter (tag : List Char) : List Char := '$' :: tag ++ ['$']

/-- What the server is inside of when a block comment with so many around it is closed. -/
def afterComment : Nat → ServerState
  | 0 => .outside false
  | outer + 1 => .inside (.blockComment outer)

/-- The lexemes of a text, read as the server delimits its sections. -/
def read : ServerState → List Char → List Lexeme
  | _, [] => []
  | .outside inName, c :: rest =>
    if c = '\'' then .inside .string c :: read (.inside .string) rest
    else if c = '"' then .inside .identifier c :: read (.inside .identifier) rest
    else if c = '-' ∧ rest.head? = some '-' then
      .inside .lineComment c :: .inside .lineComment '-' :: read (.inside .lineComment) rest.tail
    else if c = '/' ∧ rest.head? = some '*' then
      .inside (.blockComment 0) c :: .inside (.blockComment 0) '*' ::
        read (.inside (.blockComment 0)) rest.tail
    else if c = ':' ∧ rest.head? = some ':' then
      .outside c :: .outside ':' :: read (.outside false) rest.tail
    else if c = ':' ∧ rest.head?.any Span.isNameStart then
      .placeholder (rest.takeWhile Span.isNameChar) ::
        read (.outside true) (rest.dropWhile Span.isNameChar)
    else if (c = 'e' ∨ c = 'E') ∧ inName = false ∧ rest.head? = some '\'' then
      .inside .escapeString c :: .inside .escapeString '\'' ::
        read (.inside .escapeString) rest.tail
    else
      match openedTag? inName c rest with
      | some tag =>
        (delimiter tag).map (.inside (.dollarString tag)) ++
          read (.inside (.dollarString tag)) (rest.drop (tag.length + 1))
      | none => .outside c :: read (.outside (staysInName inName c)) rest
  | .inside .string, c :: rest =>
    if c = '\'' ∧ rest.head? = some '\'' then
      .inside .string c :: .inside .string '\'' :: read (.inside .string) rest.tail
    else .inside .string c :: read (if c = '\'' then .outside false else .inside .string) rest
  | .inside .escapeString, c :: rest =>
    if c = '\\' then
      (c :: rest.take 1).map (.inside .escapeString) ++ read (.inside .escapeString) (rest.drop 1)
    else if c = '\'' ∧ rest.head? = some '\'' then
      .inside .escapeString c :: .inside .escapeString '\'' ::
        read (.inside .escapeString) rest.tail
    else
      .inside .escapeString c ::
        read (if c = '\'' then .outside false else .inside .escapeString) rest
  | .inside (.dollarString tag), c :: rest =>
    if (delimiter tag).isPrefixOf (c :: rest) then
      (delimiter tag).map (.inside (.dollarString tag)) ++
        read (.outside false) (rest.drop (tag.length + 1))
    else .inside (.dollarString tag) c :: read (.inside (.dollarString tag)) rest
  | .inside .identifier, c :: rest =>
    if c = '"' ∧ rest.head? = some '"' then
      .inside .identifier c :: .inside .identifier '"' :: read (.inside .identifier) rest.tail
    else
      .inside .identifier c :: read (if c = '"' then .outside false else .inside .identifier) rest
  | .inside .lineComment, c :: rest =>
    .inside .lineComment c ::
      read (if c = '\n' ∨ c = '\r' then .outside false else .inside .lineComment) rest
  | .inside (.blockComment depth), c :: rest =>
    if c = '*' ∧ rest.head? = some '/' then
      .inside (.blockComment depth) c :: .inside (.blockComment depth) '/' ::
        read (afterComment depth) rest.tail
    else if c = '/' ∧ rest.head? = some '*' then
      .inside (.blockComment (depth + 1)) c :: .inside (.blockComment (depth + 1)) '*' ::
        read (.inside (.blockComment (depth + 1))) rest.tail
    else .inside (.blockComment depth) c :: read (.inside (.blockComment depth)) rest
termination_by _ text => text.length
decreasing_by
  all_goals
    have := (List.dropWhile_suffix (l := rest) Span.isNameChar).length_le
    simp only [List.length_cons, List.length_tail, List.length_drop]
    omega

end ServerState

namespace Lexeme

/-- A lexeme as it is copied or replaced. -/
def symbol : Lexeme → Symbol
  | .outside c => .char c
  | .inside _ c => .char c
  | .placeholder name => .placeholder name

/-- A lexeme that the server reads without a rule of its own: what stands in a string between
    dollars, in a comment inside of a comment, behind a backslash of an escape string or behind a
    carriage return of a line comment is read by such a rule. -/
def isShared : Lexeme → Bool
  | .inside (.dollarString _) _ => false
  | .inside (.blockComment depth) _ => depth == 0
  | .inside .escapeString c => c != '\\'
  | .inside .lineComment c => c != '\r'
  | _ => true

/-- Characters of one section are copied. -/
theorem source_inside (kind : ServerSection) (text : List Char) :
    ((text.map (Lexeme.inside kind)).map symbol).flatMap Symbol.source = text := by
  induction text with
  | nil => rfl
  | cons c rest ih => exact Symbol.source_char ih

end Lexeme

namespace ServerState

/-! ## Nothing is lost -/

/-- An opened tag stands between dollars. -/
theorem openedTag?_eq {inName : Bool} {c : Char} {rest tag : List Char}
    (h : openedTag? inName c rest = some tag) :
    c :: rest = delimiter tag ++ rest.drop (tag.length + 1) := by
  rw [openedTag?] at h
  split_ifs at h with hc
  obtain ⟨rfl, -, hd, -⟩ := hc
  obtain rfl := Option.some.inj h
  obtain ⟨more, hm⟩ := List.head?_eq_some_iff.1 hd
  have hsplit : rest = rest.takeWhile isTagChar ++ '$' :: more := by
    rw [← hm, List.takeWhile_append_dropWhile]
  have hdrop : rest.drop ((rest.takeWhile isTagChar).length + 1) = more := by
    rw [List.drop_add_one_eq_tail_drop, (take_drop_takeWhile isTagChar rest).2, hm, List.tail_cons]
  rw [hdrop, delimiter, List.append_assoc]
  exact congrArg ('$' :: ·) hsplit

/-- A tag between dollars in front of a text. -/
theorem eq_delimiter_append {c : Char} {rest tag : List Char}
    (h : (delimiter tag).isPrefixOf (c :: rest) = true) :
    c :: rest = delimiter tag ++ rest.drop (tag.length + 1) := by
  obtain ⟨more, hm⟩ := List.isPrefixOf_iff_prefix.1 h
  have hrest : rest = tag ++ ['$'] ++ more := ((List.cons.inj hm).2).symm
  have hdrop : rest.drop (tag.length + 1) = more := by
    rw [hrest]
    exact List.drop_left' (by simp)
  rw [hdrop, hm]

/-- The lexemes of a text hold all of it and nothing else. -/
theorem source_read (state : ServerState) (text : List Char) :
    ((state.read text).map Lexeme.symbol).flatMap Symbol.source = text := by
  fun_induction ServerState.read state text with
  | case1 => rfl
  | case4 _ _ _ _ _ h ih | case5 _ _ _ _ _ _ h ih | case6 _ _ _ _ _ _ _ h ih
  | case8 _ _ _ _ _ _ _ _ _ h ih | case11 _ _ h ih | case14 _ _ _ h ih | case18 _ _ h ih
  | case21 _ _ _ h ih | case22 _ _ _ _ h ih => exact Symbol.source_pair (by simp_all) ih
  | case7 _ c rest _ _ _ _ _ h ih =>
      obtain ⟨rfl, -⟩ := h
      show ':' :: (rest.takeWhile _ ++ List.flatMap Symbol.source _) = _
      rw [ih, List.takeWhile_append_dropWhile]
  | case9 _ c rest _ _ _ _ _ _ _ tag h ih =>
      rw [List.map_append, List.flatMap_append, Lexeme.source_inside, ih, openedTag?_eq h]
  | case13 rest ih =>
      rw [List.map_append, List.flatMap_append, Lexeme.source_inside, ih, List.cons_append,
        List.take_append_drop]
  | case16 tag c rest h ih =>
      rw [List.map_append, List.flatMap_append, Lexeme.source_inside, ih, eq_delimiter_append h]
  | case12 _ _ _ ih | case15 _ _ _ _ ih | case19 _ _ _ ih | case20 _ _ ih =>
      simp only [dite_eq_ite] at ih
      exact Symbol.source_char ih
  | case2 | case3 | case10 | case17 | case23 => exact Symbol.source_char ‹_›

/-! ## Shared sections -/

/-- What the scanner for named placeholders is inside of meanwhile. -/
def scanState : ServerState → ScanState
  | .outside _ => .normal
  | .inside .string => .singleQuoted
  | .inside .escapeString => .singleQuoted
  | .inside (.dollarString _) => .normal
  | .inside .identifier => .doubleQuoted
  | .inside .lineComment => .lineComment
  | .inside (.blockComment _) => .blockComment

end ServerState

/-- A doubled quote closes a section and opens it again. -/
theorem ScanState.read_doubled {quote : Char} (h : quote = '\'' ∨ quote = '"') {rest : List Char}
    (hd : rest.head? = some quote) :
    (ofQuote quote).read (quote :: rest) =
      .char quote :: .char quote :: (ofQuote quote).read rest.tail := by
  obtain ⟨more, rfl⟩ := List.head?_eq_some_iff.1 hd
  rw [read_quoted_cons h, if_pos rfl, read_quote h, List.tail_cons]

namespace ServerState

/-- A quoted section goes on up to its quote. -/
theorem scanState_quoted {quote : Char} {kind : ServerSection} (c : Char)
    (h : scanState (.inside kind) = .ofQuote quote) :
    scanState (if c = quote then .outside false else .inside kind) =
      if c = quote then .normal else .ofQuote quote := by
  rw [apply_ite scanState, h]
  rfl

end ServerState

/-- A shared lexeme is copied or replaced as the scanner reads it, when what follows is. -/
theorem Lexeme.map_symbol_cons {l : Lexeme} {lexemes : List Lexeme} {symbols : List Symbol}
    (h : ∀ l' ∈ l :: lexemes, l'.isShared)
    (ih : (∀ l' ∈ lexemes, l'.isShared) → lexemes.map symbol = symbols) :
    (l :: lexemes).map symbol = l.symbol :: symbols := by
  rw [List.forall_mem_cons] at h
  rw [List.map_cons, ih h.2]

theorem Lexeme.map_symbol_pair {l m : Lexeme} {lexemes : List Lexeme} {symbols : List Symbol}
    (h : ∀ l' ∈ l :: m :: lexemes, l'.isShared)
    (ih : (∀ l' ∈ lexemes, l'.isShared) → lexemes.map symbol = symbols) :
    (l :: m :: lexemes).map symbol = l.symbol :: m.symbol :: symbols :=
  map_symbol_cons h fun h => map_symbol_cons h ih

namespace ServerState

/-- As long as the sections are shared, the scanner is where the server is. -/
theorem read_shared (state : ServerState) (text : List Char)
    (h : ∀ l ∈ state.read text, l.isShared) :
    (state.read text).map Lexeme.symbol = state.scanState.read text := by
  fun_induction ServerState.read state text with
  | case1 => exact (ScanState.read_nil _).symm
  | case2 _ rest ih =>
      rw [Lexeme.map_symbol_cons h ih]
      exact (ScanState.read_quote (.inl rfl) rest).symm
  | case3 _ rest _ ih =>
      rw [Lexeme.map_symbol_cons h ih]
      exact (ScanState.read_quote (.inr rfl) rest).symm
  | case4 _ c rest h1 h2 hc ih =>
      rw [Lexeme.map_symbol_pair h ih]
      show _ = ScanState.normal.read (c :: rest)
      rw [ScanState.read, if_neg h1, if_neg h2, if_pos hc]
      rfl
  | case5 _ c rest h1 h2 h3 hc ih =>
      rw [Lexeme.map_symbol_pair h ih]
      show _ = ScanState.normal.read (c :: rest)
      rw [ScanState.read, if_neg h1, if_neg h2, if_neg h3, if_pos hc]
      rfl
  | case6 _ c rest h1 h2 h3 h4 hc ih =>
      rw [Lexeme.map_symbol_pair h ih]
      show _ = ScanState.normal.read (c :: rest)
      rw [ScanState.read, if_neg h1, if_neg h2, if_neg h3, if_neg h4, if_pos hc]
      rfl
  | case7 _ c rest h1 h2 h3 h4 h5 hc ih =>
      rw [Lexeme.map_symbol_cons h ih]
      show _ = ScanState.normal.read (c :: rest)
      rw [ScanState.read, if_neg h1, if_neg h2, if_neg h3, if_neg h4, if_neg h5, if_pos hc]
      rfl
  | case8 _ c rest h1 h2 h3 h4 h5 h6 hc ih =>
      -- the scanner copies the letter outside of the string that it belongs to
      rw [Lexeme.map_symbol_pair h ih]
      show _ = ScanState.normal.read (c :: rest)
      obtain ⟨more, rfl⟩ := List.head?_eq_some_iff.1 hc.2.2
      rw [ScanState.read, if_neg h1, if_neg h2, if_neg h3, if_neg h4, if_neg h5, if_neg h6,
        ScanState.read_quote (.inl rfl)]
      rfl
  | case10 _ c rest h1 h2 h3 h4 h5 h6 _ _ ih =>
      rw [Lexeme.map_symbol_cons h ih]
      show _ = ScanState.normal.read (c :: rest)
      rw [ScanState.read, if_neg h1, if_neg h2, if_neg h3, if_neg h4, if_neg h5, if_neg h6]
      rfl
  | case11 _ rest hc ih | case14 _ rest _ hc ih =>
      obtain ⟨rfl, hd⟩ := hc
      rw [Lexeme.map_symbol_pair h ih]
      exact (ScanState.read_doubled (.inl rfl) hd).symm
  | case18 _ rest hc ih =>
      obtain ⟨rfl, hd⟩ := hc
      rw [Lexeme.map_symbol_pair h ih]
      exact (ScanState.read_doubled (.inr rfl) hd).symm
  | case12 c rest _ ih | case15 c rest _ _ ih =>
      simp only [dite_eq_ite] at ih
      rw [Lexeme.map_symbol_cons h ih, scanState_quoted c rfl]
      exact (ScanState.read_quoted_cons (.inl rfl) c rest).symm
  | case19 c rest _ ih =>
      simp only [dite_eq_ite] at ih
      rw [Lexeme.map_symbol_cons h ih, scanState_quoted c rfl]
      exact (ScanState.read_quoted_cons (.inr rfl) c rest).symm
  | case20 c rest ih =>
      simp only [dite_eq_ite] at ih
      rw [Lexeme.map_symbol_cons h ih]
      rw [List.forall_mem_cons] at h
      have hc : (c = '\n' ∨ c = '\r') ↔ c = '\n' :=
        or_iff_left (by simpa [Lexeme.isShared] using h.1)
      show _ = ScanState.lineComment.read (c :: rest)
      rw [ScanState.read, apply_ite scanState, if_congr hc rfl rfl]
      rfl
  | case21 depth c rest hc ih =>
      rw [Lexeme.map_symbol_pair h ih]
      rw [List.forall_mem_cons] at h
      obtain rfl : depth = 0 := beq_iff_eq.1 h.1
      show _ = ScanState.blockComment.read (c :: rest)
      rw [ScanState.read, if_pos hc]
      rfl
  | case23 _ c rest hc _ ih =>
      rw [Lexeme.map_symbol_cons h ih]
      show _ = ScanState.blockComment.read (c :: rest)
      rw [ScanState.read, if_neg hc]
      rfl
  -- strings between dollars, backslashes and inner comments are not shared
  | case9 | case13 | case16 =>
      rw [List.forall_mem_append] at h
      cases h.1 _ List.mem_cons_self
  | case17 | case22 =>
      rw [List.forall_mem_cons] at h
      cases h.1

end ServerState

/-! ## Replacing -/

/-- The names of the placeholders outside of all sections, in the order of the text. -/
def serverNames (sql : String) : List String :=
  placeholderNames (((ServerState.outside false).read sql.toList).map Lexeme.symbol)

/-- A statement whose sections are copied, each other name replaced by its rank in the order of
    first use, with the values of the names in this order. -/
def Positional.ofServer (sql : String) (parameters : ParameterMap) : Positional :=
  ⟨String.ofList (((ServerState.outside false).read sql.toList).flatMap fun l =>
      l.symbol.numbered (serverNames sql).eraseDups),
    (serverNames sql).eraseDups.filterMap parameters.get?⟩

namespace Positional

/-- **Sections are copied.**  In a statement whose sections have no rule that the scanner lacks,
    replacing gives each name outside of the sections its number and changes nothing else, as soon
    as these names have values; and the sections and what is outside of them are the whole
    statement. -/
theorem ofNamed_of_shared {sql : String} {parameters : ParameterMap}
    (h : ∀ l ∈ (ServerState.outside false).read sql.toList, l.isShared)
    (hv : ∀ name ∈ serverNames sql, (parameters.get? name).isSome) :
    ofNamed sql parameters = .ok (ofServer sql parameters) ∧
      (((ServerState.outside false).read sql.toList).map Lexeme.symbol).flatMap Symbol.source =
        sql.toList := by
  refine ⟨?_, ServerState.source_read _ _⟩
  have hread : ((ServerState.outside false).read sql.toList).map Lexeme.symbol =
      ScanState.normal.read sql.toList := ServerState.read_shared _ _ h
  have hnames : serverNames sql = placeholderNames (ScanState.normal.read sql.toList) := by
    rw [serverNames, hread]
  have hfound : (placeholderNames (ScanState.normal.read sql.toList)).find?
      (fun name => (parameters.get? name).isNone) = none := by
    rw [List.find?_eq_none, ← hnames]
    intro name hm
    simp [Option.isSome_iff_ne_none.1 (hv name hm)]
  rw [ofNamed_eq_ofSymbols, ofSymbols, ofServer, hnames]
  simp only [hfound]
  rw [← hread, List.flatMap_map]

/-- Strings of two kinds, a quoted identifier, a comment and a cast: only the name outside of them
    is replaced. -/
theorem ofNamed_of_shared_literals :
    (∀ l ∈ (ServerState.outside false).read
        "select E':a', 'it''s :a' /* :a */ where \"x:a\" = :b::text".toList, l.isShared) ∧
      (∀ name ∈ serverNames "select E':a', 'it''s :a' /* :a */ where \"x:a\" = :b::text",
        ((ParameterMap.ofList [("b", .int 1)]).get? name).isSome) ∧
      ofNamed "select E':a', 'it''s :a' /* :a */ where \"x:a\" = :b::text"
        (.ofList [("b", .int 1)]) =
      .ok ⟨"select E':a', 'it''s :a' /* :a */ where \"x:a\" = $1::text", [.int 1]⟩ := by
  have h : ∀ l ∈ (ServerState.outside false).read
      "select E':a', 'it''s :a' /* :a */ where \"x:a\" = :b::text".toList, l.isShared :=
    List.all_eq_true.1 (by decide +kernel)
  have hnames : serverNames "select E':a', 'it''s :a' /* :a */ where \"x:a\" = :b::text" =
      ["b"] := by
    decide +kernel
  have hv : ∀ name ∈ serverNames "select E':a', 'it''s :a' /* :a */ where \"x:a\" = :b::text",
      ((ParameterMap.ofList [("b", .int 1)]).get? name).isSome := by
    rw [hnames]
    decide
  refine ⟨h, hv, (ofNamed_of_shared h hv).1.trans (congrArg Except.ok ?_)⟩
  refine congrArg₂ Positional.mk (by decide +kernel) ?_
  rw [hnames]
  rfl

/-- A comment inside of a comment: the server finds no name outside of the comments, but the scanner
    has left the outer one with the inner one, and asks for the value of a name in it. -/
theorem ofNamed_nested_comment :
    serverNames "select 1 /* a /* b */ :c */" = [] ∧
      ofNamed "select 1 /* a /* b */ :c */" .empty = .error (.missingParameter "c") := by
  have hnames : placeholderNames
      (ScanState.normal.read "select 1 /* a /* b */ :c */".toList) = ["c"] := by
    decide +kernel
  refine ⟨by decide +kernel, ?_⟩
  rw [ofNamed_eq_ofSymbols, ofSymbols, hnames]
  rfl

end Positional

end SqlComposer
