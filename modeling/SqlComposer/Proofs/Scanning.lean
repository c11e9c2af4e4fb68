import SqlComposer.Placeholder
import SqlComposer.Render.Clause

/-! # Scanning text that is put together

    The scanner for named placeholders looks ahead: a colon means something else before a letter
    than before a blank, and a quote may go on in the next text.  So scanning two texts one after
    the other is scanning them apart only when the second one does not go on with what the first one
    ends with.

    * `symbols` is what the scanner sees, character by character: a character that is copied, or a
      placeholder;
    * `settles` are the characters that go on with nothing, and after a `Settled` rest no text can
      change;
    * a text is `Loose` when it is copied whatever settled rest follows, and `Tight` when it is
      copied before every rest.  Plain words and signs are tight, string constants are loose
      (`loose_stringLiteral`), and so is every text that is `Neutral`: scanned alone it has no
      placeholder and leaves nothing open. -/

namespace SqlComposer

/-- What the scanner sees: a character that is copied, or a placeholder. -/
inductive Symbol where
  | char (c : Char)
  | placeholder (name : List Char)

/-- The symbols of a span. -/
def Span.symbols : Span → List Symbol
  | .copied text => text.map Symbol.char
  | .placeholder name => [.placeholder name]

/-- The symbols of a text. -/
def symbols (text : List Char) : List Symbol := (Span.ofText text).flatMap Span.symbols

theorem symbols_nil : symbols [] = [] := by
  rw [symbols, Span.ofText]
  rfl

/-- A first span that is copied. -/
theorem symbols_cons_copied {c : Char} {rest : List Char} {n : Nat}
    (h : Span.firstLength c rest = (n, false)) :
    symbols (c :: rest) = ((c :: rest).take n).map Symbol.char ++ symbols ((c :: rest).drop n) := by
  rw [symbols, Span.ofText, h]
  rfl

/-- A first span that is a placeholder. -/
theorem symbols_cons_placeholder {c : Char} {rest : List Char} {n : Nat}
    (h : Span.firstLength c rest = (n, true)) :
    symbols (c :: rest) =
      .placeholder (((c :: rest).take n).drop 1) :: symbols ((c :: rest).drop n) := by
  rw [symbols, Span.ofText, h]
  rfl

/-! ## Texts before a rest -/

/-- Characters that stand for themselves before every rest. -/
def isPlain (c : Char) : Bool := !(c == '\'' || c == '"' || c == '-' || c == '/' || c == ':')

/-- Characters that go on with nothing that stands before them. -/
def settles (c : Char) : Bool :=
  !(c == '\'' || c == '"' || c == '-' || c == '*' || c == ':' || Span.isNameChar c)

/-- A rest that goes on with nothing: it is empty, or its first character settles. -/
def Settled (rest : List Char) : Prop := ∀ c more, rest = c :: more → settles c = true

/-- A text that is copied before every settled rest. -/
def Loose (text : List Char) : Prop :=
  ∀ rest, Settled rest → symbols (text ++ rest) = text.map Symbol.char ++ symbols rest

/-- A text that is copied before every rest. -/
def Tight (text : List Char) : Prop :=
  ∀ rest, symbols (text ++ rest) = text.map Symbol.char ++ symbols rest

theorem settled_nil : Settled [] := by
  intro c more h
  cases h

theorem settled_cons {c : Char} (h : settles c = true) (more : List Char) :
    Settled (c :: more) := by
  intro d rest he
  cases he
  exact h

theorem firstLength_of_isPlain {c : Char} (h : isPlain c = true) (rest : List Char) :
    Span.firstLength c rest = (1, false) := by
  simp only [isPlain, Bool.not_eq_true', Bool.or_eq_false_iff, beq_eq_false_iff_ne] at h
  obtain ⟨⟨⟨⟨h1, h2⟩, h3⟩, h4⟩, h5⟩ := h
  unfold Span.firstLength
  rw [if_neg (not_or.mpr ⟨h1, h2⟩)]
  split
  · exact absurd rfl h3
  · exact absurd rfl h4
  · exact absurd rfl h5
  · exact absurd rfl h5
  · rfl

/-- Words and signs are tight. -/
theorem tight_of_isPlain {text : List Char} (h : text.all isPlain = true) : Tight text := by
  intro rest
  induction text with
  | nil => rfl
  | cons c more ih =>
      rw [List.all_cons, Bool.and_eq_true] at h
      rw [List.cons_append, symbols_cons_copied (firstLength_of_isPlain h.1 _)]
      exact congrArg (Symbol.char c :: ·) (ih h.2)

/-! ## String constants -/

/-- The characters of a string constant between its apostrophes. -/
def doubledQuotes (s : List Char) : List Char :=
  s.flatMap fun c => if c = '\'' then ['\'', '\''] else [c]

/-- A section in which every quote is doubled goes on to the quote behind it. -/
theorem quotedLength_doubledQuotes (s : List Char) {rest : List Char}
    (hr : rest.head? ≠ some '\'') :
    Span.quotedLength '\'' (doubledQuotes s ++ '\'' :: rest) = (doubledQuotes s).length + 1 := by
  induction s with
  | nil =>
      cases rest with
      | nil => rfl
      | cons d more =>
          have hq : d ≠ '\'' := by simpa using hr
          show Span.quotedLength '\'' ('\'' :: d :: more) = 1
          rw [Span.quotedLength, if_pos rfl, if_neg hq]
  | cons c s ih =>
      by_cases hc : c = '\''
      · subst hc
        show Span.quotedLength '\'' ('\'' :: '\'' :: (doubledQuotes s ++ '\'' :: rest)) = _
        rw [Span.quotedLength, if_pos rfl, if_pos rfl, ih]
        rfl
      · have hd : doubledQuotes (c :: s) = c :: doubledQuotes s := by
          rw [doubledQuotes, List.flatMap_cons, if_neg hc]
          rfl
        -- what follows is never empty: the closing quote is still to come
        obtain ⟨d, more, hm⟩ : ∃ d more, doubledQuotes s ++ '\'' :: rest = d :: more := by
          cases doubledQuotes s with
          | nil => exact ⟨_, _, rfl⟩
          | cons d more => exact ⟨_, _, rfl⟩
        rw [hd, List.cons_append, hm, Span.quotedLength, if_neg hc, ← hm, ih]
        rfl

/-- A settled rest does not begin with a quote. -/
theorem Settled.head?_ne {rest : List Char} (h : Settled rest) : rest.head? ≠ some '\'' := by
  intro hq
  obtain ⟨more, rfl⟩ := List.head?_eq_some_iff.1 hq
  exact absurd (h _ more rfl) (by decide)

theorem toList_stringLiteral (s : String) :
    (stringLiteral s).toList = '\'' :: (doubledQuotes s.toList ++ ['\'']) := by
  rw [stringLiteral, String.toList_ofList]
  rfl

/-- String constants are loose, whatever is in them. -/
theorem loose_stringLiteral (s : String) : Loose (stringLiteral s).toList := by
  intro rest hr
  have hq := quotedLength_doubledQuotes s.toList hr.head?_ne
  have hf : Span.firstLength '\'' (doubledQuotes s.toList ++ '\'' :: rest)
      = (1 + ((doubledQuotes s.toList).length + 1), false) := by
    unfold Span.firstLength
    rw [if_pos (.inl rfl), hq]
  have hl : ('\'' :: (doubledQuotes s.toList ++ ['\''])).length
      = 1 + ((doubledQuotes s.toList).length + 1) := by
    simp
    omega
  -- the first span is the whole constant, and the rest is scanned on its own
  have ha : '\'' :: (doubledQuotes s.toList ++ '\'' :: rest)
      = '\'' :: (doubledQuotes s.toList ++ ['\'']) ++ rest := by simp
  rw [toList_stringLiteral, ← ha, symbols_cons_copied hf, ha, ← hl, List.take_left,
    List.drop_left]

/-! ## Neutral texts -/

/-- Whether a quoted section is closed, behind its opening quote. -/
def closesQuoted (quote : Char) : List Char → Bool
  | [] => false
  | [c] => c == quote
  | c :: d :: rest =>
    if c = quote then
      if d = quote then closesQuoted quote rest else true
    else closesQuoted quote (d :: rest)

/-- Whether a block comment is closed, behind its opening. -/
def closesComment : List Char → Bool
  | [] => false
  | [_] => false
  | c :: d :: rest => if c = '*' ∧ d = '/' then true else closesComment (d :: rest)

/-- Whether the first span of a text closes what it opens: a quoted section or a comment. -/
def closesFirst (c : Char) (rest : List Char) : Bool :=
  if c = '\'' ∨ c = '"' then closesQuoted c rest
  else
    match c, rest with
    | '-', '-' :: more => more.contains '\n'
    | '/', '*' :: more => closesComment more
    | _, _ => true

/-- A text that has no placeholder when it is scanned alone, and closes what it opens. -/
inductive Neutral : List Char → Prop where
  | nil : Neutral []
  | cons {c : Char} {rest : List Char} :
      (Span.firstLength c rest).2 = false → closesFirst c rest = true →
      Neutral ((c :: rest).drop (Span.firstLength c rest).1) → Neutral (c :: rest)

/-- A quoted section that is closed ends where it ended, whatever settled rest follows. -/
theorem quotedLength_append {quote : Char} {text rest : List Char} (hq : settles quote = false)
    (h : closesQuoted quote text = true) (hr : Settled rest) :
    Span.quotedLength quote (text ++ rest) = Span.quotedLength quote text ∧
      Span.quotedLength quote text ≤ text.length := by
  induction text using closesQuoted.induct quote with
  | case1 => cases h
  | case2 c =>
      have hc : c = quote := eq_of_beq h
      subst hc
      refine ⟨?_, Nat.le_refl 1⟩
      cases rest with
      | nil => rfl
      | cons d more =>
          have hd : d ≠ c := by
            rintro rfl
            rw [hr _ more rfl] at hq
            cases hq
          show Span.quotedLength c (c :: d :: more) = 1
          rw [Span.quotedLength, if_pos rfl, if_neg hd]
  | case3 text ih =>
      rw [closesQuoted, if_pos rfl, if_pos rfl] at h
      obtain ⟨he, hl⟩ := ih h
      show Span.quotedLength quote (quote :: quote :: (text ++ rest)) = _ ∧ _
      rw [Span.quotedLength, Span.quotedLength, if_pos rfl, if_pos rfl, if_pos rfl, if_pos rfl, he]
      exact ⟨rfl, Nat.add_le_add_right hl 2⟩
  | case4 d text hd =>
      show Span.quotedLength quote (quote :: d :: (text ++ rest)) = _ ∧ _
      rw [Span.quotedLength, Span.quotedLength, if_pos rfl, if_pos rfl, if_neg hd, if_neg hd]
      exact ⟨rfl, Nat.le_add_left ..⟩
  | case5 c d text hc ih =>
      rw [closesQuoted, if_neg hc] at h
      obtain ⟨he, hl⟩ := ih h
      show Span.quotedLength quote (c :: d :: (text ++ rest)) = _ ∧ _
      rw [Span.quotedLength, Span.quotedLength, if_neg hc, if_neg hc, ← List.cons_append, he]
      exact ⟨rfl, Nat.add_le_add_right hl 1⟩

/-- A block comment that is closed ends where it ended. -/
theorem blockCommentLength_append {text : List Char} (h : closesComment text = true)
    (rest : List Char) :
    Span.blockCommentLength (text ++ rest) = Span.blockCommentLength text ∧
      Span.blockCommentLength text ≤ text.length := by
  induction text using closesComment.induct with
  | case1 => cases h
  | case2 => cases h
  | case3 c d text hc =>
      show Span.blockCommentLength (c :: d :: (text ++ rest)) = _ ∧ _
      rw [Span.blockCommentLength, Span.blockCommentLength, if_pos hc, if_pos hc]
      exact ⟨rfl, Nat.le_add_left ..⟩
  | case4 c d text hc ih =>
      rw [closesComment, if_neg hc] at h
      obtain ⟨he, hl⟩ := ih h
      show Span.blockCommentLength (c :: d :: (text ++ rest)) = _ ∧ _
      rw [Span.blockCommentLength, Span.blockCommentLength, if_neg hc, if_neg hc,
        ← List.cons_append, he]
      exact ⟨rfl, Nat.add_le_add_right hl 1⟩

/-- A line comment that is closed ends at the end of its line. -/
theorem lineCommentLength_append {text : List Char} (h : text.contains '\n' = true)
    (rest : List Char) :
    (text ++ rest).takeWhile (· ≠ '\n') = text.takeWhile (· ≠ '\n') := by
  rw [List.contains_iff_mem] at h
  rw [List.takeWhile_append, if_neg]
  intro hl
  -- had the run taken the whole text, it would have taken the end of the line too
  have ht := (List.takeWhile_prefix (fun c => decide (c ≠ '\n')) (l := text)).eq_of_length hl
  have hn := List.all_takeWhile (p := fun c => decide (c ≠ '\n')) (l := text)
  rw [ht, List.all_eq_true] at hn
  exact absurd rfl (of_decide_eq_true (hn _ h))

/-- A character before a settled rest stands for itself, unless it opens a quoted section. -/
theorem firstLength_of_settled {c : Char} {rest : List Char} (hq : ¬(c = '\'' ∨ c = '"'))
    (hr : Settled rest) : Span.firstLength c rest = (1, false) := by
  unfold Span.firstLength
  rw [if_neg hq]
  split
  · exact absurd (hr _ _ rfl) (by decide)
  · exact absurd (hr _ _ rfl) (by decide)
  · exact absurd (hr _ _ rfl) (by decide)
  · rename_i d more _
    have hd := hr _ _ rfl
    have hn : Span.isNameStart d = false := by
      rw [Bool.eq_false_iff]
      intro hn
      have ha : Span.isNameChar d = true := by
        rw [Span.isNameStart, Bool.or_eq_true] at hn
        rw [Span.isNameChar, Char.isAlphanum, Bool.or_eq_true, Bool.or_eq_true]
        exact hn.imp_left .inl
      rw [settles, ha, Bool.or_true] at hd
      cases hd
    rw [hn]
    rfl
  · rfl

/-- A colon before a character other than a colon is a placeholder before a letter only. -/
theorem firstLength_colon {d : Char} (hd : d ≠ ':') (text : List Char) :
    Span.firstLength ':' (d :: text) =
      if Span.isNameStart d then (2 + (text.takeWhile Span.isNameChar).length, true)
      else (1, false) := by
  simp [Span.firstLength]

/-- The first span of a text that closes what it opens stays the same before a settled rest. -/
theorem firstLength_append {c : Char} {rest more : List Char}
    (hp : (Span.firstLength c rest).2 = false) (hc : closesFirst c rest = true)
    (hm : Settled more) :
    Span.firstLength c (rest ++ more) = Span.firstLength c rest ∧
      (Span.firstLength c rest).1 ≤ rest.length + 1 := by
  -- one case for each way in which a span can begin
  fun_cases Span.firstLength c rest with
  | case1 _ _ hq =>
      have hs : settles c = false := by
        rcases hq with rfl | rfl
        · decide
        · decide
      unfold closesFirst at hc
      rw [if_pos hq] at hc
      obtain ⟨he, hl⟩ := quotedLength_append hs hc hm
      unfold Span.firstLength
      rw [if_pos hq, he]
      exact ⟨rfl, by omega⟩
  | case2 text =>
      show (2 + ((text ++ more).takeWhile (· ≠ '\n')).length, false) = _ ∧ _
      rw [lineCommentLength_append hc more]
      have hl := (List.takeWhile_prefix (fun c => decide (c ≠ '\n')) (l := text)).length_le
      refine ⟨rfl, ?_⟩
      show 2 + _ ≤ text.length + 1 + 1
      omega
  | case3 text =>
      obtain ⟨he, hl⟩ := blockCommentLength_append hc more
      show (2 + Span.blockCommentLength (text ++ more), false) = _ ∧ _
      rw [he]
      refine ⟨rfl, ?_⟩
      show 2 + _ ≤ text.length + 1 + 1
      omega
  | case4 text => exact ⟨rfl, by simp⟩
  | case5 d text hd hn hq =>
      rw [firstLength_colon hd, if_pos hn] at hp
      cases hp
  | case6 d text hd hn hq =>
      rw [List.cons_append, firstLength_colon hd, if_neg hn]
      exact ⟨rfl, Nat.le_add_left ..⟩
  | case7 _ _ hq h1 h2 h3 h4 =>
      refine ⟨?_, Nat.le_add_left ..⟩
      -- a character of its own could begin a span only together with what follows it
      cases rest with
      | nil => exact firstLength_of_settled hq hm
      | cons d text =>
          rw [List.cons_append]
          unfold Span.firstLength
          rw [if_neg hq]
          split
          · rename_i he
            cases he
            exact (h1 _ rfl rfl).elim
          · rename_i he
            cases he
            exact (h2 _ rfl rfl).elim
          · rename_i he
            cases he
            exact (h3 _ rfl rfl).elim
          · rename_i he
            cases he
            exact (h4 _ _ rfl rfl).elim
          · rfl

/-- Neutral texts are loose. -/
theorem Neutral.loose {text : List Char} (h : Neutral text) : Loose text := by
  intro rest hr
  induction h with
  | nil => rfl
  | @cons c text hp hc _ ih =>
      obtain ⟨he, hl⟩ := firstLength_append hp hc hr
      have hf : Span.firstLength c (text ++ rest) = ((Span.firstLength c text).1, false) :=
        he.trans (Prod.ext rfl hp)
      have hl' : (Span.firstLength c text).1 ≤ (c :: text).length := hl
      rw [List.cons_append, symbols_cons_copied hf, ← List.cons_append,
        List.take_append_of_le_length hl', List.drop_append_of_le_length hl', ih,
        ← List.append_assoc, ← List.map_append, List.take_append_drop]

/-- Words and signs are neutral. -/
theorem neutral_of_isPlain {text : List Char} (h : text.all isPlain = true) : Neutral text := by
  induction text with
  | nil => exact .nil
  | cons c rest ih =>
      rw [List.all_cons, Bool.and_eq_true] at h
      have hf := firstLength_of_isPlain h.1 rest
      refine .cons ?_ ?_ ?_
      · rw [hf]
      · have hc := h.1
        simp only [isPlain, Bool.not_eq_true', Bool.or_eq_false_iff, beq_eq_false_iff_ne] at hc
        obtain ⟨⟨⟨⟨h1, h2⟩, h3⟩, h4⟩, h5⟩ := hc
        unfold closesFirst
        rw [if_neg (not_or.mpr ⟨h1, h2⟩)]
        split
        · exact absurd rfl h3
        · exact absurd rfl h4
        · rfl
      · rw [hf]
        exact ih h.2

/-! ## Placeholders -/

/-- A colon before a name is a placeholder, in front of a rest that does not go on with the name. -/
theorem symbols_name {d : Char} {name rest : List Char} (hd : Span.isNameStart d = true)
    (hn : ∀ c ∈ name, Span.isNameChar c = true) (hr : Settled rest) :
    symbols (':' :: d :: (name ++ rest)) = .placeholder (d :: name) :: symbols rest := by
  have hw : (name ++ rest).takeWhile Span.isNameChar = name := by
    rw [List.takeWhile_append_of_pos hn]
    cases rest with
    | nil => exact List.append_nil name
    | cons c more =>
        have hc : Span.isNameChar c = false := by
          have hs := hr c more rfl
          simp only [settles, Bool.not_eq_true', Bool.or_eq_false_iff] at hs
          exact hs.2
        rw [List.takeWhile_cons_of_neg (by simp [hc]), List.append_nil]
  -- a letter is no colon, so this is not a double colon
  have hne : d ≠ ':' := by
    rintro rfl
    cases hd
  have hf : Span.firstLength ':' (d :: (name ++ rest)) = (2 + name.length, true) := by
    rw [firstLength_colon hne, if_pos hd, hw]
  have ha : ':' :: d :: (name ++ rest) = (':' :: d :: name) ++ rest := rfl
  have hl : 2 + name.length = (':' :: d :: name).length := Nat.add_comm 2 _
  rw [symbols_cons_placeholder hf, ha, hl, List.take_left, List.drop_left]
  rfl

/-- The digits of a number can stand in a name. -/
theorem isNameChar_of_mem_digits {number : Nat} {c : Char} (h : c ∈ (toString number).toList) :
    Span.isNameChar c = true := by
  rw [Nat.toString_eq_repr, Nat.toList_repr] at h
  have hd : c.isDigit = true := Nat.isDigit_of_mem_toDigits (by decide) (by decide) h
  rw [Span.isNameChar, Char.isAlphanum, hd, Bool.or_true, Bool.true_or]

end SqlComposer
