import SqlComposer.Proofs.CharacterScanner
import SqlComposer.Text.Bytes

/-! # Scanning bytes

    A text is handed over as its bytes in UTF-8, and a scanner over bytes counts bytes where the
    scanner over characters counts characters.  It is also faster where nothing begins: it jumps to
    the next byte that may begin something (`Span.firstByteLength`).

    * A character below 128 is one byte, and all bytes of other characters are 128 or more
      (`byteChars_ascii`, `high_of_mem_byteChars`), so no byte inside of a character looks like a
      quote, a sign or a letter of a name.
    * Runs, quoted sections and comments therefore end behind the same character among the bytes
      (`Bytewise.takeWhile`, `quotedLength_byteText`, `blockCommentLength_byteText`).
    * What begins with a character below 128 is the same among the bytes (`firstLength_byteText`).

    So the scan over the bytes cuts every text between whole characters only, and it sees what the
    scan over the characters sees (`Span.ofBytes_byteText`).  A byte is written here as the
    character of its number. -/

namespace SqlComposer

/-! ## Bytes of characters -/

/-- A byte as the character of its number. -/
def byteChar (b : UInt8) : Char := Char.ofNat b.toNat

/-- The bytes of a character in UTF-8, each as the character of its number. -/
def byteChars (c : Char) : List Char := (String.utf8EncodeChar c).map byteChar

/-- The bytes of a text in UTF-8, each as the character of its number. -/
def byteText (text : List Char) : List Char := text.flatMap byteChars

/-- The character of a byte has the number of the byte. -/
theorem toNat_byteChar (b : UInt8) : (byteChar b).toNat = b.toNat := by
  have h : b.toNat < 256 := b.toNat_lt
  rw [byteChar, Char.ofNat, dif_pos (Or.inl (by omega))]
  rfl

theorem byteChars_ne_nil (c : Char) : byteChars c ≠ [] := by
  rw [byteChars, ne_eq, List.map_eq_nil_iff]
  exact String.utf8EncodeChar_ne_nil

/-- A character below 128 is one byte. -/
theorem byteChars_ascii {c : Char} (h : c.toNat < 128) : byteChars c = [c] := by
  have hv : c.val.toNat ≤ 127 := Nat.le_of_lt_succ h
  simp only [byteChars, String.utf8EncodeChar, if_pos hv, List.map_cons, List.map_nil]
  rw [byteChar, UInt8.toNat_ofNat', Nat.mod_eq_of_lt (by omega)]
  exact congrArg (fun d => [d]) (Char.ofNat_toNat c)

/-- All bytes of any other character are 128 or more. -/
theorem high_of_mem_byteChars {c b : Char} (h : 128 ≤ c.toNat) (hb : b ∈ byteChars c) :
    128 ≤ b.toNat := by
  obtain ⟨byte, hm, rfl⟩ := List.mem_map.1 hb
  rw [toNat_byteChar]
  have hv : ¬c.val.toNat ≤ 127 := Nat.not_le_of_lt h
  have hmark : ∀ n mark, 128 ≤ mark → n + mark < 256 → 128 ≤ (UInt8.ofNat (n + mark)).toNat := by
    intro n mark h1 h2
    rw [UInt8.toNat_ofNat', Nat.mod_eq_of_lt (by omega)]
    omega
  -- two, three or four bytes, each with a mark of 128 or more added
  simp only [String.utf8EncodeChar, if_neg hv] at hm
  split at hm
  · simp only [List.mem_cons, List.not_mem_nil, or_false] at hm
    rcases hm with rfl | rfl
    all_goals exact hmark _ _ (by omega) (by omega)
  · split at hm
    · simp only [List.mem_cons, List.not_mem_nil, or_false] at hm
      rcases hm with rfl | rfl | rfl
      all_goals exact hmark _ _ (by omega) (by omega)
    · simp only [List.mem_cons, List.not_mem_nil, or_false] at hm
      rcases hm with rfl | rfl | rfl | rfl
      all_goals exact hmark _ _ (by omega) (by omega)

/-- No byte of a character is another character below 128. -/
theorem notMem_byteChars {c d : Char} (hd : d.toNat < 128) (h : c ≠ d) : d ∉ byteChars c := by
  intro hm
  by_cases hc : c.toNat < 128
  · rw [byteChars_ascii hc, List.mem_singleton] at hm
    exact h hm.symm
  · have := high_of_mem_byteChars (by omega) hm
    omega

/-! ## Bytes of texts -/

/-- The bytes of a text are the bytes of its characters. -/
theorem map_byteChar_utf8 (s : String) : (utf8 s).map byteChar = byteText s.toList := by
  rw [utf8, String.toUTF8_eq_toByteArray, ← String.utf8Encode_toList, List.utf8Encode,
    List.data_toByteArray, List.map_flatMap]
  rfl

theorem byteText_cons (c : Char) (rest : List Char) :
    byteText (c :: rest) = byteChars c ++ byteText rest := rfl

theorem byteText_cons_ascii {c : Char} (h : c.toNat < 128) (rest : List Char) :
    byteText (c :: rest) = c :: byteText rest := by
  rw [byteText_cons, byteChars_ascii h]
  rfl

/-- A text has no more characters than bytes. -/
theorem length_le_byteText (text : List Char) : text.length ≤ (byteText text).length := by
  induction text with
  | nil => exact Nat.le_refl 0
  | cons c rest ih =>
      have h := List.length_pos_iff.2 (byteChars_ne_nil c)
      rw [byteText_cons, List.length_append, List.length_cons]
      omega

/-- The bytes of what is in front, and those of what is behind it. -/
theorem take_drop_byteText (n : Nat) (text : List Char) :
    (byteText text).take (byteText (text.take n)).length = byteText (text.take n) ∧
      (byteText text).drop (byteText (text.take n)).length = byteText (text.drop n) := by
  have h : byteText text = byteText (text.take n) ++ byteText (text.drop n) := by
    rw [byteText, byteText, byteText, ← List.flatMap_append, List.take_append_drop]
  rw [h, List.take_left, List.drop_left]
  exact ⟨rfl, rfl⟩

/-- The first byte of a text is a character below 128 exactly when its first character is. -/
theorem head?_byteText {d : Char} (h : d.toNat < 128) (text : List Char) :
    (byteText text).head? = some d ↔ text.head? = some d := by
  cases text with
  | nil => exact Iff.rfl
  | cons c rest =>
      by_cases hc : c = d
      · subst hc
        rw [byteText_cons_ascii h]
        exact Iff.rfl
      · obtain ⟨b, bs, hb⟩ := List.exists_cons_of_ne_nil (byteChars_ne_nil c)
        have hbd : b ≠ d := by
          rintro rfl
          exact notMem_byteChars h hc (hb ▸ List.mem_cons_self)
        rw [byteText_cons, hb, List.cons_append, List.head?_cons, List.head?_cons,
          Option.some.injEq, Option.some.injEq]
        exact iff_of_false hbd hc

/-- Behind an ASCII character in front are the bytes of the rest. -/
theorem tail_byteText {d : Char} (h : d.toNat < 128) {text : List Char}
    (hd : text.head? = some d) : (byteText text).tail = byteText text.tail := by
  obtain ⟨more, rfl⟩ := List.head?_eq_some_iff.1 hd
  rw [byteText_cons_ascii h]
  rfl

/-! ## Runs -/

/-- A property that a character has exactly when each of its bytes has it. -/
def Bytewise (p : Char → Bool) : Prop := ∀ c, ∀ b ∈ byteChars c, p b = p c

/-- A test that gives one answer to all characters beyond ASCII may be made byte by byte. -/
theorem bytewise_of_high {p : Char → Bool} (v : Bool) (h : ∀ c : Char, 128 ≤ c.toNat → p c = v) :
    Bytewise p := by
  intro c b hb
  by_cases hc : c.toNat < 128
  · rw [byteChars_ascii hc, List.mem_singleton] at hb
    rw [hb]
  · rw [h c (by omega), h b (high_of_mem_byteChars (by omega) hb)]

/-- The bytes of a run of characters are a run of bytes. -/
theorem Bytewise.takeWhile {p : Char → Bool} (hp : Bytewise p) (text : List Char) :
    (byteText text).takeWhile p = byteText (text.takeWhile p) ∧
      (byteText text).dropWhile p = byteText (text.dropWhile p) := by
  induction text with
  | nil => exact ⟨rfl, rfl⟩
  | cons c rest ih =>
      by_cases hc : p c = true
      · have hall : ∀ b ∈ byteChars c, p b = true := fun b hb => (hp c b hb).trans hc
        rw [byteText_cons, List.takeWhile_append_of_pos hall, List.dropWhile_append_of_pos hall,
          List.takeWhile_cons_of_pos hc, List.dropWhile_cons_of_pos hc]
        exact ⟨congrArg _ ih.1, ih.2⟩
      · -- the first byte of the character ends the run
        obtain ⟨b, bs, hb⟩ := List.exists_cons_of_ne_nil (byteChars_ne_nil c)
        have hpb : ¬p b = true := by
          rw [hp c b (hb ▸ List.mem_cons_self)]
          exact hc
        rw [List.takeWhile_cons_of_neg hc, List.dropWhile_cons_of_neg hc, byteText_cons, hb,
          List.cons_append, List.takeWhile_cons_of_neg hpb, List.dropWhile_cons_of_neg hpb]
        exact ⟨rfl, rfl⟩

theorem ne_of_high {c d : Char} (h : 128 ≤ c.toNat) (hd : d.toNat < 128) : c ≠ d := by
  rintro rfl
  omega

/-- Names have ASCII characters only. -/
theorem isNameChar_high {c : Char} (h : 128 ≤ c.toNat) : Span.isNameChar c = false := by
  have hrange : ∀ last : UInt32, last.toNat < 128 → ¬c.val ≤ last := by
    intro last hl hc
    exact absurd (Nat.le_trans h (UInt32.le_iff_toNat_le.1 hc)) (Nat.not_le.2 hl)
  -- the letters and the digits are three ranges that end below 128
  have hupper : c.isUpper = false := decide_eq_false fun hc => hrange _ (by decide) hc.2
  have hlower : c.isLower = false :=
    Bool.and_eq_false_iff.2 (.inr (decide_eq_false (hrange _ (by decide))))
  have hdigit : c.isDigit = false :=
    Bool.and_eq_false_iff.2 (.inr (decide_eq_false (hrange _ (by decide))))
  show ((c.isUpper || c.isLower) || c.isDigit || c == '_') = false
  rw [hupper, hlower, hdigit, beq_eq_false_iff_ne.2 (ne_of_high h (by decide))]
  rfl

theorem isPlain_high {c : Char} (h : 128 ≤ c.toNat) : isPlain c = true := by
  simp only [isPlain, Bool.not_eq_true', Bool.or_eq_false_iff, beq_eq_false_iff_ne]
  refine ⟨⟨⟨⟨?_, ?_⟩, ?_⟩, ?_⟩, ?_⟩
  all_goals exact ne_of_high h (by decide)

theorem bytewise_isPlain : Bytewise isPlain := bytewise_of_high true fun _ => isPlain_high

theorem bytewise_isNameChar : Bytewise Span.isNameChar :=
  bytewise_of_high false fun _ => isNameChar_high

/-- Whether a character may begin a name can be tested byte by byte. -/
theorem bytewise_isNameStart : Bytewise Span.isNameStart := by
  refine bytewise_of_high false fun c hc => ?_
  rw [Bool.eq_false_iff]
  intro h
  have hn := isNameChar_high hc
  rw [isNameChar_of_isNameStart h] at hn
  cases hn

theorem bytewise_ne {d : Char} (h : d.toNat < 128) : Bytewise (fun c => decide (c ≠ d)) :=
  bytewise_of_high true fun _ hc => decide_eq_true (ne_of_high hc h)

/-- A text begins with a name if its bytes do. -/
theorem any_head?_byteText (text : List Char) :
    (byteText text).head?.any Span.isNameStart = text.head?.any Span.isNameStart := by
  cases text with
  | nil => rfl
  | cons c rest =>
      obtain ⟨b, bs, hb⟩ := List.exists_cons_of_ne_nil (byteChars_ne_nil c)
      rw [byteText_cons, hb]
      exact bytewise_isNameStart c b (hb ▸ List.mem_cons_self)

/-! ## Quoted sections and comments -/

/-- A quote ends the section, unless there are two of them. -/
theorem quotedLength_self (quote : Char) (text : List Char) :
    Span.quotedLength quote (quote :: text) =
      if text.head? = some quote then Span.quotedLength quote text.tail + 2 else 1 := by
  cases text with
  | nil => rfl
  | cons d more =>
      rw [Span.quotedLength, if_pos rfl, List.head?_cons]
      simp only [Option.some.injEq]
      rfl

/-- A section goes on over a text without the quote. -/
theorem quotedLength_append_of_notMem {quote : Char} {text : List Char} (h : quote ∉ text)
    (rest : List Char) :
    Span.quotedLength quote (text ++ rest) = text.length + Span.quotedLength quote rest := by
  induction text with
  | nil => exact (Nat.zero_add _).symm
  | cons c more ih =>
      rw [List.mem_cons, not_or] at h
      rw [List.cons_append, List.length_cons, Nat.add_right_comm, ← ih h.2]
      cases more ++ rest with
      | nil => rfl
      | cons d _ => rw [Span.quotedLength, if_neg (Ne.symm h.1)]

/-- A quoted section is closed by the same byte. -/
theorem quotedLength_byteText {quote : Char} (hq : quote.toNat < 128) (text : List Char) :
    Span.quotedLength quote (byteText text) =
      (byteText (text.take (Span.quotedLength quote text))).length := by
  induction text using closesQuoted.induct quote with
  | case1 => rfl
  | case2 c =>
      show _ = (byteText [c]).length
      by_cases hc : c = quote
      · subst hc
        rw [byteText_cons_ascii hq]
        rfl
      · rw [byteText_cons, quotedLength_append_of_notMem (notMem_byteChars hq hc),
          List.length_append]
        rfl
  | case3 rest ih =>
      rw [byteText_cons_ascii hq, quotedLength_self, quotedLength_self,
        if_pos ((head?_byteText hq _).2 rfl), List.head?_cons, if_pos rfl, tail_byteText hq rfl,
        List.tail_cons, ih]
      show _ = (byteText (quote :: quote :: rest.take _)).length
      rw [byteText_cons_ascii hq, byteText_cons_ascii hq]
      rfl
  | case4 d rest hd =>
      have hn : ¬(d :: rest).head? = some quote := by
        intro he
        cases he
        exact hd rfl
      rw [byteText_cons_ascii hq, quotedLength_self, quotedLength_self,
        if_neg (fun he => hn ((head?_byteText hq _).1 he)), if_neg hn]
      show _ = (byteText [quote]).length
      rw [byteText_cons_ascii hq]
      rfl
  | case5 c d rest hc ih =>
      rw [byteText_cons, quotedLength_append_of_notMem (notMem_byteChars hq hc), ih,
        Span.quotedLength, if_neg hc, List.take_succ_cons, byteText_cons c, List.length_append]

/-- A star ends a block comment if a slash follows. -/
theorem blockCommentLength_star (text : List Char) :
    Span.blockCommentLength ('*' :: text) =
      if text.head? = some '/' then 2 else Span.blockCommentLength text + 1 := by
  cases text with
  | nil => rfl
  | cons d more =>
      rw [Span.blockCommentLength, List.head?_cons]
      simp only [true_and, Option.some.injEq]

/-- A block comment goes on over a text without a star. -/
theorem blockCommentLength_append_of_notMem {text : List Char} (h : '*' ∉ text)
    (rest : List Char) :
    Span.blockCommentLength (text ++ rest) = text.length + Span.blockCommentLength rest := by
  induction text with
  | nil => exact (Nat.zero_add _).symm
  | cons c more ih =>
      rw [List.mem_cons, not_or] at h
      rw [List.cons_append, List.length_cons, Nat.add_right_comm, ← ih h.2]
      cases more ++ rest with
      | nil => rfl
      | cons d _ => rw [Span.blockCommentLength, if_neg (fun he => h.1 he.1.symm)]

/-- A block comment is closed by the same two bytes. -/
theorem blockCommentLength_byteText (text : List Char) :
    Span.blockCommentLength (byteText text) =
      (byteText (text.take (Span.blockCommentLength text))).length := by
  have hstar : '*'.toNat < 128 := by decide
  have hslash : '/'.toNat < 128 := by decide
  induction text with
  | nil => rfl
  | cons c rest ih =>
      by_cases hc : c = '*'
      · subst hc
        rw [byteText_cons_ascii hstar, blockCommentLength_star, blockCommentLength_star]
        by_cases hn : rest.head? = some '/'
        · obtain ⟨more, rfl⟩ := List.head?_eq_some_iff.1 hn
          rw [if_pos ((head?_byteText hslash _).2 hn), if_pos hn]
          show _ = (byteText ['*', '/']).length
          rw [byteText_cons_ascii hstar, byteText_cons_ascii hslash]
          rfl
        · rw [if_neg (fun he => hn ((head?_byteText hslash _).1 he)), if_neg hn, ih,
            List.take_succ_cons, byteText_cons_ascii hstar]
          rfl
      · have hl : Span.blockCommentLength (c :: rest) = Span.blockCommentLength rest + 1 := by
          have hm : '*' ∉ [c] := fun hm => hc (List.mem_singleton.1 hm).symm
          rw [Nat.add_comm]
          exact blockCommentLength_append_of_notMem hm rest
        rw [byteText_cons, blockCommentLength_append_of_notMem (notMem_byteChars hstar hc), ih, hl,
          List.take_succ_cons, byteText_cons c, List.length_append]

/-- What begins with a character below 128 is the same among the bytes. -/
theorem firstLength_byteText {c : Char} (hc : c.toNat < 128) (rest : List Char) :
    Span.firstLength c (byteText rest) =
      ((byteText ((c :: rest).take (Span.firstLength c rest).1)).length,
        (Span.firstLength c rest).2) := by
  have hminus := head?_byteText (d := '-') (by decide) rest
  have hstar := head?_byteText (d := '*') (by decide) rest
  have hcolon := head?_byteText (d := ':') (by decide) rest
  rw [firstLength_eq c (byteText rest), firstLength_eq c rest]
  simp only [hminus, hstar, hcolon, any_head?_byteText]
  split_ifs with hq h1 h2 h3 h4
  · rw [quotedLength_byteText hc, Nat.add_comm 1 (Span.quotedLength c rest), List.take_succ_cons,
      byteText_cons_ascii hc, List.length_cons, Nat.add_comm]
  · obtain ⟨rfl, h⟩ := h1
    obtain ⟨more, rfl⟩ := List.head?_eq_some_iff.1 h
    obtain ⟨htake, -⟩ := take_drop_takeWhile (· ≠ '\n') more
    rw [tail_byteText hc h, List.tail_cons, ((bytewise_ne (by decide)).takeWhile more).1,
      Nat.add_comm 2 (more.takeWhile _).length, List.take_succ_cons, List.take_succ_cons, htake,
      byteText_cons_ascii hc, byteText_cons_ascii hc, Nat.add_comm]
    rfl
  · obtain ⟨rfl, h⟩ := h2
    obtain ⟨more, rfl⟩ := List.head?_eq_some_iff.1 h
    rw [tail_byteText (by decide) h, List.tail_cons, blockCommentLength_byteText,
      Nat.add_comm 2 (Span.blockCommentLength _), List.take_succ_cons, List.take_succ_cons,
      byteText_cons_ascii hc, byteText_cons_ascii (by decide), Nat.add_comm]
    rfl
  · obtain ⟨rfl, h⟩ := h3
    obtain ⟨more, rfl⟩ := List.head?_eq_some_iff.1 h
    rw [List.take_succ_cons, List.take_succ_cons, byteText_cons_ascii hc, byteText_cons_ascii hc]
    rfl
  · obtain ⟨htake, -⟩ := take_drop_takeWhile Span.isNameChar rest
    rw [(bytewise_isNameChar.takeWhile rest).1, Nat.add_comm 1 (rest.takeWhile _).length,
      List.take_succ_cons, htake, byteText_cons_ascii hc, Nat.add_comm]
    rfl
  · rw [List.take_succ_cons, byteText_cons_ascii hc]
    rfl

/-! ## The scan over the bytes -/

namespace Span

/-- The first span of the bytes of a text.  What begins no quoted section, comment, double colon or
    placeholder is taken together with all bytes up to the next one that may begin something. -/
def firstByteLength (b : Char) (rest : List Char) : Nat × Bool :=
  if firstLength b rest = (1, false) then (1 + (rest.takeWhile isPlain).length, false)
  else firstLength b rest

/-- The byte scanner always moves on. -/
theorem firstByteLength_pos (b : Char) (rest : List Char) : 0 < (firstByteLength b rest).1 := by
  rw [firstByteLength]
  split
  · exact Nat.add_pos_left Nat.one_pos _
  · exact firstLength_pos b rest

/-- The spans of the bytes of a text. -/
def ofBytes (bytes : List Char) : List Span :=
  match bytes with
  | [] => []
  | b :: rest =>
    let first := firstByteLength b rest
    cut first (b :: rest) :: ofBytes ((b :: rest).drop first.1)
termination_by bytes.length
decreasing_by
  simp only [List.length_drop]
  have := firstByteLength_pos b rest
  exact Nat.sub_lt (Nat.succ_pos _) this

/-- A span with the bytes of its characters. -/
def encode : Span → Span
  | .copied text => .copied (byteText text)
  | .placeholder name => .placeholder (byteText name)

/-- A quoted section ends within the text. -/
theorem quotedLength_le (quote : Char) (text : List Char) :
    quotedLength quote text ≤ text.length := by
  fun_induction quotedLength quote text with
  | case1 => exact Nat.le_refl 0
  | case2 => exact Nat.le_refl 1
  | case3 _ ih => exact Nat.add_le_add_right ih 2
  | case4 => exact Nat.le_add_left 1 _
  | case5 _ _ _ _ ih => exact Nat.add_le_add_right ih 1

/-- So does a block comment. -/
theorem blockCommentLength_le (text : List Char) : blockCommentLength text ≤ text.length := by
  fun_induction blockCommentLength text with
  | case1 => exact Nat.le_refl 0
  | case2 => exact Nat.le_refl 1
  | case3 => exact Nat.le_add_left 2 _
  | case4 _ _ _ _ ih => exact Nat.add_le_add_right ih 1

/-- A first span takes no more than there is. -/
theorem firstLength_le (c : Char) (rest : List Char) :
    (firstLength c rest).1 ≤ rest.length + 1 := by
  rw [firstLength_eq]
  split_ifs with hq h1 h2 h3 h4
  · have := quotedLength_le c rest
    show 1 + _ ≤ _
    omega
  · obtain ⟨more, rfl⟩ := List.head?_eq_some_iff.1 h1.2
    have := (List.takeWhile_prefix (fun c => decide (c ≠ '\n')) (l := more)).length_le
    show 2 + (more.takeWhile _).length ≤ more.length + 1 + 1
    omega
  · obtain ⟨more, rfl⟩ := List.head?_eq_some_iff.1 h2.2
    have := blockCommentLength_le more
    show 2 + blockCommentLength more ≤ more.length + 1 + 1
    omega
  · obtain ⟨more, rfl⟩ := List.head?_eq_some_iff.1 h3.2
    exact Nat.le_add_left 2 _
  · have := (List.takeWhile_prefix isNameChar (l := rest)).length_le
    show 1 + _ ≤ _
    omega
  · exact Nat.le_add_left 1 _

/-- Bytes that begin nothing are one span. -/
theorem firstByteLength_run {b : Char} {rest : List Char} (h : firstLength b rest = (1, false)) :
    cut (firstByteLength b rest) (b :: rest) = .copied (b :: rest.takeWhile isPlain) ∧
      (b :: rest).drop (firstByteLength b rest).1 = rest.dropWhile isPlain := by
  obtain ⟨htake, hdrop⟩ := take_drop_takeWhile isPlain rest
  rw [firstByteLength, if_pos h, Nat.add_comm 1]
  refine ⟨?_, hdrop⟩
  show copied (b :: rest.take _) = _
  rw [htake]

end Span

/-- Characters that begin nothing are copied. -/
theorem symbols_run {c : Char} {rest : List Char} (h : Span.firstLength c rest = (1, false)) :
    symbols (c :: rest) =
      (Span.copied (c :: rest.takeWhile isPlain)).symbols ++ symbols (rest.dropWhile isPlain) := by
  have ht := tight_of_isPlain (List.all_takeWhile (p := isPlain) (l := rest))
    (rest.dropWhile isPlain)
  rw [List.takeWhile_append_dropWhile] at ht
  rw [symbols_cons_copied h]
  show Symbol.char c :: symbols rest = _
  rw [ht]
  rfl

/-- The first span of the bytes are the bytes of some characters in front, with which the scan over
    the characters begins too. -/
theorem exists_first_byteText (c : Char) (rest : List Char) :
    ∃ (b : Char) (bs : List Char) (span : Span) (more : List Char),
      byteText (c :: rest) = b :: bs ∧ more.length ≤ rest.length ∧
      Span.cut (Span.firstByteLength b bs) (b :: bs) = span.encode ∧
      (b :: bs).drop (Span.firstByteLength b bs).1 = byteText more ∧
      symbols (c :: rest) = span.symbols ++ symbols more := by
  obtain ⟨hrun, hmore⟩ := bytewise_isPlain.takeWhile rest
  have hle : (rest.dropWhile isPlain).length ≤ rest.length :=
    (List.dropWhile_suffix isPlain).length_le
  by_cases hc : c.toNat < 128
  · by_cases h : Span.firstLength c rest = (1, false)
    · -- nothing begins here, neither among the characters nor among the bytes
      have hb : Span.firstLength c (byteText rest) = (1, false) := by
        rw [firstLength_byteText hc, h, List.take_succ_cons, byteText_cons_ascii hc]
        rfl
      obtain ⟨hcut, hdrop⟩ := Span.firstByteLength_run hb
      refine ⟨c, byteText rest, .copied (c :: rest.takeWhile isPlain), rest.dropWhile isPlain,
        byteText_cons_ascii hc rest, hle, ?_, ?_, symbols_run h⟩
      · rw [hcut, hrun, Span.encode, byteText_cons_ascii hc]
      · rw [hdrop, hmore]
    · have hn := Span.firstLength_le c rest
      have hpos := Span.firstLength_pos c rest
      have hb : Span.firstByteLength c (byteText rest) = Span.firstLength c (byteText rest) := by
        rw [Span.firstByteLength, if_neg]
        rw [firstLength_byteText hc]
        intro he
        obtain ⟨h1, h2⟩ := Prod.mk.inj he
        have hl := length_le_byteText ((c :: rest).take (Span.firstLength c rest).1)
        rw [List.length_take_of_le hn] at hl
        exact h (Prod.ext (by omega) h2)
      obtain ⟨htake, hdrop⟩ := take_drop_byteText (Span.firstLength c rest).1 (c :: rest)
      rw [byteText_cons_ascii hc] at htake hdrop
      refine ⟨c, byteText rest, Span.cut (Span.firstLength c rest) (c :: rest),
        (c :: rest).drop (Span.firstLength c rest).1, byteText_cons_ascii hc rest, ?_, ?_, ?_,
        symbols_cut c rest⟩
      · rw [List.length_drop, List.length_cons]
        omega
      · rw [hb, firstLength_byteText hc, Span.cut, Span.cut, htake]
        obtain ⟨n, hk⟩ := Nat.exists_eq_succ_of_ne_zero (Nat.ne_of_gt hpos)
        rw [hk, List.take_succ_cons, byteText_cons_ascii hc]
        cases (Span.firstLength c rest).2 with
        | true => rfl
        | false => exact congrArg Span.copied (byteText_cons_ascii hc _).symm
      · rw [hb, firstLength_byteText hc, hdrop]
  · -- no byte of the character begins anything, and neither does the character
    have hhigh : ∀ b ∈ byteChars c, isPlain b = true := fun b hb =>
      isPlain_high (high_of_mem_byteChars (by omega) hb)
    obtain ⟨b, bs, hb⟩ := List.exists_cons_of_ne_nil (byteChars_ne_nil c)
    rw [hb] at hhigh
    have hbs : ∀ d ∈ bs, isPlain d = true := fun d hd => hhigh d (List.mem_cons_of_mem b hd)
    obtain ⟨hcut, hdrop⟩ := Span.firstByteLength_run
      (firstLength_of_isPlain (hhigh b List.mem_cons_self) (bs ++ byteText rest))
    refine ⟨b, bs ++ byteText rest, .copied (c :: rest.takeWhile isPlain), rest.dropWhile isPlain,
      ?_, hle, ?_, ?_, symbols_run (firstLength_of_isPlain (isPlain_high (by omega)) rest)⟩
    · rw [byteText_cons, hb, List.cons_append]
    · rw [hcut, List.takeWhile_append_of_pos hbs, hrun, Span.encode, byteText_cons, hb,
        List.cons_append]
    · rw [hdrop, List.dropWhile_append_of_pos hbs, hmore]

/-- **No character is cut.**  Each span of the bytes of a text are the bytes of whole characters,
    and the scan over the bytes sees what the scan over the characters sees. -/
theorem Span.ofBytes_byteText (text : List Char) :
    ∃ spans : List Span, ofBytes (byteText text) = spans.map encode ∧
      spans.flatMap Span.symbols = SqlComposer.symbols text := by
  induction hn : text.length using Nat.strongRecOn generalizing text with
  | _ n ih =>
      cases text with
      | nil =>
          refine ⟨[], ?_, symbols_nil.symm⟩
          rw [byteText, List.flatMap_nil, ofBytes]
          rfl
      | cons c rest =>
          obtain ⟨b, bs, span, more, hb, hl, hspan, hrest, hsymbols⟩ := exists_first_byteText c rest
          rw [List.length_cons] at hn
          obtain ⟨spans, hspans, hs⟩ := ih more.length (by omega) more rfl
          refine ⟨span :: spans, ?_, ?_⟩
          · rw [hb, ofBytes, hspan, hrest, hspans]
            rfl
          · rw [List.flatMap_cons, hs, hsymbols]

end SqlComposer
