import Mathlib.Tactic.SplitIfs
import SqlComposer.Json.Printer
import SqlComposer.Json.Reader
import SqlComposer.Proofs.HexReading

/-! # Strings as JSON text

    A string is written between quotes with escapes, and the reader takes the escapes away again,
    one character of the string at a time (`JsonToken.foldlM_escaped`); so a quoted string is read
    as itself (`Json.parse?_quoted`) and different strings have different texts.

    Reading goes the other way only to shorter strings.  Every character of a string that is read
    comes from at least one character between two quotes (`JsonToken.Cursor.Fits`), and the value of
    a whole text that is a string is one of its tokens (`Json.mem_of_ofTokens?_string`).  So no text
    is read as itself: the string that a text is read as is shorter than the text
    (`Json.length_lt_of_parse?`). -/

namespace SqlComposer

namespace JsonToken

/-! ## Quoted strings are read -/

/-- Four hexadecimal digits are read as the number that they stand for. -/
theorem foldlM_hexDigits (tokens : List JsonToken) (reversed : List Char) {n : Nat}
    (h : n < Nat.pow 16 4) :
    (hexDigits 4 n).foldlM step? ⟨tokens, .unicode reversed none []⟩ =
      ofUnit? tokens reversed none n := by
  have hdigit : ∀ k, hexValue? (hexDigit (k % 16)) = some (k % 16) :=
    fun k => hexValue?_hexDigit _ (Nat.mod_lt _ (by decide))
  have hnumber : hexNumber? (hexDigits 4 n) = some n := by
    rw [hexNumber?_hexDigits, Nat.mod_eq_of_lt h]
  have hdigits : hexDigits 4 n = [hexDigit (n / 16 / 16 / 16 % 16), hexDigit (n / 16 / 16 % 16),
      hexDigit (n / 16 % 16), hexDigit (n % 16)] := rfl
  rw [hdigits] at hnumber ⊢
  simp [step?, hdigit, hnumber]

/-- An escaped character is read as the character. -/
theorem foldlM_escaped (tokens : List JsonToken) (reversed : List Char) (c : Char) :
    (Json.escaped c).foldlM step? ⟨tokens, .quoted reversed⟩ =
      some ⟨tokens, .quoted (c :: reversed)⟩ := by
  rw [Json.escaped]
  split_ifs with hq hb hn hr ht h8 h12 h32
  · rw [hq]
    rfl
  · rw [hb]
    rfl
  · rw [hn]
    rfl
  · rw [hr]
    rfl
  · rw [ht]
    rfl
  · rw [← Char.ofNat_toNat c, h8]
    rfl
  · rw [← Char.ofNat_toNat c, h12]
    rfl
  · show (hexDigits 4 c.toNat).foldlM step? ⟨tokens, .unicode reversed none []⟩ = _
    rw [foldlM_hexDigits tokens reversed (Nat.lt_trans h32 (by decide)), ofUnit?]
    -- a control character is no half of a pair
    rw [if_neg (by omega), if_neg (by omega), Char.ofNat_toNat]
  · show (do let next ← step? ⟨tokens, .quoted reversed⟩ c; [].foldlM step? next) = _
    rw [step?]
    simp only [if_neg hq, if_neg hb, if_neg h32]
    rfl

/-- All characters of a string are read from their escapes. -/
theorem foldlM_flatMap_escaped (tokens : List JsonToken) (reversed text : List Char) :
    (text.flatMap Json.escaped).foldlM step? ⟨tokens, .quoted reversed⟩ =
      some ⟨tokens, .quoted (text.reverse ++ reversed)⟩ := by
  induction text generalizing reversed with
  | nil => rfl
  | cons c rest ih =>
      rw [List.flatMap_cons, List.foldlM_append, foldlM_escaped]
      show (rest.flatMap Json.escaped).foldlM step? ⟨tokens, .quoted (c :: reversed)⟩ = _
      rw [ih, List.reverse_cons, List.append_assoc]
      rfl

/-- A quoted string is one token. -/
theorem ofText?_quoted (s : String) :
    ofText? (Json.quoted s).toList = some [.scalar (.string s)] := by
  rw [ofText?, Json.quoted, String.toList_ofList]
  show (do
    let cursor ← (s.toList.flatMap Json.escaped ++ ['"']).foldlM step? ⟨[], .quoted []⟩
    _) = _
  rw [List.foldlM_append, foldlM_flatMap_escaped, List.append_nil]
  show some [JsonToken.scalar (.string (String.ofList s.toList.reverse.reverse))] = _
  rw [List.reverse_reverse, String.ofList_toList]

end JsonToken

namespace Json

/-- A quoted string is read as itself. -/
theorem parse?_quoted (s : String) : parse? (quoted s) = some (.string s) := by
  rw [parse?, JsonToken.ofText?_quoted]
  rfl

theorem quoted_inj {s t : String} (h : quoted s = quoted t) : s = t := by
  have hs := parse?_quoted s
  rw [h, parse?_quoted] at hs
  exact (Json.string.inj (Option.some.inj hs)).symm

end Json

namespace JsonToken

/-! ## What is read is shorter -/

/-- How many characters a token takes at least. -/
def leastLength : JsonToken → Nat
  | .scalar (.string s) => s.length + 2
  | _ => 0

/-- How many characters of the text an open string takes at least. -/
def Mode.leastLength : Mode → Nat
  | .between | .word _ => 0
  | .quoted reversed | .escape reversed | .unicode reversed _ _ | .lowEscape reversed _
  | .lowUnicode reversed _ => reversed.length + 1

/-- What is read so far comes from so many characters. -/
def Cursor.Fits (cursor : Cursor) (n : Nat) : Prop :=
  (∀ token ∈ cursor.reversed, token.leastLength ≤ n) ∧ cursor.mode.leastLength ≤ n

theorem leastLength_ofWord? {word : List Char} {token : JsonToken} (h : ofWord? word = some token) :
    token.leastLength = 0 := by
  rw [ofWord?] at h
  split_ifs at h
  · cases h
    rfl
  · cases h
    rfl
  · cases h
    rfl
  · obtain ⟨number, -, rfl⟩ := Option.map_eq_some_iff.1 h
    rfl

theorem leastLength_ofPunctuation? {c : Char} {token : JsonToken}
    (h : ofPunctuation? c = some token) : token.leastLength = 0 := by
  unfold ofPunctuation? at h
  split at h <;> cases h <;> rfl

/-- A character between tokens opens a string at most. -/
theorem fits_startToken? {tokens : List JsonToken} {c : Char} {next : Cursor} {n : Nat}
    (ht : ∀ token ∈ tokens, token.leastLength ≤ n) (h : startToken? tokens c = some next) :
    next.Fits (n + 1) := by
  have ht' : ∀ token ∈ tokens, token.leastLength ≤ n + 1 :=
    fun token hm => Nat.le_succ_of_le (ht token hm)
  rw [startToken?] at h
  split_ifs at h
  · cases h
    exact ⟨ht', Nat.zero_le _⟩
  · cases h
    exact ⟨ht', Nat.le_add_left 1 n⟩
  · cases h
    exact ⟨ht', Nat.zero_le _⟩
  · obtain ⟨token, hp, rfl⟩ := Option.map_eq_some_iff.1 h
    refine ⟨List.forall_mem_cons.2 ⟨?_, ht'⟩, Nat.zero_le _⟩
    rw [leastLength_ofPunctuation? hp]
    exact Nat.zero_le _

/-- Four hexadecimal digits add one character at most. -/
theorem fits_ofUnit? {tokens : List JsonToken} {reversed : List Char} {high : Option Nat}
    {unit : Nat} {next : Cursor} {n : Nat} (ht : ∀ token ∈ tokens, token.leastLength ≤ n + 1)
    (hr : reversed.length + 1 ≤ n) (h : ofUnit? tokens reversed high unit = some next) :
    next.Fits (n + 1) := by
  cases high with
  | none =>
      rw [ofUnit?] at h
      split_ifs at h
      · cases h
        exact ⟨ht, Nat.le_succ_of_le hr⟩
      · cases h
        exact ⟨ht, Nat.succ_le_succ hr⟩
  | some high =>
      rw [ofUnit?] at h
      split_ifs at h
      cases h
      exact ⟨ht, Nat.succ_le_succ hr⟩

/-- One more character of the text adds one character of a string at most. -/
theorem fits_step? {cursor next : Cursor} {c : Char} {n : Nat} (hf : cursor.Fits n)
    (h : step? cursor c = some next) : next.Fits (n + 1) := by
  obtain ⟨tokens, mode⟩ := cursor
  obtain ⟨ht, hm⟩ := hf
  have ht' : ∀ token ∈ tokens, token.leastLength ≤ n + 1 :=
    fun token hm => Nat.le_succ_of_le (ht token hm)
  cases mode with
  | between => exact fits_startToken? ht h
  | word reversed =>
      simp only [step?] at h
      split_ifs at h
      · cases h
        exact ⟨ht', Nat.zero_le _⟩
      · obtain ⟨token, hw, h⟩ := Option.bind_eq_some_iff.1 h
        refine fits_startToken? (List.forall_mem_cons.2 ⟨?_, ht⟩) h
        rw [leastLength_ofWord? hw]
        exact Nat.zero_le _
  | quoted reversed =>
      simp only [step?] at h
      split_ifs at h
      · cases h
        -- the closing quote is the second of the two
        refine ⟨List.forall_mem_cons.2 ⟨?_, ht'⟩, Nat.zero_le _⟩
        rw [leastLength, String.length_ofList, List.length_reverse]
        exact Nat.succ_le_succ hm
      · cases h
        exact ⟨ht', Nat.le_succ_of_le hm⟩
      · cases h
        exact ⟨ht', Nat.succ_le_succ hm⟩
  | escape reversed =>
      simp only [step?] at h
      split_ifs at h
      · cases h
        exact ⟨ht', Nat.le_succ_of_le hm⟩
      · obtain ⟨e, -, rfl⟩ := Option.map_eq_some_iff.1 h
        exact ⟨ht', Nat.succ_le_succ hm⟩
  | unicode reversed high digits =>
      simp only [step?] at h
      split_ifs at h
      · obtain ⟨d, -, rfl⟩ := Option.map_eq_some_iff.1 h
        exact ⟨ht', Nat.le_succ_of_le hm⟩
      · obtain ⟨unit, -, h⟩ := Option.bind_eq_some_iff.1 h
        exact fits_ofUnit? ht' hm h
  | lowEscape reversed high =>
      simp only [step?] at h
      split_ifs at h
      cases h
      exact ⟨ht', Nat.le_succ_of_le hm⟩
  | lowUnicode reversed high =>
      simp only [step?] at h
      split_ifs at h
      cases h
      exact ⟨ht', Nat.le_succ_of_le hm⟩

/-- What is read from a text comes from its characters. -/
theorem fits_foldlM {cursor next : Cursor} {text : List Char} {n : Nat} (hf : cursor.Fits n)
    (h : text.foldlM step? cursor = some next) : next.Fits (n + text.length) := by
  induction text generalizing cursor n with
  | nil =>
      cases h
      exact hf
  | cons c rest ih =>
      rw [List.foldlM_cons] at h
      obtain ⟨middle, hs, h⟩ := Option.bind_eq_some_iff.1 h
      have := ih (fits_step? hf hs) h
      rwa [List.length_cons, Nat.add_comm rest.length, ← Nat.add_assoc]

/-- Every token of a text is as long as the text at most. -/
theorem leastLength_le_of_ofText? {text : List Char} {tokens : List JsonToken}
    (h : ofText? text = some tokens) : ∀ token ∈ tokens, token.leastLength ≤ text.length := by
  rw [ofText?] at h
  obtain ⟨cursor, hc, h⟩ := Option.bind_eq_some_iff.1 h
  have hstart : Cursor.Fits ⟨[], .between⟩ 0 := ⟨by simp, Nat.le_refl 0⟩
  obtain ⟨ht, -⟩ := fits_foldlM hstart hc
  rw [Nat.zero_add] at ht
  intro token hm
  split at h
  · cases h
    exact ht token (List.mem_reverse.1 hm)
  · obtain ⟨last, hw, rfl⟩ := Option.map_eq_some_iff.1 h
    rcases List.mem_cons.1 (List.mem_reverse.1 hm) with rfl | hm
    · rw [leastLength_ofWord? hw]
      exact Nat.zero_le _
    · exact ht token hm
  · cases h

end JsonToken

namespace Json

/-- A value that is placed and is the whole result is all there is. -/
theorem place_nothing {value result : Json} {frames : List Frame}
    (h : (Progress.place value frames).expecting = .nothing result) : value = result := by
  cases frames with
  | nil =>
      cases h
      rfl
  | cons frame outer =>
      cases frame with
      | items reversed => cases h
      | fields sorted key => cases h

/-- A list or an object that ends is no string. -/
theorem close?_nothing {token : JsonToken} {frames : List Frame} {next : Progress} {s : String}
    (h : Progress.close? token frames = some next) : next.expecting ≠ .nothing (.string s) := by
  intro hn
  unfold Progress.close? at h
  split at h
  · cases h
    cases place_nothing hn
  · cases h
    cases place_nothing hn
  · cases h

/-- A value that begins and is a string at once is the token. -/
theorem begin?_nothing {token : JsonToken} {frames : List Frame} {next : Progress} {s : String}
    (h : Progress.begin? frames token = some next) (hn : next.expecting = .nothing (.string s)) :
    token = .scalar (.string s) := by
  unfold Progress.begin? at h
  split at h
  · cases h
    rw [place_nothing hn]
  · split_ifs at h
    cases h
    cases hn
  · split_ifs at h
    cases h
    cases hn
  · cases h

/-- The token that makes a string the result is this string. -/
theorem step?_nothing {progress next : Progress} {token : JsonToken} {s : String}
    (h : progress.step? token = some next) (hn : next.expecting = .nothing (.string s)) :
    token = .scalar (.string s) := by
  unfold Progress.step? at h
  split at h
  case h_1 | h_3 => exact begin?_nothing h hn
  case h_2 | h_4 | h_10 => exact (close?_nothing h hn).elim
  case h_11 => cases h
  all_goals
    cases h
    cases hn

/-- A string that is the value of a list of tokens is the last of them. -/
theorem mem_of_ofTokens?_string {tokens : List JsonToken} {s : String}
    (h : ofTokens? tokens = some (.string s)) : .scalar (.string s) ∈ tokens := by
  rw [ofTokens?] at h
  obtain ⟨progress, hp, h⟩ := Option.bind_eq_some_iff.1 h
  have hn : progress.expecting = .nothing (.string s) := by
    split at h
    · rename_i result he
      cases h
      exact he
    · cases h
  rcases List.eq_nil_or_concat tokens with rfl | ⟨before, last, rfl⟩
  · cases hp
    cases hn
  · rw [List.concat_eq_append] at hp ⊢
    rw [List.foldlM_append] at hp
    obtain ⟨middle, -, hp⟩ := Option.bind_eq_some_iff.1 hp
    rw [List.foldlM_cons] at hp
    obtain ⟨next, hs, hp⟩ := Option.bind_eq_some_iff.1 hp
    cases hp
    rw [step?_nothing hs hn]
    exact List.mem_append_right _ List.mem_cons_self

/-- **Strings in a text are shorter than it.**  The string that a whole text is read as lacks at
    least the two quotes. -/
theorem length_lt_of_parse? {text s : String} (h : parse? text = some (.string s)) :
    s.length < text.length := by
  rw [parse?] at h
  obtain ⟨tokens, ht, h⟩ := Option.bind_eq_some_iff.1 h
  have := JsonToken.leastLength_le_of_ofText? ht _ (mem_of_ofTokens?_string h)
  rw [JsonToken.leastLength, String.length_toList] at this
  omega

end Json

end SqlComposer
