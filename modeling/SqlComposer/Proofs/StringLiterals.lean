import SqlComposer.Proofs.Clauses
import SqlComposer.Proofs.Correspondence
import SqlComposer.Proofs.Scanning

/-! # String literals and the texts around them

    A string constant is written in quotes, with the quotes in it doubled.  Whatever the constant
    is, the literal is one quoted section that ends where it was meant to end, and without the outer
    quotes and with the doubled ones halved it is the constant again (`isLiteralOf_stringLiteral`).
    The one thing that could go on with it is a quote right behind it.

    So two fragments are compared that have literals of two constants in the same places.

    * `Fragment.Opens` — a fragment that never begins with a quote.
    * `Fragment.Differs` — the same pieces, except for some literals that differ, each of them
      before a fragment that opens.  The number bounds how many they are.
    * `Differs.append` is the rule from which the others follow, one for each of the ways in which
      fragments are put together; lists of fragments are compared item by item (`Sums`).
    * **`Fragment.Differs.sameAround`** — written in one context such fragments bind the same
      values, and their texts have the same gaps around the literals. -/

namespace SqlComposer

open Fragment (ofText)

/-! ## Reading a literal -/

/-- A text in which doubled quotes stand for one quote. -/
def undoubled : List Char → List Char
  | [] => []
  | [c] => [c]
  | c :: d :: rest =>
    if c = '\'' ∧ d = '\'' then '\'' :: undoubled rest else c :: undoubled (d :: rest)

/-- A character that is no quote stays. -/
theorem undoubled_cons_of_ne {c : Char} (h : c ≠ '\'') (rest : List Char) :
    undoubled (c :: rest) = c :: undoubled rest := by
  cases rest with
  | nil => rfl
  | cons d more => rw [undoubled, if_neg (fun hq => h hq.1)]

/-- Halving undoes doubling. -/
theorem undoubled_doubledQuotes (s : List Char) : undoubled (doubledQuotes s) = s := by
  induction s with
  | nil => rfl
  | cons c rest ih =>
      by_cases hc : c = '\''
      · subst hc
        show undoubled ('\'' :: '\'' :: doubledQuotes rest) = _
        rw [undoubled, if_pos ⟨rfl, rfl⟩, ih]
      · have hd : doubledQuotes (c :: rest) = c :: doubledQuotes rest := by
          rw [doubledQuotes, List.flatMap_cons, if_neg hc]
          rfl
        rw [hd, undoubled_cons_of_ne hc, ih]

/-- A text is one literal of `s`: without its outer quotes and with the doubled ones halved it is
    `s`, and it is one quoted section before whatever does not begin with a quote. -/
def IsLiteralOf (text s : String) : Prop :=
  ∃ inner : List Char, text.toList = '\'' :: (inner ++ ['\'']) ∧ undoubled inner = s.toList ∧
    ∀ rest : List Char, rest.head? ≠ some '\'' →
      1 + Span.quotedLength '\'' (inner ++ ['\''] ++ rest) = text.toList.length

/-- What is written for a string constant is one literal of it. -/
theorem isLiteralOf_stringLiteral (s : String) : IsLiteralOf (stringLiteral s) s := by
  refine ⟨doubledQuotes s.toList, toList_stringLiteral s, undoubled_doubledQuotes s.toList, ?_⟩
  intro rest h
  rw [List.append_assoc, List.singleton_append, quotedLength_doubledQuotes _ h,
    toList_stringLiteral, List.length_cons, List.length_append]
  exact Nat.add_comm 1 _

/-- A literal has its quotes at least. -/
theorem stringLiteral_ne_empty (s : String) : stringLiteral s ≠ "" := by
  intro h
  have hl := congrArg String.toList h
  rw [toList_stringLiteral] at hl
  cases hl

/-! ## Texts with other literals -/

/-- Two texts that are the same, except that one has the literal of `s` where the other one has that
    of `s'`: the gaps around the literals are the same, they are at most one more than the bound,
    and no gap behind a literal begins with a quote. -/
def SameAround (s s' : String) (n : Nat) (sql sql' : String) : Prop :=
  ∃ gaps : List String, gaps ≠ [] ∧ gaps.length ≤ n + 1 ∧
    (∀ gap ∈ gaps.tail, gap.toList.head? ≠ some '\'') ∧
    sql = String.intercalate (stringLiteral s) gaps ∧
    sql' = String.intercalate (stringLiteral s') gaps

/-! ## Items that are compared one by one -/

section Sums

variable {α β : Type} {R : α → α → Nat → Prop} {S : β → β → Nat → Prop}

/-- Lists of the same length whose items are related; the bounds of the items sum up. -/
inductive Sums (R : α → α → Nat → Prop) : List α → List α → Nat → Prop
  | nil {n : Nat} : Sums R [] [] n
  | cons {n m : Nat} {a a' : α} {as as' : List α} (head : R a a' n) (tail : Sums R as as' m) :
    Sums R (a :: as) (a' :: as') (n + m)

/-- Items that are both absent, or present and related. -/
inductive Lifts (R : α → α → Nat → Prop) : Option α → Option α → Nat → Prop
  | none {n : Nat} : Lifts R none none n
  | some {n : Nat} {a a' : α} (item : R a a' n) : Lifts R (some a) (some a') n

/-- Items with the same tag that are related. -/
inductive Tagged {κ : Type} (R : α → α → Nat → Prop) : κ × α → κ × α → Nat → Prop
  | mk {n : Nat} {a a' : α} (tag : κ) (item : R a a' n) : Tagged R (tag, a) (tag, a') n

namespace Sums

/-- A bound may be raised. -/
theorem mono {as as' : List α} {n m : Nat} (h : Sums R as as' n) (hle : n ≤ m) :
    Sums R as as' m := by
  induction h generalizing m with
  | nil => exact .nil
  | @cons k l a a' as as' head tail ih =>
      have hsum : m = k + (m - k) := by omega
      rw [hsum]
      exact .cons head (ih (by omega))

theorem refl (h : ∀ a, R a a 0) (as : List α) : Sums R as as 0 := by
  induction as with
  | nil => exact .nil
  | cons a rest ih => exact .cons (h a) ih

/-- Lists may be appended; the bounds sum up. -/
theorem append {as as' bs bs' : List α} {n m : Nat} (h : Sums R as as' n) (hb : Sums R bs bs' m) :
    Sums R (as ++ bs) (as' ++ bs') (n + m) := by
  induction h with
  | nil => exact hb.mono (Nat.le_add_left m _)
  | cons head tail ih => exact (Sums.cons head ih).mono (by omega)

/-- Related items may be mapped to related ones. -/
theorem map {g : α → β} (hg : ∀ {a a' n}, R a a' n → S (g a) (g a') n) {as as' : List α} {n : Nat}
    (h : Sums R as as' n) : Sums S (as.map g) (as'.map g) n := by
  induction h with
  | nil => exact .nil
  | cons head tail ih => exact .cons (hg head) ih

/-- Items that are kept or left out alike. -/
theorem filter {p : α → Bool} (hp : ∀ {a a' n}, R a a' n → p a = p a') {as as' : List α} {n : Nat}
    (h : Sums R as as' n) : Sums R (as.filter p) (as'.filter p) n := by
  induction h with
  | nil => exact .nil
  | @cons n m a a' as as' head tail ih =>
      have hsame := hp head
      cases hk : p a with
      | true =>
          rw [List.filter_cons_of_pos hk, List.filter_cons_of_pos (hsame ▸ hk)]
          exact .cons head ih
      | false =>
          rw [List.filter_cons_of_neg (by simp [hk]),
            List.filter_cons_of_neg (by simp [← hsame, hk])]
          exact ih.mono (Nat.le_add_left m n)

theorem isEmpty {as as' : List α} {n : Nat} (h : Sums R as as' n) : as.isEmpty = as'.isEmpty := by
  cases h with
  | nil => rfl
  | cons head tail => rfl

/-- The first items are the same. -/
theorem cons_same (h : ∀ a, R a a 0) (a : α) {as as' : List α} {n : Nat} (hs : Sums R as as' n) :
    Sums R (a :: as) (a :: as') n :=
  (Sums.cons (h a) hs).mono (by omega)

end Sums

theorem Lifts.refl {n : Nat} (h : ∀ a, R a a n) (o : Option α) : Lifts R o o n := by
  cases o with
  | none => exact .none
  | some a => exact .some (h a)

/-- At most one item, as a list. -/
theorem Lifts.toList {o o' : Option α} {n : Nat} (h : Lifts R o o' n) :
    Sums R o.toList o'.toList n := by
  cases h with
  | none => exact .nil
  | some item => exact Sums.cons item (.nil (n := 0))

/-- Related optional items may be mapped to related ones. -/
theorem Lifts.map {g : α → β} (hg : ∀ {a a' n}, R a a' n → S (g a) (g a') n) {o o' : Option α}
    {n : Nat} (h : Lifts R o o' n) : Lifts S (o.map g) (o'.map g) n := by
  cases h with
  | none => exact .none
  | some item => exact .some (hg item)

end Sums

/-! ## Fragments that open -/

namespace Fragment

/-- A fragment that is written without a quote in front. -/
def Opens (f : Fragment) : Prop := ∀ c, (f.write c).1.toList.head? ≠ some '\''

/-- Whether a text begins with a character that is no quote. -/
def opensText (s : String) : Bool :=
  match s.toList with
  | [] => false
  | c :: _ => c != '\''

/-- What follows does not change how a text opens. -/
theorem opensText_append {s : String} (h : opensText s = true) (t : String) :
    opensText (s ++ t) = true := by
  unfold opensText at h ⊢
  rw [String.toList_append]
  cases hs : s.toList with
  | nil =>
      rw [hs] at h
      cases h
  | cons c rest =>
      rw [hs] at h
      exact h

theorem Opens.nil : Opens [] := by
  intro c h
  cases h

/-- A text that opens decides for all that follows it. -/
theorem Opens.text {s : String} (h : opensText s = true) (f : Fragment) :
    Opens (ofText s ++ f) := by
  intro c hq
  rw [write_append, write_ofText, String.toList_append] at hq
  unfold opensText at h
  cases hs : s.toList with
  | nil =>
      rw [hs] at h
      cases h
  | cons d rest =>
      rw [hs] at h hq
      have hd : d = '\'' := Option.some.inj hq
      exact absurd h (by simp [hd])

theorem Opens.ofText {s : String} (h : opensText s = true) : Opens (ofText s) := by
  have ho := Opens.text h []
  rw [List.append_nil] at ho
  exact ho

/-- Fragments that open may be put one behind the other. -/
theorem Opens.append {f g : Fragment} (hf : Opens f) (hg : Opens g) : Opens (f ++ g) := by
  intro c hq
  rw [write_append, String.toList_append] at hq
  cases hs : (f.write c).1.toList with
  | nil =>
      rw [hs] at hq
      exact hg _ hq
  | cons d rest =>
      rw [hs] at hq
      exact hf c (by rw [hs]; exact hq)

/-- Items with a text that opens in front of each open. -/
theorem Opens.flatMap {α : Type} {g : α → Fragment} (hg : ∀ a, Opens (g a)) (items : List α) :
    Opens (items.flatMap g) := by
  induction items with
  | nil => exact Opens.nil
  | cons a rest ih =>
      rw [List.flatMap_cons]
      exact (hg a).append ih

end Fragment

/-! ## Fragments with other literals -/

namespace Fragment

variable {s s' : String} {n m : Nat} {f f' g g' : Fragment}

/-- The same pieces, except for at most so many places where one fragment has the literal of `s` and
    the other one that of `s'`, before what opens. -/
inductive Differs (s s' : String) : Fragment → Fragment → Nat → Prop
  | same {n : Nat} (f : Fragment) : Differs s s' f f n
  | literal {n : Nat} {f f' : Fragment} (before : Fragment) (opens : Opens f)
      (behind : Differs s s' f f' n) :
    Differs s s' (before ++ ofText (stringLiteral s) ++ f)
      (before ++ ofText (stringLiteral s') ++ f') (n + 1)

namespace Differs

/-- Literals may be allowed in more places. -/
theorem mono (h : Differs s s' f f' n) (hle : n ≤ m) : Differs s s' f f' m := by
  induction h generalizing m with
  | same f => exact .same f
  | @literal n f f' before opens behind ih =>
      obtain ⟨k, rfl⟩ := Nat.exists_eq_add_of_le' (Nat.le_trans (Nat.le_add_left 1 n) hle)
      exact .literal before opens (ih (by omega))

/-- The literals themselves. -/
theorem literals (s s' : String) :
    Differs s s' (ofText (stringLiteral s)) (ofText (stringLiteral s')) 1 := by
  have h : Differs s s' ([] ++ ofText (stringLiteral s) ++ [])
      ([] ++ ofText (stringLiteral s') ++ []) (0 + 1) := .literal [] .nil (.same [])
  rw [List.append_nil, List.append_nil] at h
  exact h

/-- A fragment in front changes nothing. -/
theorem prepend (before : Fragment) (h : Differs s s' f f' n) :
    Differs s s' (before ++ f) (before ++ f') n := by
  cases h with
  | same f => exact .same _
  | literal front opens behind =>
      rw [← List.append_assoc, ← List.append_assoc, ← List.append_assoc, ← List.append_assoc]
      exact .literal (before ++ front) opens behind

/-- One behind the other: what comes second opens. -/
theorem append (h : Differs s s' f f' n) (hg : Differs s s' g g' m) (ho : Opens g) :
    Differs s s' (f ++ g) (f' ++ g') (n + m) := by
  induction h with
  | same f => exact (hg.prepend f).mono (Nat.le_add_left m _)
  | @literal n f f' before opens behind ih =>
      rw [List.append_assoc _ f, List.append_assoc _ f', Nat.add_right_comm]
      exact .literal before (opens.append ho) ih

theorem behind (h : Differs s s' f f' n) (ho : Opens g) : Differs s s' (f ++ g) (f' ++ g) n :=
  h.append (.same (n := 0) g) ho

/-- One behind the other with a text between them. -/
theorem between (h : Differs s s' f f' n) {t : String} (ht : opensText t = true)
    (hg : Differs s s' g g' m) :
    Differs s s' (f ++ ofText t ++ g) (f' ++ ofText t ++ g') (n + m) := by
  rw [List.append_assoc, List.append_assoc]
  exact h.append (hg.prepend (ofText t)) (.text ht g)

theorem parenthesized (h : Differs s s' f f' n) :
    Differs s s' (Fragment.parenthesized f) (Fragment.parenthesized f') n :=
  (h.prepend (ofText "(")).behind (.ofText (by decide))

/-- Both are empty or none is. -/
theorem isNothing (h : Differs s s' f f' n) : f.isNothing = f'.isNothing := by
  cases h with
  | same f => rfl
  | literal before opens behind =>
      rw [isNothing_append, isNothing_append, isNothing_append, isNothing_append,
        isNothing_ofText (stringLiteral_ne_empty s), isNothing_ofText (stringLiteral_ne_empty s'),
        Bool.and_false]
      rfl

/-- Items one behind the other, each of which opens. -/
theorem flatMap {α : Type} {R : α → α → Nat → Prop} {k : α → Fragment}
    (hk : ∀ {a a' n}, R a a' n → Differs s s' (k a) (k a') n) (ho : ∀ a, Opens (k a))
    {as as' : List α} (h : Sums R as as' n) : Differs s s' (as.flatMap k) (as'.flatMap k) n := by
  induction h with
  | nil => exact .same _
  | cons head tail ih =>
      rw [List.flatMap_cons, List.flatMap_cons]
      exact (hk head).append ih (.flatMap ho _)

/-- Fragments with separators that open between them differ as each of them does. -/
theorem separatedBy {separator : String} (ho : opensText separator = true) {fs fs' : List Fragment}
    (h : Sums (Differs s s') fs fs' n) :
    Differs s s' (Fragment.separatedBy separator fs) (Fragment.separatedBy separator fs') n := by
  cases h with
  | nil => exact .same _
  | cons head tail =>
      rw [separatedBy_cons, separatedBy_cons]
      refine head.append ?_ (.flatMap (fun f => .text ho f) _)
      exact flatMap (fun hf => hf.prepend (ofText separator)) (fun f => .text ho f) tail

theorem listed {fs fs' : List Fragment} (h : Sums (Differs s s') fs fs' n) :
    Differs s s' (Fragment.listed fs) (Fragment.listed fs') n :=
  separatedBy (by decide) h

theorem spaced {fs fs' : List Fragment} (h : Sums (Differs s s') fs fs' n) :
    Differs s s' (Fragment.spaced fs) (Fragment.spaced fs') n :=
  separatedBy (by decide) (h.filter fun hf => by rw [hf.isNothing])

/-- A clause with a list differs in its items. -/
theorem listClause (keyword : String) {fs fs' : List Fragment} (h : Sums (Differs s s') fs fs' n) :
    Differs s s' (Fragment.listClause keyword fs) (Fragment.listClause keyword fs') n := by
  unfold Fragment.listClause
  rw [← h.isEmpty]
  split
  · exact .same []
  · exact (listed h).prepend (ofText keyword)

/-- The texts before and behind a statement are the same. -/
theorem wrapped (config : Config) (h : Differs s s' f f' n) :
    Differs s s' (config.wrapped f) (config.wrapped f') n := by
  unfold Config.wrapped
  split
  · exact h
  · exact spaced (.cons_same .same _ (.cons h (.refl .same _)))

/-! ## Criteria -/

/-- Criteria are themselves, with their connectors. -/
theorem parts_same (parts : CriteriaParts) {n : Nat} :
    Sums (Tagged (Differs s s')) parts parts n :=
  (Sums.refl (fun part => .mk part.1 (.same part.2)) parts).mono (Nat.zero_le n)

/-- Parts with connectors between them differ as each of them does. -/
theorem connected {parts parts' : CriteriaParts} (h : Sums (Tagged (Differs s s')) parts parts' n) :
    Differs s s' (Fragment.connected parts) (Fragment.connected parts') n := by
  have hopen : ∀ part : Connector × Fragment,
      Opens (ofText (" " ++ part.1.text ++ " ") ++ part.2) := fun part =>
    .text (opensText_append (opensText_append (by decide) _) _) part.2
  cases h with
  | nil => exact .same _
  | cons head tail =>
      obtain ⟨tag, hfirst⟩ := head
      refine hfirst.append (flatMap ?_ hopen tail) (.flatMap hopen _)
      rintro _ _ _ ⟨tag, hf⟩
      exact hf.prepend _

/-- Parts in parentheses differ as the parts do; both sides have parentheses or none has. -/
theorem grouped? {parts parts' : CriteriaParts} (h : Sums (Tagged (Differs s s')) parts parts' n) :
    Lifts (Differs s s') (Fragment.grouped? parts) (Fragment.grouped? parts') n := by
  cases h with
  | nil => exact .none
  | cons head tail =>
      cases tail with
      | nil =>
          obtain ⟨tag, hf⟩ := head
          exact .some (hf.mono (Nat.le_add_right _ _))
      | cons second rest =>
          obtain ⟨tag, hf⟩ := head
          obtain ⟨tag', hg⟩ := second
          exact .some (connected (.cons (.mk tag hf) (.cons (.mk tag' hg) rest))).parenthesized

/-- Criteria that are required are missing on both sides or on none. -/
theorem required (cause : InvalidSql) {parts parts' : CriteriaParts}
    (h : Sums (Tagged (Differs s s')) parts parts' n) :
    Corresponds (Differs s s' · · n) (Fragment.required cause parts)
      (Fragment.required cause parts') := by
  cases h with
  | nil => exact rfl
  | cons head tail => exact connected (.cons head tail)

/-- A where clause is left out or refused on both sides or on none. -/
theorem whereClause (config : Config) {parts parts' : Option CriteriaParts}
    (h : Lifts (Sums (Tagged (Differs s s'))) parts parts' n) :
    Corresponds (Differs s s' · · n) (Fragment.whereClause config parts)
      (Fragment.whereClause config parts') := by
  cases h with
  | none => exact Differs.same []
  | some item =>
      cases item with
      | nil => exact Corresponds.refl (fun f => .same f) _
      | cons head tail => exact (connected (.cons head tail)).prepend (ofText "where ")

/-- A having clause differs in its criteria. -/
theorem havingClause {parts parts' : Option CriteriaParts}
    (h : Lifts (Sums (Tagged (Differs s s'))) parts parts' n) :
    Differs s s' (Fragment.havingClause parts) (Fragment.havingClause parts') n := by
  cases h with
  | none => exact .same []
  | some item =>
      cases item with
      | nil => exact .same []
      | cons head tail => exact (connected (.cons head tail)).prepend (ofText "having ")

theorem operand (ignoreCase : Bool) (h : Differs s s' f f' n) :
    Differs s s' (Fragment.operand ignoreCase f) (Fragment.operand ignoreCase f') n := by
  cases ignoreCase with
  | false => exact h
  | true => exact h.parenthesized.prepend (ofText "upper")

end Differs

/-! ## Written with other literals -/

/-- The first gap of a text that does not begin with a quote does not either. -/
theorem head?_gap {gap : String} {gaps : List String}
    (h : (String.intercalate (stringLiteral s) (gap :: gaps)).toList.head? ≠ some '\'') :
    gap.toList.head? ≠ some '\'' := by
  cases gaps with
  | nil =>
      rw [String.intercalate_singleton] at h
      exact h
  | cons next rest =>
      rw [String.intercalate_cons_cons] at h
      intro hq
      obtain ⟨more, hm⟩ := List.head?_eq_some_iff.1 hq
      refine h ?_
      rw [String.toList_append, String.toList_append, hm]
      rfl

/-- Fragments with other literals bind the same values, and have the same texts around the
    literals. -/
theorem Differs.sameAround (h : Differs s s' f f' n) (c : Context) :
    SameAround s s' n (f.write c).1 (f'.write c).1 ∧ (f.write c).2 = (f'.write c).2 := by
  induction h generalizing c with
  | same f =>
      refine ⟨⟨[(f.write c).1], by simp, by simp, by simp, ?_, ?_⟩, rfl⟩
      · rw [String.intercalate_singleton]
      · rw [String.intercalate_singleton]
  | @literal n f f' before opens behind ih =>
      obtain ⟨⟨gaps, hne, hlength, hgaps, hsql, hsql'⟩, hcontext⟩ := ih (before.write c).2
      obtain ⟨gap, rest, rfl⟩ := List.exists_cons_of_ne_nil hne
      have hopens := opens (before.write c).2
      simp only [write_append, write_ofText]
      refine ⟨⟨(before.write c).1 :: gap :: rest, by simp, ?_, ?_, ?_, ?_⟩, hcontext⟩
      · rw [List.length_cons]
        omega
      · intro other hm
        rcases List.mem_cons.1 hm with rfl | hm
        · -- behind the literal stands the first gap of what opens
          rw [hsql] at hopens
          exact head?_gap hopens
        · exact hgaps other hm
      · rw [hsql, String.intercalate_cons_cons]
      · rw [hsql', String.intercalate_cons_cons]

end Fragment

end SqlComposer
