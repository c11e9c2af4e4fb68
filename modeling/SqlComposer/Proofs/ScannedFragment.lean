import SqlComposer.Proofs.Numbering
import SqlComposer.Proofs.Scanning

/-! # Scanning fragments — what the scanner sees in a text with named placeholders

    A fragment that is written with named placeholders is scanned again before it is executed.  What
    the scanner should see is known beforehand: the characters of the texts, and for each slot the
    placeholder with its number (`Fragment.symbols`).

    * A fragment is `Loose` when the scanner sees just this, whatever settled rest follows, and
      `Tight` when it does so before every rest;
    * it is `Trailing` when it is loose and a loose fragment may stand before it;
    * keywords and signs that begin with a settled character (`isJoint`) may stand between any two
      loose fragments.  All separators of the renderer are such joints, so what is put together from
      loose fragments is loose. -/

namespace SqlComposer

/-- The placeholders of places whose numbers count up from the given one, and the texts behind. -/
def placeSymbols : (number : Nat) → List (Option JdbcType × String) → List Symbol
  | _, [] => []
  | number, (_, behind) :: rest =>
    .placeholder (Strategy.spring.parameterKey number).toList ::
      (behind.toList.map Symbol.char ++ placeSymbols (number + 1) rest)

namespace Fragment

/-- The characters of a fragment with named placeholders, numbered from the given one on. -/
def named (f : Fragment) (number : Nat) : List Char :=
  (f.pattern.first ++ Strategy.spring.fill number f.pattern.places).toList

/-- The symbols of a fragment: its characters, and a placeholder in each slot. -/
def symbols (f : Fragment) (number : Nat) : List Symbol :=
  f.pattern.first.toList.map Symbol.char ++ placeSymbols number f.pattern.places

/-- A fragment in which the scanner sees its symbols, whatever settled rest follows. -/
def Loose (f : Fragment) : Prop :=
  ∀ number rest, Settled rest →
    SqlComposer.symbols (f.named number ++ rest) = f.symbols number ++ SqlComposer.symbols rest

/-- A fragment in which the scanner sees its symbols before every rest. -/
def Tight (f : Fragment) : Prop :=
  ∀ number rest,
    SqlComposer.symbols (f.named number ++ rest) = f.symbols number ++ SqlComposer.symbols rest

/-- A loose fragment that goes on with nothing: before a settled rest it is settled itself. -/
structure Trailing (f : Fragment) : Prop where
  loose : f.Loose
  settled : ∀ number rest, Settled rest → Settled (f.named number ++ rest)

/-! ## Pieces -/

/-- A text is written as it is. -/
theorem named_text (s : String) (rest : Fragment) (number : Nat) :
    named (.text s :: rest) number = s.toList ++ named rest number := by
  rw [named, pattern, String.append_assoc, String.toList_append]
  rfl

/-- A slot is written as the placeholder of its number. -/
theorem named_slot (value : Value) (type : Option JdbcType) (rest : Fragment) (number : Nat) :
    named (.slot value type :: rest) number =
      (Strategy.spring.numberedPlaceholder number type).toList ++ named rest (number + 1) := by
  rw [named, pattern, String.empty_append, Strategy.fill, String.append_assoc,
    String.toList_append]
  rfl

/-- The symbols of a text are its characters. -/
theorem symbols_text (s : String) (rest : Fragment) (number : Nat) :
    symbols (.text s :: rest) number = s.toList.map Symbol.char ++ symbols rest number := by
  rw [symbols, pattern, String.toList_append, List.map_append, List.append_assoc]
  rfl

/-- The symbol of a slot is the placeholder with its key. -/
theorem symbols_slot (value : Value) (type : Option JdbcType) (rest : Fragment) (number : Nat) :
    symbols (.slot value type :: rest) number =
      .placeholder (Strategy.spring.parameterKey number).toList :: symbols rest (number + 1) := rfl

/-- The numbers of a second fragment go on behind those of the first one. -/
theorem named_append (f g : Fragment) (number : Nat) :
    (f ++ g).named number = f.named number ++ g.named (number + f.values.length) := by
  induction f generalizing number with
  | nil => rfl
  | cons piece rest ih =>
      cases piece with
      | text s =>
          rw [List.cons_append, named_text, named_text, ih, List.append_assoc]
          rfl
      | slot value type =>
          rw [List.cons_append, named_slot, named_slot, ih, List.append_assoc, Nat.add_right_comm]
          rfl

/-- So do those of its symbols. -/
theorem symbols_append (f g : Fragment) (number : Nat) :
    (f ++ g).symbols number = f.symbols number ++ g.symbols (number + f.values.length) := by
  induction f generalizing number with
  | nil => rfl
  | cons piece rest ih =>
      cases piece with
      | text s =>
          rw [List.cons_append, symbols_text, symbols_text, ih, List.append_assoc]
          rfl
      | slot value type =>
          rw [List.cons_append, symbols_slot, symbols_slot, ih, Nat.add_right_comm]
          rfl

theorem named_ofText (s : String) (number : Nat) : (ofText s).named number = s.toList := by
  rw [ofText, named_text]
  exact List.append_nil _

theorem symbols_ofText (s : String) (number : Nat) :
    (ofText s).symbols number = s.toList.map Symbol.char := by
  rw [ofText, symbols_text]
  exact List.append_nil _

/-! ## Loose, tight and trailing fragments -/

/-- A text is loose as a fragment if it is as a list of characters. -/
theorem loose_ofText {s : String} (h : SqlComposer.Loose s.toList) : Loose (ofText s) := by
  intro number rest hr
  rw [named_ofText, symbols_ofText]
  exact h rest hr

/-- A plain text is tight: the scanner reads its characters one by one, whatever follows. -/
theorem tight_ofText {s : String} (h : s.toList.all isPlain = true) : Tight (ofText s) := by
  intro number rest
  rw [named_ofText, symbols_ofText]
  exact tight_of_isPlain h rest

/-- A slot is loose: the name in its placeholder ends before every settled rest. -/
theorem loose_ofValue (value : Value) (type : Option JdbcType) : Loose (ofValue value type) := by
  intro number rest hr
  have hk : (Strategy.spring.parameterKey number).toList = 'p' :: (toString number).toList := by
    rw [Strategy.parameterKey, String.toList_append]
    rfl
  have hn : (ofValue value type).named number = ':' :: 'p' :: (toString number).toList := by
    rw [ofValue, named_slot]
    show (":" ++ Strategy.spring.parameterKey number).toList ++ [] = _
    rw [List.append_nil, String.toList_append, hk]
    rfl
  have hs : (ofValue value type).symbols number
      = [.placeholder ('p' :: (toString number).toList)] := by
    rw [← hk]
    rfl
  have hd : ∀ c ∈ (toString number).toList, Span.isNameChar c = true :=
    fun c hc => isNameChar_of_mem_digits hc
  rw [hn, hs]
  exact symbols_name (by rfl) hd hr

theorem Tight.loose {f : Fragment} (h : Tight f) : Loose f := fun number rest _ => h number rest

theorem tight_nil : Tight [] := fun _ _ => rfl

theorem trailing_nil : Trailing [] := ⟨tight_nil.loose, fun _ _ hr => hr⟩

theorem trailing_empty : Trailing (ofText "") :=
  ⟨(tight_ofText (by rfl)).loose, fun _ _ hr => hr⟩

theorem Tight.append_loose {f g : Fragment} (hf : Tight f) (hg : Loose g) : Loose (f ++ g) := by
  intro number rest hr
  rw [named_append, symbols_append, List.append_assoc, hf, hg _ _ hr, List.append_assoc]

/-- A loose fragment may stand before a trailing one, which goes on with something settled or with
    nothing. -/
theorem Loose.append_trailing {f g : Fragment} (hf : Loose f) (hg : Trailing g) :
    Loose (f ++ g) := by
  intro number rest hr
  -- the rest of the first fragment begins with the second one, which is settled
  rw [named_append, symbols_append, List.append_assoc, hf _ _ (hg.settled _ rest hr),
    hg.loose _ _ hr, List.append_assoc]

/-- Trailing fragments may be put one behind the other. -/
theorem Trailing.append {f g : Fragment} (hf : Trailing f) (hg : Trailing g) :
    Trailing (f ++ g) := by
  refine ⟨hf.loose.append_trailing hg, ?_⟩
  intro number rest hr
  rw [named_append, List.append_assoc]
  exact hf.settled _ _ (hg.settled _ _ hr)

/-! ## Joints -/

/-- Whether a text that is not empty may stand behind any loose fragment and before another one. -/
def isJoint (s : String) : Bool :=
  match s.toList with
  | [] => false
  | c :: rest => settles c && (c :: rest).all isPlain

/-- A joint is plain. -/
theorem all_isPlain_of_isJoint {s : String} (h : isJoint s = true) :
    s.toList.all isPlain = true := by
  unfold isJoint at h
  cases hs : s.toList with
  | nil =>
      rw [hs] at h
      cases h
  | cons c rest =>
      rw [hs, Bool.and_eq_true] at h
      exact h.2

/-- A joint begins with a settled character. -/
theorem settled_of_isJoint {s : String} (h : isJoint s = true) (rest : List Char) :
    Settled (s.toList ++ rest) := by
  unfold isJoint at h
  cases hs : s.toList with
  | nil =>
      rw [hs] at h
      cases h
  | cons c more =>
      rw [hs, Bool.and_eq_true] at h
      exact settled_cons h.1 (more ++ rest)

section Joints

variable {f g : Fragment} {s : String}

/-- What begins with a joint goes on with nothing. -/
theorem trailing_joint (hs : isJoint s = true) (hg : Loose g) : Trailing (ofText s ++ g) := by
  refine ⟨(tight_ofText (all_isPlain_of_isJoint hs)).append_loose hg, ?_⟩
  intro number rest _
  rw [named_append, named_ofText, List.append_assoc]
  exact settled_of_isJoint hs _

theorem trailing_ofText (hs : isJoint s = true) : Trailing (ofText s) := by
  have h := trailing_joint hs tight_nil.loose
  rwa [List.append_nil] at h

/-- Two loose fragments with a joint between them are loose. -/
theorem Loose.joined (hf : Loose f) (hs : isJoint s = true) (hg : Loose g) :
    Loose (f ++ ofText s ++ g) := by
  rw [List.append_assoc]
  exact hf.append_trailing (trailing_joint hs hg)

theorem Loose.parenthesized (hf : Loose f) : Loose (parenthesized f) := by
  have hl := (tight_ofText (s := "(") (by rfl)).append_loose hf
  exact hl.append_trailing (trailing_ofText (by rfl))

/-! ## Lists of fragments -/

/-- Loose fragments with joints between them are loose. -/
theorem loose_separatedBy (hs : isJoint s = true) {fs : List Fragment} (h : ∀ f ∈ fs, Loose f) :
    Loose (separatedBy s fs) := by
  induction fs with
  | nil => exact tight_nil.loose
  | cons f rest ih =>
      have hf := h f (List.mem_cons_self ..)
      have hr := ih fun g hg => h g (List.mem_cons_of_mem _ hg)
      cases rest with
      | nil => exact hf
      | cons g others => exact hf.joined hs hr

theorem loose_spaced {fs : List Fragment} (h : ∀ f ∈ fs, Loose f) : Loose (spaced fs) :=
  loose_separatedBy (by rfl) fun f hf => h f (List.mem_filter.mp hf).1

theorem loose_listed {fs : List Fragment} (h : ∀ f ∈ fs, Loose f) : Loose (listed fs) :=
  loose_separatedBy (by rfl) h

/-- Trailing fragments in a row are trailing. -/
theorem trailing_flatMap {α : Type} {items : List α} {k : α → Fragment}
    (h : ∀ a ∈ items, Trailing (k a)) : Trailing (items.flatMap k) := by
  induction items with
  | nil => exact trailing_nil
  | cons a rest ih =>
      rw [List.flatMap_cons]
      exact (h a (List.mem_cons_self ..)).append (ih fun b hb => h b (List.mem_cons_of_mem _ hb))

/-- A clause with a plain word and a list of loose fragments is loose. -/
theorem loose_listClause (hs : s.toList.all isPlain = true) {fs : List Fragment}
    (h : ∀ f ∈ fs, Loose f) : Loose (listClause s fs) := by
  unfold listClause
  split
  · exact tight_nil.loose
  · exact (tight_ofText hs).append_loose (loose_listed h)

/-- A clause with a count is loose: its slot stands behind a plain word and before a trailing
    text. -/
theorem loose_countClause {t : String} (hs : s.toList.all isPlain = true)
    (ht : Trailing (ofText t)) (count : Option Int64) : Loose (countClause s count t) := by
  cases count with
  | none => exact tight_nil.loose
  | some n =>
      exact ((tight_ofText hs).append_loose (loose_ofValue _ _)).append_trailing ht

/-- Slots with joints between them are loose. -/
theorem loose_boundValues (hs : isJoint s = true) (type : Option JdbcType) (values : List Value) :
    Loose (boundValues s type values) := by
  refine loose_separatedBy hs ?_
  intro f hf
  obtain ⟨value, -, rfl⟩ := List.mem_map.mp hf
  exact loose_ofValue value type

/-- An operand in upper case is loose if the operand is. -/
theorem Loose.operand (hf : Loose f) (ignoreCase : Bool) : Loose (operand ignoreCase f) := by
  unfold Fragment.operand
  split
  · exact (tight_ofText (by rfl)).append_loose hf.parenthesized
  · exact hf

/-! ## Texts that are put together -/

/-- Whether a fragment is loose is a matter of its pattern. -/
theorem Loose.of_pattern (hf : Loose f) (h : f.pattern = g.pattern) : Loose g := by
  intro number rest hr
  have hl := hf number rest hr
  rw [named, symbols, h] at hl
  exact hl

/-- Two texts in a row have the pattern of one text. -/
theorem pattern_ofText_append (s t : String) :
    (ofText s ++ ofText t).pattern = (ofText (s ++ t)).pattern := by
  show (⟨s ++ (t ++ ""), []⟩ : Pattern) = ⟨s ++ t ++ "", []⟩
  rw [String.append_assoc]

/-- Texts with separators have the pattern of the joined text. -/
theorem pattern_separatedBy_ofText (s : String) (texts : List String) :
    (separatedBy s (texts.map ofText)).pattern = (ofText (String.intercalate s texts)).pattern := by
  induction texts with
  | nil => rfl
  | cons t rest ih =>
      cases rest with
      | nil => rw [String.intercalate_singleton]; rfl
      | cons u others =>
          -- texts without slots in front of a fragment join the first text of its pattern
          have hp (a b : String) (f : Fragment) : (ofText a ++ ofText b ++ f).pattern
              = ⟨a ++ (b ++ f.pattern.first), f.pattern.places⟩ := rfl
          rw [List.map_cons, List.map_cons, separatedBy, hp]
          rw [List.map_cons] at ih
          rw [ih, String.intercalate_cons_cons]
          show (⟨t ++ (s ++ (_ ++ "")), []⟩ : Pattern) = ⟨t ++ s ++ _ ++ "", []⟩
          rw [String.append_assoc, String.append_assoc]

/-- Two texts with a joint between them. -/
theorem loose_joinedTexts {t u : String} (ht : Loose (ofText t)) (hs : isJoint s = true)
    (hu : Loose (ofText u)) : Loose (ofText (t ++ s ++ u)) := by
  refine (ht.joined hs hu).of_pattern ?_
  show (⟨t ++ (s ++ (u ++ "")), []⟩ : Pattern) = ⟨t ++ s ++ u ++ "", []⟩
  rw [String.append_assoc, String.append_assoc]

/-- A text behind plain characters. -/
theorem loose_prefixedText {t : String} (hs : s.toList.all isPlain = true)
    (ht : Loose (ofText t)) : Loose (ofText (s ++ t)) :=
  ((tight_ofText hs).append_loose ht).of_pattern (pattern_ofText_append s t)

/-- A text behind a joint. -/
theorem trailing_text {t : String} (hs : isJoint s = true) (ht : Loose (ofText t)) :
    Trailing (ofText (s ++ t)) := by
  refine ⟨loose_prefixedText (all_isPlain_of_isJoint hs) ht, ?_⟩
  intro number rest _
  rw [named_ofText, String.toList_append, List.append_assoc]
  exact settled_of_isJoint hs _

/-- A text before a joint. -/
theorem loose_followedText {t : String} (ht : Loose (ofText t)) (hs : isJoint s = true) :
    Loose (ofText (t ++ s)) :=
  (ht.append_trailing (trailing_ofText hs)).of_pattern (pattern_ofText_append t s)

/-- A text that ends in a joint, before a fragment. -/
theorem loose_labelled {t : String} (ht : Loose (ofText t)) (hs : isJoint s = true)
    (hg : Loose g) : Loose (ofText (t ++ s) ++ g) := by
  refine (ht.joined hs hg).of_pattern ?_
  show (⟨t ++ (s ++ g.pattern.first), g.pattern.places⟩ : Pattern) = ⟨t ++ s ++ _, _⟩
  rw [String.append_assoc]
  rfl

/-- Loose texts with commas between them are a loose text. -/
theorem loose_listedTexts {texts : List String} (h : ∀ t ∈ texts, Loose (ofText t)) :
    Loose (ofText (SqlComposer.listed texts)) := by
  have hl : Loose (listed (texts.map ofText)) := by
    refine loose_listed ?_
    intro f hf
    obtain ⟨t, ht, rfl⟩ := List.mem_map.mp hf
    exact h t ht
  exact hl.of_pattern (pattern_separatedBy_ofText ", " texts)

/-- Loose texts with blanks between them are a loose text. -/
theorem loose_spacedTexts {texts : List String} (h : ∀ t ∈ texts, Loose (ofText t)) :
    Loose (ofText (SqlComposer.spaced texts)) := by
  have hl : Loose (separatedBy " " ((texts.filter fun t => !t.isEmpty).map ofText)) := by
    refine loose_separatedBy (by rfl) ?_
    intro f hf
    obtain ⟨t, ht, rfl⟩ := List.mem_map.mp hf
    exact h t (List.mem_filter.mp ht).1
  exact hl.of_pattern (pattern_separatedBy_ofText " " _)

end Joints

/-! ## Criteria -/

section Criteria

variable {parts : CriteriaParts} {f : Fragment}

/-- Loose parts with their connectors between them are loose. -/
theorem loose_connected (h : ∀ part ∈ parts, Loose part.2) : Loose (connected parts) := by
  cases parts with
  | nil => exact tight_nil.loose
  | cons first rest =>
      -- each further part begins with its connector, which is a joint
      refine (h first (List.mem_cons_self ..)).append_trailing (trailing_flatMap ?_)
      intro part hp
      refine trailing_joint ?_ (h part (List.mem_cons_of_mem _ hp))
      cases part.1 <;> rfl

/-- Loose parts in parentheses are loose, and so is one part without them. -/
theorem loose_grouped (h : ∀ part ∈ parts, Loose part.2) (hg : grouped? parts = some f) :
    Loose f := by
  match parts with
  | [] => cases hg
  | [part] =>
      cases hg
      exact h part (List.mem_singleton_self _)
  | first :: second :: rest =>
      cases hg
      exact (loose_connected h).parenthesized

/-- A where clause is loose if its parts are. -/
theorem loose_whereClause {config : Config} {parts : Option CriteriaParts}
    (h : ∀ part ∈ parts.getD [], Loose part.2) (hw : whereClause config parts = .ok f) :
    Loose f := by
  match parts with
  | none =>
      cases hw
      exact tight_nil.loose
  | some [] =>
      by_cases ha : config.emptyWhereAllowed = true
      · rw [whereClause, if_pos ha] at hw
        cases hw
        exact tight_nil.loose
      · rw [whereClause, if_neg ha] at hw
        cases hw
  | some (part :: rest) =>
      cases hw
      exact (tight_ofText (by rfl)).append_loose (loose_connected h)

/-- A having clause is loose if its parts are. -/
theorem loose_havingClause {parts : Option CriteriaParts}
    (h : ∀ part ∈ parts.getD [], Loose part.2) : Loose (havingClause parts) := by
  match parts with
  | none => exact tight_nil.loose
  | some [] => exact tight_nil.loose
  | some (part :: rest) => exact (tight_ofText (by rfl)).append_loose (loose_connected h)

/-- Criteria that are required are loose if their parts are. -/
theorem loose_required {cause : InvalidSql} (h : ∀ part ∈ parts, Loose part.2)
    (hr : required cause parts = .ok f) : Loose f := by
  cases parts with
  | nil => cases hr
  | cons part rest =>
      cases hr
      exact loose_connected h

end Criteria

end Fragment

end SqlComposer
