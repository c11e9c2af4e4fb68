import SqlComposer.Proofs.BooleanReading
import SqlComposer.Proofs.QueryRealization

/-! # Criteria keep their meaning

    What a database reads out of rendered criteria is what the tree of criteria says, although
    parentheses are written only around several criteria and any of them may drop out.

    * `CriteriaGroup.meaning` is what the tree says: it counts only what remains, cut at the `or`s;
    * `Reads` says of one criterion that its fragment is made of tokens that form one unit, and of
      leaves that are rendered as such; `GroupReads` says the same of all parts of a scope.  A unit
      is the invariant of the induction: a single part of a scope is written without parentheses, so
      it must be a unit by itself;
    * `reads_grouped` is the step from a scope to the criterion that holds it, with or without
      parentheses.

    The leaves of a tree are numbered from left to right, and a truth assignment is a function of
    the numbers. -/

namespace SqlComposer

open Fragment (ofText)

/-! ## Leaves and meaning -/

mutual

/-- The leaves of a criterion from left to right. -/
def Criterion.leaves : Criterion → List Criterion
  | .test operand test => [.test operand test]
  | .exists negated query => [.exists negated query]
  | .group group => group.leaves
  | .not group => group.leaves

/-- The leaves of an initial criterion. -/
def Criterion.initialLeaves : Option Criterion → List Criterion
  | none => []
  | some criterion => criterion.leaves

/-- The leaves of a scope. -/
def CriteriaGroup.leaves : CriteriaGroup → List Criterion
  | ⟨initial, links⟩ => Criterion.initialLeaves initial ++ CriteriaGroup.linkLeaves links

/-- The leaves of connected groups. -/
def CriteriaGroup.linkLeaves : List (Connector × CriteriaGroup) → List Criterion
  | [] => []
  | (_, group) :: rest => group.leaves ++ CriteriaGroup.linkLeaves rest

end

/-- What the criteria that remain in a scope say: some alternative holds. -/
def scopeMeaning : List (Connector × Bool) → Option Bool
  | [] => none
  | (_, first) :: rest => some (someHolds (alternatives first rest))

mutual

/-- What a criterion says when its first leaf has the given number, unless it drops out. -/
def Criterion.meaning (truth : Nat → Bool) : Criterion → (number : Nat) → Option Bool
  | .test _ test, number => if test.dropsOut then none else some (truth number)
  | .exists _ _, number => some (truth number)
  | .group group, number => group.meaning truth number
  | .not group, number => (group.meaning truth number).map (!·)

/-- What an initial criterion says. -/
def Criterion.initialMeaning (truth : Nat → Bool) : Option Criterion → (number : Nat) → Option Bool
  | none, _ => none
  | some criterion, number => criterion.meaning truth number

/-- What a scope says, unless all of its criteria drop out. -/
def CriteriaGroup.meaning (truth : Nat → Bool) : CriteriaGroup → (number : Nat) → Option Bool
  | ⟨initial, links⟩, number =>
    scopeMeaning ((Criterion.initialMeaning truth initial number).toList.map (Connector.and, ·) ++
      CriteriaGroup.remaining truth links (number + (Criterion.initialLeaves initial).length))

/-- What the connected groups that remain say, with their connectors. -/
def CriteriaGroup.remaining (truth : Nat → Bool) :
    List (Connector × CriteriaGroup) → (number : Nat) → List (Connector × Bool)
  | [], _ => []
  | (connector, group) :: rest, number =>
    (group.meaning truth number).toList.map (connector, ·) ++
      CriteriaGroup.remaining truth rest (number + group.leaves.length)

end

/-- Whether a leaf drops out. -/
def Criterion.dropsOut : Criterion → Bool
  | .test _ t => t.dropsOut
  | _ => false

/-- The numbers of the leaves that do not drop out. -/
def remainingNumbers (leaves : List (Criterion × Nat)) : List Nat :=
  (leaves.filter fun leaf => !leaf.1.dropsOut).map (·.2)

/-! ## Tokens and their texts -/

namespace Token

/-- The number of a leaf. -/
def leafNumber? : Token → Option Nat
  | .leaf number => some number
  | _ => none

/-- How a token is written; a leaf has a text of its own. -/
def text : Token → String
  | .leaf _ => ""
  | .not => "not "
  | .and => " and "
  | .or => " or "
  | .opening => "("
  | .closing => ")"

end Token

/-- A token with its fragment: a leaf is rendered as such, and all others have their texts. -/
def Written (scopes : List Scope) (leaves : List (Criterion × Nat)) : Token × Fragment → Prop
  | (.leaf number, f) => ∃ leaf, (leaf, number) ∈ leaves ∧ leaf.fragment? scopes = .ok (some f)
  | (token, f) => f = ofText token.text

/-- Tokens with their fragments that account for leaves: the leaves that remain are there in their
    order, and everything is written as it should be. -/
structure Accounts (scopes : List Scope) (leaves : List (Criterion × Nat))
    (pieces : List (Token × Fragment)) : Prop where
  numbers : pieces.filterMap (fun piece => piece.1.leafNumber?) = remainingNumbers leaves
  written : ∀ piece ∈ pieces, Written scopes leaves piece

section Accounts

variable {scopes : List Scope} {leaves others : List (Criterion × Nat)}

/-- More leaves may be given. -/
theorem Written.mono {piece : Token × Fragment} (h : Written scopes leaves piece)
    (hs : ∀ leaf ∈ leaves, leaf ∈ others) : Written scopes others piece := by
  obtain ⟨token, f⟩ := piece
  cases token with
  | leaf number =>
      obtain ⟨leaf, hm, hf⟩ := h
      exact ⟨leaf, hs _ hm, hf⟩
  | not => exact h
  | and => exact h
  | or => exact h
  | opening => exact h
  | closing => exact h

theorem Accounts.append {ps qs : List (Token × Fragment)} (hp : Accounts scopes leaves ps)
    (hq : Accounts scopes others qs) : Accounts scopes (leaves ++ others) (ps ++ qs) := by
  constructor
  · rw [List.filterMap_append, hp.numbers, hq.numbers]
    rw [remainingNumbers, remainingNumbers, remainingNumbers, List.filter_append, List.map_append]
  · intro piece hm
    rcases List.mem_append.mp hm with hm | hm
    · exact (hp.written piece hm).mono fun leaf h => List.mem_append_left _ h
    · exact (hq.written piece hm).mono fun leaf h => List.mem_append_right _ h

/-- A token that is no leaf, before others. -/
theorem Accounts.cons {ps : List (Token × Fragment)} (h : Accounts scopes leaves ps)
    (token : Token) (ht : token.leafNumber? = none) :
    Accounts scopes leaves ((token, ofText token.text) :: ps) := by
  constructor
  · rw [List.filterMap_cons_none (by exact ht), h.numbers]
  · intro piece hm
    rcases List.mem_cons.mp hm with rfl | hm
    · cases token with
      | leaf number => cases ht
      | not => rfl
      | and => rfl
      | or => rfl
      | opening => rfl
      | closing => rfl
    · exact h.written piece hm

end Accounts

/-! ## Criteria that read as they mean -/

/-- A criterion whose leaves are given: it drops out and means nothing, or its fragment is made of
    tokens that form a unit with its meaning. -/
def Reads (scopes : List Scope) (leaves : List (Criterion × Nat)) (written : Option Fragment)
    (meaning : (Nat → Bool) → Option Bool) : Prop :=
  match written with
  | none => remainingNumbers leaves = [] ∧ ∀ truth, meaning truth = none
  | some f => ∃ pieces formula,
      f = pieces.flatMap (·.2) ∧ Accounts scopes leaves pieces ∧
      IsUnit (pieces.map (·.1)) formula ∧ ∀ truth, meaning truth = some (formula.eval truth)

/-- A part of a scope: its connector, its tokens with their fragments, and their formula. -/
structure ReadPart where
  connector : Connector
  pieces : List (Token × Fragment)
  formula : Formula

namespace ReadPart

/-- The part as it is rendered. -/
def part (r : ReadPart) : Connector × Fragment := (r.connector, r.pieces.flatMap (·.2))

/-- The part as it is read. -/
def link (r : ReadPart) : ChainLink := ⟨r.connector, r.pieces.map (·.1), r.formula⟩

/-- The connector in front of a part and the part. -/
def tail (r : ReadPart) : List (Token × Fragment) :=
  (r.connector.token, ofText r.connector.token.text) :: r.pieces

end ReadPart

/-- A scope whose leaves are given: its parts are units, and their values are what remains. -/
def GroupReads (scopes : List Scope) (leaves : List (Criterion × Nat)) (parts : CriteriaParts)
    (remaining : (Nat → Bool) → List (Connector × Bool)) : Prop :=
  ∃ rs : List ReadPart,
    parts = rs.map ReadPart.part ∧ Accounts scopes leaves (rs.flatMap (·.pieces)) ∧
    (∀ r ∈ rs, IsUnit r.link.tokens r.link.formula) ∧
    ∀ truth, remaining truth = rs.map (·.link.value truth)

section Scopes

variable {scopes : List Scope} {leaves others : List (Criterion × Nat)}

/-- Parts for some leaves and parts for others read as both, one behind the other. -/
theorem GroupReads.append {ps qs : CriteriaParts}
    {first second : (Nat → Bool) → List (Connector × Bool)}
    (hp : GroupReads scopes leaves ps first) (hq : GroupReads scopes others qs second) :
    GroupReads scopes (leaves ++ others) (ps ++ qs) fun truth => first truth ++ second truth := by
  obtain ⟨rs, rfl, hra, hru, hrv⟩ := hp
  obtain ⟨ss, rfl, hsa, hsu, hsv⟩ := hq
  refine ⟨rs ++ ss, List.map_append.symm, ?_, ?_, ?_⟩
  · rw [List.flatMap_append]
    exact hra.append hsa
  · intro r hm
    rcases List.mem_append.mp hm with hm | hm
    · exact hru r hm
    · exact hsu r hm
  · intro truth
    show first truth ++ second truth = _
    rw [hrv truth, hsv truth, List.map_append]

/-- One criterion as a part of a scope, if it does not drop out. -/
theorem Reads.toList {written : Option Fragment} {meaning : (Nat → Bool) → Option Bool}
    (h : Reads scopes leaves written meaning) (connector : Connector) :
    GroupReads scopes leaves (written.toList.map (connector, ·))
      fun truth => (meaning truth).toList.map (connector, ·) := by
  cases written with
  | none =>
      obtain ⟨hn, hm⟩ := h
      refine ⟨[], rfl, ⟨hn.symm, fun _ h => (nomatch h)⟩, fun _ h => (nomatch h), ?_⟩
      intro truth
      show (meaning truth).toList.map _ = _
      rw [hm truth]
      rfl
  | some f =>
      obtain ⟨pieces, formula, rfl, ha, hu, hm⟩ := h
      -- what is there is the only part, and a unit already
      refine ⟨[⟨connector, pieces, formula⟩], rfl, ?_, ?_, ?_⟩
      · rw [List.flatMap_singleton]
        exact ha
      · intro r hr
        rw [List.mem_singleton.mp hr]
        exact hu
      · intro truth
        show (meaning truth).toList.map _ = _
        rw [hm truth]
        rfl

/-- Connectors between the parts account for no leaf. -/
theorem numbers_tails (rs : List ReadPart) :
    (rs.flatMap ReadPart.tail).filterMap (fun piece => piece.1.leafNumber?) =
      (rs.flatMap (·.pieces)).filterMap fun piece => piece.1.leafNumber? := by
  induction rs with
  | nil => rfl
  | cons r rest ih =>
      have hc : r.connector.token.leafNumber? = none := by cases r.connector <;> rfl
      rw [List.flatMap_cons, List.flatMap_cons, List.filterMap_append, List.filterMap_append, ih]
      rw [ReadPart.tail, List.filterMap_cons_none (by exact hc)]

theorem written_tails {rs : List ReadPart}
    (h : ∀ piece ∈ rs.flatMap (·.pieces), Written scopes leaves piece) :
    ∀ piece ∈ rs.flatMap ReadPart.tail, Written scopes leaves piece := by
  intro piece hm
  obtain ⟨r, hr, hp⟩ := List.mem_flatMap.mp hm
  rcases List.mem_cons.mp hp with rfl | hp
  · cases hc : r.connector <;> exact rfl
  · exact h piece (List.mem_flatMap.mpr ⟨r, hr, hp⟩)

/-- The tokens of all parts of a scope, with the connectors between them. -/
def joined (r : ReadPart) (rest : List ReadPart) : List (Token × Fragment) :=
  r.pieces ++ rest.flatMap ReadPart.tail

/-- Parts joined by their connectors account for the leaves that they account for one by one. -/
theorem accounts_joined {r : ReadPart} {rest : List ReadPart}
    (h : Accounts scopes leaves ((r :: rest).flatMap (·.pieces))) :
    Accounts scopes leaves (joined r rest) := by
  obtain ⟨hn, hw⟩ := h
  rw [List.flatMap_cons] at hn hw
  constructor
  · rw [joined, List.filterMap_append, numbers_tails, ← List.filterMap_append, hn]
  · intro piece hm
    rcases List.mem_append.mp hm with hm | hm
    · exact hw piece (List.mem_append_left _ hm)
    · exact written_tails (fun p h => hw p (List.mem_append_right _ h)) piece hm

theorem tokens_joined (r : ReadPart) (rest : List ReadPart) :
    (joined r rest).map (·.1) =
      r.link.tokens ++ (rest.map ReadPart.link).flatMap ChainLink.tail := by
  rw [joined, List.map_append, List.map_flatMap, List.flatMap_map]
  rfl

/-- The fragments of joined parts are the connected parts. -/
theorem connected_joined (r : ReadPart) (rest : List ReadPart) :
    Fragment.connected ((r :: rest).map ReadPart.part) = (joined r rest).flatMap (·.2) := by
  have ht : (rest.map ReadPart.part).flatMap
        (fun part => ofText (" " ++ part.1.text ++ " ") ++ part.2)
      = (rest.flatMap ReadPart.tail).flatMap (·.2) := by
    rw [List.flatMap_map, List.flatMap_assoc]
    congr 1
    funext s
    obtain ⟨connector, pieces, formula⟩ := s
    cases connector with
    | and => rfl
    | or => rfl
  rw [joined, List.flatMap_append, ← ht]
  rfl

/-- **From a scope to the criterion that holds it**: one part is a unit already, and several become
    one in parentheses. -/
theorem GroupReads.grouped {parts : CriteriaParts}
    {remaining : (Nat → Bool) → List (Connector × Bool)} {meaning : (Nat → Bool) → Option Bool}
    (h : GroupReads scopes leaves parts remaining)
    (hm : ∀ truth, meaning truth = scopeMeaning (remaining truth)) :
    Reads scopes leaves (Fragment.grouped? parts) meaning := by
  obtain ⟨rs, rfl, ha, hu, hv⟩ := h
  match rs with
  | [] =>
      refine ⟨ha.numbers.symm, ?_⟩
      intro truth
      rw [hm truth, hv truth]
      rfl
  | [r] =>
      refine ⟨r.pieces, r.formula, rfl, ?_, hu r (List.mem_singleton_self r), ?_⟩
      · rw [List.flatMap_singleton] at ha
        exact ha
      · intro truth
        rw [hm truth, hv truth]
        show some (((r.formula.eval truth && true)) || false) = _
        rw [Bool.and_true, Bool.or_false]
  | first :: second :: rest =>
      have hl : ∀ link ∈ (first :: second :: rest).map ReadPart.link,
          IsUnit link.tokens link.formula := by
        intro link hlink
        obtain ⟨r, hr, rfl⟩ := List.mem_map.mp hlink
        exact hu r hr
      obtain ⟨f, hf, hval⟩ := isUnit_parenthesized hl
      refine ⟨(.opening, ofText "(") :: (joined first (second :: rest) ++ [(.closing, ofText ")")]),
        f, ?_, ?_, ?_, ?_⟩
      · show Fragment.parenthesized
          (Fragment.connected ((first :: second :: rest).map ReadPart.part)) = _
        rw [connected_joined, List.flatMap_cons, List.flatMap_append]
        rfl
      · have hj := accounts_joined ha
        -- parentheses account for no leaf
        have he : Accounts scopes [] [] := ⟨rfl, fun _ h => (nomatch h)⟩
        have ho := (hj.append (he.cons .closing rfl)).cons .opening rfl
        rw [List.append_nil] at ho
        exact ho
      · rw [List.map_cons, List.map_append, tokens_joined]
        exact hf
      · intro truth
        rw [hm truth, hv truth, hval truth, List.map_map]
        rfl

/-- A negation of what reads as one unit. -/
theorem Reads.not {written : Option Fragment} {meaning : (Nat → Bool) → Option Bool}
    (h : Reads scopes leaves written meaning) :
    Reads scopes leaves (written.map (ofText "not " ++ ·)) fun truth =>
      (meaning truth).map (!·) := by
  cases written with
  | none =>
      refine ⟨h.1, ?_⟩
      intro truth
      show (meaning truth).map _ = none
      rw [h.2 truth]
      rfl
  | some f =>
      obtain ⟨pieces, formula, rfl, ha, hu, hm⟩ := h
      refine ⟨(.not, ofText "not ") :: pieces, .not formula, rfl, ha.cons .not rfl, hu.not, ?_⟩
      intro truth
      show (meaning truth).map _ = _
      rw [hm truth]
      rfl

/-- A leaf that is rendered. -/
theorem Reads.leaf {leaf : Criterion} {f : Fragment} (number : Nat)
    (hd : leaf.dropsOut = false) (h : leaf.fragment? scopes = .ok (some f)) :
    Reads scopes [(leaf, number)] (some f) fun truth => some (truth number) := by
  refine ⟨[(.leaf number, f)], .leaf number, ?_, ⟨?_, ?_⟩, isUnit_leaf number, fun _ => rfl⟩
  · exact (List.append_nil f).symm
  · rw [remainingNumbers, List.filter_cons_of_pos (by simp [hd])]
    rfl
  · intro piece hm
    rw [List.mem_singleton.mp hm]
    exact ⟨leaf, List.mem_singleton_self _, h⟩

end Scopes

/-! ## The induction over the tree -/

section Induction

variable {scopes : List Scope}

mutual

/-- A criterion reads as it means: its tokens are one unit, whose formula has its meaning under
    every truth assignment. -/
theorem Criterion.reads (k : Criterion) (number : Nat) {r : Option Fragment}
    (h : k.fragment? scopes = .ok r) :
    Reads scopes (k.leaves.zipIdx number) r fun truth => k.meaning truth number := by
  match k with
  | .test operand t =>
      by_cases hd : t.dropsOut = true
      · have hr : Criterion.fragment? (.test operand t) scopes = .ok none := by
          rw [Criterion.fragment?, if_pos hd]
        rw [hr] at h
        cases h
        refine ⟨?_, ?_⟩
        · exact congrArg (List.map _) (List.filter_cons_of_neg (by simp [Criterion.dropsOut, hd]))
        · intro truth
          exact if_pos hd
      · have hd' : t.dropsOut = false := eq_false_of_ne_true hd
        -- a test that does not drop out is rendered whenever it succeeds
        have hr := h
        rw [Criterion.fragment?, if_neg hd] at hr
        obtain ⟨f, -, hf⟩ := exists_of_bind_ok hr
        obtain ⟨g, rfl⟩ := Test.fragment?_eq_some hd' hf
        have hm : (fun truth => Criterion.meaning truth (.test operand t) number)
            = fun truth => some (truth number) := by
          funext truth
          exact if_neg hd
        rw [hm]
        exact Reads.leaf number hd' h
  | .exists negated query =>
      have hr := h
      rw [Criterion.fragment?] at hr
      obtain ⟨f, -, hf⟩ := exists_of_bind_ok hr
      cases hf
      exact Reads.leaf number rfl h
  | .group g =>
      rw [Criterion.fragment?] at h
      obtain ⟨parts, hp, hr⟩ := exists_of_bind_ok h
      cases hr
      obtain ⟨remaining, hg, hm⟩ := CriteriaGroup.reads g number hp
      exact hg.grouped hm
  | .not g =>
      rw [Criterion.fragment?] at h
      obtain ⟨parts, hp, hr⟩ := exists_of_bind_ok h
      cases hr
      obtain ⟨remaining, hg, hm⟩ := CriteriaGroup.reads g number hp
      exact (hg.grouped hm).not

theorem Criterion.initial_reads (k : Option Criterion) (number : Nat) {r : Option Fragment}
    (h : Criterion.initialFragment? k scopes = .ok r) :
    Reads scopes ((Criterion.initialLeaves k).zipIdx number) r
      fun truth => Criterion.initialMeaning truth k number := by
  match k with
  | none =>
      cases h
      exact ⟨rfl, fun _ => rfl⟩
  | some criterion => exact Criterion.reads criterion number h

/-- The parts of a group read as what remains of the group, and the meaning of the group is that of
    what remains. -/
theorem CriteriaGroup.reads (g : CriteriaGroup) (number : Nat) {parts : CriteriaParts}
    (h : g.parts scopes = .ok parts) :
    ∃ remaining, GroupReads scopes (g.leaves.zipIdx number) parts remaining ∧
      ∀ truth, g.meaning truth number = scopeMeaning (remaining truth) := by
  obtain ⟨initial, links⟩ := g
  rw [CriteriaGroup.parts] at h
  obtain ⟨first, hf, h⟩ := exists_of_bind_ok h
  obtain ⟨others, ho, h⟩ := exists_of_bind_ok h
  cases h
  have hi := Criterion.initial_reads initial number hf
  -- the leaves of the connected groups are numbered behind those of the initial criterion
  have hl := CriteriaGroup.links_read links (number + (Criterion.initialLeaves initial).length) ho
  refine ⟨_, ?_, fun _ => rfl⟩
  rw [CriteriaGroup.leaves, List.zipIdx_append]
  exact (hi.toList .and).append hl

/-- The parts of connected groups read as what remains of them. -/
theorem CriteriaGroup.links_read (links : List (Connector × CriteriaGroup)) (number : Nat)
    {parts : CriteriaParts} (h : CriteriaGroup.linkParts links scopes = .ok parts) :
    GroupReads scopes ((CriteriaGroup.linkLeaves links).zipIdx number) parts
      fun truth => CriteriaGroup.remaining truth links number := by
  match links with
  | [] =>
      cases h
      exact ⟨[], rfl, ⟨rfl, fun _ h => (nomatch h)⟩, fun _ h => (nomatch h), fun _ => rfl⟩
  | (connector, g) :: rest =>
      rw [CriteriaGroup.linkParts] at h
      obtain ⟨parts, hp, h⟩ := exists_of_bind_ok h
      obtain ⟨others, ho, h⟩ := exists_of_bind_ok h
      cases h
      obtain ⟨remaining, hg, hm⟩ := CriteriaGroup.reads g number hp
      have hr := CriteriaGroup.links_read rest (number + g.leaves.length) ho
      rw [CriteriaGroup.linkLeaves, List.zipIdx_append]
      exact ((hg.grouped hm).toList connector).append hr

end

end Induction

/-- Every part of a scope holds a leaf that is rendered. -/
theorem CriteriaGroup.exists_leaf {g : CriteriaGroup} {scopes : List Scope} {parts : CriteriaParts}
    (h : g.parts scopes = .ok parts) {part : Connector × Fragment} (hm : part ∈ parts) :
    ∃ leaf ∈ g.leaves, ∃ f, leaf.fragment? scopes = .ok (some f) ∧ f <:+: part.2 := by
  obtain ⟨remaining, ⟨rs, rfl, ha, hu, -⟩, -⟩ := CriteriaGroup.reads g 0 h
  obtain ⟨r, hr, rfl⟩ := List.mem_map.mp hm
  -- a unit has a leaf among its tokens, and the pieces say how it is written
  obtain ⟨number, hn⟩ := (hu r hr).exists_leaf
  obtain ⟨⟨token, f⟩, hp, rfl⟩ := List.mem_map.mp hn
  obtain ⟨leaf, hleaf, hf⟩ := ha.written _ (List.mem_flatMap.mpr ⟨r, hr, hp⟩)
  refine ⟨leaf, List.fst_mem_of_mem_zipIdx hleaf, f, hf, ?_⟩
  obtain ⟨before, behind, hsplit⟩ := List.append_of_mem hp
  refine ⟨before.flatMap (·.2), behind.flatMap (·.2), ?_⟩
  show _ = r.pieces.flatMap (·.2)
  rw [hsplit, List.flatMap_append, List.flatMap_cons, List.append_assoc]

/-! ## The rendered text -/

/-- The texts of tokens whose fragments are written one after the other. -/
def writePieces : List (Token × Fragment) → Context → List (Token × String)
  | [], _ => []
  | (token, f) :: rest, c => (token, (f.write c).1) :: writePieces rest (f.write c).2

theorem write_pieces (pieces : List (Token × Fragment)) (c : Context) :
    (Fragment.write (pieces.flatMap (·.2)) c).1 =
      String.join ((writePieces pieces c).map (·.2)) := by
  induction pieces generalizing c with
  | nil => rfl
  | cons piece rest ih =>
      rw [List.flatMap_cons, Fragment.write_append, ih]
      exact String.join_cons.symm

theorem map_fst_writePieces (pieces : List (Token × Fragment)) (c : Context) :
    (writePieces pieces c).map (·.1) = pieces.map (·.1) := by
  induction pieces generalizing c with
  | nil => rfl
  | cons piece rest ih => exact congrArg (piece.1 :: ·) (ih _)

/-- The numbers of leaves are a matter of the tokens. -/
theorem leafNumbers_map {α : Type} (pieces : List (Token × α)) :
    pieces.filterMap (fun piece => piece.1.leafNumber?) =
      (pieces.map (·.1)).filterMap Token.leafNumber? := by
  rw [List.filterMap_map]
  rfl

/-- Every text is written in a context with the same strategy and scopes. -/
theorem exists_of_mem_writePieces {pieces : List (Token × Fragment)} {c : Context}
    {written : Token × String} (h : written ∈ writePieces pieces c) :
    ∃ f c', (written.1, f) ∈ pieces ∧ c'.strategy = c.strategy ∧ c'.scopes = c.scopes ∧
      written.2 = (f.write c').1 := by
  induction pieces generalizing c with
  | nil => cases h
  | cons piece rest ih =>
      rcases List.mem_cons.mp h with rfl | h
      · exact ⟨piece.2, c, List.mem_cons_self .., rfl, rfl, rfl⟩
      · obtain ⟨f, c', hm, ht, hs, hw⟩ := ih h
        refine ⟨f, c', List.mem_cons_of_mem _ hm, ?_, ?_, hw⟩
        · rw [ht, Fragment.write_strategy]
        · rw [hs, Fragment.write_scopes]

/-- A token of a text that is rendered in a context: a leaf of the group has the text that rendering
    this leaf gives there, and all others have their texts. -/
def RenderedAs (g : CriteriaGroup) (c : Context) : Token × String → Prop
  | (.leaf number, s) => ∃ leaf c', g.leaves[number]? = some leaf ∧
      c'.strategy = c.strategy ∧ c'.scopes = c.scopes ∧ (leaf.render?.outcome c').1 = .ok (some s)
  | (token, s) => s = token.text

/-- A token that stands for a leaf is written as the leaf is rendered, wherever it comes. -/
theorem Written.renderedAs {g : CriteriaGroup} {c c' : Context} {token : Token} {f : Fragment}
    (h : Written c.scopes g.leaves.zipIdx (token, f)) (ht : c'.strategy = c.strategy)
    (hs : c'.scopes = c.scopes) : RenderedAs g c (token, (f.write c').1) := by
  cases token with
  | leaf number =>
      obtain ⟨leaf, hm, hf⟩ := h
      refine ⟨leaf, c', List.mk_mem_zipIdx_iff_getElem?.mp hm, ht, hs, ?_⟩
      have hy := leaf.render?_yields hs
      rw [hf] at hy
      exact congrArg Prod.fst hy
  | not => rw [show f = ofText "not " from h, Fragment.write_ofText]; rfl
  | and => rw [show f = ofText " and " from h, Fragment.write_ofText]; rfl
  | or => rw [show f = ofText " or " from h, Fragment.write_ofText]; rfl
  | opening => rw [show f = ofText "(" from h, Fragment.write_ofText]; rfl
  | closing => rw [show f = ofText ")" from h, Fragment.write_ofText]; rfl

/-- **Rendered criteria have the meaning of their tree.**  The text falls into tokens, among them
    the leaves that do not drop out, once each and in their order; read by precedence, the tokens
    are a formula that says what the tree says, whatever is true of the leaves. -/
theorem CriteriaGroup.render_keeps_meaning (g : CriteriaGroup) (c after : Context)
    (r : RenderedCriteria) (h : g.render.outcome c = (.ok (some r), after)) :
    ∃ (tokens : List (Token × String)) (f : Formula),
      r.sql = String.join (tokens.map (·.2)) ∧
      (∀ token ∈ tokens, RenderedAs g c token) ∧
      tokens.filterMap (fun token => token.1.leafNumber?) = remainingNumbers g.leaves.zipIdx ∧
      Formula.read (tokens.map (·.1)) = some f ∧
      ∀ truth, g.meaning truth 0 = some (f.eval truth) := by
  obtain ⟨parts, hp, hw⟩ := Yields.exists_of_ok (g.render_yields rfl) h
  have hr : some r = (Fragment.writeCriteria parts c).1 := congrArg Prod.fst hw
  -- something is left, so there is a first unit that the others follow
  obtain ⟨remaining, ⟨rs, rfl, ha, hu, hv⟩, hm⟩ := CriteriaGroup.reads g 0 hp
  cases rs with
  | nil => cases hr
  | cons first rest =>
      have hl : ∀ link ∈ (first :: rest).map ReadPart.link, IsUnit link.tokens link.formula := by
        intro link hlink
        obtain ⟨s, hs, rfl⟩ := List.mem_map.mp hlink
        exact hu s hs
      obtain ⟨f, hf, hval⟩ := read_chain hl
      have hj := accounts_joined ha
      refine ⟨writePieces (joined first rest) c, f, ?_, ?_, ?_, ?_, ?_⟩
      · have hsql : r.sql = RenderedCriteria.connected
            (Fragment.writeParts ((first :: rest).map ReadPart.part) c).1 :=
          congrArg RenderedCriteria.sql (Option.some.inj hr)
        rw [hsql, ← write_pieces, ← connected_joined, Fragment.write_connected]
      · intro written hwritten
        obtain ⟨token, s⟩ := written
        obtain ⟨f, c', hmem, ht, hs, rfl⟩ := exists_of_mem_writePieces hwritten
        exact (hj.written _ hmem).renderedAs ht hs
      · rw [← hj.numbers, leafNumbers_map, leafNumbers_map, map_fst_writePieces]
      · rw [map_fst_writePieces, tokens_joined]
        exact hf
      · intro truth
        rw [hm truth, hv truth, hval truth, List.map_map]
        rfl

/-- A group of two criteria, a connector, and a negated scope in which the first criterion drops
    out. -/
def nestedCriteria : CriteriaGroup :=
  let isNull (name : String) : Criterion := .test (.constant name) (.values (.null false) false)
  let absent (name : String) : Criterion :=
    .test (.constant name) (.values (.compare .eq none) false)
  ⟨some (.group ⟨some (isNull "a"), [(.or, ⟨some (isNull "b"), []⟩)]⟩),
    [(.and, ⟨some (.not ⟨some (absent "c"), [(.or, ⟨some (isNull "d"), []⟩)]⟩), []⟩)]⟩

/-- The nested criteria keep their meaning: the group needs its parentheses, the scope after `not`
    needs none. -/
theorem CriteriaGroup.render_keeps_meaning_nested :
    nestedCriteria.render.outcome (.initial .postgres) =
      (.ok (some ⟨"(a is null or b is null) and not d is null", 2⟩), .initial .postgres) ∧
    ∃ (tokens : List (Token × String)) (f : Formula),
      "(a is null or b is null) and not d is null" = String.join (tokens.map (·.2)) ∧
      Formula.read (tokens.map (·.1)) = some f ∧
      ∀ truth, nestedCriteria.meaning truth 0 = some (f.eval truth) := by
  have hr : nestedCriteria.render.outcome (.initial .postgres) =
      (.ok (some ⟨"(a is null or b is null) and not d is null", 2⟩), .initial .postgres) := rfl
  obtain ⟨tokens, f, hsql, -, -, hf, ht⟩ :=
    CriteriaGroup.render_keeps_meaning nestedCriteria _ _ _ hr
  exact ⟨hr, tokens, f, hsql, hf, ht⟩

end SqlComposer
