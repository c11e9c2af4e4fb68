import SqlComposer.Proofs.RawTexts
import SqlComposer.Proofs.ScannedFragment

/-! # Queries with neutral texts denote loose fragments

    Every raw text is loose because it is neutral, every string constant is loose whatever is in it,
    and a slot is loose.  The renderer puts joints between them, at every constructor of the syntax,
    so the scanner sees in a rendered query the symbols of its fragment. -/

namespace SqlComposer

open Fragment

theorem loose_of_neutral {s : String} (h : Neutral s.toList) : Fragment.Loose (ofText s) :=
  loose_ofText h.loose

/-- A text of plain characters, as a fragment. -/
theorem loose_plain {s : String} (h : s.toList.all isPlain = true) : Fragment.Loose (ofText s) :=
  (tight_ofText h).loose

theorem neutral_of_toList {o : Option String} (h : AllNeutral o.toList) {s : String}
    (hs : o = some s) : Neutral s.toList :=
  h s (Option.mem_toList.mpr hs)

/-! ## Texts of the syntax -/

/-- The name of a column is loose, also behind a qualifier that the scopes give it. -/
theorem Column.loose_text {c : Column} {scopes : List Scope} (hn : AllNeutral c.rawTexts)
    (hs : AllNeutral (Scope.allRawTexts scopes)) : Fragment.Loose (ofText (c.text scopes)) := by
  have hname := loose_of_neutral (hn c.name (List.mem_cons_self ..))
  have htable := hn c.table (List.mem_cons_of_mem _ (List.mem_cons_self ..))
  unfold Column.text
  split
  · rename_i qualifier hq
    have hneutral : Neutral qualifier.toList := by
      rcases Option.or_eq_some_iff.mp hq with ho | ⟨-, ho⟩
      · refine hn qualifier (List.mem_cons_of_mem _ (List.mem_cons_of_mem _ ?_))
        exact List.mem_append_left _ (Option.mem_toList.mpr ho)
      · exact neutral_qualifier hs htable ho
    exact loose_joinedTexts (loose_of_neutral hneutral) (by rfl) hname
  · exact hname

theorem loose_tableText {name : String} {aliasName : Option String} (hn : Neutral name.toList)
    (ha : AllNeutral aliasName.toList) : Fragment.Loose (ofText (tableText name aliasName)) := by
  cases aliasName with
  | none => exact loose_of_neutral hn
  | some a =>
      refine loose_joinedTexts (loose_of_neutral hn) (by rfl) ?_
      exact loose_of_neutral (neutral_of_toList ha rfl)

/-- An order clause is loose if what it sorts by is. -/
theorem loose_orderClause {orderBy : List SortSpec}
    (hn : AllNeutral (SortSpec.allRawTexts orderBy)) :
    Fragment.Loose (ofText (orderClause orderBy)) := by
  have hl : ∀ t ∈ orderBy.map SortSpec.text, Fragment.Loose (ofText t) := by
    intro t ht
    obtain ⟨order, ho, rfl⟩ := List.mem_map.mp ht
    have hname := loose_of_neutral (hn order.name (List.mem_map_of_mem ho))
    unfold SortSpec.text
    split
    · exact loose_followedText hname (by rfl)
    · exact hname
  unfold orderClause SqlComposer.listClause
  split
  · exact tight_nil.loose
  · exact loose_prefixedText (by rfl) (loose_listedTexts hl)

theorem loose_getD {o : Option String} (h : AllNeutral o.toList) :
    Fragment.Loose (ofText (o.getD "")) := by
  cases o with
  | none => exact loose_plain (by rfl)
  | some s => exact loose_of_neutral (neutral_of_toList h rfl)

theorem Config.loose_keyword {config : Config} {keyword : String}
    (hk : keyword.toList.all isPlain = true) (hn : AllNeutral config.rawTexts) :
    Fragment.Loose (ofText (config.keyword keyword)) := by
  obtain ⟨hn, -⟩ := List.forall_mem_append.mp hn
  obtain ⟨-, ha⟩ := List.forall_mem_append.mp hn
  refine loose_spacedTexts (List.forall_mem_cons.mpr ⟨loose_plain hk, ?_⟩)
  exact List.forall_mem_cons.mpr ⟨loose_getD ha, List.forall_mem_nil _⟩

/-- The texts before and behind a statement keep it loose. -/
theorem Config.loose_wrapped {config : Config} {f : Fragment} (hn : AllNeutral config.rawTexts)
    (hf : f.Loose) : (config.wrapped f).Loose := by
  obtain ⟨hn, ha⟩ := List.forall_mem_append.mp hn
  obtain ⟨hb, -⟩ := List.forall_mem_append.mp hn
  unfold Config.wrapped
  split
  · exact hf
  · refine loose_spaced (List.forall_mem_cons.mpr ⟨loose_getD hb, ?_⟩)
    refine List.forall_mem_cons.mpr ⟨hf, ?_⟩
    exact List.forall_mem_cons.mpr ⟨loose_getD ha, List.forall_mem_nil _⟩

theorem loose_stringConstant (s : String) : Fragment.Loose (ofText (stringLiteral s)) :=
  loose_ofText (loose_stringLiteral s)

/-- A paging clause is loose. -/
theorem Paging.loose_fragment (paging : Paging) : paging.fragment.Loose := by
  unfold Paging.fragment
  split
  · refine loose_spaced ?_
    refine List.forall_mem_cons.mpr ⟨loose_countClause (by rfl) trailing_empty _, ?_⟩
    exact List.forall_mem_cons.mpr
      ⟨loose_countClause (by rfl) trailing_empty _, List.forall_mem_nil _⟩
  · refine loose_spaced (List.forall_mem_cons.mpr ⟨?_, List.forall_mem_cons.mpr ⟨?_, ?_⟩⟩)
    · exact loose_countClause (by rfl) (trailing_ofText (by rfl)) _
    · exact loose_countClause (by rfl) (trailing_ofText (by rfl)) _
    · exact List.forall_mem_nil _

/-- A condition on a loose operand. -/
theorem ConditionKind.loose_fragment {kind : ConditionKind} {f g : Fragment}
    {type : Option JdbcType} {ignoreCase : Bool} (hf : f.Loose)
    (h : kind.fragment? f type ignoreCase = .ok (some g)) : g.Loose := by
  have ho := hf.operand ignoreCase
  match kind with
  | .compare _ none => cases h
  | .compare op (some value) =>
      cases h
      exact ho.joined (by cases op <;> rfl) (loose_ofValue _ _)
  | .null negated =>
      cases h
      refine ho.append_trailing (trailing_ofText ?_)
      cases negated <;> rfl
  | .between _ none _ => cases h
  | .between _ (some _) none => cases h
  | .between negated (some low) (some high) =>
      cases h
      have hl : (operand ignoreCase f ++ ofText (" " ++ negatedWord negated "between" ++ " ") ++
          ofValue low type).Loose := by
        refine ho.joined ?_ (loose_ofValue low type)
        cases negated <;> rfl
      exact hl.joined (by rfl) (loose_ofValue high type)
  | .member _ true [] => cases h
  | .member _ false [] => cases h
  | .member negated _ (value :: rest) =>
      cases h
      refine ho.joined (by cases negated <;> rfl) ?_
      exact (loose_boundValues (by rfl) type _).parenthesized

/-- A lock clause is loose. -/
theorem loose_lockClause (lock : Option Lock) : ∀ f ∈ (lockClause lock).map ofText, f.Loose := by
  intro f hf
  obtain ⟨s, hs, rfl⟩ := List.mem_map.mp hf
  refine loose_plain ?_
  cases lock with
  | none => cases hs
  | some lock =>
      obtain ⟨mode, wait⟩ := lock
      rcases List.mem_cons.mp hs with rfl | hs
      · show mode.text.toList.all isPlain = true
        cases mode <;> rfl
      · obtain ⟨w, -, rfl⟩ := List.mem_map.mp hs
        cases w <;> rfl

/-! ## The induction over the syntax -/

mutual

/-- An expression is loose if its raw texts and those of the scopes are neutral. -/
theorem Expr.loose_fragment (e : Expr) {scopes : List Scope} {f : Fragment}
    (hn : AllNeutral e.rawTexts) (hs : AllNeutral (Scope.allRawTexts scopes))
    (h : e.fragment scopes = .ok f) : f.Loose := by
  match e with
  | .column c =>
      cases h
      exact Column.loose_text hn hs
  | .allColumns table =>
      rw [Expr.fragment] at h
      cases hq : qualifier? scopes table with
      | none =>
          rw [hq] at h
          cases h
          exact loose_plain (by rfl)
      | some qualifier =>
          rw [hq] at h
          cases h
          have ht := hn table (List.mem_singleton_self _)
          exact loose_followedText (loose_of_neutral (neutral_qualifier hs ht hq)) (by rfl)
  | .constant s =>
      cases h
      exact loose_of_neutral (hn s (List.mem_singleton_self _))
  | .stringConstant s =>
      cases h
      exact loose_stringConstant s
  | .bound value =>
      cases h
      exact loose_ofValue value none
  | .countAll =>
      cases h
      exact loose_plain (by rfl)
  | .count argument =>
      obtain ⟨g, hg, hr⟩ := exists_of_bind_ok h
      cases hr
      have hl := Expr.loose_fragment argument hn hs hg
      exact (tight_ofText (by rfl)).append_loose hl.parenthesized
  | .countDistinct argument =>
      obtain ⟨g, hg, hr⟩ := exists_of_bind_ok h
      cases hr
      have hl := Expr.loose_fragment argument hn hs hg
      -- two plain words and a parenthesis, all of them tight
      refine (tight_ofText (by rfl)).append_loose (Loose.parenthesized ?_)
      exact (tight_ofText (by rfl)).append_loose hl
  | .call function argument =>
      obtain ⟨g, hg, hr⟩ := exists_of_bind_ok h
      cases hr
      have hl := Expr.loose_fragment argument hn hs hg
      refine (tight_ofText ?_).append_loose hl.parenthesized
      cases function <;> rfl
  | .rowNumber =>
      cases h
      exact loose_plain (by rfl)
  | .windowed inner window =>
      obtain ⟨hi, hw⟩ := List.forall_mem_append.mp hn
      obtain ⟨g, hg, h⟩ := exists_of_bind_ok h
      obtain ⟨rows, hrows, hr⟩ := exists_of_bind_ok h
      cases hr
      exact (Expr.loose_fragment inner hi hs hg).joined (by rfl)
        (Window.loose_fragment window hw hs hrows)
  | .caseOf operand branches otherwise =>
      obtain ⟨hn, ho⟩ := List.forall_mem_append.mp hn
      obtain ⟨hf, hw⟩ := List.forall_mem_append.mp hn
      obtain ⟨before, hbefore, h⟩ := exists_of_bind_ok h
      obtain ⟨whens, hwhens, h⟩ := exists_of_bind_ok h
      obtain ⟨behind, hbehind, hr⟩ := exists_of_bind_ok h
      cases hr
      -- operand, branches and else begin with a blank each, or are not there
      have hb := Expr.trailing_fragmentAfter operand (by rfl) hf hs hbefore
      have hl := (loose_plain (s := "case") (by rfl)).append_trailing hb
      have hw := hl.append_trailing (CaseBranch.trailing_fragments branches hw hs hwhens)
      have he := Expr.trailing_fragmentAfter otherwise (by rfl) ho hs hbehind
      exact (hw.append_trailing he).append_trailing (trailing_ofText (by rfl))
  | .subquery query =>
      obtain ⟨g, hg, hr⟩ := exists_of_bind_ok h
      cases hr
      exact (Select.loose_fragment query hn hs hg).parenthesized
  | .aliased inner aliasName =>
      exact Expr.loose_fragment inner (List.forall_mem_cons.mp hn).2 hs h

/-- An operand or an else is trailing: the word in front of it is a joint, so it goes on with
    whatever stands before. -/
theorem Expr.trailing_fragmentAfter (e : Option Expr) {scopes : List Scope} {before : String}
    {f : Fragment} (hb : isJoint before = true) (hn : AllNeutral (Expr.optionRawTexts e))
    (hs : AllNeutral (Scope.allRawTexts scopes)) (h : Expr.fragmentAfter before e scopes = .ok f) :
    Trailing f := by
  match e with
  | none =>
      cases h
      exact trailing_nil
  | some e =>
      obtain ⟨g, hg, hr⟩ := exists_of_bind_ok h
      cases hr
      exact trailing_joint hb (Expr.loose_fragment e hn hs hg)

/-- The expressions of a list are loose. -/
theorem Expr.loose_fragments (es : List Expr) {scopes : List Scope} {fs : List Fragment}
    (hn : AllNeutral (Expr.allRawTexts es)) (hs : AllNeutral (Scope.allRawTexts scopes))
    (h : Expr.fragments es scopes = .ok fs) : ∀ f ∈ fs, f.Loose := by
  match es with
  | [] =>
      cases h
      exact List.forall_mem_nil _
  | e :: rest =>
      obtain ⟨he, hrest⟩ := List.forall_mem_append.mp hn
      obtain ⟨f, hf, h⟩ := exists_of_bind_ok h
      obtain ⟨others, ho, hr⟩ := exists_of_bind_ok h
      cases hr
      exact List.forall_mem_cons.mpr
        ⟨Expr.loose_fragment e he hs hf, Expr.loose_fragments rest hrest hs ho⟩

/-- So are those of a select list, with their aliases. -/
theorem Expr.loose_selectedFragments (es : List Expr) {scopes : List Scope} {fs : List Fragment}
    (hn : AllNeutral (Expr.allRawTexts es)) (hs : AllNeutral (Scope.allRawTexts scopes))
    (h : Expr.selectedFragments es scopes = .ok fs) : ∀ f ∈ fs, f.Loose := by
  match es with
  | [] =>
      cases h
      exact List.forall_mem_nil _
  | e :: rest =>
      obtain ⟨he, hrest⟩ := List.forall_mem_append.mp hn
      obtain ⟨f, hf, h⟩ := exists_of_bind_ok h
      obtain ⟨others, ho, hr⟩ := exists_of_bind_ok h
      cases hr
      refine List.forall_mem_cons.mpr ⟨?_, Expr.loose_selectedFragments rest hrest hs ho⟩
      have hl := Expr.loose_fragment e he hs hf
      cases ha : e.alias? with
      | none => exact hl
      | some aliasName =>
          -- the alias may be that of the column or one around the expression
          refine hl.append_trailing (trailing_text (by rfl) ?_)
          exact loose_of_neutral (he aliasName (mem_rawTexts_of_alias ha))

/-- A window is loose: joints stand in front of its lists and of its order. -/
theorem Window.loose_fragment (w : Window) {scopes : List Scope} {f : Fragment}
    (hn : AllNeutral w.rawTexts) (hs : AllNeutral (Scope.allRawTexts scopes))
    (h : w.fragment scopes = .ok f) : f.Loose := by
  obtain ⟨partitionBy, orderBy⟩ := w
  obtain ⟨hp, ho⟩ := List.forall_mem_append.mp hn
  obtain ⟨columns, hc, hr⟩ := exists_of_bind_ok h
  cases hr
  refine (tight_ofText (by rfl)).append_loose (Loose.parenthesized (loose_spaced ?_))
  refine List.forall_mem_cons.mpr
    ⟨loose_listClause (by rfl) (Expr.loose_fragments partitionBy hp hs hc), ?_⟩
  exact List.forall_mem_cons.mpr ⟨loose_orderClause ho, List.forall_mem_nil _⟩

/-- A branch is trailing, since it begins with a joint. -/
theorem CaseBranch.trailing_fragment (b : CaseBranch) {scopes : List Scope}
    {type : Option JdbcType} {f : Fragment} (hn : AllNeutral b.rawTexts)
    (hs : AllNeutral (Scope.allRawTexts scopes)) (h : b.fragment type scopes = .ok f) :
    Trailing f := by
  match b with
  | .searched condition result =>
      obtain ⟨hc, hn⟩ := List.forall_mem_append.mp hn
      obtain ⟨parts, hp, h⟩ := exists_of_bind_ok h
      obtain ⟨tested, ht, h⟩ := exists_of_bind_ok h
      obtain ⟨g, hg, hr⟩ := exists_of_bind_ok h
      cases hr
      have hl := loose_required (CriteriaGroup.loose_parts condition hc hs hp) ht
      rw [List.append_assoc, List.append_assoc]
      refine trailing_joint (by rfl) ?_
      rw [← List.append_assoc]
      exact hl.joined (by rfl) (Expr.loose_fragment result hn hs hg)
  | .simple values result =>
      obtain ⟨g, hg, hr⟩ := exists_of_bind_ok h
      cases hr
      rw [List.append_assoc, List.append_assoc]
      refine trailing_joint (by rfl) ?_
      rw [← List.append_assoc]
      exact (loose_boundValues (by rfl) type values).joined (by rfl)
        (Expr.loose_fragment result hn hs hg)

/-- Branches one behind the other are trailing. -/
theorem CaseBranch.trailing_fragments (bs : List CaseBranch) {scopes : List Scope}
    {type : Option JdbcType} {f : Fragment} (hn : AllNeutral (CaseBranch.allRawTexts bs))
    (hs : AllNeutral (Scope.allRawTexts scopes)) (h : CaseBranch.fragments bs type scopes = .ok f) :
    Trailing f := by
  match bs with
  | [] =>
      cases h
      exact trailing_nil
  | b :: rest =>
      obtain ⟨hb, hrest⟩ := List.forall_mem_append.mp hn
      obtain ⟨g, hg, h⟩ := exists_of_bind_ok h
      obtain ⟨others, ho, hr⟩ := exists_of_bind_ok h
      cases hr
      exact (CaseBranch.trailing_fragment b hb hs hg).append
        (CaseBranch.trailing_fragments rest hrest hs ho)

/-- A test is loose if its operand is. -/
theorem Test.loose_fragment (t : Test) {scopes : List Scope} {operand g : Fragment}
    {type : Option JdbcType} (ho : operand.Loose) (hn : AllNeutral t.rawTexts)
    (hs : AllNeutral (Scope.allRawTexts scopes))
    (h : t.fragment? operand type scopes = .ok (some g)) : g.Loose := by
  match t with
  | .values kind ignoreCase => exact ConditionKind.loose_fragment ho h
  | .compareExpr op right =>
      obtain ⟨f, hf, hr⟩ := exists_of_bind_ok h
      cases hr
      exact ho.joined (by cases op <;> rfl) (Expr.loose_fragment right hn hs hf)
  | .compareQuery op query =>
      obtain ⟨f, hf, hr⟩ := exists_of_bind_ok h
      cases hr
      exact ho.joined (by cases op <;> rfl) (Select.loose_fragment query hn hs hf).parenthesized
  | .memberOfQuery negated query =>
      obtain ⟨f, hf, hr⟩ := exists_of_bind_ok h
      cases hr
      refine ho.joined ?_ (Select.loose_fragment query hn hs hf).parenthesized
      cases negated <;> rfl

/-- A criterion is loose, if anything is left of it. -/
theorem Criterion.loose_fragment (k : Criterion) {scopes : List Scope} {r : Option Fragment}
    (hn : AllNeutral k.rawTexts) (hs : AllNeutral (Scope.allRawTexts scopes))
    (h : k.fragment? scopes = .ok r) : ∀ f ∈ r, f.Loose := by
  match k with
  | .test operand t =>
      obtain ⟨ho, ht⟩ := List.forall_mem_append.mp hn
      rw [Criterion.fragment?] at h
      by_cases hd : t.dropsOut = true
      · rw [if_pos hd] at h
        cases h
        intro f hf
        cases hf
      · rw [if_neg hd] at h
        obtain ⟨f, hf, h⟩ := exists_of_bind_ok h
        -- what does not drop out is there when rendering succeeds
        obtain ⟨g, rfl⟩ := Test.fragment?_eq_some (eq_false_of_ne_true hd) h
        rintro f' ⟨⟩
        exact Test.loose_fragment t (Expr.loose_fragment operand ho hs hf) ht hs h
  | .exists negated query =>
      obtain ⟨g, hg, hr⟩ := exists_of_bind_ok h
      cases hr
      rintro f ⟨⟩
      refine (tight_ofText ?_).append_loose (Select.loose_fragment query hn hs hg).parenthesized
      cases negated <;> rfl
  | .group g =>
      obtain ⟨parts, hp, hr⟩ := exists_of_bind_ok h
      cases hr
      exact fun f hf => loose_grouped (CriteriaGroup.loose_parts g hn hs hp) hf
  | .not g =>
      obtain ⟨parts, hp, hr⟩ := exists_of_bind_ok h
      cases hr
      intro f hf
      obtain ⟨own, ho, rfl⟩ := Option.map_eq_some_iff.mp hf
      have hl := loose_grouped (CriteriaGroup.loose_parts g hn hs hp) ho
      exact (tight_ofText (by rfl)).append_loose hl

theorem Criterion.loose_initialFragment (k : Option Criterion) {scopes : List Scope}
    {r : Option Fragment} (hn : AllNeutral (Criterion.initialRawTexts k))
    (hs : AllNeutral (Scope.allRawTexts scopes))
    (h : Criterion.initialFragment? k scopes = .ok r) : ∀ f ∈ r, f.Loose := by
  match k with
  | none =>
      cases h
      intro f hf
      cases hf
  | some criterion => exact Criterion.loose_fragment criterion hn hs h

/-- The parts of a group are loose. -/
theorem CriteriaGroup.loose_parts (g : CriteriaGroup) {scopes : List Scope}
    {parts : CriteriaParts} (hn : AllNeutral g.rawTexts)
    (hs : AllNeutral (Scope.allRawTexts scopes)) (h : g.parts scopes = .ok parts) :
    ∀ part ∈ parts, part.2.Loose := by
  obtain ⟨initial, links⟩ := g
  obtain ⟨hi, hl⟩ := List.forall_mem_append.mp hn
  rw [CriteriaGroup.parts] at h
  obtain ⟨first, hf, h⟩ := exists_of_bind_ok h
  obtain ⟨others, ho, hr⟩ := exists_of_bind_ok h
  cases hr
  refine List.forall_mem_append.mpr ⟨?_, CriteriaGroup.loose_linkParts links hl hs ho⟩
  intro part hp
  obtain ⟨f, hm, rfl⟩ := List.mem_map.mp hp
  exact Criterion.loose_initialFragment initial hi hs hf f (Option.mem_toList.mp hm)

/-- The parts of connected groups are loose. -/
theorem CriteriaGroup.loose_linkParts (links : List (Connector × CriteriaGroup))
    {scopes : List Scope} {parts : CriteriaParts}
    (hn : AllNeutral (CriteriaGroup.linkRawTexts links))
    (hs : AllNeutral (Scope.allRawTexts scopes))
    (h : CriteriaGroup.linkParts links scopes = .ok parts) : ∀ part ∈ parts, part.2.Loose := by
  match links with
  | [] =>
      cases h
      exact List.forall_mem_nil _
  | (connector, g) :: rest =>
      obtain ⟨hg, hrest⟩ := List.forall_mem_append.mp hn
      rw [CriteriaGroup.linkParts] at h
      obtain ⟨own, hp, h⟩ := exists_of_bind_ok h
      obtain ⟨others, ho, hr⟩ := exists_of_bind_ok h
      cases hr
      refine List.forall_mem_append.mpr ⟨?_, CriteriaGroup.loose_linkParts rest hrest hs ho⟩
      intro part hm
      obtain ⟨f, hf, rfl⟩ := List.mem_map.mp hm
      exact loose_grouped (CriteriaGroup.loose_parts g hg hs hp) (Option.mem_toList.mp hf)

/-- The parts of a clause that may be missing are loose. -/
theorem CriteriaGroup.loose_clauseParts (g : Option CriteriaGroup) {scopes : List Scope}
    {r : Option CriteriaParts} (hn : AllNeutral (CriteriaGroup.optionRawTexts g))
    (hs : AllNeutral (Scope.allRawTexts scopes)) (h : CriteriaGroup.clauseParts g scopes = .ok r) :
    ∀ part ∈ r.getD [], part.2.Loose := by
  match g with
  | none =>
      cases h
      exact List.forall_mem_nil _
  | some group =>
      obtain ⟨parts, hp, hr⟩ := exists_of_bind_ok h
      cases hr
      exact CriteriaGroup.loose_parts group hn hs hp

/-- A source is loose: a table with its alias, or a select in parentheses. -/
theorem Source.loose_fragment (source : Source) {scopes : List Scope} {f : Fragment}
    (hn : AllNeutral source.rawTexts) (hs : AllNeutral (Scope.allRawTexts scopes))
    (h : source.fragment scopes = .ok f) : f.Loose := by
  match source with
  | .table name aliasName =>
      cases h
      obtain ⟨hname, ha⟩ := List.forall_mem_cons.mp hn
      exact loose_tableText hname ha
  | .subquery query aliasName =>
      obtain ⟨ha, hq⟩ := List.forall_mem_cons.mp hn
      obtain ⟨g, hg, hr⟩ := exists_of_bind_ok h
      cases hr
      exact (Select.loose_fragment query hq hs hg).parenthesized.append_trailing
        (trailing_text (by rfl) (loose_of_neutral ha))

/-- A from clause that may be missing is loose. -/
theorem Source.loose_fromFragment (source : Option Source) {scopes : List Scope} {f : Fragment}
    (hn : AllNeutral (Source.optionRawTexts source)) (hs : AllNeutral (Scope.allRawTexts scopes))
    (h : Source.fromFragment source scopes = .ok f) : f.Loose := by
  match source with
  | none =>
      cases h
      exact tight_nil.loose
  | some source =>
      obtain ⟨g, hg, hr⟩ := exists_of_bind_ok h
      cases hr
      exact (tight_ofText (by rfl)).append_loose (Source.loose_fragment source hn hs hg)

/-- A join is loose. -/
theorem Join.loose_fragment (join : Join) {scopes : List Scope} {f : Fragment}
    (hn : AllNeutral join.rawTexts) (hs : AllNeutral (Scope.allRawTexts scopes))
    (h : join.fragment scopes = .ok f) : f.Loose := by
  obtain ⟨type, source, on⟩ := join
  obtain ⟨ht, ho⟩ := List.forall_mem_append.mp hn
  rw [Join.fragment] at h
  obtain ⟨table, htable, h⟩ := exists_of_bind_ok h
  obtain ⟨parts, hp, h⟩ := exists_of_bind_ok h
  obtain ⟨matched, hm, hr⟩ := exists_of_bind_ok h
  cases hr
  have hl := loose_required (CriteriaGroup.loose_parts on ho hs hp) hm
  refine Loose.joined ?_ (by rfl) hl
  refine (tight_ofText ?_).append_loose (Source.loose_fragment source ht hs htable)
  cases type <;> rfl

/-- Joins are loose, each of them. -/
theorem Join.loose_fragments (joins : List Join) {scopes : List Scope} {fs : List Fragment}
    (hn : AllNeutral (Join.allRawTexts joins)) (hs : AllNeutral (Scope.allRawTexts scopes))
    (h : Join.fragments joins scopes = .ok fs) : ∀ f ∈ fs, f.Loose := by
  match joins with
  | [] =>
      cases h
      exact List.forall_mem_nil _
  | join :: rest =>
      obtain ⟨hj, hrest⟩ := List.forall_mem_append.mp hn
      obtain ⟨f, hf, h⟩ := exists_of_bind_ok h
      obtain ⟨others, ho, hr⟩ := exists_of_bind_ok h
      cases hr
      exact List.forall_mem_cons.mpr
        ⟨Join.loose_fragment join hj hs hf, Join.loose_fragments rest hrest hs ho⟩

/-- A block is loose if its keyword is.  Its columns are looked up in its own scope too, whose texts
    are among its raw texts. -/
theorem QueryBlock.loose_fragment (block : QueryBlock) {keyword : String} {config : Config}
    {outer : List Scope} {f : Fragment} (hk : Fragment.Loose (ofText keyword))
    (hn : AllNeutral block.rawTexts) (ho : AllNeutral (Scope.allRawTexts outer))
    (h : block.fragment keyword config outer = .ok f) : f.Loose := by
  obtain ⟨distinct, columns, source, joins, filter, groupBy, having⟩ := block
  -- inside the block its own scope comes first, with aliases of its own
  have hs := neutral_scope hn ho
  obtain ⟨hn, hhaving⟩ := List.forall_mem_append.mp hn
  obtain ⟨hn, hgroup⟩ := List.forall_mem_append.mp hn
  obtain ⟨hn, hfilter⟩ := List.forall_mem_append.mp hn
  obtain ⟨hn, hjoins⟩ := List.forall_mem_append.mp hn
  obtain ⟨hcolumns, hsource⟩ := List.forall_mem_append.mp hn
  rw [QueryBlock.fragment] at h
  obtain ⟨list, hlist, h⟩ := exists_of_bind_ok h
  obtain ⟨table, htable, h⟩ := exists_of_bind_ok h
  obtain ⟨joined, hjoined, h⟩ := exists_of_bind_ok h
  obtain ⟨filterParts, hparts, h⟩ := exists_of_bind_ok h
  obtain ⟨clause, hclause, h⟩ := exists_of_bind_ok h
  obtain ⟨groups, hgroups, h⟩ := exists_of_bind_ok h
  obtain ⟨havingParts, hhp, hr⟩ := exists_of_bind_ok h
  cases hr
  refine loose_spaced (List.forall_mem_append.mpr ⟨List.forall_mem_append.mpr ⟨?_, ?_⟩, ?_⟩)
  · refine List.forall_mem_cons.mpr ⟨hk, List.forall_mem_cons.mpr ⟨?_, ?_⟩⟩
    · cases distinct <;> exact loose_plain (by rfl)
    · refine List.forall_mem_cons.mpr
        ⟨loose_listed (Expr.loose_selectedFragments columns hcolumns hs hlist), ?_⟩
      exact List.forall_mem_cons.mpr
        ⟨Source.loose_fromFragment source hsource hs htable, List.forall_mem_nil _⟩
  · exact Join.loose_fragments joins hjoins hs hjoined
  · refine List.forall_mem_cons.mpr
      ⟨loose_whereClause (CriteriaGroup.loose_clauseParts filter hfilter hs hparts) hclause, ?_⟩
    refine List.forall_mem_cons.mpr
      ⟨loose_listClause (by rfl) (Expr.loose_fragments groupBy hgroup hs hgroups), ?_⟩
    refine List.forall_mem_cons.mpr ⟨?_, List.forall_mem_nil _⟩
    exact loose_havingClause (CriteriaGroup.loose_clauseParts having hhaving hs hhp)

/-- Blocks behind unions are loose, each of them. -/
theorem QueryBlock.loose_unionFragments (unions : List (UnionKind × QueryBlock)) {config : Config}
    {scopes : List Scope} {fs : List Fragment} (hn : AllNeutral (QueryBlock.unionRawTexts unions))
    (hs : AllNeutral (Scope.allRawTexts scopes))
    (h : QueryBlock.unionFragments unions config scopes = .ok fs) : ∀ f ∈ fs, f.Loose := by
  match unions with
  | [] =>
      cases h
      exact List.forall_mem_nil _
  | (kind, block) :: rest =>
      obtain ⟨hb, hrest⟩ := List.forall_mem_append.mp hn
      rw [QueryBlock.unionFragments] at h
      obtain ⟨f, hf, h⟩ := exists_of_bind_ok h
      obtain ⟨others, ho, hr⟩ := exists_of_bind_ok h
      cases hr
      have hk : Fragment.Loose (ofText kind.text) := by
        cases kind <;> exact loose_plain (by rfl)
      have hl := QueryBlock.loose_fragment block (loose_plain (by rfl)) hb hs hf
      exact List.forall_mem_cons.mpr ⟨hk, List.forall_mem_cons.mpr
        ⟨hl, QueryBlock.loose_unionFragments rest hrest hs ho⟩⟩

/-- **A select with neutral texts is loose.** -/
theorem Select.loose_fragment (q : Select) {scopes : List Scope} {f : Fragment}
    (hn : AllNeutral q.rawTexts) (hs : AllNeutral (Scope.allRawTexts scopes))
    (h : q.fragment scopes = .ok f) : f.Loose := by
  obtain ⟨first, unions, orderBy, paging, lock, config⟩ := q
  obtain ⟨hn, hconfig⟩ := List.forall_mem_append.mp hn
  obtain ⟨hn, horder⟩ := List.forall_mem_append.mp hn
  obtain ⟨hfirst, hunions⟩ := List.forall_mem_append.mp hn
  rw [Select.fragment] at h
  obtain ⟨g, hg, h⟩ := exists_of_bind_ok h
  obtain ⟨fs, hfs, hr⟩ := exists_of_bind_ok h
  cases hr
  have hk : Fragment.Loose (ofText (config.keyword "select")) :=
    Config.loose_keyword (by rfl) hconfig
  refine Config.loose_wrapped hconfig (loose_spaced ?_)
  refine List.forall_mem_append.mpr ⟨List.forall_mem_append.mpr ⟨?_, ?_⟩, loose_lockClause lock⟩
  · exact List.forall_mem_cons.mpr ⟨QueryBlock.loose_fragment first hk hfirst hs hg,
      QueryBlock.loose_unionFragments unions hunions hs hfs⟩
  · exact List.forall_mem_cons.mpr ⟨loose_orderClause horder,
      List.forall_mem_cons.mpr ⟨paging.loose_fragment, List.forall_mem_nil _⟩⟩

end

end SqlComposer
