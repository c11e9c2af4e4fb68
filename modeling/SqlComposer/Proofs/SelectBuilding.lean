import SqlComposer.Proofs.Numbering
import SqlComposer.Proofs.SelectAcceptance

/-! # Selects are built from well-formed calls

    A draft that allows all calls holds in the end what the calls say, and the last checks are about
    this.  So building gives the select that the calls stand for, or fails when they are not
    well-formed.

    * **`SelectDraft.blocks_extendAll`** — the blocks of a draft after calls are the blocks of the
      segments: a union closes the block before it, and no later call reaches a closed block.
    * **`Lock.extendAll_eq`** — the lock after calls that have room, with its wait.
    * **`Select.build_eq_ok_iff`** — building is the run and the last checks.
    * **`Select.build_iff_wellFormed`** — the result, with the counts as they are rendered. -/

namespace SqlComposer

/-! ## Blocks -/

/-- Blocks that unions have closed, put before other blocks. -/
def closedBefore : List (QueryBlock × UnionKind) → QueryBlock × List (UnionKind × QueryBlock) →
    QueryBlock × List (UnionKind × QueryBlock)
  | [], behind => behind
  | (block, kind) :: rest, behind =>
    (block, (kind, (closedBefore rest behind).1) :: (closedBefore rest behind).2)

/-- The blocks behind unions are what comes behind the closed ones. -/
theorem unionsBehind_eq (closed : List (QueryBlock × UnionKind)) (last : QueryBlock) :
    unionsBehind closed last = closedBefore closed (last, []) := by
  induction closed with
  | nil => rfl
  | cons block rest ih =>
      rw [unionsBehind, closedBefore, ih]

/-- A block that is closed last comes right before what follows. -/
theorem closedBefore_append_singleton (closed : List (QueryBlock × UnionKind)) (block : QueryBlock)
    (kind : UnionKind) (behind : QueryBlock × List (UnionKind × QueryBlock)) :
    closedBefore (closed ++ [(block, kind)]) behind =
      closedBefore closed (block, (kind, behind.1) :: behind.2) := by
  induction closed with
  | nil => rfl
  | cons first rest ih =>
      rw [List.cons_append, closedBefore, closedBefore, ih]

/-- Moving the unions keeps the blocks. -/
theorem blocks_unionsBehind (closed : List (QueryBlock × UnionKind)) (last : QueryBlock) :
    (unionsBehind closed last).1 :: (unionsBehind closed last).2.map (·.2) =
      closed.map (·.1) ++ [last] := by
  induction closed with
  | nil => rfl
  | cons block rest ih =>
      rw [unionsBehind, List.map_cons, ih]
      rfl

/-- The first segment has the columns that the cut begins with. -/
theorem Select.segments_first (distinct : Bool) (columns : List Expr) (calls : List SelectCall) :
    (segments distinct columns calls).1 =
      ⟨distinct, columns, (segments distinct columns calls).1.calls⟩ := by
  induction calls with
  | nil => rfl
  | cons call rest ih =>
      cases hunion : call.union? with
      | none =>
          rw [segments_cons hunion, ih]
      | some begun =>
          obtain ⟨kind, nextDistinct, nextColumns⟩ := begun
          rw [segments_cons_union hunion]

/-- The block of the first segment is made of the columns that the cut begins with. -/
theorem Select.block_segments_first (distinct : Bool) (columns : List Expr)
    (calls : List SelectCall) :
    (segments distinct columns calls).1.block =
      (QueryBlock.ofColumns distinct columns).extendAll
        (segments distinct columns calls).1.calls := by
  rw [Segment.block_eq, segments_first]

namespace SelectDraft

theorem closed_extend (d : SelectDraft) {call : SelectCall} (h : call.union? = none) :
    (d.extend call).closed = d.closed := by
  rw [extend_eq, extendBlocks, h]

theorem closed_extend_union (d : SelectDraft) {call : SelectCall} {kind : UnionKind}
    {distinct : Bool} {columns : List Expr} (h : call.union? = some (kind, distinct, columns)) :
    (d.extend call).closed = d.closed ++ [(d.current, kind)] := by
  rw [extend_eq, extendBlocks, h]
  rfl

/-- The blocks after calls: the closed ones, the current one with the calls up to the first union,
    and one for each segment behind it. -/
theorem blocks_extendAll (d : SelectDraft) (calls : List SelectCall) :
    unionsBehind (d.extendAll calls).closed (d.extendAll calls).current =
      closedBefore d.closed
        (d.current.extendAll (Select.segments d.current.distinct d.current.columns calls).1.calls,
          (Select.segments d.current.distinct d.current.columns calls).2.map
            fun begun => (begun.1, begun.2.block)) := by
  induction calls generalizing d with
  | nil => exact unionsBehind_eq _ _
  | cons call rest ih =>
      rw [extendAll_cons, ih, current_extend]
      cases hunion : call.union? with
      | none =>
          rw [d.closed_extend hunion, Select.segments_cons hunion, QueryBlock.next_of_call hunion]
          rfl
      | some begun =>
          obtain ⟨kind, distinct, columns⟩ := begun
          rw [d.closed_extend_union hunion, Select.segments_cons_union hunion,
            QueryBlock.next_of_union hunion, closedBefore_append_singleton]
          show closedBefore d.closed (d.current,
            (kind, (QueryBlock.ofColumns distinct columns).extendAll
              (Select.segments distinct columns rest).1.calls) :: _) = _
          rw [← Select.block_segments_first]
          rfl

/-! ## Order, paging, lock and configuration -/

theorem orderBy_extendAll (d : SelectDraft) (calls : List SelectCall) :
    (d.extendAll calls).orderBy = d.orderBy ++ calls.flatMap (·.sortSpecs) := by
  induction calls generalizing d with
  | nil => simp
  | cons call rest ih =>
      rw [extendAll_cons, ih, extend_eq, List.flatMap_cons, List.append_assoc]

/-- The configurations of all calls are applied in their order. -/
theorem config_extendAll (d : SelectDraft) (calls : List SelectCall) :
    (d.extendAll calls).config = d.config.applyAll (calls.flatMap (·.configCalls)) := by
  induction calls generalizing d with
  | nil => rfl
  | cons call rest ih =>
      rw [extendAll_cons, ih, extend_eq, List.flatMap_cons]
      exact List.foldl_append.symm

/-- The last one that is there, among one more before others. -/
theorem getLast?_toList_append {α : Type} (first : Option α) (rest : List α) (held : Option α) :
    (first.toList ++ rest).getLast?.or held = rest.getLast?.or (first.or held) := by
  rw [List.getLast?_append, Option.or_assoc]
  cases first <;> rfl

/-- A count that is not present does not take away one that is. -/
theorem paging_extendAll (d : SelectDraft) (calls : List SelectCall) :
    (d.extendAll calls).paging =
      ⟨(calls.filterMap (·.limit?)).getLast?.or d.paging.limit,
        (calls.filterMap (·.offset?)).getLast?.or d.paging.offset,
        (calls.filterMap (·.fetchFirst?)).getLast?.or d.paging.fetchFirst⟩ := by
  induction calls generalizing d with
  | nil => rfl
  | cons call rest ih =>
      rw [extendAll_cons, ih, extend_eq]
      simp only [filterMap_cons_eq_append, getLast?_toList_append, Paging.extend]

theorem lock_extendAll (d : SelectDraft) (calls : List SelectCall) :
    (d.extendAll calls).lock = calls.foldl Lock.extend? d.lock := by
  induction calls generalizing d with
  | nil => rfl
  | cons call rest ih =>
      rw [extendAll_cons, ih, lock_extend, List.foldl_cons]

end SelectDraft

/-- A lock that is there gets the first wait that it has not. -/
theorem Lock.extendAll_some (mode : LockMode) (wait : Option LockWait) (calls : List SelectCall) :
    calls.foldl extend? (some ⟨mode, wait⟩) =
      some ⟨mode, wait.or (calls.filterMap (·.wait?)).head?⟩ := by
  induction calls generalizing wait with
  | nil => simp
  | cons call rest ih =>
      have hstep : extend? (some ⟨mode, wait⟩) call = some ⟨mode, wait.or call.wait?⟩ := rfl
      rw [List.foldl_cons, hstep, ih, filterMap_cons_eq_append, List.head?_append,
        Option.head?_toList, Option.or_assoc]

/-- The first lock gets the first wait, when no wait stands before it. -/
theorem Lock.extendAll_eq {calls : List SelectCall} (h : Select.WaitsBehindLock calls) :
    calls.foldl extend? none =
      (calls.filterMap (·.lockMode?)).head?.map fun mode =>
        ⟨mode, (calls.filterMap (·.wait?)).head?⟩ := by
  induction calls with
  | nil => rfl
  | cons call rest ih =>
      obtain ⟨hwait, hrest⟩ := (Select.waitsBehindLock_cons call rest).mp h
      rw [List.foldl_cons, List.filterMap_cons_none hwait]
      cases hmode : call.lockMode? with
      | none =>
          have hstep : extend? none call = none := by
            rw [extend?, hmode]
            rfl
          rw [hstep, ih (hrest hmode), List.filterMap_cons_none hmode]
      | some mode =>
          have hstep : extend? none call = some ⟨mode, none⟩ := by
            rw [extend?, hmode, hwait]
            rfl
          rw [hstep, extendAll_some, List.filterMap_cons_some hmode]
          rfl

/-! ## The last checks -/

/-- The last checks are about the columns of the blocks and about the counts. -/
theorem SelectDraft.finish_eq_ok_iff {d : SelectDraft} {select : Select} :
    d.finish = .ok select ↔
      (∀ block ∈ d.closed.map (·.1) ++ [d.current], block.columns ≠ []) ∧
        (d.paging.limit = none ∨ d.paging.fetchFirst = none) ∧
        ⟨(unionsBehind d.closed d.current).1, (unionsBehind d.closed d.current).2, d.orderBy,
          d.paging, d.lock, d.config⟩ = select := by
  rw [finish]
  by_cases hcolumns : ∀ block ∈ d.closed.map (·.1) ++ [d.current], block.columns ≠ []
  · have hany : ¬(d.closed.map (·.1) ++ [d.current]).any (·.columns.isEmpty) = true := by
      rw [List.any_eq_true]
      rintro ⟨block, hblock, hempty⟩
      exact hcolumns block hblock (List.isEmpty_iff.mp hempty)
    rw [if_neg hany]
    by_cases hpaging : d.paging.limit = none ∨ d.paging.fetchFirst = none
    · have hcheck : d.paging.check = .ok () := by
        rw [Paging.check, if_neg]
        rcases hpaging with hlimit | hfetch
        · simp [hlimit]
        · simp [hfetch]
      rw [hcheck]
      exact ⟨fun h => ⟨hcolumns, hpaging, Except.ok.inj h⟩, fun h => congrArg Except.ok h.2.2⟩
    · have hcheck : d.paging.check = .error .limitAndFetchFirst := by
        obtain ⟨hlimit, hfetch⟩ := not_or.mp hpaging
        rw [Paging.check, if_pos]
        simp [Option.isSome_iff_ne_none, hlimit, hfetch]
      rw [hcheck]
      refine ⟨?_, fun h => absurd h.2.1 hpaging⟩
      intro h
      cases h
  · have hany : (d.closed.map (·.1) ++ [d.current]).any (·.columns.isEmpty) = true := by
      simpa using hcolumns
    rw [if_pos hany]
    refine ⟨?_, fun h => absurd h.1 hcolumns⟩
    intro h
    cases h

namespace Select

/-- Building is the run of the calls and the last checks. -/
theorem build_eq_ok_iff {distinct : Bool} {columns : List Expr} {calls : List SelectCall}
    {select : Select} :
    build distinct columns calls = .ok select ↔
      (SelectDraft.ofColumns distinct columns).AllowsAll calls ∧
        ((SelectDraft.ofColumns distinct columns).extendAll calls).finish = .ok select := by
  show (SelectCall.applyAll calls (.start (.ofColumns distinct columns))).finish _ = _ ↔ _
  constructor
  · intro h
    cases hmisuse : (SelectCall.applyAll calls (.start (.ofColumns distinct columns))).misuse with
    | some cause =>
        rw [Composing.finish, hmisuse] at h
        cases h
    | none =>
        have hallows := (SelectDraft.misuse_eq_none_iff _ _).mp hmisuse
        rw [SelectDraft.run_eq hallows] at h
        exact ⟨hallows, h⟩
  · rintro ⟨hallows, h⟩
    rw [SelectDraft.run_eq hallows]
    exact h

/-- The blocks that a select draft of columns has after calls are those of the segments. -/
theorem blocks_ofCalls (distinct : Bool) (columns : List Expr) (calls : List SelectCall) :
    unionsBehind ((SelectDraft.ofColumns distinct columns).extendAll calls).closed
        ((SelectDraft.ofColumns distinct columns).extendAll calls).current =
      ((ofCalls distinct columns calls).first, (ofCalls distinct columns calls).unions) := by
  rw [SelectDraft.blocks_extendAll]
  show (QueryBlock.extendAll (QueryBlock.ofColumns distinct columns) _, _) = _
  rw [ofCalls, block_segments_first]
  rfl

/-- Every segment has a column when every block has. -/
theorem selects_iff (distinct : Bool) (columns : List Expr) (calls : List SelectCall) :
    (∀ block ∈ ((SelectDraft.ofColumns distinct columns).extendAll calls).closed.map (·.1) ++
        [((SelectDraft.ofColumns distinct columns).extendAll calls).current], block.columns ≠ []) ↔
      ∀ s ∈ segmentList distinct columns calls, s.columns ≠ [] := by
  have hblocks : ((SelectDraft.ofColumns distinct columns).extendAll calls).closed.map (·.1) ++
      [((SelectDraft.ofColumns distinct columns).extendAll calls).current] =
        (segmentList distinct columns calls).map Segment.block := by
    rw [← blocks_unionsBehind, blocks_ofCalls, ofCalls, segmentList, List.map_cons, List.map_map,
      List.map_map]
    rfl
  rw [hblocks, List.forall_mem_map]
  rfl

/-- The draft of columns allows all calls that have what they need, when there is one of each. -/
theorem allowsAll_ofColumns_iff (distinct : Bool) (columns : List Expr) (calls : List SelectCall) :
    (SelectDraft.ofColumns distinct columns).AllowsAll calls ↔
      (∀ call ∈ calls, call.Composes) ∧ (∀ call ∈ calls, call.HasItems) ∧
        (∀ s ∈ segmentList distinct columns calls, s.Single) ∧
        (calls.filterMap (·.lockMode?)).length ≤ 1 ∧ (calls.filterMap (·.wait?)).length ≤ 1 ∧
        WaitsBehindLock calls := by
  rw [SelectDraft.allowsAll_iff]
  have hblocks : (SelectDraft.ofColumns distinct columns).current.RoomInAll calls ↔
      ∀ s ∈ segmentList distinct columns calls, s.Single := by
    rw [segmentList, List.forall_mem_cons, List.forall_mem_map]
    exact and_congr_left fun _ => QueryBlock.room_ofColumns distinct columns _
  have hlock : Lock.Room (SelectDraft.ofColumns distinct columns).lock calls ↔
      (calls.filterMap (·.lockMode?)).length ≤ 1 ∧ (calls.filterMap (·.wait?)).length ≤ 1 ∧
        WaitsBehindLock calls :=
    ⟨fun h => ⟨h.modes, h.waits, h.behind rfl⟩, fun h => ⟨h.1, h.2.1, fun _ => h.2.2⟩⟩
  rw [hblocks, hlock]

theorem paging_ofCalls (distinct : Bool) (columns : List Expr) (calls : List SelectCall) :
    ((SelectDraft.ofColumns distinct columns).extendAll calls).paging =
      (ofCalls distinct columns calls).paging := by
  rw [SelectDraft.paging_extendAll, ofCalls]
  simp [SelectDraft.ofColumns]

/-- What the draft of columns holds after calls is the select that the calls stand for. -/
theorem draft_eq_ofCalls (distinct : Bool) (columns : List Expr) {calls : List SelectCall}
    (h : WaitsBehindLock calls) {d : SelectDraft}
    (hd : d = (SelectDraft.ofColumns distinct columns).extendAll calls) :
    ⟨(unionsBehind d.closed d.current).1, (unionsBehind d.closed d.current).2, d.orderBy, d.paging,
      d.lock, d.config⟩ = ofCalls distinct columns calls := by
  have hlock : calls.foldl Lock.extend? (SelectDraft.ofColumns distinct columns).lock =
      (ofCalls distinct columns calls).lock := Lock.extendAll_eq h
  rw [hd, blocks_ofCalls, SelectDraft.orderBy_extendAll, SelectDraft.config_extendAll,
    SelectDraft.lock_extendAll, paging_ofCalls, hlock]
  rfl

/-- Calls are accepted when their parts compose and they are well-formed, and then they give the
    select that they stand for. -/
theorem build_eq_ok_iff_wellFormed {distinct : Bool} {columns : List Expr} {calls : List SelectCall}
    {select : Select} :
    build distinct columns calls = .ok select ↔
      (∀ call ∈ calls, call.Composes) ∧ WellFormed distinct columns calls ∧
        ofCalls distinct columns calls = select := by
  have hpaging : (ofCalls distinct columns calls).paging.limit = none ∨
      (ofCalls distinct columns calls).paging.fetchFirst = none ↔
        calls.filterMap (·.limit?) = [] ∨ calls.filterMap (·.fetchFirst?) = [] :=
    or_congr List.getLast?_eq_none_iff List.getLast?_eq_none_iff
  rw [build_eq_ok_iff, allowsAll_ofColumns_iff, SelectDraft.finish_eq_ok_iff, selects_iff,
    paging_ofCalls, hpaging]
  constructor
  · rintro ⟨⟨hcomposes, hitems, hsingle, hlock, hwait, hbehind⟩, hselects, hcounts, hselect⟩
    refine ⟨hcomposes, ⟨hselects, hsingle, hitems, hlock, hwait, hbehind, hcounts⟩, ?_⟩
    rw [← hselect, ← paging_ofCalls, draft_eq_ofCalls distinct columns hbehind rfl]
  · rintro ⟨hcomposes, ⟨hselects, hsingle, hitems, hlock, hwait, hbehind, hcounts⟩, hselect⟩
    refine ⟨⟨hcomposes, hitems, hsingle, hlock, hwait, hbehind⟩, hselects, hcounts, ?_⟩
    rw [← hselect, ← paging_ofCalls, draft_eq_ofCalls distinct columns hbehind rfl]

end Select

/-! ## Counts -/

theorem Fragment.values_countClause (before : String) (count : Option Int64) (behind : String) :
    (countClause before count behind).values = count.toList.map Value.bigInt := by
  cases count <;> rfl

/-- The counts of a paging as values. -/
def Paging.counts (paging : Paging) : List Value :=
  (paging.limit.toList ++ paging.offset.toList ++ paging.fetchFirst.toList).map Value.bigInt

/-- Every count has one place, unless the limit hides the count of first rows. -/
theorem Paging.values_fragment {paging : Paging}
    (h : paging.limit = none ∨ paging.fetchFirst = none) :
    paging.fragment.values = paging.counts := by
  obtain ⟨limit, offset, fetchFirst⟩ := paging
  rw [fragment, counts]
  cases limit with
  | none =>
      rw [if_neg (by simp), Fragment.values_spaced]
      simp [Fragment.values_countClause]
  | some n =>
      obtain rfl : fetchFirst = none := h.resolve_left (Option.some_ne_none _)
      rw [if_pos (by rfl), Fragment.values_spaced]
      simp [Fragment.values_countClause]

/-- A select binds the counts of its paging behind all that it binds without them. -/
theorem Select.values_of_paging {select : Select}
    (h : select.paging.limit = none ∨ select.paging.fetchFirst = none) {strategy : Strategy}
    {r : Rendered} (hr : (Statement.select select).rendered strategy = .ok r) :
    ∃ r₀, (Statement.select { select with paging := {} }).rendered strategy = .ok r₀ ∧
      r.parameters.values = r₀.parameters.values ++ select.paging.counts := by
  obtain ⟨first, unions, orderBy, paging, lock, config⟩ := select
  obtain ⟨f, hf, rfl⟩ := Statement.exists_fragment hr
  obtain ⟨block, hblock, hf⟩ := exists_of_bind_ok hf
  obtain ⟨blocks, hblocks, hf⟩ := exists_of_bind_ok hf
  cases hf
  have hnone : ({} : Paging).fragment.values = [] := Paging.values_fragment (.inl rfl)
  have hlock : ((lockClause lock).map Fragment.ofText).flatMap Fragment.values = [] := by
    simp [Fragment.ofText, Fragment.values]
  have hbare : Select.fragment ⟨first, unions, orderBy, {}, lock, config⟩ [] =
      .ok (config.wrapped (Fragment.spaced (block :: blocks ++
        [Fragment.ofText (orderClause orderBy), ({} : Paging).fragment] ++
          (lockClause lock).map Fragment.ofText))) := by
    rw [Select.fragment, hblock, hblocks]
    rfl
  refine ⟨_, (Statement.rendered_eq _ _).trans (congrArg (Except.map _) hbare), ?_⟩
  rw [Fragment.rendered_values, Fragment.rendered_values, Config.values_wrapped,
    Config.values_wrapped, Fragment.values_spaced, Fragment.values_spaced,
    ← Paging.values_fragment h]
  simp [List.flatMap_append, hnone, hlock]

/-- **Selects are built from well-formed calls.**  Calls compose a select exactly when the parts
    that are nested in them compose and they are well-formed.  The select is then the one that the
    calls stand for: every query block is made of its own segment, and order, paging, lock and
    configuration of the calls of all segments.  Each count that it holds has one place in its
    paging, and is bound behind all that it binds without them. -/
theorem Select.build_iff_wellFormed (distinct : Bool) (columns : List Expr)
    (calls : List SelectCall) :
    ((∃ select, build distinct columns calls = .ok select) ↔
      (∀ call ∈ calls, call.Composes) ∧ WellFormed distinct columns calls) ∧
    ∀ select, build distinct columns calls = .ok select →
      select = ofCalls distinct columns calls ∧
      (∃ pattern : Pattern, pattern.places.length = select.paging.counts.length ∧
        ∀ c, (select.paging.render.outcome c).1 =
          .ok (pattern.first ++ c.strategy.fill c.nextNumber pattern.places)) ∧
      ∀ strategy r, (Statement.select select).rendered strategy = .ok r →
        ∃ r₀, (Statement.select { select with paging := {} }).rendered strategy = .ok r₀ ∧
          r.parameters.values = r₀.parameters.values ++ select.paging.counts := by
  constructor
  · constructor
    · rintro ⟨select, h⟩
      obtain ⟨hcomposes, hwell, -⟩ := build_eq_ok_iff_wellFormed.mp h
      exact ⟨hcomposes, hwell⟩
    · rintro ⟨hcomposes, hwell⟩
      exact ⟨_, build_eq_ok_iff_wellFormed.mpr ⟨hcomposes, hwell, rfl⟩⟩
  · intro select h
    obtain ⟨-, hwell, rfl⟩ := build_eq_ok_iff_wellFormed.mp h
    have hpaging : (ofCalls distinct columns calls).paging.limit = none ∨
        (ofCalls distinct columns calls).paging.fetchFirst = none :=
      hwell.paging.imp List.getLast?_eq_none_iff.mpr List.getLast?_eq_none_iff.mpr
    refine ⟨rfl, ⟨(ofCalls distinct columns calls).paging.fragment.pattern, ?_, ?_⟩, ?_⟩
    · rw [← Fragment.length_values, Paging.values_fragment hpaging]
    · intro c
      rw [Paging.render_outcome, Fragment.write_fst]
    · intro strategy r hr
      exact values_of_paging hpaging hr

/-- The calls of a union: the second block has its own source, and the lock, its wait and the limit
    are for both. -/
def lockedUnion : List SelectCall :=
  [.source "t" none, .limit (some 2), .union .unionAll false [.countAll], .source "u" (some "x"),
    .lock .update, .limit none, .wait .skipLocked]

/-- A union is composed by its calls, and the count that is not present leaves the limit; a wait
    without a lock is refused. -/
theorem Select.build_iff_wellFormed_union :
    (∃ select, build false [.countAll] lockedUnion = .ok select ∧
      select = ofCalls false [.countAll] lockedUnion ∧ select.unions.length = 1 ∧
      select.paging.limit = some 2 ∧ select.lock = some ⟨.update, some .skipLocked⟩) ∧
    ¬∃ select, build false [.countAll] [.wait .nowait] = .ok select := by
  constructor
  · obtain ⟨-, hmodel⟩ := Select.build_iff_wellFormed false [.countAll] lockedUnion
    exact ⟨_, rfl, (hmodel _ rfl).1, rfl, rfl, rfl⟩
  · rw [(Select.build_iff_wellFormed false [.countAll] [.wait .nowait]).1]
    rintro ⟨-, hwell⟩
    obtain ⟨mode, hmode⟩ := hwell.behind [] .nowait [] rfl
    cases hmode

end SqlComposer
