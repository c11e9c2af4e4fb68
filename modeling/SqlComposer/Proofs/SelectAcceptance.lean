import SqlComposer.Proofs.SelectSegments

/-! # Which calls compose a select

    Building a select runs its calls on a draft, where a call may be refused for what the draft
    holds.  What the draft holds is what the calls before it said, so a run without refusal can be
    told from the list of calls alone.

    * **`SelectCall.apply_of_allowed`**, **`SelectCall.allowed_of_apply`** — the step: a call that
      the draft allows extends it, and any other call is a misuse.
    * **`SelectDraft.run_eq`**, **`SelectDraft.misuse_eq_none_iff`** — the run, by induction.
    * **`SelectDraft.allowsAll_iff`** — a draft allows all calls of a list when there is room for
      them behind what it holds: in its blocks (`QueryBlock.roomInAll_cons`) and for locks and waits
      (`Lock.room_cons`). -/

namespace SqlComposer

/-! ## One call -/

/-- A block allows a call: it is not given a second source or clause. -/
structure QueryBlock.Allows (b : QueryBlock) (call : SelectCall) : Prop where
  source : b.source = none ∨ call.source? = none
  filter : b.filter = none ∨ call.filter? = none
  having : b.having = none ∨ call.having? = none

/-- A lock allows a call: it is the only one, and gets one wait. -/
structure Lock.Allows (lock : Option Lock) (call : SelectCall) : Prop where
  mode : lock = none ∨ call.lockMode? = none
  wait : call.wait? = none ∨ ∃ mode, lock = some ⟨mode, none⟩

/-- A block allows every call that gives it nothing of what it has one of. -/
theorem QueryBlock.Allows.other {b : QueryBlock} {call : SelectCall}
    (hsource : call.source? = none) (hfilter : call.filter? = none)
    (hhaving : call.having? = none) : b.Allows call :=
  ⟨.inr hsource, .inr hfilter, .inr hhaving⟩

/-- A lock allows every call that is neither a lock nor a wait. -/
theorem Lock.Allows.other {lock : Option Lock} {call : SelectCall}
    (hmode : call.lockMode? = none) (hwait : call.wait? = none) : Allows lock call :=
  ⟨.inr hmode, .inl hwait⟩

/-- A draft allows a call. -/
structure SelectDraft.Allows (d : SelectDraft) (call : SelectCall) : Prop where
  composes : call.Composes
  items : call.HasItems
  block : d.current.Allows call
  lock : Lock.Allows d.lock call

namespace Composing

variable {σ α : Type} {d : σ}

/-- A step that is not refused changes the draft. -/
theorem step_start {change : σ → Except InvalidSql σ} {d' : σ} (h : change d = .ok d') :
    (start d).step change = start d' := by
  have hdraft : change (start d).draft = .ok d' := h
  unfold step
  rw [hdraft]
  rfl

/-- Where no misuse is noted, the step was not refused. -/
theorem misuse_step_start {change : σ → Except InvalidSql σ}
    (h : ((start d).step change).misuse = none) : ∃ d', change d = .ok d' := by
  cases hc : change d with
  | ok d' => exact ⟨d', rfl⟩
  | error cause =>
      have hdraft : change (start d).draft = .error cause := hc
      unfold step at h
      rw [hdraft] at h
      cases h

/-- A part that can be built is used. -/
theorem withPart_start {part : Except InvalidSql α} {use : α → Composing σ → Composing σ} {a : α}
    {c : Composing σ} (hpart : part = .ok a) (huse : use a (start d) = c) :
    (start d).withPart part use = c := by
  rw [hpart]
  exact huse

/-- Where no misuse is noted, the part could be built and its use was none either. -/
theorem misuse_withPart_start {part : Except InvalidSql α} {use : α → Composing σ → Composing σ}
    (h : ((start d).withPart part use).misuse = none) :
    ∃ a, part = .ok a ∧ (use a (start d)).misuse = none := by
  cases part with
  | ok a => exact ⟨a, rfl, h⟩
  | error cause => cases h

end Composing

/-- What has to be absent and is does no harm. -/
theorem requireAbsent_of_none {α : Type} {cause : InvalidSql} {item : Option α}
    (h : item = none) : requireAbsent cause item = .ok () := by
  rw [h]
  rfl

theorem requireItem_of_ne_nil {α : Type} {cause : InvalidSql} {items : List α} (h : items ≠ []) :
    requireItem cause items = .ok () := by
  rw [requireItem, if_neg (by simpa using h)]

/-- A block without a source may be given one. -/
theorem SelectDraft.setSource_of_none {d : SelectDraft} (h : d.current.source = none)
    (source : Source) :
    d.setSource source =
      .ok { d with current := { d.current with source := d.current.source.or (some source) } } := by
  rw [setSource, requireAbsent_of_none h, h]
  rfl

/-- A join with criteria is added. -/
theorem SelectDraft.addJoin_of_item {d : SelectDraft} {on : CriteriaGroup}
    (h : on.isEmpty = false) (type : JoinType) (source : Source) :
    d.addJoin type source on =
      .ok { d with current :=
        { d.current with joins := d.current.joins ++ [⟨type, source, on⟩] } } := by
  rw [addJoin, if_neg (by simp [h])]

/-- A call that a draft allows extends it. -/
theorem SelectCall.apply_of_allowed {call : SelectCall} {d : SelectDraft} (h : d.Allows call) :
    call.apply (.start d) = .start (d.extend call) := by
  obtain ⟨hcomposes, hitems, ⟨hsource, hfilter, hhaving⟩, ⟨hmode, hwait⟩⟩ := h
  cases call with
  | source table aliasName =>
      have hnone : d.current.source = none := by simpa [source?] using hsource
      rw [apply]
      refine Composing.step_start ?_
      exact SelectDraft.setSource_of_none hnone _
  | sourceQuery query aliasName =>
      obtain ⟨select, hselect⟩ := hcomposes
      have hpart : (sourceQuery query aliasName).source? = some (.subquery select aliasName) := by
        rw [source?, hselect]
        rfl
      have hnone : d.current.source = none := by simpa [hpart] using hsource
      rw [apply, SelectDraft.extend, hpart]
      refine Composing.withPart_start hselect (Composing.step_start ?_)
      exact SelectDraft.setSource_of_none hnone _
  | join type table aliasName on =>
      obtain ⟨group, hgroup⟩ := hcomposes
      have hpart : (join type table aliasName on).join? =
          some ⟨type, .table table aliasName, group⟩ := by
        rw [join?, hgroup]
        rfl
      have hitem : group.isEmpty = false := hitems _ (by rw [hpart]; rfl)
      rw [apply, SelectDraft.extend, hpart]
      refine Composing.withPart_start hgroup (Composing.step_start ?_)
      exact SelectDraft.addJoin_of_item hitem _ _
  | joinQuery type query aliasName on =>
      obtain ⟨⟨select, hselect⟩, group, hgroup⟩ := hcomposes
      have hpart : (joinQuery type query aliasName on).join? =
          some ⟨type, .subquery select aliasName, group⟩ := by
        rw [join?, hselect, hgroup]
        rfl
      have hitem : group.isEmpty = false := hitems _ (by rw [hpart]; rfl)
      rw [apply, SelectDraft.extend, hpart]
      refine Composing.withPart_start hselect (Composing.withPart_start hgroup ?_)
      refine Composing.step_start ?_
      exact SelectDraft.addJoin_of_item hitem _ _
  | filter calls =>
      obtain ⟨group, hgroup⟩ := hcomposes
      have hpart : (filter calls).filter? = some group := by
        rw [filter?, hgroup]
        rfl
      have hnone : d.current.filter = none := by simpa [hpart] using hfilter
      rw [apply, if_neg (by simp [hnone, Composing.start]), SelectDraft.extend, hpart, hnone]
      exact Composing.withPart_start hgroup rfl
  | groupBy columns =>
      rw [apply]
      refine Composing.step_start ?_
      rw [requireItem_of_ne_nil hitems]
      rfl
  | having calls =>
      obtain ⟨group, hgroup⟩ := hcomposes
      have hpart : (having calls).having? = some group := by
        rw [having?, hgroup]
        rfl
      have hnone : d.current.having = none := by simpa [hpart] using hhaving
      rw [apply, if_neg (by simp [hnone, Composing.start]), SelectDraft.extend, hpart, hnone]
      exact Composing.withPart_start hgroup rfl
  | union kind distinct columns => rfl
  | orderBy specs =>
      rw [apply]
      refine Composing.step_start ?_
      rw [requireItem_of_ne_nil hitems]
      rfl
  | limit count => rfl
  | offset count => rfl
  | fetchFirst count => rfl
  | lock mode =>
      have hnone : d.lock = none := by simpa [lockMode?] using hmode
      rw [apply]
      refine Composing.step_start ?_
      rw [requireAbsent_of_none hnone, SelectDraft.extend, hnone]
      rfl
  | wait treatment =>
      obtain ⟨mode, hlock⟩ : ∃ mode, d.lock = some ⟨mode, none⟩ := by simpa [wait?] using hwait
      rw [apply]
      refine Composing.step_start ?_
      rw [SelectDraft.setWait, SelectDraft.extend, hlock]
      rfl
  | configure calls => rfl

/-- Where an item has to be absent and nothing is refused, it is absent. -/
theorem none_of_requireAbsent {α β : Type} {cause : InvalidSql} {item : Option α} {b b' : β}
    (h : (do requireAbsent cause item; return b) = Except.ok b') : item = none := by
  cases item with
  | none => rfl
  | some a => cases h

/-- Where an item is required and nothing is refused, there is one. -/
theorem ne_nil_of_requireItem {α β : Type} {cause : InvalidSql} {items : List α} {b b' : β}
    (h : (do requireItem cause items; return b) = Except.ok b') : items ≠ [] := by
  rintro rfl
  cases h

/-- A join that is added has criteria. -/
theorem SelectDraft.item_of_addJoin {d d' : SelectDraft} {type : JoinType} {source : Source}
    {on : CriteriaGroup} (h : d.addJoin type source on = .ok d') : on.isEmpty = false := by
  rw [addJoin] at h
  split at h
  · cases h
  · rename_i hitem
    simpa using hitem

/-- A wait that is accepted has a lock before it that does not wait yet. -/
theorem SelectDraft.lock_of_setWait {d d' : SelectDraft} {wait : LockWait}
    (h : d.setWait wait = .ok d') : ∃ mode, d.lock = some ⟨mode, none⟩ := by
  rw [setWait] at h
  split at h
  · cases h
  · cases h
  · rename_i mode hlock
    exact ⟨mode, hlock⟩

/-- A call that gives no join has what it needs of a join. -/
theorem SelectCall.item_of_no_join {call : SelectCall} (h : call.join? = none) :
    ∀ join ∈ call.join?, join.on.isEmpty = false := by
  intro join hjoin
  rw [h] at hjoin
  cases hjoin

/-- A call that is no misuse is allowed. -/
theorem SelectCall.allowed_of_apply {call : SelectCall} {d : SelectDraft}
    (h : (call.apply (.start d)).misuse = none) : d.Allows call := by
  cases call with
  | source table aliasName =>
      rw [apply] at h
      obtain ⟨d', hd⟩ := Composing.misuse_step_start h
      have hnone : d.current.source = none := none_of_requireAbsent hd
      exact ⟨trivial, item_of_no_join rfl, ⟨.inl hnone, .inr rfl, .inr rfl⟩, .other rfl rfl⟩
  | sourceQuery query aliasName =>
      rw [apply] at h
      obtain ⟨select, hselect, h⟩ := Composing.misuse_withPart_start h
      obtain ⟨d', hd⟩ := Composing.misuse_step_start h
      have hnone : d.current.source = none := none_of_requireAbsent hd
      exact ⟨⟨select, hselect⟩, item_of_no_join rfl, ⟨.inl hnone, .inr rfl, .inr rfl⟩,
        .other rfl rfl⟩
  | join type table aliasName on =>
      rw [apply] at h
      obtain ⟨group, hgroup, h⟩ := Composing.misuse_withPart_start h
      obtain ⟨d', hd⟩ := Composing.misuse_step_start h
      have hgroup : CriteriaGroup.build on = .ok group := hgroup
      refine ⟨⟨group, hgroup⟩, ?_, .other rfl rfl rfl, .other rfl rfl⟩
      intro join hjoin
      rw [join?, hgroup] at hjoin
      cases hjoin
      exact SelectDraft.item_of_addJoin hd
  | joinQuery type query aliasName on =>
      rw [apply] at h
      obtain ⟨select, hselect, h⟩ := Composing.misuse_withPart_start h
      obtain ⟨group, hgroup, h⟩ := Composing.misuse_withPart_start h
      obtain ⟨d', hd⟩ := Composing.misuse_step_start h
      have hselect : Select.ofSubquery query = .ok select := hselect
      have hgroup : CriteriaGroup.build on = .ok group := hgroup
      refine ⟨⟨⟨select, hselect⟩, group, hgroup⟩, ?_, .other rfl rfl rfl, .other rfl rfl⟩
      intro join hjoin
      rw [join?, hselect, hgroup] at hjoin
      cases hjoin
      exact SelectDraft.item_of_addJoin hd
  | filter calls =>
      rw [apply] at h
      split at h
      · cases h
      · rename_i hpresent
        obtain ⟨group, hgroup, -⟩ := Composing.misuse_withPart_start h
        have hnone : d.current.filter = none := by simpa [Composing.start] using hpresent
        exact ⟨⟨group, hgroup⟩, item_of_no_join rfl, ⟨.inr rfl, .inl hnone, .inr rfl⟩,
          .other rfl rfl⟩
  | groupBy columns =>
      rw [apply] at h
      obtain ⟨d', hd⟩ := Composing.misuse_step_start h
      exact ⟨trivial, ne_nil_of_requireItem hd, .other rfl rfl rfl, .other rfl rfl⟩
  | having calls =>
      rw [apply] at h
      split at h
      · cases h
      · rename_i hpresent
        obtain ⟨group, hgroup, -⟩ := Composing.misuse_withPart_start h
        have hnone : d.current.having = none := by simpa [Composing.start] using hpresent
        exact ⟨⟨group, hgroup⟩, item_of_no_join rfl, ⟨.inr rfl, .inr rfl, .inl hnone⟩,
          .other rfl rfl⟩
  | orderBy specs =>
      rw [apply] at h
      obtain ⟨d', hd⟩ := Composing.misuse_step_start h
      exact ⟨trivial, ne_nil_of_requireItem hd, .other rfl rfl rfl, .other rfl rfl⟩
  | lock mode =>
      rw [apply] at h
      obtain ⟨d', hd⟩ := Composing.misuse_step_start h
      have hnone : d.lock = none := none_of_requireAbsent hd
      exact ⟨trivial, item_of_no_join rfl, .other rfl rfl rfl, ⟨.inl hnone, .inl rfl⟩⟩
  | wait treatment =>
      rw [apply] at h
      obtain ⟨d', hd⟩ := Composing.misuse_step_start h
      have hlock : ∃ mode, d.lock = some ⟨mode, none⟩ := SelectDraft.lock_of_setWait hd
      exact ⟨trivial, item_of_no_join rfl, .other rfl rfl rfl, ⟨.inr rfl, .inr hlock⟩⟩
  | union _ _ _ | limit _ | offset _ | fetchFirst _ | configure _ =>
      exact ⟨trivial, item_of_no_join rfl, .other rfl rfl rfl, .other rfl rfl⟩

/-! ## All calls -/

namespace SelectDraft

/-- A draft allows calls one after the other. -/
def AllowsAll : SelectDraft → List SelectCall → Prop
  | _, [] => True
  | d, call :: rest => d.Allows call ∧ AllowsAll (d.extend call) rest

/-- A draft that allows all calls is extended by them. -/
theorem run_eq {d : SelectDraft} {calls : List SelectCall} (h : d.AllowsAll calls) :
    SelectCall.applyAll calls (.start d) = .start (d.extendAll calls) := by
  induction calls generalizing d with
  | nil => rfl
  | cons call rest ih =>
      obtain ⟨hcall, hrest⟩ := h
      rw [SelectCall.applyAll, SelectCall.apply_of_allowed hcall, ih hrest, extendAll_cons]

/-- Calls without a misuse are allowed one after the other. -/
theorem misuse_eq_none_iff (d : SelectDraft) (calls : List SelectCall) :
    (SelectCall.applyAll calls (.start d)).misuse = none ↔ d.AllowsAll calls := by
  constructor
  · intro h
    induction calls generalizing d with
    | nil => trivial
    | cons call rest ih =>
        rw [SelectCall.applyAll] at h
        -- a misuse of the first call would have been kept
        have hfirst : (call.apply (.start d)).misuse = none := by
          have hrecords : _ = _ := SelectCall.recordsAll rest (call.apply (.start d))
          rw [hrecords, Option.or_eq_none_iff] at h
          exact h.1
        have hcall := SelectCall.allowed_of_apply hfirst
        rw [SelectCall.apply_of_allowed hcall] at h
        exact ⟨hcall, ih _ h⟩
  · intro h
    rw [run_eq h]
    rfl

end SelectDraft

/-! ## Blocks -/

namespace Select

/-- A union begins a segment of its own. -/
theorem segments_cons_union {distinct : Bool} {columns : List Expr} {call : SelectCall}
    {kind : UnionKind} {nextDistinct : Bool} {nextColumns : List Expr}
    (h : call.union? = some (kind, nextDistinct, nextColumns)) (rest : List SelectCall) :
    segments distinct columns (call :: rest) =
      (⟨distinct, columns, []⟩, (kind, (segments nextDistinct nextColumns rest).1) ::
        (segments nextDistinct nextColumns rest).2) := by
  rw [segments, h]

/-- Any other call belongs to the first segment. -/
theorem segments_cons {distinct : Bool} {columns : List Expr} {call : SelectCall}
    (h : call.union? = none) (rest : List SelectCall) :
    segments distinct columns (call :: rest) =
      ({ (segments distinct columns rest).1 with
          calls := call :: (segments distinct columns rest).1.calls },
        (segments distinct columns rest).2) := by
  rw [segments, h]

end Select

namespace QueryBlock

/-- The current block after a call. -/
def next (b : QueryBlock) (call : SelectCall) : QueryBlock :=
  match call.union? with
  | some (_, distinct, columns) => .ofColumns distinct columns
  | none => b.extend call

theorem next_of_union {b : QueryBlock} {call : SelectCall} {kind : UnionKind} {distinct : Bool}
    {columns : List Expr} (h : call.union? = some (kind, distinct, columns)) :
    b.next call = .ofColumns distinct columns := by
  rw [next, h]

theorem next_of_call {b : QueryBlock} {call : SelectCall} (h : call.union? = none) :
    b.next call = b.extend call := by
  rw [next, h]

/-- Behind what a block holds, there is room for the calls of a segment. -/
structure Room (b : QueryBlock) (calls : List SelectCall) : Prop where
  sources : (b.source.toList ++ calls.filterMap (·.source?)).length ≤ 1
  filters : (b.filter.toList ++ calls.filterMap (·.filter?)).length ≤ 1
  havings : (b.having.toList ++ calls.filterMap (·.having?)).length ≤ 1

theorem room_nil (b : QueryBlock) : b.Room [] := by
  have hone : ∀ {α : Type} (held : Option α), (held.toList ++ []).length ≤ 1 := by
    intro α held
    cases held <;> simp
  exact ⟨hone _, hone _, hone _⟩

/-- There is room for calls if the first one is allowed and there is room for the others behind
    it. -/
theorem room_cons (b : QueryBlock) (call : SelectCall) (rest : List SelectCall) :
    b.Room (call :: rest) ↔ b.Allows call ∧ (b.extend call).Room rest := by
  constructor
  · rintro ⟨hsource, hfilter, hhaving⟩
    rw [filterMap_cons_eq_append, length_le_one_cons] at hsource hfilter hhaving
    exact ⟨⟨hsource.1, hfilter.1, hhaving.1⟩, ⟨hsource.2, hfilter.2, hhaving.2⟩⟩
  · rintro ⟨⟨hsource, hfilter, hhaving⟩, ⟨hsources, hfilters, hhavings⟩⟩
    constructor
    · rw [filterMap_cons_eq_append, length_le_one_cons]
      exact ⟨hsource, hsources⟩
    · rw [filterMap_cons_eq_append, length_le_one_cons]
      exact ⟨hfilter, hfilters⟩
    · rw [filterMap_cons_eq_append, length_le_one_cons]
      exact ⟨hhaving, hhavings⟩

/-- A segment has one of each when a block of columns alone has room for it. -/
theorem room_ofColumns (distinct : Bool) (columns : List Expr) (s : Segment) :
    (ofColumns distinct columns).Room s.calls ↔ s.Single :=
  ⟨fun h => ⟨h.sources, h.filters, h.havings⟩, fun h => ⟨h.sources, h.filters, h.havings⟩⟩

/-- There is room for the calls up to the first union behind what a block holds, and for those
    behind it in blocks of their own. -/
def RoomInAll (b : QueryBlock) (calls : List SelectCall) : Prop :=
  b.Room (Select.segments b.distinct b.columns calls).1.calls ∧
    ∀ s ∈ (Select.segments b.distinct b.columns calls).2, s.2.Single

/-- The same holds across unions, where the block is the next one. -/
theorem roomInAll_cons (b : QueryBlock) (call : SelectCall) (rest : List SelectCall) :
    b.RoomInAll (call :: rest) ↔ b.Allows call ∧ (b.next call).RoomInAll rest := by
  cases hunion : call.union? with
  | none =>
      rw [next_of_call hunion, RoomInAll, Select.segments_cons hunion, room_cons, and_assoc]
      rfl
  | some begun =>
      obtain ⟨kind, distinct, columns⟩ := begun
      obtain rfl : call = .union kind distinct columns := by
        cases call <;> cases hunion
        rfl
      have hallows : b.Allows (.union kind distinct columns) := .other rfl rfl rfl
      rw [next_of_union hunion, RoomInAll, Select.segments_cons_union hunion]
      constructor
      · rintro ⟨-, hothers⟩
        obtain ⟨hnext, hothers⟩ := List.forall_mem_cons.mp hothers
        exact ⟨hallows, (room_ofColumns distinct columns _).mpr hnext, hothers⟩
      · rintro ⟨-, hnext, hothers⟩
        refine ⟨b.room_nil, List.forall_mem_cons.mpr ⟨?_, hothers⟩⟩
        exact (room_ofColumns distinct columns _).mp hnext

end QueryBlock

/-! ## Locks -/

/-- A first call is no wait, and if it is no lock, one is among the others before a wait. -/
theorem Select.waitsBehindLock_cons (call : SelectCall) (rest : List SelectCall) :
    WaitsBehindLock (call :: rest) ↔
      call.wait? = none ∧ (call.lockMode? = none → WaitsBehindLock rest) := by
  constructor
  · intro h
    constructor
    · cases call with
      | wait treatment =>
          obtain ⟨mode, hm⟩ := h [] treatment rest rfl
          cases hm
      | _ => rfl
    · intro hmode before wait behind heq
      obtain ⟨mode, hm⟩ := h (call :: before) wait behind (by rw [heq]; rfl)
      cases hm with
      | head => cases hmode
      | tail _ hm => exact ⟨mode, hm⟩
  · rintro ⟨hwait, hrest⟩ before wait behind heq
    cases before with
    | nil =>
        obtain ⟨rfl, -⟩ := List.cons.inj heq
        cases hwait
    | cons first before =>
        obtain ⟨rfl, htail⟩ := List.cons.inj heq
        cases hmode : call.lockMode? with
        | none =>
            obtain ⟨mode, hm⟩ := hrest hmode before wait behind htail
            exact ⟨mode, List.mem_cons_of_mem _ hm⟩
        | some mode =>
            obtain rfl : call = .lock mode := by
              cases call <;> cases hmode
              rfl
            exact ⟨mode, List.mem_cons_self ..⟩

namespace Lock

/-- Behind a lock that may be there already, there is room for the locks and waits of calls. -/
structure Room (lock : Option Lock) (calls : List SelectCall) : Prop where
  modes : ((lock.map (·.mode)).toList ++ calls.filterMap (·.lockMode?)).length ≤ 1
  waits : ((lock.bind (·.wait)).toList ++ calls.filterMap (·.wait?)).length ≤ 1
  behind : lock = none → Select.WaitsBehindLock calls

theorem room_nil (lock : Option Lock) : Room lock [] := by
  refine ⟨?_, ?_, ?_⟩
  · cases lock <;> simp
  · cases lock.bind (·.wait) <;> simp
  · intro _ before wait behind heq
    cases before <;> cases heq

/-- There is room for locks and waits if the first call is allowed and there is room for the others
    behind it. -/
theorem room_cons (lock : Option Lock) (call : SelectCall) (rest : List SelectCall) :
    Room lock (call :: rest) ↔ Allows lock call ∧ Room (extend? lock call) rest := by
  cases lock with
  | some held =>
      obtain ⟨mode, wait⟩ := held
      constructor
      · rintro ⟨hmodes, hwaits, -⟩
        rw [filterMap_cons_eq_append, length_le_one_cons] at hmodes hwaits
        refine ⟨⟨.inr ?_, ?_⟩, ⟨hmodes.2, hwaits.2, ?_⟩⟩
        · exact hmodes.1.resolve_left (Option.some_ne_none _)
        · rcases hwaits.1 with hwait | hwait
          · exact .inr ⟨mode, by rw [← hwait]; rfl⟩
          · exact .inl hwait
        · intro hlock
          exact absurd hlock (Option.some_ne_none _)
      · rintro ⟨⟨hmode, hwait⟩, ⟨hmodes, hwaits, -⟩⟩
        refine ⟨?_, ?_, fun hlock => absurd hlock (Option.some_ne_none _)⟩
        · rw [filterMap_cons_eq_append, length_le_one_cons]
          exact ⟨.inr (hmode.resolve_left (Option.some_ne_none _)), hmodes⟩
        · rw [filterMap_cons_eq_append, length_le_one_cons]
          refine ⟨?_, hwaits⟩
          rcases hwait with hwait | ⟨_, hlock⟩
          · exact .inr hwait
          · cases hlock
            exact .inl rfl
  | none =>
      -- without a lock a wait is not allowed, so a call leaves no wait to be held
      have hextend : call.wait? = none →
          (extend? none call).map (·.mode) = call.lockMode? ∧
            (extend? none call).bind (·.wait) = none ∧
            (extend? none call = none ↔ call.lockMode? = none) := by
        intro hwait
        rw [extend?, hwait]
        cases call.lockMode? <;> simp
      constructor
      · rintro ⟨hmodes, hwaits, hbehind⟩
        obtain ⟨hwait, hrest⟩ := (Select.waitsBehindLock_cons call rest).mp (hbehind rfl)
        obtain ⟨hmode, hnone, hlock⟩ := hextend hwait
        rw [filterMap_cons_eq_append] at hmodes hwaits
        rw [hwait] at hwaits
        refine ⟨⟨.inl rfl, .inl hwait⟩, ⟨?_, ?_, fun h => hrest (hlock.mp h)⟩⟩
        · rw [hmode]
          exact hmodes
        · rw [hnone]
          exact hwaits
      · rintro ⟨⟨-, hwait⟩, ⟨hmodes, hwaits, hbehind⟩⟩
        have hwait : call.wait? = none := by
          rcases hwait with hwait | ⟨mode, hlock⟩
          · exact hwait
          · cases hlock
        obtain ⟨hmode, hnone, hlock⟩ := hextend hwait
        rw [hmode] at hmodes
        rw [hnone] at hwaits
        refine ⟨?_, ?_, fun _ => ?_⟩
        · rw [filterMap_cons_eq_append]
          exact hmodes
        · rw [filterMap_cons_eq_append, hwait]
          exact hwaits
        · exact (Select.waitsBehindLock_cons call rest).mpr ⟨hwait, fun h => hbehind (hlock.mpr h)⟩

end Lock

/-! ## A whole run -/

namespace SelectDraft

theorem current_extend (d : SelectDraft) (call : SelectCall) :
    (d.extend call).current = d.current.next call := by
  rw [extend_eq, extendBlocks, QueryBlock.next]
  cases call.union? <;> rfl

theorem lock_extend (d : SelectDraft) (call : SelectCall) :
    (d.extend call).lock = Lock.extend? d.lock call := by
  rw [extend_eq]

/-- A draft allows all calls of a list when each of them has what it needs and there is room for
    them behind what the draft holds. -/
theorem allowsAll_iff (d : SelectDraft) (calls : List SelectCall) :
    d.AllowsAll calls ↔
      (∀ call ∈ calls, call.Composes) ∧ (∀ call ∈ calls, call.HasItems) ∧
        d.current.RoomInAll calls ∧ Lock.Room d.lock calls := by
  induction calls generalizing d with
  | nil =>
      have hcurrent : d.current.RoomInAll [] := by
        refine ⟨d.current.room_nil, ?_⟩
        intro s hs
        cases hs
      simp [AllowsAll, hcurrent, Lock.room_nil]
  | cons call rest ih =>
      rw [AllowsAll, ih, current_extend, lock_extend, List.forall_mem_cons, List.forall_mem_cons,
        QueryBlock.roomInAll_cons, Lock.room_cons]
      constructor
      · rintro ⟨⟨hcomposes, hitems, hblock, hlock⟩, hall, hallItems, hblocks, hlocks⟩
        exact ⟨⟨hcomposes, hall⟩, ⟨hitems, hallItems⟩, ⟨hblock, hblocks⟩, hlock, hlocks⟩
      · rintro ⟨⟨hcomposes, hall⟩, ⟨hitems, hallItems⟩, ⟨hblock, hblocks⟩, hlock, hlocks⟩
        exact ⟨⟨hcomposes, hitems, hblock, hlock⟩, hall, hallItems, hblocks, hlocks⟩

end SelectDraft

end SqlComposer
