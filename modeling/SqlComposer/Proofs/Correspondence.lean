import Mathlib.Data.List.Forall2
import SqlComposer.Proofs.StatementRealization

/-! # Results that correspond

    Two statements that are made of almost the same parts are rendered side by side.  `Corresponds`
    relates two results: they fail with one error, or both succeed and what they give is related.

    * The rules follow the order of a walk: a first part that both have in common
      (`Corresponds.same`), first parts that correspond (`Corresponds.bind`), and items one after
      the other (`Corresponds.mapM`).
    * Statements whose fragments correspond are rendered to results that correspond
      (`Statement.rendered_corresponds`), and so are batches (`renderedBatch_corresponds`). -/

namespace SqlComposer

variable {α β γ δ : Type} {R : α → β → Prop} {S : γ → δ → Prop}

/-- Two results that fail with one error, or give related values. -/
def Corresponds (R : α → β → Prop) : Except Error α → Except Error β → Prop
  | .ok a, .ok b => R a b
  | .error e, .error e' => e = e'
  | _, _ => False

namespace Corresponds

/-- A result corresponds to itself. -/
theorem refl {R : α → α → Prop} (h : ∀ a, R a a) (x : Except Error α) : Corresponds R x x := by
  cases x with
  | error e => exact rfl
  | ok a => exact h a

/-- Parts behind a part that both have in common. -/
theorem same (x : Except Error α) {k : α → Except Error γ} {k' : α → Except Error δ}
    (h : ∀ a, Corresponds S (k a) (k' a)) : Corresponds S (x >>= k) (x >>= k') := by
  cases x with
  | error e => exact rfl
  | ok a => exact h a

/-- Parts behind parts that correspond. -/
theorem bind {x : Except Error α} {y : Except Error β} {k : α → Except Error γ}
    {k' : β → Except Error δ} (h : Corresponds R x y)
    (hk : ∀ a b, R a b → Corresponds S (k a) (k' b)) : Corresponds S (x >>= k) (y >>= k') := by
  match x, y with
  | .ok a, .ok b => exact hk a b h
  | .error e, .error e' => exact h
  | .ok _, .error _ => exact h.elim
  | .error _, .ok _ => exact h.elim

/-- Related changes of results that correspond. -/
theorem map {x : Except Error α} {y : Except Error β} {g : α → γ} {g' : β → δ}
    (h : Corresponds R x y) (hg : ∀ a b, R a b → S (g a) (g' b)) :
    Corresponds S (x.map g) (y.map g') := by
  match x, y with
  | .ok a, .ok b => exact hg a b h
  | .error e, .error e' => exact h
  | .ok _, .error _ => exact h.elim
  | .error _, .ok _ => exact h.elim

/-- The results for items, each of which corresponds. -/
theorem mapM {ι : Type} {k : ι → Except Error α} {k' : ι → Except Error β}
    (h : ∀ i, Corresponds R (k i) (k' i)) (items : List ι) :
    Corresponds (List.Forall₂ R) (items.mapM k) (items.mapM k') := by
  induction items with
  | nil => exact List.Forall₂.nil
  | cons i rest ih =>
      rw [List.mapM_cons, List.mapM_cons]
      refine bind (h i) fun a b hab => ?_
      refine bind ih fun as bs hall => ?_
      exact List.Forall₂.cons hab hall

end Corresponds

/-! ## Rendered statements -/

/-- Fragments that are related have related texts in every context, and bind the same values. -/
def RelatesTexts (R : Fragment → Fragment → Prop) (T : String → String → Prop) : Prop :=
  ∀ f f' c, R f f' → T (f.write c).1 (f'.write c).1 ∧ (f.write c).2 = (f'.write c).2

variable {R : Fragment → Fragment → Prop} {T : String → String → Prop}

/-- Statements whose fragments correspond are rendered to related texts with the same
    parameters. -/
theorem Statement.rendered_corresponds {s s' : Statement} (hT : RelatesTexts R T)
    (h : Corresponds R (s.fragment []) (s'.fragment [])) (strategy : Strategy) :
    Corresponds (fun r r' => T r.sql r'.sql ∧ r.parameters = r'.parameters)
      (s.rendered strategy) (s'.rendered strategy) := by
  rw [s.rendered_eq, s'.rendered_eq]
  refine h.map fun f f' hf => ?_
  obtain ⟨ht, hc⟩ := hT f f' (.initial strategy) hf
  exact ⟨ht, congrArg Context.parameters hc⟩

/-- Related fragments are rendered with the same parameters, one by one. -/
theorem RelatesTexts.map_parameters {fs fs' : List Fragment} (hT : RelatesTexts R T)
    (h : List.Forall₂ R fs fs') (strategy : Strategy) :
    (fs.map fun f => f.rendered .insert strategy).map (·.parameters) =
      (fs'.map fun f => f.rendered .insert strategy).map (·.parameters) := by
  induction h with
  | nil => rfl
  | cons hf _ ih =>
      have hc := (hT _ _ (.initial strategy) hf).2
      exact List.cons_eq_cons.2 ⟨congrArg Context.parameters hc, ih⟩

/-- Batches whose fragments correspond record by record have related texts and the same
    parameters. -/
theorem RecordsInsert.renderedBatch_corresponds {i i' : RecordsInsert} (hT : RelatesTexts R T)
    (hrecords : i.records = i'.records)
    (h : ∀ record, Corresponds R (i.recordFragment record) (i'.recordFragment record))
    (strategy : Strategy) :
    Corresponds (fun b b' => T b.sql b'.sql ∧ b.records = b'.records)
      (i.renderedBatch strategy) (i'.renderedBatch strategy) := by
  rw [i.renderedBatch_eq, i'.renderedBatch_eq, ← hrecords]
  obtain ⟨record, others, hr⟩ := List.exists_cons_of_ne_nil i.records_ne_nil
  rw [hr, List.mapM_cons, List.mapM_cons]
  -- the text of a batch is that of its first record, so this one is kept apart
  have hcons : Corresponds
      (fun fs fs' => ∃ f f' rest rest', fs = f :: rest ∧ fs' = f' :: rest' ∧ R f f' ∧
        List.Forall₂ R fs fs')
      (i.recordFragment record >>= fun f => others.mapM i.recordFragment >>= fun fs =>
        pure (f :: fs))
      (i'.recordFragment record >>= fun f => others.mapM i'.recordFragment >>= fun fs =>
        pure (f :: fs)) := by
    refine Corresponds.bind (h record) fun f f' hf => ?_
    refine Corresponds.bind (Corresponds.mapM h others) fun rest rest' hrest => ?_
    exact ⟨f, f', rest, rest', rfl, rfl, hf, .cons hf hrest⟩
  refine hcons.map ?_
  rintro _ _ ⟨f, f', rest, rest', rfl, rfl, hf, hall⟩
  exact ⟨(hT f f' (.initial strategy) hf).1, hT.map_parameters hall strategy⟩

end SqlComposer
