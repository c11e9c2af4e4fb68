import SqlComposer.Error

/-! # Deferred misuse

A call that is not allowed does not stop a composition.  Its cause is kept, what it would have added
is left out, and the calls behind it are made on what there is.  The first cause that was kept is
the one that finishing gives.  A part that is composed for a call hands its own first cause on as it
is, so that a cause has the same wording at whatever depth it arose. -/

namespace SqlComposer

/-- Something that calls compose, with the cause of the first misuse. -/
structure Composing (σ : Type) where
  draft : σ
  misuse : Option InvalidSql

namespace Composing

variable {σ τ α : Type}

/-- A draft before the first call. -/
def start (draft : σ) : Composing σ := ⟨draft, none⟩

/-- A misuse.  Its cause is kept if it is the first. -/
def fail (c : Composing σ) (cause : InvalidSql) : Composing σ :=
  { c with misuse := c.misuse.or (some cause) }

/-- A change of the draft. -/
def update (c : Composing σ) (change : σ → σ) : Composing σ :=
  { c with draft := change c.draft }

/-- A change of the draft that may be refused. -/
def step (c : Composing σ) (change : σ → Except InvalidSql σ) : Composing σ :=
  match change c.draft with
  | .ok draft => { c with draft := draft }
  | .error cause => c.fail cause

/-- What is done with a part that was composed for a call.  Without the part there is only its
cause. -/
def withPart (c : Composing σ) (part : Except InvalidSql α)
    (use : α → Composing σ → Composing σ) : Composing σ :=
  match part with
  | .ok a => use a c
  | .error cause => c.fail cause

/-- The first misuse of an inner composition handed on. -/
def adopt (c : Composing σ) (inner : Composing τ) : Composing σ :=
  { c with misuse := c.misuse.or inner.misuse }

/-- The finished composition: the first misuse if there is one, else what a last check gives. -/
def finish (c : Composing σ) (check : σ → Except InvalidSql α) : Except InvalidSql α :=
  match c.misuse with
  | some cause => .error cause
  | none => check c.draft

/-- A composition after calls in their order. -/
def applyAll {κ : Type} (apply : κ → Composing σ → Composing σ) (calls : List κ)
    (c : Composing σ) : Composing σ :=
  calls.foldl (fun c call => apply call c) c

end Composing

end SqlComposer
