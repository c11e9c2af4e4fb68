import SqlComposer.Statement.Query

/-! # Reading Boolean text by precedence

    Criteria are written with few parentheses, and a database reads them by precedence: parentheses
    first, then `not`, then `and`, then `or`.  This file is that reader, for text that is cut into
    tokens, with one token for each leaf.

    * `Reading` is the state of the reader after some tokens: for each open parenthesis what was
      read before it, and at the innermost level the finished alternatives, the factors of the
      alternative at hand, the pending negations and the operand behind them;
    * `IsUnit` says of tokens that they read as one operand wherever an operand can stand, so
      neither an `and` outside can cut them nor a `not` in front can reach a part of them only;
    * units with connectors between them read as the alternatives that the `or`s cut them into
      (`run_chain`), and in parentheses they are one unit again (`isUnit_parenthesized`). -/

namespace SqlComposer

/-- A Boolean formula over numbered leaves. -/
inductive Formula where
  | leaf (number : Nat)
  | not (inner : Formula)
  | and (left right : Formula)
  | or (left right : Formula)

namespace Formula

/-- The value of a formula under a truth assignment to the leaves. -/
def eval (truth : Nat → Bool) : Formula → Bool
  | .leaf number => truth number
  | .not inner => !inner.eval truth
  | .and left right => left.eval truth && right.eval truth
  | .or left right => left.eval truth || right.eval truth

/-- A formula behind a number of negations. -/
def negated (f : Formula) : (negations : Nat) → Formula
  | 0 => f
  | n + 1 => .not (f.negated n)

end Formula

/-- The tokens of criteria. -/
inductive Token where
  | leaf (number : Nat)
  | not
  | and
  | or
  | opening
  | closing

/-- The token of a connector. -/
def Connector.token : Connector → Token
  | .and => .and
  | .or => .or

/-- One level of parentheses: the alternatives that are finished, the factors of the alternative at
    hand, and the negations in front of the next operand. -/
structure ReadingLevel where
  alternatives : Option Formula
  factors : Option Formula
  negations : Nat

namespace ReadingLevel

/-- A level with nothing read. -/
def empty : ReadingLevel := ⟨none, none, 0⟩

/-- The alternative at hand with its last factor. -/
def alternative (level : ReadingLevel) (operand : Formula) : Formula :=
  match level.factors with
  | none => operand
  | some factors => .and factors operand

/-- The whole level with its last factor. -/
def formula (level : ReadingLevel) (operand : Formula) : Formula :=
  match level.alternatives with
  | none => level.alternative operand
  | some alternatives => .or alternatives (level.alternative operand)

end ReadingLevel

/-- The state of the reader: the levels around, the level at hand, and the operand that is complete
    there. -/
structure Reading where
  around : List ReadingLevel
  level : ReadingLevel
  operand : Option Formula

namespace Reading

/-- Before the first token. -/
def initial : Reading := ⟨[], .empty, none⟩

/-- Closes the innermost level, which is an operand of the level around it. -/
def close (reading : Reading) (operand : Formula) : Option Reading :=
  match reading.around with
  | [] => none
  | outer :: around =>
    some ⟨around, { outer with negations := 0 },
      some ((reading.level.formula operand).negated outer.negations)⟩

/-- Reads one token, unless it cannot stand there. -/
def step (reading : Reading) (token : Token) : Option Reading :=
  let ⟨around, level, complete⟩ := reading
  match complete, token with
  | none, .leaf number =>
    some ⟨around, { level with negations := 0 },
      some ((Formula.leaf number).negated level.negations)⟩
  | none, .not => some ⟨around, { level with negations := level.negations + 1 }, none⟩
  | none, .opening => some ⟨level :: around, .empty, none⟩
  | some operand, .and =>
    some ⟨around, ⟨level.alternatives, some (level.alternative operand), 0⟩, none⟩
  | some operand, .or => some ⟨around, ⟨some (level.formula operand), none, 0⟩, none⟩
  | some operand, .closing => reading.close operand
  | _, _ => none

/-- Reads tokens one after the other. -/
def run : Reading → List Token → Option Reading
  | reading, [] => some reading
  | reading, token :: rest => (reading.step token).bind fun next => next.run rest

/-- Tokens are read one after the other. -/
theorem run_append (reading : Reading) (ts us : List Token) :
    reading.run (ts ++ us) = (reading.run ts).bind fun next => next.run us := by
  induction ts generalizing reading with
  | nil => rfl
  | cons token rest ih =>
      cases hs : reading.step token with
      | none => simp only [List.cons_append, run, hs, Option.bind_none]
      | some next => simp only [List.cons_append, run, hs, Option.bind_some, ih]

theorem run_append_of_some {reading next : Reading} {ts : List Token}
    (h : reading.run ts = some next) (us : List Token) :
    reading.run (ts ++ us) = next.run us := by
  rw [run_append, h, Option.bind_some]

/-- The formula of a reading at the end of the text: an operand is complete and every parenthesis is
    closed. -/
def finish : Reading → Option Formula
  | ⟨[], level, some operand⟩ => some (level.formula operand)
  | _ => none

end Reading

/-- The formula that tokens are read as. -/
def Formula.read (tokens : List Token) : Option Formula :=
  (Reading.initial.run tokens).bind Reading.finish

/-! ## Units -/

/-- Tokens that read as one operand, at every level and behind any negations. -/
def IsUnit (tokens : List Token) (f : Formula) : Prop :=
  ∀ around level, Reading.run ⟨around, level, none⟩ tokens =
    some ⟨around, { level with negations := 0 }, some (f.negated level.negations)⟩

theorem isUnit_leaf (number : Nat) : IsUnit [.leaf number] (.leaf number) := by
  intro around level
  rfl

/-- A negation in front is counted with the others. -/
theorem Formula.negated_not (f : Formula) (n : Nat) :
    (Formula.not f).negated n = f.negated (n + 1) := by
  induction n with
  | zero => rfl
  | succ n ih => exact congrArg Formula.not ih

/-- A negation in front of a unit takes all of it. -/
theorem IsUnit.not {tokens : List Token} {f : Formula} (h : IsUnit tokens f) :
    IsUnit (.not :: tokens) (.not f) := by
  intro around level
  show Reading.run ⟨around, { level with negations := level.negations + 1 }, none⟩ tokens = _
  rw [h, Formula.negated_not]

/-- Without a leaf there is no operand. -/
theorem Reading.operand_of_no_leaf {tokens : List Token} (hl : ∀ number, .leaf number ∉ tokens)
    {reading next : Reading} (ho : reading.operand = none) (h : reading.run tokens = some next) :
    next.operand = none := by
  induction tokens generalizing reading with
  | nil =>
      cases h
      exact ho
  | cons token rest ih =>
      obtain ⟨around, level, complete⟩ := reading
      cases ho
      have hr : ∀ number, .leaf number ∉ rest :=
        fun number hm => hl number (List.mem_cons_of_mem _ hm)
      -- without an operand only a negation or a parenthesis can be read, and neither makes one
      cases token with
      | leaf number => exact absurd (List.mem_cons_self ..) (hl number)
      | not => exact ih hr rfl h
      | opening => exact ih hr rfl h
      | and => cases h
      | or => cases h
      | closing => cases h

/-- Every unit has a leaf. -/
theorem IsUnit.exists_leaf {tokens : List Token} {f : Formula} (h : IsUnit tokens f) :
    ∃ number, .leaf number ∈ tokens := by
  by_cases hl : ∃ number, .leaf number ∈ tokens
  · exact hl
  · have hn := Reading.operand_of_no_leaf (not_exists.mp hl) rfl (h [] .empty)
    cases hn

/-! ## Units with connectors between them -/

/-- The unit of one criterion, with the connector in front of it. -/
structure ChainLink where
  connector : Connector
  tokens : List Token
  formula : Formula

namespace ChainLink

/-- What a unit counts for, with its connector. -/
def value (truth : Nat → Bool) (link : ChainLink) : Connector × Bool :=
  (link.connector, link.formula.eval truth)

/-- The tokens of a unit behind its connector. -/
def tail (link : ChainLink) : List Token := link.connector.token :: link.tokens

end ChainLink

/-- A Boolean value and the values behind it, cut into alternatives at every `or`. -/
def alternatives : Bool → List (Connector × Bool) → List (List Bool)
  | first, [] => [[first]]
  | first, (.or, next) :: rest => [first] :: alternatives next rest
  | first, (.and, next) :: rest => (alternatives next rest).modifyHead (first :: ·)

/-- Whether all values of some alternative hold. -/
def someHolds (cut : List (List Bool)) : Bool := cut.any fun values => values.all fun b => b

/-- Two factors in front of the first alternative are one. -/
theorem someHolds_modifyHead (a b : Bool) (cut : List (List Bool)) :
    someHolds ((cut.modifyHead (b :: ·)).modifyHead (a :: ·)) =
      someHolds (cut.modifyHead ((a && b) :: ·)) := by
  cases cut with
  | nil => rfl
  | cons values rest =>
      show ((a && (b && _)) || _) = (((a && b) && _) || _)
      rw [Bool.and_assoc]

theorem someHolds_modifyHead_true (cut : List (List Bool)) :
    someHolds (cut.modifyHead (true :: ·)) = someHolds cut := by
  cases cut with
  | nil => rfl
  | cons values rest => rfl

namespace ReadingLevel

variable (truth : Nat → Bool)

/-- Whether a finished alternative of a level holds. -/
def finished (level : ReadingLevel) : Bool :=
  match level.alternatives with
  | none => false
  | some f => f.eval truth

/-- Whether all factors of the alternative at hand hold. -/
def factorsHold (level : ReadingLevel) : Bool :=
  match level.factors with
  | none => true
  | some f => f.eval truth

/-- An alternative holds if its factors do and the operand does. -/
theorem eval_alternative (level : ReadingLevel) (operand : Formula) :
    (level.alternative operand).eval truth =
      (level.factorsHold truth && operand.eval truth) := by
  obtain ⟨_, factors, _⟩ := level
  cases factors with
  | none => exact (Bool.true_and _).symm
  | some f => rfl

/-- What is read up to here holds if a finished alternative does or the one at hand. -/
theorem eval_formula (level : ReadingLevel) (operand : Formula) :
    (level.formula operand).eval truth =
      (level.finished truth || (level.factorsHold truth && operand.eval truth)) := by
  obtain ⟨alternatives, factors, negations⟩ := level
  cases alternatives with
  | none => exact (eval_alternative truth _ operand).trans (Bool.false_or _).symm
  | some f => exact congrArg (f.eval truth || ·) (eval_alternative truth _ operand)

end ReadingLevel

/-- Reading on behind an operand: every unit takes its place in the alternatives. -/
theorem run_tail (links : List ChainLink) (hl : ∀ link ∈ links, IsUnit link.tokens link.formula)
    (level : ReadingLevel) (operand : Formula) :
    ∃ level' operand',
      (∀ around, Reading.run ⟨around, level, some operand⟩ (links.flatMap ChainLink.tail) =
        some ⟨around, level', some operand'⟩) ∧
      ∀ truth, (level'.formula operand').eval truth =
        (level.finished truth ||
          someHolds ((alternatives (operand.eval truth) (links.map (·.value truth))).modifyHead
            (level.factorsHold truth :: ·))) := by
  induction links generalizing level operand with
  | nil =>
      refine ⟨level, operand, fun _ => rfl, ?_⟩
      intro truth
      rw [level.eval_formula]
      show _ = (_ || ((_ && (_ && true)) || false))
      rw [Bool.and_true, Bool.or_false]
  | cons link rest ih =>
      obtain ⟨connector, tokens, f⟩ := link
      have hu : IsUnit tokens f := hl _ (List.mem_cons_self ..)
      have hr : ∀ link ∈ rest, IsUnit link.tokens link.formula :=
        fun link h => hl link (List.mem_cons_of_mem _ h)
      cases connector with
      | and =>
          -- the operand becomes one more factor of the alternative at hand
          obtain ⟨level', operand', hrun, hval⟩ := ih hr
            ⟨level.alternatives, some (level.alternative operand), 0⟩ f
          refine ⟨level', operand', ?_, ?_⟩
          · intro around
            rw [← hrun]
            exact Reading.run_append_of_some (hu around _) _
          · intro truth
            rw [hval truth]
            show (level.finished truth || someHolds (List.modifyHead
              ((level.alternative operand).eval truth :: ·) _)) = _
            rw [level.eval_alternative, ← someHolds_modifyHead]
            rfl
      | or =>
          -- the operand completes the alternative at hand
          obtain ⟨level', operand', hrun, hval⟩ := ih hr
            ⟨some (level.formula operand), none, 0⟩ f
          refine ⟨level', operand', ?_, ?_⟩
          · intro around
            rw [← hrun]
            exact Reading.run_append_of_some (hu around _) _
          · intro truth
            rw [hval truth]
            show ((level.formula operand).eval truth ||
              someHolds (List.modifyHead (true :: ·) _)) = _
            rw [level.eval_formula, someHolds_modifyHead_true, Bool.or_assoc]
            show _ = (_ || ((_ && (_ && true)) || _))
            rw [Bool.and_true]
            rfl

section Chain

variable {first : ChainLink} {rest : List ChainLink}

/-- Units with connectors between them, read at a level of their own. -/
theorem run_chain (hl : ∀ link ∈ first :: rest, IsUnit link.tokens link.formula) :
    ∃ level operand,
      (∀ around, Reading.run ⟨around, .empty, none⟩
          (first.tokens ++ rest.flatMap ChainLink.tail) = some ⟨around, level, some operand⟩) ∧
      ∀ truth, (level.formula operand).eval truth =
        someHolds (alternatives (first.formula.eval truth) (rest.map (·.value truth))) := by
  obtain ⟨level, operand, hrun, hval⟩ := run_tail rest
    (fun link h => hl link (List.mem_cons_of_mem _ h)) .empty first.formula
  refine ⟨level, operand, ?_, ?_⟩
  · intro around
    have hu : IsUnit first.tokens first.formula := hl first (List.mem_cons_self ..)
    -- the first unit fills the empty level, and the others follow its operand
    rw [Reading.run_append_of_some (hu around .empty), ← hrun]
    rfl
  · intro truth
    rw [hval truth]
    exact someHolds_modifyHead_true _

/-- Units with connectors between them, in parentheses, are one unit. -/
theorem isUnit_parenthesized (hl : ∀ link ∈ first :: rest, IsUnit link.tokens link.formula) :
    ∃ f, IsUnit (.opening :: (first.tokens ++ rest.flatMap ChainLink.tail ++ [.closing])) f ∧
      ∀ truth, f.eval truth =
        someHolds (alternatives (first.formula.eval truth) (rest.map (·.value truth))) := by
  obtain ⟨level, operand, hrun, hval⟩ := run_chain hl
  refine ⟨level.formula operand, ?_, hval⟩
  intro around outer
  -- the parenthesis opens a level of its own, whose reading does not look outside
  show Reading.run ⟨outer :: around, .empty, none⟩
    (first.tokens ++ rest.flatMap ChainLink.tail ++ [.closing]) = _
  rw [Reading.run_append_of_some (hrun (outer :: around))]
  rfl

/-- Units with connectors between them are read by their alternatives. -/
theorem read_chain (hl : ∀ link ∈ first :: rest, IsUnit link.tokens link.formula) :
    ∃ f, Formula.read (first.tokens ++ rest.flatMap ChainLink.tail) = some f ∧
      ∀ truth, f.eval truth =
        someHolds (alternatives (first.formula.eval truth) (rest.map (·.value truth))) := by
  obtain ⟨level, operand, hrun, hval⟩ := run_chain hl
  refine ⟨level.formula operand, ?_, hval⟩
  show (Reading.run ⟨[], .empty, none⟩ _).bind Reading.finish = _
  rw [hrun]
  rfl

end Chain

end SqlComposer
