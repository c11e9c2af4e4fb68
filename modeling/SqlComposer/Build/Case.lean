import SqlComposer.Build.Select
import SqlComposer.Value.Text

/-! # Composing case expressions

A branch with criteria needs a criterion and one result, a branch with values needs a value, and the
expression needs a branch and has at most one result for the rest.  The criteria of a branch keep
the misuse of its result too. -/

namespace SqlComposer

/-- A value written into a case expression: a text in quotes, other values as they are displayed. -/
def Expr.ofScalar : Value → Expr
  | .text s => .stringConstant s
  | v => .constant v.display

/-- A branch with criteria that is being composed. -/
structure WhenDraft where
  criteria : Composing CriteriaGroup
  result : Option Expr

/-- A branch before the first call. -/
def WhenDraft.empty : WhenDraft := ⟨.start .empty, none⟩

/-- The result of a branch. -/
def WhenDraft.setResult (d : WhenDraft) (e : Expr) : WhenDraft :=
  if d.result.isSome then { d with criteria := d.criteria.fail .secondThen }
  else { d with result := some e }

/-- A branch after a call. -/
def WhenCall.apply : WhenCall → WhenDraft → WhenDraft
  | .criteria call, d => { d with criteria := call.apply d.criteria }
  | .result e, d => d.setResult e

/-- A branch after calls in their order. -/
def WhenCall.applyAll (calls : List WhenCall) (d : WhenDraft) : WhenDraft :=
  calls.foldl (fun d call => call.apply d) d

/-- The branch of a condition and a result, which must both be there. -/
def CaseBranch.ofParts (condition : CriteriaGroup) (result : Option Expr) :
    Except InvalidSql CaseBranch :=
  if condition.isEmpty then .error .branchWithoutCondition
  else
    match result with
    | some result => .ok (.searched condition result)
    | none => .error .branchWithoutResult

/-- The branch that calls compose. -/
def CaseBranch.build (calls : List WhenCall) : Except InvalidSql CaseBranch :=
  let d := WhenCall.applyAll calls .empty
  d.criteria.finish (CaseBranch.ofParts · d.result)

/-- A case expression that is being composed. -/
structure CaseDraft where
  branches : List CaseBranch
  otherwise : Option Expr

namespace CaseDraft

/-- A case expression before the first call. -/
def empty : CaseDraft := ⟨[], none⟩

/-- The expression with one more branch. -/
def addBranch (d : CaseDraft) (branch : CaseBranch) : CaseDraft :=
  { d with branches := d.branches ++ [branch] }

/-- The expression with a result for the rest. -/
def setOtherwise (d : CaseDraft) (e : Expr) : Except InvalidSql CaseDraft := do
  requireAbsent .secondElse d.otherwise
  return { d with otherwise := some e }

/-- The finished expression. -/
def finish (d : CaseDraft) (operand : Option Expr) : Except InvalidSql Expr := do
  requireItem .caseWithoutBranches d.branches
  return .caseOf operand d.branches d.otherwise

end CaseDraft

/-- A case expression after a call on branches with criteria. -/
def SearchedCaseCall.apply : SearchedCaseCall → Composing CaseDraft → Composing CaseDraft
  | .branch calls, c =>
    c.withPart (CaseBranch.build calls) fun branch c => c.update (·.addBranch branch)
  | .otherwise e, c => c.step (·.setOtherwise e)

/-- A case expression after a call on branches with values. -/
def SimpleCaseCall.apply : SimpleCaseCall → Composing CaseDraft → Composing CaseDraft
  | .branch values result, c => c.step fun d => do
    requireItem .branchWithoutValues values
    return d.addBranch (.simple values result)
  | .otherwise e, c => c.step (·.setOtherwise e)

/-- The case expression with criteria that calls compose. -/
def Expr.searchedCase (calls : List SearchedCaseCall) : Except InvalidSql Expr :=
  (Composing.applyAll SearchedCaseCall.apply calls (.start .empty)).finish (·.finish none)

/-- The case expression with values of a column that calls compose. -/
def Expr.simpleCase (column : Column) (calls : List SimpleCaseCall) : Except InvalidSql Expr :=
  (Composing.applyAll SimpleCaseCall.apply calls (.start .empty)).finish
    (·.finish (some (.column column)))

end SqlComposer
