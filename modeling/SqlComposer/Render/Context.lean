import SqlComposer.Error
import SqlComposer.Parameters
import SqlComposer.Render.Scope

/-! # Render passes

A render pass walks a statement once and gives its text.  The context that it carries holds the
strategy, the scopes around the part at hand, the number of the next parameter and the parameters
bound so far.  A value is bound when the walk comes to it, while the texts around it are still in
pieces.  A pass that fails leaves the context that it has reached. -/

namespace SqlComposer

/-- The state of a render pass; the innermost scope comes first. -/
structure Context where
  strategy : Strategy
  scopes : List Scope
  nextNumber : Nat
  parameters : ParameterMap

namespace Context

/-- The context of a whole statement: no scopes, no parameters, numbers from one. -/
def initial (strategy : Strategy) : Context := ⟨strategy, [], 1, .empty⟩

/-- Binds a value: its placeholder, and the context with the value under the next key. -/
def bind (c : Context) (value : Value) (type : Option JdbcType) : String × Context :=
  let key := c.strategy.parameterKey c.nextNumber
  (c.strategy.placeholder key type,
    { c with nextNumber := c.nextNumber + 1, parameters := c.parameters.insert key value })

/-- The context inside a scope. -/
def push (c : Context) (scope : Scope) : Context := { c with scopes := scope :: c.scopes }

/-- The context outside its innermost scope. -/
def pop (c : Context) : Context := { c with scopes := c.scopes.tail }

@[simp] theorem push_scopes (c : Context) (scope : Scope) :
    (c.push scope).scopes = scope :: c.scopes := rfl

end Context

/-- What a part of a statement does in a render pass. -/
abbrev Rendering := ExceptT Error (StateM Context)

namespace Rendering

variable {α : Type}

/-- What a part gives in a context, and the context that it leaves. -/
def outcome (part : Rendering α) (c : Context) : Except Error α × Context := part.run.run c

/-- Binds a value under the next key and gives its placeholder. -/
def bindValue (value : Value) (type : Option JdbcType) : Rendering String :=
  modifyGet fun c => c.bind value type

/-- Binds values with one type, in their order. -/
def bindValues : List Value → Option JdbcType → Rendering (List String)
  | [], _ => return []
  | value :: rest, type => do
    let placeholder ← bindValue value type
    let others ← bindValues rest type
    return placeholder :: others

/-- The scopes around the part at hand. -/
def scopes : Rendering (List Scope) := return (← get).scopes

/-- A part inside a scope, which ends with it also when the part fails. -/
def withScope (scope : Scope) (part : Rendering α) : Rendering α :=
  ExceptT.mk fun c =>
    let (result, after) := part.outcome (c.push scope)
    (result, after.pop)

end Rendering

end SqlComposer
