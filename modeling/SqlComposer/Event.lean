import SqlComposer.Error
import SqlComposer.Text.Bytes

/-! # Events

What is told about statements while they are rendered and executed.  `Traced` is the monad of
computations that may fail and leave events behind, also those before a failure. -/

namespace SqlComposer

/-- Who executes a statement. -/
inductive Adapter where
  | client
  | template
  deriving DecidableEq, Repr

/-- The name of an adapter in events. -/
def Adapter.name : Adapter → String
  | .client => "client"
  | .template => "template"

/-- Something told about a statement. -/
inductive Event where
  | rendered (kind : String) (strategy : Strategy) (parameterCount sqlLength : Nat)
  | executing (adapter : Adapter) (parameterCount : Nat) (sql : String)
  deriving DecidableEq, Repr

/-- A field of an event. -/
inductive EventField where
  | number (n : Nat)
  | text (s : String)
  deriving DecidableEq, Repr

namespace Event

/-- What an event is about. -/
def target : Event → String
  | .rendered .. => "sqldsl.render"
  | .executing .. => "sqldsl.sql"

/-- The fields of an event with their names. -/
def fields : Event → List (String × EventField)
  | .rendered kind strategy parameterCount sqlLength =>
    [("kind", .text kind), ("strategy", .text strategy.name),
      ("param_count", .number parameterCount), ("sql_len", .number sqlLength)]
  | .executing adapter parameterCount sql =>
    [("adapter", .text adapter.name), ("param_count", .number parameterCount), ("sql", .text sql)]

end Event

/-- How many bytes of a statement an event shows unless it is configured otherwise. -/
def defaultSqlLimit : Nat := 200

/-- The text of a statement in events: whole when it fits or nothing limits it, else cut, and three
points behind it. -/
def shownSql (limit : Option Nat) (sql : String) : String :=
  match limit with
  | none => sql
  | some limit =>
    if sql.utf8ByteSize ≤ limit then sql else cutText limit sql ++ "..."

/-- A computation that may fail and leaves events. -/
abbrev Traced := ExceptT Error (StateM (List Event))

/-- Tells an event. -/
def emit (event : Event) : Traced Unit := modify (· ++ [event])

/-- What a computation gives, and the events it leaves. -/
def Traced.outcome {α : Type} (t : Traced α) : Except Error α × List Event := t.run.run []

end SqlComposer
