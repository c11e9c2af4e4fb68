import SqlComposer.Event
import SqlComposer.Postgres.Row

/-! # Scripted servers

A scripted server answers the statements it gets with its replies, one after the other, and keeps
what it got.  When the replies are used up it answers with no rows.  A statement whose text cannot
be transmitted takes its reply too, and fails.  Statements may also be handed over together, without
waiting for answers in between.  `Session` is the monad of computations that talk to a server, may
fail and leave events. -/

namespace SqlComposer

/-- What a server answers to a statement. -/
inductive Answer where
  | rows (columns : List (String × PgType)) (rows : List (List Value))
  | count (affected : Nat)
  | failure (code message : String)

/-- An answer, and the types that the statement's parameters must have for it. -/
structure Reply where
  answer : Answer
  parameterTypes : Option (List PgType)

/-- How a statement is handed over. -/
inductive Via where
  | query
  | execute
  deriving DecidableEq, Repr

/-- A statement that a server got. -/
structure Sent where
  via : Via
  sql : String
  values : List Value

namespace Sent

/-- The character that ends a statement where it is transmitted. -/
def terminator : Char := '\x00'

/-- Whether a statement reaches the server whole: it must not hold the terminator.  Values may, for
they are transmitted with their lengths. -/
def isTransmissible (s : Sent) : Bool := !s.sql.toList.contains terminator

/-- What is handed over of several statements: all up to the first that is not transmissible. -/
def handedOver : List Sent → List Sent
  | [] => []
  | s :: rest => if s.isTransmissible then s :: handedOver rest else [s]

end Sent

/-- A scripted server: the replies left, the statements it got, and the events told so far. -/
structure Server where
  replies : List Reply
  sent : List Sent
  events : List Event

/-- Computations that talk to a server. -/
abbrev Session := ExceptT Error (StateM Server)

namespace Session

/-- A computation without a server. -/
def ofTraced {α : Type} (t : Traced α) : Session α := fun server =>
  let (result, events) := t.run.run server.events
  (result, { server with events := events })

/-- A result without a server. -/
def ofExcept {α : Type} (result : Except Error α) : Session α := fun server => (result, server)

/-- A failed check as a failure. -/
def ofCheck {α : Type} (result : Except InvalidSql α) : Session α :=
  ofExcept (result.mapError Error.invalidSql)

end Session

/-- Whether each value binds to its type, one for one. -/
def bindAll : List Value → List PgType → Bool
  | [], [] => true
  | v :: vs, type :: types => (v.bind type).isOk && bindAll vs types
  | _, _ => false

namespace Reply

/-- The reply when no other is left. -/
def noRows : Reply := ⟨.count 0, none⟩

/-- Whether the values of a statement bind to the types that a reply asks for. -/
def accepts (reply : Reply) (values : List Value) : Bool :=
  reply.parameterTypes.all (bindAll values)

/-- The answer of a reply, or the error of the failure that it is. -/
def outcome (reply : Reply) : Except Error Answer :=
  match reply.answer with
  | .failure code message => .error (.ofServer code message)
  | answer => .ok answer

/-- The error of a statement whose values do not bind. -/
def bindingError : Error := .query "a parameter does not bind as its type"

/-- The error of a statement that is not transmissible. -/
def transmissionError : Error := .query "the statement holds a character that ends it"

/-- What a server answers to a statement. -/
def answerTo (reply : Reply) (statement : Sent) : Except Error Answer :=
  if !statement.isTransmissible then .error transmissionError
  else if reply.accepts statement.values then reply.outcome
  else .error bindingError

end Reply

/-- Hands a statement over and takes the next reply. -/
def send (statement : Sent) : Session Answer := fun server =>
  ((server.replies.headD .noRows).answerTo statement,
    { server with sent := server.sent ++ [statement], replies := server.replies.drop 1 })

/-- Hands statements over together.  Each of them takes its reply before the first one is executed,
so all are bound and executed with the last reply that was taken.  A statement that is not
transmissible fails at once, and those after it are not handed over. -/
def sendTogether (statements : List Sent) : Session (List Answer) := fun server =>
  let handed := Sent.handedOver statements
  let taken := (List.range handed.length).map fun i => server.replies.getD i .noRows
  let reply := taken.getLastD .noRows
  let result :=
    if !handed.all Sent.isTransmissible then .error Reply.transmissionError
    else if handed.all fun s => reply.accepts s.values then
      reply.outcome.map fun answer => handed.map fun _ => answer
    else .error Reply.bindingError
  (result,
    { server with
      sent := server.sent ++ handed
      replies := server.replies.drop handed.length })

/-- The rows of an answer. -/
def Answer.toRows : Answer → List Row
  | .rows columns cells => cells.map fun row => ⟨columns, row⟩
  | _ => []

/-- How many rows an answer is about. -/
def Answer.affected : Answer → Nat
  | .rows _ cells => cells.length
  | .count n => n
  | .failure _ _ => 0

/-- The rows that a statement gives. -/
def query (sql : String) (values : List Value) : Session (List Row) := do
  let answer ← send ⟨.query, sql, values⟩
  return answer.toRows

/-- How many rows a statement affects. -/
def execute (sql : String) (values : List Value) : Session Nat := do
  let answer ← send ⟨.execute, sql, values⟩
  return answer.affected

end SqlComposer
