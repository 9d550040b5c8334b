import SeriesSql.Result.Row

/-!
# Talking to the engine

A session sends statements to an engine, one after the other. The engine is given by its script:
statement number `k` gets reply number `k`, or the last reply when there are fewer, and an empty
response when there are none. The engine remembers the statements it received.
-/

namespace SeriesSql

/-- How the engine answers one statement, which may be any. -/
abbrev Reply := String → Except TransportError Response

/-- A scripted engine and the statements that it received so far, in order. -/
structure Engine where
  replies : List Reply
  received : List String

namespace Engine

/-- The reply to a statement that comes after so many others. -/
def reply (engine : Engine) (number : Nat) : Reply :=
  match engine.replies[number]? with
  | some reply => reply
  | none => engine.replies.getLast?.getD fun _ => .ok .empty

def receive (engine : Engine) (sql : String) : Except TransportError Response × Engine :=
  (engine.reply engine.received.length sql, { engine with received := engine.received ++ [sql] })

end Engine

/-- A conversation with an engine that may end in an error. -/
abbrev Session := ExceptT SqlError (StateM Engine)

namespace Session

def send (sql : String) : Session Response := do
  match ← modifyGet fun engine => engine.receive sql with
  | .ok response => return response
  | .error e => throw (.transport e)

/-- Goes on with a result, or ends in its error. -/
def ofExcept {α : Type} : Except SqlError α → Session α
  | .ok result => pure result
  | .error e => throw e

def sendRendered (sql : Except SqlError String) : Session Response := do
  let sql ← ofExcept sql
  send sql

end Session
end SeriesSql
