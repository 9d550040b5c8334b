import SeriesSql.Error
import SeriesSql.Result.Response
import SeriesSql.Url.Basic

/-!
# Requests and their answers

A statement is sent as the query of a request. The status and body that come back are a response, an
error of the engine, or nothing that makes sense. An attempt that failed may be repeated after a
delay that doubles each time.
-/

namespace SeriesSql.Http

/-- The URL of the request that carries a statement to the engine at a URL. -/
def execUrl (base : Url) (sql : String) : Url :=
  (base.withPath (base.trimmedPath ++ "/exec".toList)).withField "query" sql

/-- The error that a body describes: its message, and where in the statement it is. -/
def errorBody? (body : String) : Option (String × Option Nat) := do
  let document ← Document.ofText? body
  let fields ← document.asRecord? [["error"], ["position"]]
  let message ← Document.required? fields "error" Document.asText?
  let position ← Document.optional? fields "position" (Document.asNatBelow? UInt64.size)
  return (message, position)

/-- What a body says that describes no error. -/
def plainMessage (status : Nat) (body : String) : String :=
  let text := Text.trim body
  if text = "" then s!"HTTP status {status}" else text

/-- The response, or the error, of a status and a body. -/
def classify (status : Nat) (body sql : String) : Except TransportError Response :=
  if 200 ≤ status ∧ status < 300 then
    match Response.ofText? body with
    | some response => .ok response
    | none => .error (.invalidResponse s!"not a response: {body}")
  else
    let (message, position) := (errorBody? body).getD (plainMessage status body, none)
    .error (.server status message position sql)

/-- A power of two, which stops at the greatest number of 32 bits. -/
def saturatingPowTwo (n : Nat) : Nat :=
  if n < 32 then 1 <<< n else UInt32.size - 1

/-- The delay before retry number `retry`, counted from zero. -/
def backoffDelay (first : Duration) (retry : Nat) : Duration :=
  first.saturatingMul (saturatingPowTwo retry)

end SeriesSql.Http
