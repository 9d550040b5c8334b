import Mathlib
import SeriesSql.Client

/-!
# What the engine receives

A client makes requests of one engine, one after the other. The engine receives the statements of
the requests that can be rendered, each once and in order. A request that cannot be rendered sends
nothing and fails with its own error, and any other is answered by the reply to its own statement.
-/

namespace SeriesSql

/-- What a client can ask of an engine. -/
inductive Request where
  | select (b : SelectBuilder)
  | first (b : SelectBuilder)
  | insert (b : InsertBuilder)
  | update (b : UpdateBuilder)
  | createTable (table : Table) (ifNotExists : Bool)
  | alterTable (table : Table) (alteration : Alteration)
  | dropTable (table : Table) (ifExists : Bool)
  | truncateTable (table : Table)
  | raw (sql : String)

inductive Answer where
  | rows (rows : List Row)
  | row (row : Option Row)
  | response (response : Response)

namespace Request

def run : Request → Session Answer
  | select b => .rows <$> b.execute
  | first b => .row <$> b.first
  | insert b => .response <$> b.execute
  | update b => .response <$> b.execute
  | createTable table ifNotExists => .response <$> Client.createTable table ifNotExists
  | alterTable table alteration => .response <$> Client.alterTable table alteration
  | dropTable table ifExists => .response <$> Client.dropTable table ifExists
  | truncateTable table => .response <$> Client.truncateTable table
  | raw sql => .response <$> Client.executeRaw sql

/-- The text of a request. The first row is asked for with a limit of one after the same offset. -/
def toSql : Request → Except SqlError String
  | select b => b.toSql
  | first b =>
    let limit : Limit := ⟨1, b.node.limit.bind Limit.offset⟩
    Select.write { b.node with limit := some limit } |>.toSql
  | insert b => b.toSql
  | update b => b.toSql
  | createTable table ifNotExists => (SchemaOp.create table ifNotExists).toSql
  | alterTable table alteration => (SchemaOp.alter table alteration).toSql
  | dropTable table ifExists => (SchemaOp.drop table ifExists).toSql
  | truncateTable table => (SchemaOp.truncate table).toSql
  | raw sql => .ok sql

def read (response : Response) : Request → Except SqlError Answer
  | select _ => response.decodeRows.map .rows
  | first _ => response.decodeRows.map fun rows => .row rows.head?
  | _ => .ok (.response response)

/-- What a request gives when its statement has a reply. -/
def settle (request : Request) : Except TransportError Response → Except SqlError Answer
  | .ok response => request.read response
  | .error e => .error (.transport e)

/-- The texts of the requests that have one. -/
def statements (requests : List Request) : List String :=
  requests.filterMap fun request => request.toSql.toOption

/-- Makes requests one after the other, whatever becomes of each of them. -/
def runAll (requests : List Request) : StateM Engine (List (Except SqlError Answer)) :=
  requests.mapM fun request => request.run.run

/-! ### One request -/

theorem run_bind {α β : Type} (x : Session α) (next : α → Session β) (engine : Engine) :
    (x >>= next).run.run engine =
      match x.run.run engine with
      | (.ok a, after) => (next a).run.run after
      | (.error e, after) => (.error e, after) := by
  change (ExceptT.bindCont next (x.run.run engine).1) (x.run.run engine).2 = _
  rcases x.run.run engine with ⟨_ | _, _⟩ <;> rfl

theorem run_send (sql : String) (engine : Engine) :
    (Session.send sql).run.run engine =
      ((engine.reply engine.received.length sql).mapError .transport,
        { engine with received := engine.received ++ [sql] }) := by
  rw [Session.send, run_bind]
  change (match engine.reply engine.received.length sql with
    | .ok response => pure response
    | .error e => throw (.transport e) : Session Response).run.run
      { engine with received := engine.received ++ [sql] } = _
  cases engine.reply engine.received.length sql <;> rfl

theorem run_ofExcept {α : Type} (result : Except SqlError α) (engine : Engine) :
    (Session.ofExcept result).run.run engine = (result, engine) := by
  cases result <;> rfl

/-- Every request sends its text, if it has one, and then looks at the response. -/
theorem run_eq_send (request : Request) :
    request.run = (do
      let response ← Session.sendRendered request.toSql
      Session.ofExcept (request.read response)) := by
  cases request with
  | select b =>
    rw [run, SelectBuilder.execute, map_bind]
    refine congrArg _ (funext fun response => ?_)
    rw [read]
    cases response.decodeRows <;> rfl
  | first b =>
    rw [run, SelectBuilder.first, SelectBuilder.execute, map_bind, bind_assoc]
    refine congrArg _ (funext fun response => ?_)
    rw [read]
    cases response.decodeRows <;> rfl
  | raw sql => rfl
  | insert b => rfl
  | _ => rfl

theorem run_eq (request : Request) (engine : Engine) :
    request.run.run.run engine =
      match request.toSql with
      | .error e => (.error e, engine)
      | .ok sql =>
        (request.settle (engine.reply engine.received.length sql),
          { engine with received := engine.received ++ [sql] }) := by
  rw [run_eq_send, run_bind, Session.sendRendered, run_bind, run_ofExcept]
  cases request.toSql with
  | error e => rfl
  | ok sql =>
    simp only [run_send]
    cases engine.reply engine.received.length sql with
    | error e => rfl
    | ok response => exact run_ofExcept (request.read response) _

/-! ### Many requests -/

theorem statements_cons (request : Request) (requests : List Request) :
    statements (request :: requests) = request.toSql.toOption.toList ++ statements requests := by
  rw [statements, List.filterMap_cons]
  cases request.toSql <;> rfl

theorem runAll_nil (engine : Engine) : (runAll []).run engine = ([], engine) :=
  rfl

theorem runAll_cons (request : Request) (requests : List Request) (engine : Engine) :
    (runAll (request :: requests)).run engine =
      let first := request.run.run.run engine
      let others := (runAll requests).run first.2
      (first.1 :: others.1, others.2) := by
  rw [runAll, List.mapM_cons]
  rfl

/-- The engine after requests has received their statements and has the same script. -/
theorem runAll_engine (requests : List Request) (engine : Engine) :
    ((runAll requests).run engine).2 =
      { engine with received := engine.received ++ statements requests } := by
  induction requests generalizing engine with
  | nil => simp [runAll_nil, statements]
  | cons request requests ih =>
    rw [runAll_cons, statements_cons]
    simp only [ih, run_eq]
    cases request.toSql <;> simp [Except.toOption]

theorem length_runAll (requests : List Request) (engine : Engine) :
    ((runAll requests).run engine).1.length = requests.length := by
  induction requests generalizing engine with
  | nil => rfl
  | cons request requests ih =>
    rw [runAll_cons, List.length_cons, ih, List.length_cons]

/-- What a request gives when so many statements were received before it. -/
def answerAfter (engine : Engine) (number : Nat) (request : Request) : Except SqlError Answer :=
  match request.toSql with
  | .error e => .error e
  | .ok sql => request.settle (engine.reply number sql)

/-- Each request is answered by the reply that stands in the script where its statement stands among
those that the engine received. -/
theorem getElem?_runAll {requests : List Request} {i : Nat} {request : Request}
    (hi : requests[i]? = some request) (engine : Engine) :
    ((runAll requests).run engine).1[i]? = some (request.answerAfter engine
      (engine.received.length + (statements (requests.take i)).length)) := by
  induction requests generalizing engine i with
  | nil => simp at hi
  | cons first requests ih =>
    rw [runAll_cons]
    simp only [run_eq]
    cases i with
    | zero =>
      obtain rfl := Option.some.inj hi
      rw [List.getElem?_cons_zero, List.take_zero, answerAfter]
      cases first.toSql <;> rfl
    | succ i =>
      rw [List.getElem?_cons_succ, List.take_succ_cons, statements_cons]
      cases first.toSql with
      | error e => exact ih hi engine
      | ok sql =>
        rw [ih hi, List.length_append, List.length_append, Nat.add_assoc]
        rfl

theorem getElem?_statements {requests : List Request} {i : Nat} {request : Request}
    (hi : requests[i]? = some request) {sql : String} (hsql : request.toSql = .ok sql) :
    (statements requests)[(statements (requests.take i)).length]? = some sql := by
  induction requests generalizing i with
  | nil => simp at hi
  | cons first requests ih =>
    rw [statements_cons]
    cases i with
    | zero =>
      obtain rfl := Option.some.inj hi
      rw [hsql]
      rfl
    | succ i =>
      rw [List.take_succ_cons, statements_cons, List.length_append, List.getElem?_append_right
        (Nat.le_add_right _ _), Nat.add_sub_cancel_left]
      exact ih hi

/-- The engine receives, after what it received before, exactly the statements of the requests that
have one, each once and in order. A request without a statement fails with the error of its
rendering. Any other is answered by the reply to its own statement: with the error of the engine, or
with what it reads from the response. -/
theorem runAll_sends_statements {requests : List Request} {engine after : Engine}
    {answers : List (Except SqlError Answer)}
    (h : (runAll requests).run engine = (answers, after)) :
    after.received = engine.received ++ statements requests ∧
      after.replies = engine.replies ∧ answers.length = requests.length ∧
      ∀ (i : Nat) (request : Request), requests[i]? = some request →
        let number := engine.received.length + (statements (requests.take i)).length
        (∀ e, request.toSql = .error e → answers[i]? = some (.error e)) ∧
        ∀ sql, request.toSql = .ok sql → after.received[number]? = some sql ∧
          (∀ e, engine.reply number sql = .error e → answers[i]? = some (.error (.transport e))) ∧
          ∀ response, engine.reply number sql = .ok response →
            answers[i]? = some (request.read response) := by
  have hafter := runAll_engine requests engine
  have hanswers : ∀ {i request}, requests[i]? = some request → answers[i]? = _ := fun hi =>
    h ▸ getElem?_runAll hi engine
  rw [h] at hafter
  subst hafter
  have hlength := length_runAll requests engine
  rw [h] at hlength
  refine ⟨rfl, rfl, hlength, fun i request hi => ?_⟩
  intro number
  rw [hanswers hi, answerAfter]
  refine ⟨fun e he => by rw [he], fun sql hsql =>
    ⟨?_, fun e he => ?_, fun response hresponse => ?_⟩⟩
  · rw [List.getElem?_append_right (Nat.le_add_right _ _), Nat.add_sub_cancel_left]
    exact getElem?_statements hi hsql
  · rw [hsql]
    exact congrArg (fun reply => some (request.settle reply)) he
  · rw [hsql]
    exact congrArg (fun reply => some (request.settle reply)) hresponse

/-- An update that sets nothing sends nothing, and a network that fails after it answers the second
of the statements that are sent. -/
theorem runAll_sends_statements_failing :
    let b := (SelectBuilder.ofName "t").limit 10 (some 5)
    let requests : List Request :=
      [.update (.ofTable ⟨.default, "t", .empty⟩), .first b, .raw "SHOW TABLES"]
    let engine : Engine := ⟨[fun _ => .ok .empty, fun _ => .error (.network "down")], []⟩
    ∃ answers after, (runAll requests).run engine = (answers, after) ∧
      after.received = ["SELECT *\nFROM t\nLIMIT 1, 5", "SHOW TABLES"] ∧
      answers[0]? = some (.error (.validation (.updateNoAssignments "t"))) ∧
      answers[1]? = some (.ok (.row none)) ∧
      answers[2]? = some (.error (.transport (.network "down"))) := by
  intro b requests engine
  obtain ⟨answers, after, h⟩ : ∃ answers after, (runAll requests).run engine = (answers, after) :=
    ⟨_, _, rfl⟩
  obtain ⟨hreceived, -, -, hanswers⟩ := runAll_sends_statements h
  obtain ⟨hfirst, -⟩ := hanswers 0 _ rfl
  obtain ⟨-, hsecond⟩ := hanswers 1 _ rfl
  obtain ⟨-, -, hrow⟩ := hsecond _ rfl
  obtain ⟨-, hthird⟩ := hanswers 2 _ rfl
  obtain ⟨-, hdown, -⟩ := hthird _ rfl
  exact ⟨answers, after, h, hreceived, hfirst _ rfl, hrow _ rfl, hdown _ rfl⟩

end Request
end SeriesSql
