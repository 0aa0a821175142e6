/-
Sessions: everything that is done on connections, in one history.

A session stands between the query layer and the drivers.  It knows which calls
the connections and drivers answer and how (`Script`), and records every call with
its outcome.  Whether a connection is closed, how often a method was called, and
the log of a session are views of the history.
-/
import SqlAccess.Dialect
import SqlAccess.Sqlite.Engine
import SqlAccess.Trace.Tracer

namespace SqlAccess

/-- The calls that drivers and connections answer. -/
inductive Method where
  | connect
  | prepare
  | update
  | query
  | closeStatement
  | close
  deriving DecidableEq, Repr

/-- What answers the calls of a connection. -/
inductive Endpoint where
  /-- The script of the session. -/
  | scripted
  /-- An SQLite database. -/
  | sqlite
  deriving DecidableEq, Repr

/-- The error of a connection that could not be closed. -/
def Endpoint.closeError : Endpoint → Error
  | scripted => .connection .notClosed
  | sqlite => .sqlite

/-- A driver. -/
inductive Driver where
  /-- Its connections are answered by the script of the session. -/
  | scripted
  /-- It never connects. -/
  | refusing
  /-- Its connections are SQLite databases. -/
  | sqlite
  deriving DecidableEq, Repr

/-- A connection, by its number among those of the session. -/
structure Connection where
  id : Nat
  endpoint : Endpoint
  dialect : Dialect
  deriving DecidableEq, Repr

/-- What a driver is asked to connect to. -/
structure ConnectRequest where
  url : String
  username : Option String
  password : Option String
  deriving DecidableEq, Repr

/-- A call to a driver or a connection. -/
inductive Call where
  | connect (driver : Driver) (request : ConnectRequest)
  | prepare (c : Connection) (sql : String)
  | update (c : Connection) (st : Statement)
  | query (c : Connection) (st : Statement)
  | closeStatement (c : Connection)
  | close (c : Connection)

namespace Call

/-- The method that is called. -/
def method : Call → Method
  | connect .. => .connect
  | prepare .. => .prepare
  | update .. => .update
  | query .. => .query
  | closeStatement .. => .closeStatement
  | close .. => .close

/-- The connection that is called. -/
def connection? : Call → Option Connection
  | connect .. => none
  | prepare c _ => some c
  | update c _ => some c
  | query c _ => some c
  | closeStatement c => some c
  | close c => some c

end Call

/-- A call and whether it succeeded. -/
structure Event where
  call : Call
  succeeded : Bool

/-- How a session answers. -/
structure Script where
  /-- The dialect of the scripted connections. -/
  dialect : Dialect
  /-- The number of rows that every update reports. -/
  affected : UInt64
  /-- Whether the call of a method with a number, counted from zero, fails. -/
  fails : Method → Nat → Bool
  /-- The SQLite databases that can be opened, by what the library answers on them. -/
  databases : Sqlite.Location → Option Sqlite.Answers

/-- The state of a session. -/
structure Session where
  script : Script
  /-- The answers to the next queries on scripted connections. -/
  results : List ResultSet
  /-- The SQLite connections, by their numbers. -/
  engines : List (Nat × Sqlite.Engine)
  /-- How many connections there are. -/
  opened : Nat
  /-- All calls, the latest first. -/
  history : List Event

namespace Session

/-- A session in which nothing has happened. -/
def start (script : Script) (results : List ResultSet) : Session := ⟨script, results, [], 0, []⟩

/-- Records a call. -/
def record (s : Session) (call : Call) (succeeded : Bool) : Session :=
  { s with history := ⟨call, succeeded⟩ :: s.history }

/-- How often a method was called. -/
def calls (s : Session) (m : Method) : Nat := s.history.countP (·.call.method == m)

/-- Whether the next call of a method fails. -/
def failing (s : Session) (m : Method) : Bool := s.script.fails m (s.calls m)

/-- Whether a connection was closed. -/
def isClosed (s : Session) (c : Connection) : Bool :=
  s.history.any fun e => e.call.method == .close && e.call.connection? == some c

/-- The state of an SQLite connection; without any it is closed. -/
def engine (s : Session) (c : Connection) : Sqlite.Engine :=
  ((s.engines.find? (·.1 == c.id)).map (·.2)).getD ⟨none⟩

/-- The session with another state of an SQLite connection. -/
def setEngine (s : Session) (c : Connection) (e : Sqlite.Engine) : Session :=
  { s with engines := (c.id, e) :: s.engines.filter (·.1 != c.id) }

/-- Whether an answer is a success. -/
def isOk {α : Type} (answer : Result α) : Bool :=
  match answer with
  | .ok _ => true
  | .error _ => false

/-- A connection that no driver was asked for. -/
def lend (s : Session) : Connection × Session :=
  (⟨s.opened, .scripted, s.script.dialect⟩, { s with opened := s.opened + 1 })

/-- The dialect of a driver. -/
def driverDialect (s : Session) : Driver → Dialect
  | .sqlite => .sqlite
  | _ => s.script.dialect

/-- Asks a driver for a connection. -/
def connect (s : Session) (driver : Driver) (request : ConnectRequest) :
    Result Connection × Session :=
  let refused := (.error (.connection .refused), s.record (.connect driver request) false)
  if s.failing .connect then refused
  else
    let next := { s.record (.connect driver request) true with opened := s.opened + 1 }
    match driver with
    | .refusing => refused
    | .scripted => (.ok ⟨s.opened, .scripted, s.script.dialect⟩, next)
    | .sqlite =>
      match Sqlite.openUrl s.script.databases request.url with
      | .ok engine =>
        let c : Connection := ⟨s.opened, .sqlite, .sqlite⟩
        (.ok c, next.setEngine c engine)
      | .error e => (.error e, s.record (.connect driver request) false)

/-- Asks a connection for a statement. -/
def prepare (s : Session) (c : Connection) (sql : String) : Result Statement × Session :=
  let answer : Result Statement :=
    if s.failing .prepare then .error (.query .prepareRefused)
    else
      match c.endpoint with
      | .scripted => if s.isClosed c then .error (.connection .closed) else .ok ⟨sql, []⟩
      | .sqlite => (s.engine c).prepare sql
  (answer, s.record (.prepare c sql) (isOk answer))

/-- Runs a statement that returns no rows. -/
def update (s : Session) (c : Connection) (st : Statement) : Result UInt64 × Session :=
  let failed (e : Error) := (.error e, s.record (.update c st) false)
  if s.failing .update then failed (.query .updateRefused)
  else
    match c.endpoint with
    | .scripted =>
      if s.isClosed c then failed (.connection .closed)
      else (.ok s.script.affected, s.record (.update c st) true)
    | .sqlite =>
      let (answer, engine) := (s.engine c).update st
      (answer, (s.record (.update c st) (isOk answer)).setEngine c engine)

/-- Runs a statement that returns rows. -/
def query (s : Session) (c : Connection) (st : Statement) : Result ResultSet × Session :=
  let failed (e : Error) := (.error e, s.record (.query c st) false)
  if s.failing .query then failed (.query .queryRefused)
  else
    match c.endpoint with
    | .scripted =>
      if s.isClosed c then failed (.connection .closed)
      else
        (.ok (s.results.head?.getD .empty),
          { s.record (.query c st) true with results := s.results.tail })
    | .sqlite =>
      let (answer, engine) := (s.engine c).query st
      (answer, (s.record (.query c st) (isOk answer)).setEngine c engine)

/-- Runs a statement that returns rows under a tracer.  What the tracer reports goes to a log
that nothing reads. -/
def queryBy (t : Tracer) (s : Session) (c : Connection) (st : Statement) :
    Result ResultSet × Session :=
  (t.trace st.sql (·.query c st) s).1

theorem queryBy_eq (t : Tracer) : queryBy t = query := by
  funext s c st
  exact t.trace_fst st.sql (fun s => s.query c st) s

/-- Gives a statement back. -/
def closeStatement (s : Session) (c : Connection) : Result Unit × Session :=
  let answer : Result Unit :=
    if s.failing .closeStatement then .error (.connection .statementNotClosed) else .ok ()
  (answer, s.record (.closeStatement c) (isOk answer))

/-- Closes a connection; closing it again changes nothing. -/
def close (s : Session) (c : Connection) : Result Unit × Session :=
  let answer : Result Unit :=
    if s.isClosed c then .ok ()
    else if s.failing .close then .error c.endpoint.closeError
    else .ok ()
  let s := s.record (.close c) (isOk answer)
  match c.endpoint with
  | .scripted => (answer, s)
  | .sqlite => (answer, s.setEngine c (s.engine c).close)

/-! ### Views of the history -/

/-- The calls to scripted connections and drivers, in their order. -/
def scriptedEvents (s : Session) : List Event :=
  s.history.reverse.filter fun e =>
    match e.call with
    | .connect driver _ => driver == .scripted
    | call => call.connection?.any (·.endpoint == .scripted)

/-- What the connections were asked to do. -/
structure Log where
  prepared : List String
  updates : List Statement
  queries : List Statement
  statementCloses : Nat
  connectionCloses : Nat

/-- What the scripted connections have done so far: the statements that were prepared and
run, how many were given back, and how many connections were closed. -/
def log (s : Session) : Log :=
  let events := s.scriptedEvents
  let done := events.filter (·.succeeded)
  { prepared := done.filterMap fun e => match e.call with | .prepare _ sql => some sql | _ => none
    updates := done.filterMap fun e => match e.call with | .update _ st => some st | _ => none
    queries := done.filterMap fun e => match e.call with | .query _ st => some st | _ => none
    statementCloses := events.countP (·.call.method == .closeStatement)
    connectionCloses :=
      ((events.filter (·.call.method == .close)).map (·.call.connection?)).eraseDups.length }

/-- The requests for connections that were granted. -/
def requests (s : Session) : List ConnectRequest :=
  s.scriptedEvents.filterMap fun e =>
    match e.call with
    | .connect _ request => if e.succeeded then some request else none
    | _ => none

end Session

/-- What is new in a log since an earlier one of the session; numbers stay totals. -/
def Session.Log.since (log earlier : Session.Log) : Session.Log :=
  { log with
    prepared := log.prepared.drop earlier.prepared.length
    updates := log.updates.drop earlier.updates.length
    queries := log.queries.drop earlier.queries.length }

end SqlAccess
