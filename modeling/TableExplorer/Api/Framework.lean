import TableExplorer.Api.Http
import TableExplorer.Api.Route
import TableExplorer.Engine
import TableExplorer.RequestLog.Table
import TableExplorer.Store.Warehouse

/-!
# What the application is built on

The state of the application is that of its session and its log. What is not its own is left to a
`Framework`: the addresses that are put together for requests, the pages that document the
endpoints, and the limits of the machine that reads and writes documents. Nothing is assumed of a
framework but its signature; `Framework.plain` is one that writes whatever it is given.

Half of a surrogate pair is no character, so a text that holds one is none here. A framework says
what an endpoint makes of a body with such a text, and whether an answer can be sent that may show
one from the database.
-/

namespace TableExplorer.Api

/-- The state of the application: the session with its data source, and the log. -/
structure State where
  session : Session Store.Warehouse
  logs : RequestLog.Table := {}

/-- What a request is answered by: the clock of the cache, the time of day of the log, and the
date of today. -/
structure Moment where
  clock : Rat
  time : Int
  today : String

/-- How an endpoint answers, and what the session has in memory then: the cache, and what is known
of the reflected tables. -/
structure Effect where
  outcome : Outcome
  cache : LookupCache
  memory : Store.Memory

/-- What the application leaves to others. -/
structure Framework where
  /-- The path of the address that is put together for a request. It is the one that is logged. -/
  addressPath : HttpRequest → String
  /-- The address of another path, for a client that is sent there. -/
  location : HttpRequest → (path : String) → String
  /-- How deep the document in a body may be nested. -/
  bodyNesting : Nat
  /-- How deep an answer may be nested that is searched for its error. -/
  answerNesting : Nat
  /-- Whether an answer can be sent that was found with a database. It may be nested too deep, or
  show half of a surrogate pair. -/
  sends : Store.Database → HttpResponse → Bool
  /-- The report of what went wrong inside. -/
  trace : Moment → HttpRequest → State → String
  /-- What an endpoint makes of a body with half of a surrogate pair. -/
  halved : Endpoint → Moment → HttpRequest → Session Store.Warehouse → Effect
  /-- The description of the endpoints. -/
  description : Value
  /-- The pages that show it. -/
  page : Page → String

/-- The state after an effect. The database and the time to live stay as they are. -/
def State.after (s : State) (e : Effect) : State :=
  { s with session :=
    { source := { s.session.source with memory := e.memory }
      cache := { e.cache with timeToLive := s.session.cache.timeToLive } } }

/-- The outcome of an endpoint as far as it can be written and sent. -/
def Framework.sent (f : Framework) (database : Store.Database) : Outcome → Outcome
  | .answer r => if r.isWritable && f.sends database r then .answer r else .broken
  | .broken => .broken

/-- A framework that sends every answer and has nothing to say about the endpoints. -/
def Framework.plain : Framework where
  addressPath r := pathInAddress r.path
  location r path :=
    let query := (Target.parse r.target).query
    r.origin ++ escapeAddress
      (writtenPath path ++ if query.isEmpty then "" else "?" ++ query)
  bodyNesting := 900
  answerNesting := 900
  sends _ _ := true
  trace _ _ _ := "Internal Server Error"
  halved _ _ _ s := { outcome := .broken, cache := s.cache, memory := s.source.memory }
  description := .record []
  page _ := ""

end TableExplorer.Api
