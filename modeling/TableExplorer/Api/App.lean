import TableExplorer.Api.Endpoints

/-!
# The application

A request is routed, answered and logged. Requests below `/api` are logged with their body and the
error that their answer tells, except those for the log itself and for the documentation. A request
that goes wrong inside is answered with status 500 and logged on every path, without its body. What
cannot be logged is answered all the same. An answer that is nested too deep to be searched for its
error has been sent when that is found out, and is logged as if the request had gone wrong.
-/

namespace TableExplorer.Api

/-- The name under which the application logs. -/
def applicationId : String := "table-explorer"

/-- The beginning of the paths that are logged. -/
def loggedStart : String := "/api"

/-- The beginnings of the paths that are not logged all the same. -/
def unloggedStarts : List String := ["/api/logs", "/api/docs"]

def isLogged (path : String) : Bool :=
  path.startsWith loggedStart && !unloggedStarts.any fun start => path.startsWith start

/-- Where a request leads. -/
def HttpRequest.route (r : HttpRequest) : Route := .find r.method r.path

/-- Answer a request without logging it. -/
def respond (f : Framework) (m : Moment) (r : HttpRequest) (s : State) : Outcome × State :=
  match r.route with
  | .endpoint e =>
    let (outcome, s') := e.run f m r s
    (if e.alwaysSent then outcome else f.sent s.session.source.database outcome, s')
  | .notAllowed allowed => (.answer (.notAllowed allowed), s)
  | .redirect path => (.answer (.redirect (f.location r path)), s)
  | .notFound => (.answer .notFound, s)

/-- The error that an answer tells, as it is kept. -/
def HttpResponse.error (limit : Nat) (response : HttpResponse) :
    Except Json.Refusal (Option String) :=
  match response.jsonOctets? with
  | some octets => RequestLog.errorText limit octets
  | none => .ok none

def answeredEntry (f : Framework) (m : Moment) (r : HttpRequest) (status : Nat)
    (error : Option String) : RequestLog.Entry :=
  { id := 0, time := m.time, method := r.method, path := f.addressPath r, status
    clientIp := r.client
    requestBody := if r.body.isEmpty then none else some r.body
    error, applicationId := some applicationId }

/-- The log entry of a request that went wrong inside. -/
def brokenEntry (f : Framework) (m : Moment) (r : HttpRequest) (s : State) : RequestLog.Entry :=
  { id := 0, time := m.time, method := r.method, path := f.addressPath r, status := 500
    clientIp := r.client, error := some (f.trace m r s), applicationId := some applicationId }

/-- The entry that a request leaves in the log, if it leaves one. -/
def entryOf (f : Framework) (m : Moment) (r : HttpRequest) (s : State) :
    Outcome → Option RequestLog.Entry
  | .answer response =>
    if isLogged (f.addressPath r) then
      match response.error f.answerNesting with
      | .ok error => some (answeredEntry f m r response.status error)
      | .error _ => some (brokenEntry f m r s)
    else none
  | .broken => some (brokenEntry f m r s)

/-- Keep an entry in the log, if there is one. -/
def State.keep (s : State) (e : Option RequestLog.Entry) : State :=
  { s with logs := (e.map s.logs.add).getD s.logs }

/-- What a client gets of an outcome. -/
def Outcome.response : Outcome → HttpResponse
  | .answer response => response
  | .broken => .internalError

/-- Answer a request and log it. -/
def handle (f : Framework) (m : Moment) (r : HttpRequest) (s : State) : HttpResponse × State :=
  let (outcome, s') := respond f m r s
  let response := outcome.response
  (if r.method = "HEAD" then response.headersOnly else response,
    s'.keep (entryOf f m r s outcome))

end TableExplorer.Api
