import TableExplorer.Api.Documents
import TableExplorer.Api.Framework

/-!
# Endpoints

What each endpoint does. The parts of a request are checked first, and all complaints come
together: those about the path, then the query, then the body. A body that is not JSON at all is
refused on its own before anything else.
-/

namespace TableExplorer.Api

/-- The engine of the application. -/
def engine : Engine Store.Warehouse := { source := Store.Warehouse.source }

/-! ## Reading requests -/

/-- What the body of a request gives: a query state or complaints; or the request is refused
outright, or the body is one that is left to the framework. -/
inductive StateBody
  | checked (state : Checked QueryState)
  | refused (outcome : Outcome)
  | halved

/-- Read the query state in the body of a request, where JSON is read down to a limit of nesting. -/
def readStateBody (nesting : Nat) (r : HttpRequest) : StateBody :=
  match r.content nesting with
  | .absent =>
    .checked ((Checked.refuse .missing .null : Checked QueryState).within (.field "body"))
  | .unreadable => .refused (.answer (.refusal 400 "There was an error parsing the body"))
  | .malformed f =>
    .refused (.complain [{ location := [.field "body", .member f.position]
                           cause := .invalidDocument f.cause.message, input := .record [] }])
  | .halved => .halved
  | .document v => .checked ((QueryState.ofValue .attributes .numbered v).within (.field "body"))

/-- Answer a request by its query state. -/
def withState (f : Framework) (e : Endpoint) (m : Moment) (r : HttpRequest) (s : State)
    (answer : QueryState → Outcome × State) : Outcome × State :=
  match readStateBody f.bodyNesting r with
  | .refused outcome => (outcome, s)
  | .checked (.error cs) => (.complain cs, s)
  | .checked (.ok q) => answer q
  | .halved =>
    let effect := f.halved e m r s.session
    (effect.outcome, s.after effect)

def formatChoices : String := "'csv' or 'xlsx'"

def readFormat (s : String) : Checked ExportFormat :=
  ((Checked.choice formatChoices ExportFormat.ofName? (.text s)).within (.field "fmt")).within
    (.field "path")

/-- Read a parameter of the query that may be absent. -/
def param {α : Type} (params : Dict String) (name : String) (absent : α)
    (read : Value → Checked α) : Checked α :=
  match Dict.get? params name with
  | none => .ok absent
  | some s => ((read (.text s)).within (.field name)).within (.field "query")

/-- The texts that mean yes. -/
def yesTexts : List String := ["1", "on", "t", "true", "y", "yes"]

def noTexts : List String := ["0", "off", "f", "false", "n", "no"]

/-- Read a yes or no, in any case. -/
def readYesNo (v : Value) : Checked Bool :=
  match v with
  | .text s =>
    let word := Text.asciiLowered s
    if yesTexts.contains word then .ok true
    else if noTexts.contains word then .ok false
    else Checked.refuse .unreadableBoolean v
  | v => Checked.refuse .notBoolean v

structure Listing where
  limit : Int
  offset : Int
  hours : Int
  pathStart : Option String
  errorsOnly : Bool
  deriving DecidableEq, Repr

/-- What a listing selects. -/
def Listing.selection (l : Listing) : RequestLog.Selection :=
  { hours := l.hours, pathStart := l.pathStart, errorsOnly := l.errorsOnly }

def Listing.ofParams (params : Dict String) : Checked Listing :=
  let limit := param params "limit" 50 (Checked.integerBetween 1 (some 1000))
  let offset := param params "offset" 0 (Checked.integerBetween 0 none)
  let hours := param params "hours" 24 (Checked.integerBetween 1 (some 168))
  let start := param params "path_prefix" none fun v => (Checked.text v).map some
  let errors := param params "errors_only" false readYesNo
  (((((Checked.both (.ok Listing.mk) limit).both offset).both hours).both start).both errors)

/-! ## Files -/

/-- Whether a text can stand in a header. -/
def fitsHeader (s : String) : Bool := s.toList.all fun c => c.toNat < 256

/-- A file as an answer. Its name must fit into a header. -/
def fileOutcome (f : ExportFile) : Outcome :=
  let disposition := "attachment; filename=\"" ++ f.name ++ "\""
  if fitsHeader disposition then
    .answer (({ status := 200, contentType := f.mediaType
                body := match f.content with
                  | .text s => .text s
                  | .workbook w => .workbook w } : HttpResponse).withHeader "content-disposition"
      disposition)
  else .broken

/-- The outcome of an export to a file. -/
def exportOutcome : Except ExportFault ExportFile → Outcome
  | .ok f => fileOutcome f
  | .error (.query error) => .answer (.refusal 502 (ExportFault.query error).message)
  | .error (.unwritable _) => .broken

/-! ## The log -/

/-- List entries of the log, with the number of all of them. -/
def listEntries (l : Listing) (now : Int) (logs : RequestLog.Table) : Outcome :=
  match logs.entries with
  | none =>
    .answer (.refusal 500
      "Error fetching logs: (sqlite3.OperationalError) no such table: log")
  | some entries =>
    if Store.fits l.offset then
      if l.selection.isRefused now entries then
        .answer (.refusal 500
          "Error fetching logs: (sqlite3.OperationalError) LIKE or GLOB pattern too complex")
      else
        let page := l.selection.page now l.offset.toNat l.limit.toNat entries
        .answer ((((HttpResponse.json (.list (page.map entryDocument))).withHeader "x-total-count"
          (Nat.repr (l.selection.count now entries))).withHeader "x-page-size"
          (Text.ofInt l.limit)).withHeader "x-page-offset" (Text.ofInt l.offset))
    else .answer (.refusal 500 ("Error fetching logs: " ++ Store.Run.outOfRange.text))

/-- Answer a request for a listing with these parameters. -/
def answerListing (m : Moment) (params : Dict String) (s : State) : Outcome × State :=
  match Listing.ofParams params with
  | .error cs => (.complain cs, s)
  | .ok l => (listEntries l m.time s.logs, s)

def showEntry (id : Int) (logs : RequestLog.Table) : Outcome :=
  match logs.entries with
  | none => .broken
  | some entries =>
    if Store.fits id then
      match RequestLog.find? entries id with
      | some e => .answer (.json (entryDocument e))
      | none => .answer (.refusal 404 "Log not found")
    else .broken

/-! ## The endpoints -/

/-- Answer with a document that the session gives. -/
def fromSession {α : Type} (s : State) (document : α → Value)
    (step : Session Store.Warehouse → α × Session Store.Warehouse) : Outcome × State :=
  let (a, session) := step s.session
  (.answer (.json (document a)), { s with session })

def Endpoint.run (f : Framework) (e : Endpoint) (m : Moment) (r : HttpRequest) (s : State) :
    Outcome × State :=
  match e with
  | .tables => fromSession s groupsDocument engine.groupedTables
  | .columns table =>
    fromSession s (fun cs => .list (cs.map columnDocument)) (engine.tableColumns table)
  | .joins table =>
    (.answer (.json (.list ((Registry.knownJoins.ofTable table).map joinDocument))), s)
  | .options table column =>
    fromSession s (fun os => .list (os.map optionDocument))
      (engine.fetchOptions m.clock table column)
  | .operators => (.answer (.json (catalogDocument .standard)), s)
  | .query => withState f e m r s fun q =>
    fromSession s resultDocument (engine.executeQuery m.clock q)
  | .preview => withState f e m r s fun q =>
    (.answer (.json (q.preview engine.mandatory).toValue), s)
  | .exportRows => withState f e m r s fun q =>
    fromSession s resultDocument (engine.fetchAllForExport m.clock q)
  | .exportFile name =>
    match readStateBody f.bodyNesting r with
    | .refused outcome => (outcome, s)
    | .halved =>
      let effect := f.halved e m r s.session
      (effect.outcome, s.after effect)
    | .checked body =>
      match Checked.both (Checked.both (.ok Prod.mk) (readFormat name)) body with
      | .error cs => (.complain cs, s)
      | .ok (format, q) =>
        let (file, session) := engine.exportFile m.clock m.today q format s.session
        (exportOutcome file, { s with session })
  | .clearCache =>
    let cache := s.session.cache.clear
    let source := s.session.source.clearReflection
    (.answer (.json (statsDocument cache.stats)), { s with session := { source, cache } })
  | .logs => answerListing m (Target.parse r.target).params s
  | .log id =>
    match ((Checked.integer (.text id)).within (.field "log_id")).within (.field "path") with
    | .error cs => (.complain cs, s)
    | .ok i => (showEntry i s.logs, s)
  | .description => (.answer (.json f.description), s)
  | .page p => (.answer (.page (f.page p)), s)

end TableExplorer.Api
