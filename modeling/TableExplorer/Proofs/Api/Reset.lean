import TableExplorer.Proofs.Api.Logging
import TableExplorer.Proofs.Engine.Keeping
import TableExplorer.Proofs.Store.Reflection

/-!
# Clearing the cache is a complete reset

Requests leave the database as it is and fill two memories: the cache, with choice lists, labels and
the times of both, and the memory of the tables that were reflected. Both are emptied by a clear. So
whatever was asked before it, and however the database was changed in between, the application goes
on as one that was just started on the database as it is now, with the same time to live.

`Stands` is what requests leave as it is. Main result: `clear_is_reset`.
-/

namespace TableExplorer.Api

open Store

/-! ## Runs of the application -/

/-- A newly started application. -/
def started (database : Database) (timeToLive : Option Rat) (logs : RequestLog.Table) : State :=
  { session := { source := { database }, cache := { timeToLive } }, logs }

/-- What an application goes through: it answers a request, or somebody changes its database. -/
inductive Incident
  | request (m : Moment) (r : HttpRequest)
  | change (edit : Database → Database)

def State.change (s : State) (edit : Database → Database) : State :=
  { s with session := { s.session with source := s.session.source.change edit } }

/-- Go through incidents one after the other. -/
def live (f : Framework) : List Incident → State → List Served × State
  | [], s => ([], s)
  | .request m r :: rest, s =>
    let onwards := live f rest (handle f m r s).2
    ({ request := r, outcome := (respond f m r s).1, answer := (handle f m r s).1
       report := f.trace m r s } :: onwards.1, onwards.2)
  | .change edit :: rest, s => live f rest (s.change edit)

/-- What some incidents make of a database. -/
def changed : List Incident → Database → Database
  | [], database => database
  | .request _ _ :: rest, database => changed rest database
  | .change edit :: rest, database => changed rest (edit database)

/-! ## What requests leave as it is -/

/-- An application with this database and this time to live. -/
def Stands (database : Database) (timeToLive : Option Rat) (s : State) : Prop :=
  s.session.Holds (fun w => w.database = database ∧ w.knownJoins = Registry.knownJoins) timeToLive

theorem stands_started (database : Database) (timeToLive : Option Rat)
    (logs : RequestLog.Table) : Stands database timeToLive (started database timeToLive logs) :=
  ⟨⟨rfl, rfl⟩, rfl⟩

theorem keeps_source (database : Database) (knownJoins : Registry.KnownJoins) :
    Warehouse.source.Keeps fun w => w.database = database ∧ w.knownJoins = knownJoins := by
  constructor
  case query =>
    intro r w hw
    obtain ⟨memory, hquery, -, -⟩ := w.query_eq r
    show (w.query r).2.database = _ ∧ (w.query r).2.knownJoins = _
    rw [hquery]
    exact hw
  case describe =>
    intro table w hw
    have hsame : (w.describe table).2 = w := by
      unfold Warehouse.describe
      split
      · rfl
      · split <;> rfl
    show (w.describe table).2.database = _ ∧ (w.describe table).2.knownJoins = _
    rwa [hsame]
  case lookup =>
    intro r w hw
    show (w.lookup r).2.database = _ ∧ (w.lookup r).2.knownJoins = _
    rw [w.snd_lookup]
    exact hw
  case listTables => exact fun w hw => hw

variable {f : Framework} {database : Database} {timeToLive : Option Rat} {s : State}

theorem Stands.after (h : Stands database timeToLive s) (effect : Effect) :
    Stands database timeToLive (s.after effect) :=
  ⟨h.1, h.2⟩

theorem Stands.withState (h : Stands database timeToLive s) (e : Endpoint) (m : Moment)
    (r : HttpRequest) {answer : QueryState → Outcome × State}
    (hanswer : ∀ q, Stands database timeToLive (answer q).2) :
    Stands database timeToLive (withState f e m r s answer).2 := by
  unfold Api.withState
  split
  · exact h
  · exact h
  · exact hanswer _
  · exact h.after _

theorem Stands.run (h : Stands database timeToLive s) (m : Moment) (r : HttpRequest)
    (e : Endpoint) : Stands database timeToLive (e.run f m r s).2 := by
  have hkeeps : engine.source.Keeps fun w =>
      w.database = database ∧ w.knownJoins = Registry.knownJoins := keeps_source _ _
  cases e with
  | tables => exact Session.Holds.groupedTables h hkeeps
  | columns table => exact Session.Holds.tableColumns h hkeeps table
  | joins | operators | description | page => exact h
  | options table column => exact Session.Holds.fetchOptions h hkeeps m.clock table column
  | query => exact h.withState _ m r fun q => Session.Holds.executeQuery h hkeeps m.clock q
  | preview => exact h.withState _ m r fun _ => h
  | exportRows =>
    exact h.withState _ m r fun q => Session.Holds.fetchAllForExport h hkeeps m.clock q
  | exportFile name =>
    simp only [Endpoint.run]
    split
    · exact h
    · exact h.after _
    split
    · exact h
    next q _ => exact Session.Holds.exportFile h hkeeps m.clock m.today q _
  | clearCache => exact h
  | logs | log => rwa [run_of_readsLog rfl]

/-- **A request leaves the database, the known joins and the time to live as they are.** -/
theorem Stands.handle (h : Stands database timeToLive s) (m : Moment) (r : HttpRequest) :
    Stands database timeToLive (handle f m r s).2 := by
  unfold Stands
  rw [handle_session]
  unfold respond
  split
  · exact h.run m r _
  · exact h
  · exact h
  · exact h

theorem Stands.live (h : Stands database timeToLive s) (incidents : List Incident) :
    Stands (changed incidents database) timeToLive (live f incidents s).2 := by
  induction incidents generalizing database s with
  | nil => exact h
  | cons incident rest ih =>
    cases incident with
    | request m r => exact ih (h.handle m r)
    | change edit => exact ih ⟨⟨congrArg edit h.1.1, h.1.2⟩, h.2⟩

/-! ## After the clear -/

/-- The request to clear the cache. -/
structure Clears (r : HttpRequest) : Prop where
  method : r.method = "POST"
  path : (Target.parse r.target).path = "/api/explorer/cache/clear"

theorem Clears.respond {r : HttpRequest} (h : Clears r) (f : Framework) (m : Moment) (s : State) :
    respond f m r s =
      (.answer (.json (statsDocument { optionLists := 0, labelSources := 0, labels := 0 })),
        { s with session :=
            { source := s.session.source.clearReflection, cache := s.session.cache.clear } }) := by
  have hroute : r.route = .endpoint .clearCache := by
    rw [HttpRequest.route, HttpRequest.path, h.method, h.path]
    decide +kernel
  rw [respond_of_alwaysSent hroute rfl]
  rfl

theorem eq_of_session_eq {t : State} (h : t.session = s.session) :
    t = { s with logs := t.logs } := by
  cases t
  cases h
  rfl

/-- A clear leaves nothing but the database and the time to live. -/
theorem Stands.clear (h : Stands database timeToLive s) {r : HttpRequest} (hclears : Clears r)
    (f : Framework) (m : Moment) :
    (Api.handle f m r s).2 = started database timeToLive (Api.handle f m r s).2.logs := by
  refine eq_of_session_eq (s := started database timeToLive s.logs) ?_
  obtain ⟨⟨hdatabase, hjoins⟩, httl⟩ := h
  rw [handle_session, hclears.respond]
  simp only [started, Warehouse.clearReflection, LookupCache.clear, hdatabase, hjoins, httl]

/-- Two runs with different logs: the answers differ only where the log is read. -/
theorem live_withLogs (f : Framework) (incidents : List Incident) (s : State)
    (logs : RequestLog.Table) :
    List.Forall₂ (fun x y => x.request = y.request ∧ (x.answer = y.answer ∨ ReadsLog x.request))
      (live f incidents s).1 (live f incidents { s with logs }).1 := by
  induction incidents generalizing s logs with
  | nil => exact .nil
  | cons incident rest ih =>
    cases incident with
    | change edit => exact ih (s.change edit) logs
    | request m r =>
      -- What was logged never enters a session, so the runs go on with different logs only.
      have hstate := eq_of_session_eq (handle_withLogs_session f m r s logs)
      refine .cons ⟨rfl, ?_⟩ ?_
      · dsimp only
        exact answer_withLogs f m r s logs
      · show List.Forall₂ _ (live f rest (handle f m r s).2).1
          (live f rest (handle f m r { s with logs }).2).1
        rw [hstate]
        exact ih (handle f m r s).2 _

/-- **Clearing the cache is a complete reset.** Whatever an application was asked since it was
started, and however its database was changed meanwhile, a clear answers that nothing is cached, and
leaves the state of an application just started on the database as it is then, beside the log. So
whatever comes later, requests at any times and changes of the database, has the same answers there
as in that application, unless a request reads the log; and with the same log, without exception. -/
theorem clear_is_reset (f : Framework) (database : Database) (timeToLive : Option Rat)
    (logs logs' : RequestLog.Table) (earlier : List Incident) (m : Moment) (r : HttpRequest)
    (hclears : Clears r) (later : List Incident) :
    let before := (live f earlier (started database timeToLive logs)).2
    let cleared := (handle f m r before).2
    let fresh := started (changed earlier database) timeToLive
    (handle f m r before).1 =
      .json (.record [("optionLists", .int 0), ("labelSources", .int 0), ("labels", .int 0)]) ∧
    cleared = fresh cleared.logs ∧
    List.Forall₂ (fun x y => x.request = y.request ∧ (x.answer = y.answer ∨ ReadsLog x.request))
      (live f later cleared).1 (live f later (fresh logs')).1 ∧
    (live f later cleared).1 = (live f later (fresh cleared.logs)).1 := by
  intro before cleared fresh
  have hstands : Stands (changed earlier database) timeToLive before :=
    (stands_started database timeToLive logs).live earlier
  have hcleared : cleared = fresh cleared.logs := hstands.clear hclears f m
  refine ⟨?_, hcleared, ?_, congrArg (fun s => (live f later s).1) hcleared⟩
  · rw [handle_fst, hclears.respond, if_neg (by rw [hclears.method]; decide)]
    rfl
  · rw [hcleared]
    exact live_withLogs f later (fresh cleared.logs) logs'

/-- One seller, who has this name. -/
def sellerNamed (name : String) : Database :=
  Database.create {} "vendedores"
    [{ name := "id", declared := "TEXT" }, { name := "nome", declared := "TEXT" }]
    [[.text "v1", .text name]]

/-- A seller is renamed. The choice list has the name of before until the cache is cleared. -/
theorem clear_is_reset_renamed :
    let m : Moment := { clock := 1, time := 0, today := "2024-01-01" }
    let choices : HttpRequest :=
      { method := "GET", target := "/api/explorer/tables/leads/columns/vendedorResponsavel/options"
        origin := "http://localhost" }
    let clear : HttpRequest :=
      { method := "POST", target := "/api/explorer/cache/clear", origin := "http://localhost" }
    let earlier : List Incident := [.request m choices, .change fun _ => sellerNamed "Anna"]
    let before := (live .plain earlier (started (sellerNamed "Ana") none {})).2
    let cleared := (handle .plain m clear before).2
    let named := fun s : Session Warehouse =>
      (engine.fetchOptions 2 "leads" "vendedorResponsavel" s).1.map LookupOption.label
    Clears clear ∧ named before.session = ["Ana"] ∧ named cleared.session = ["Anna"] ∧
      cleared = started (changed earlier (sellerNamed "Ana")) none cleared.logs := by
  intro m choices clear earlier before cleared named
  have hclears : Clears clear := ⟨rfl, by decide +kernel⟩
  have hcleared : cleared = started (changed earlier (sellerNamed "Ana")) none cleared.logs := by
    with_reducible
      exact (clear_is_reset .plain (sellerNamed "Ana") none {} {} earlier m clear hclears []).2.1
  clear_value cleared
  have hsession : cleared.session =
      { source := { database := sellerNamed "Anna" }, cache := {} } :=
    congrArg State.session hcleared
  have hstale : named before.session = ["Ana"] := by decide +kernel
  have hrenamed : named { source := { database := sellerNamed "Anna" }, cache := {} } =
      ["Anna"] := by decide +kernel
  exact ⟨hclears, hstale, (congrArg named hsession).trans hrenamed, hcleared⟩

end TableExplorer.Api
