import TableExplorer.Api.App

/-!
# How a request is handled

A request is routed to an endpoint or refused, and ends with an outcome. The client gets the answer
of the outcome, or of one that went wrong inside an answer that says so; a request for headers gets
no body. The log is written to by handling only: no endpoint changes it, and two endpoints read it.

All of this holds on top of any framework. Main statements: `respond_endpoint`, `handle_logs` and
`respond_withLogs`.
-/

namespace TableExplorer.Api

variable {f : Framework} {m : Moment} {r : HttpRequest} {s : State}

/-! ## Paths -/

/-- The characters of a path that an address does not hold as they are. -/
def rereadCharacters : List Char := ['?', '#', '\t', '\n', '\r']

/-- The path of a request can be written into an address as it is. -/
def HttpRequest.IsPlain (r : HttpRequest) : Prop := ∀ c ∈ r.path.toList, c ∉ rereadCharacters

/-- A framework reads a path that can be written into an address as it is back from there. -/
def Framework.KeepsPath (f : Framework) (r : HttpRequest) : Prop :=
  r.IsPlain → f.addressPath r = r.path

/-- A character that an address holds is none that ends a path there. -/
theorem ne_of_mem_writtenChar {c d : Char} (h : c ∈ writtenChar d) : c ≠ '?' ∧ c ≠ '#' := by
  have hescape : ∀ c ∈ ['%', '3', 'F'] ++ ['%', '2', '3'], c ≠ '?' ∧ c ≠ '#' := by simp
  unfold writtenChar at h
  split at h
  · exact hescape c (List.mem_append_left _ h)
  · split at h
    · exact hescape c (List.mem_append_right _ h)
    · rw [List.mem_singleton] at h
      subst h
      exact ⟨‹_›, ‹_›⟩

/-- A path is the one in its address exactly if it can be written there as it is. -/
theorem pathInAddress_eq_iff (path : String) :
    pathInAddress path = path ↔ ∀ c ∈ path.toList, c ∉ rereadCharacters := by
  have hchars : pathInAddress path = path ↔
      (path.toList.flatMap writtenChar).filter countsInAddress = path.toList := by
    rw [pathInAddress, writtenPath, ← String.toList_inj, String.toList_ofList, String.toList_ofList]
  rw [hchars]
  constructor
  · intro heq c hc
    rw [← heq] at hc
    obtain ⟨hwritten, hcounts⟩ := List.mem_filter.1 hc
    obtain ⟨d, -, hd⟩ := List.mem_flatMap.1 hwritten
    have hsigns := ne_of_mem_writtenChar hd
    simp_all [rereadCharacters, countsInAddress]
  · intro hplain
    have hwritten : path.toList.flatMap writtenChar = path.toList := by
      have hsingle : ∀ c ∈ path.toList, writtenChar c = [c] := by
        intro c hc
        have := hplain c hc
        simp_all [rereadCharacters, writtenChar]
      rw [List.flatMap_def, List.map_congr_left hsingle, ← List.flatMap_def,
        List.flatMap_singleton']
    rw [hwritten, List.filter_eq_self]
    intro c hc
    have := hplain c hc
    simp_all [rereadCharacters, countsInAddress]

theorem keepsPath_plain (r : HttpRequest) : Framework.plain.KeepsPath r :=
  (pathInAddress_eq_iff r.path).2

/-! ## Answers -/

def Outcome.status : Outcome → Nat
  | .answer r => r.status
  | .broken => 500

theorem handle_fst (f : Framework) (m : Moment) (r : HttpRequest) (s : State) :
    (handle f m r s).1 =
      if r.method = "HEAD" then (respond f m r s).1.response.headersOnly
      else (respond f m r s).1.response := by
  unfold handle
  obtain ⟨outcome, s'⟩ := respond f m r s
  rfl

theorem handle_snd (f : Framework) (m : Moment) (r : HttpRequest) (s : State) :
    (handle f m r s).2 = (respond f m r s).2.keep (entryOf f m r s (respond f m r s).1) := by
  unfold handle
  obtain ⟨outcome, s'⟩ := respond f m r s
  rfl

/-- An endpoint answers; what it says is sent, if it can be. -/
theorem respond_endpoint {e : Endpoint} (h : r.route = .endpoint e) (f : Framework) (m : Moment)
    (s : State) :
    respond f m r s =
      (if e.alwaysSent then (e.run f m r s).1
       else f.sent s.session.source.database (e.run f m r s).1, (e.run f m r s).2) := by
  unfold respond
  rw [h]

theorem respond_of_alwaysSent {e : Endpoint} (h : r.route = .endpoint e) (he : e.alwaysSent = true)
    (f : Framework) (m : Moment) (s : State) : respond f m r s = e.run f m r s := by
  rw [respond_endpoint h, he]
  rfl

theorem alwaysSent_of_readsLog {e : Endpoint} (h : e.readsLog = true) : e.alwaysSent = true := by
  cases e <;> first | rfl | cases h

/-! ## The log -/

theorem snd_answerListing (m : Moment) (params : Dict String) (s : State) :
    (answerListing m params s).2 = s := by
  unfold answerListing
  split <;> rfl

theorem run_of_readsLog {e : Endpoint} (h : e.readsLog = true) (f : Framework) (m : Moment)
    (r : HttpRequest) (s : State) : (e.run f m r s).2 = s := by
  cases e with
  | logs =>
    simp only [Endpoint.run, snd_answerListing]
  | log =>
    simp only [Endpoint.run]
    split <;> rfl
  | _ => simp [Endpoint.readsLog] at h

/-- An outcome and a state that come about with another log. -/
def withLogs (logs : RequestLog.Table) (p : Outcome × State) : Outcome × State :=
  (p.1, { p.2 with logs })

/-- An endpoint does the same with another log, unless it reads other entries there. -/
theorem run_withLogs (f : Framework) (m : Moment) (r : HttpRequest) (s : State) (e : Endpoint)
    {logs : RequestLog.Table} (h : e.readsLog = false ∨ logs.entries = s.logs.entries) :
    e.run f m r { s with logs } = withLogs logs (e.run f m r s) := by
  cases e with
  | tables | columns | joins | options | operators | clearCache | description | page => rfl
  | query | preview | exportRows =>
    simp only [Endpoint.run, withState]
    split <;> rfl
  | exportFile name =>
    simp only [Endpoint.run]
    repeat' split
    all_goals rfl
  | logs | log =>
    have hentries : logs.entries = s.logs.entries := h.resolve_left (by simp [Endpoint.readsLog])
    simp only [Endpoint.run, answerListing, listEntries, showEntry, hentries]
    split <;> rfl

theorem respond_withLogs (f : Framework) (m : Moment) (r : HttpRequest) (s : State)
    {logs : RequestLog.Table}
    (h : (∀ e, r.route = .endpoint e → e.readsLog = false) ∨ logs.entries = s.logs.entries) :
    respond f m r { s with logs } = withLogs logs (respond f m r s) := by
  by_cases hendpoint : ∃ e, r.route = .endpoint e
  · obtain ⟨e, hroute⟩ := hendpoint
    have hrun := run_withLogs f m r s e (h.imp_left fun hnone => hnone e hroute)
    rw [respond_endpoint hroute, respond_endpoint hroute, hrun]
    rfl
  · unfold respond
    split
    · next e hroute => exact absurd ⟨e, hroute⟩ hendpoint
    · rfl
    · rfl
    · rfl

theorem handle_session (f : Framework) (m : Moment) (r : HttpRequest) (s : State) :
    (handle f m r s).2.session = (respond f m r s).2.session := by
  rw [handle_snd, State.keep]

end TableExplorer.Api
