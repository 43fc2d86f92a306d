import TableExplorer.DataSource.Basic
import TableExplorer.Request.Compile
import TableExplorer.Text.Characters

/-!
# Export sweeps

A sweep fetches all rows of a query, up to a cap, window after window. A window starts where the
one before it ended. When the source times out, the page size is halved, down to a floor, and the
same offset is asked again with the smaller window; any other error, or a timeout at the floor,
ends the sweep with what was gathered. The sweep also ends with a window that is not full, and at
the cap.

A request that neither moves the window nor makes it smaller is possible only where a bound is not
positive; such requests are limited in number.

The report of a sweep holds the rows, how it ended, the requests in order, and the row counts that
were announced after each page.
-/

namespace TableExplorer

/-- The bounds of a sweep: the cap on the rows, the first page size, the floor of the page size,
and the number of requests that may repeat the one before. -/
structure SweepLimits where
  maxRows : Int := 10000
  pageSize : Int := 500
  minPageSize : Int := 50
  patience : Nat := 1000
  deriving DecidableEq, Repr

/-- The words by which a timeout is known. -/
def timeoutWords : String := "statement timeout"

/-- Whether an error text tells of a timeout. -/
def isTimeout (message : String) : Bool :=
  Text.occursIn timeoutWords (Text.lowered message)

namespace Sweep

/-- How a sweep ended: with all rows, with an error answer, or with a failed call. -/
inductive Ending
  | complete
  | error (text : String)
  | failed (failure : Failure)
  deriving DecidableEq, Repr

/-- What a sweep did. -/
structure Report where
  rows : List Row
  ending : Ending
  requests : List Request
  progress : List Nat
  deriving Repr

/-- A request that was sent before all others. -/
def Report.sent (request : Request) (r : Report) : Report :=
  { r with requests := request :: r.requests }

/-- A row count that was announced before all others. -/
def Report.announced (count : Nat) (r : Report) : Report :=
  { r with progress := count :: r.progress }

def stop (rows : List Row) (ending : Ending) : Report :=
  { rows, ending, requests := [], progress := [] }

/-- The page size after a timeout. -/
def backOff (limits : SweepLimits) (pageSize : Int) : Int :=
  max limits.minPageSize (pageSize / 2)

/-- The sweep from `offset` on, with the rows gathered so far. `compile` makes the request for a
window. Where a page holds rows but the window does not move on, and where a page size does not
shrink, `patience` runs out. -/
def run {σ : Type} (query : Request → σ → Except Failure Response × σ)
    (compile : (offset limit : Int) → Request) (limits : SweepLimits) (patience : Nat)
    (pageSize offset : Int) (rows : List Row) (state : σ) : Report × σ :=
  if _hcap : offset < limits.maxRows then
    let limit := min pageSize (limits.maxRows - offset)
    let request := compile offset limit
    match query request state with
    | (.error f, state) => ((stop rows (.failed f)).sent request, state)
    | (.ok response, state) =>
      match response.failure? with
      | some text =>
        if isTimeout text && decide (limits.minPageSize < pageSize) then
          if _hsmaller : 0 < pageSize ∧ backOff limits pageSize < pageSize then
            let (report, state) := run query compile limits patience (backOff limits pageSize)
              offset rows state
            (report.sent request, state)
          else if _hpatient : 0 < patience then
            let (report, state) := run query compile limits (patience - 1)
              (backOff limits pageSize) offset rows state
            (report.sent request, state)
          else ((stop rows (.error text)).sent request, state)
        else ((stop rows (.error text)).sent request, state)
      | none =>
        if response.rows.isEmpty then ((stop rows .complete).sent request, state)
        else
          let gathered := rows ++ response.rows
          if (response.rows.length : Int) < limit then
            (((stop gathered .complete).announced gathered.length).sent request, state)
          else if _hfull : 0 < limit then
            let (report, state) := run query compile limits patience pageSize (offset + limit)
              gathered state
            ((report.announced gathered.length).sent request, state)
          else if _hpatient : 0 < patience then
            let (report, state) := run query compile limits (patience - 1) pageSize
              (offset + limit) gathered state
            ((report.announced gathered.length).sent request, state)
          else (((stop gathered .complete).announced gathered.length).sent request, state)
  else (stop rows .complete, state)
termination_by (patience, (limits.maxRows - offset).toNat, pageSize.toNat)
decreasing_by
  · apply Prod.Lex.right
    apply Prod.Lex.right
    omega
  · apply Prod.Lex.left
    omega
  · apply Prod.Lex.right
    apply Prod.Lex.left
    omega
  · apply Prod.Lex.left
    omega

/-- The sweep of a query, from the start. -/
def ofState {σ : Type} (query : Request → σ → Except Failure Response × σ)
    (mandatory : Registry.MandatoryFilters) (limits : SweepLimits) (q : QueryState) (state : σ) :
    Report × σ :=
  run query (q.exportRequest mandatory) limits limits.patience limits.pageSize 0 [] state

end Sweep

end TableExplorer
