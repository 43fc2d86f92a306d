import TableExplorer.DataSource.Basic

/-!
# Recorded calls

What a run asks of its data source, and what it is told, is part of what the run does. The state of
a source is its own affair, so the calls are written down beside it: `DataSource.recorded` answers
as the source does and appends every call with its answer to a list.
-/

namespace TableExplorer

variable {σ : Type}

/-- A call of a data source with its answer. -/
inductive Exchange
  | query (request : Request) (answer : Except Failure Response)
  | describe (table : String) (answer : Except Failure (List ColumnMeta))
  | lookup (request : LookupRequest) (answer : Except Failure (List Row))
  | listTables (answer : Except Failure (List String))

/-- The source gives this answer in some state. -/
def Exchange.AnsweredBy (ds : DataSource σ) : Exchange → Prop
  | .query request answer => ∃ s, (ds.query request s).1 = answer
  | .describe table answer => ∃ s, (ds.describe table s).1 = answer
  | .lookup request answer => ∃ s, (ds.lookup request s).1 = answer
  | .listTables answer => ∃ s, (ds.listTables s).1 = answer

/-- A request is answered with rows: the call does not fail, and the answer has no error. -/
def Clean (answer : Except Failure Response) : Prop :=
  ∃ response, answer = .ok response ∧ response.error = none

namespace DataSource

/-- The data source that writes down its calls. -/
def recorded (ds : DataSource σ) : DataSource (σ × List Exchange) where
  query r s := let a := ds.query r s.1; (a.1, (a.2, s.2 ++ [.query r a.1]))
  describe t s := let a := ds.describe t s.1; (a.1, (a.2, s.2 ++ [.describe t a.1]))
  lookup r s := let a := ds.lookup r s.1; (a.1, (a.2, s.2 ++ [.lookup r a.1]))
  listTables s := let a := ds.listTables s.1; (a.1, (a.2, s.2 ++ [.listTables a.1]))

theorem recorded_query (ds : DataSource σ) (r : Request) (s : σ) (log : List Exchange) :
    ds.recorded.query r (s, log) =
      ((ds.query r s).1, ((ds.query r s).2, log ++ [.query r (ds.query r s).1])) := rfl

theorem recorded_lookup (ds : DataSource σ) (r : LookupRequest) (s : σ) (log : List Exchange) :
    ds.recorded.lookup r (s, log) =
      ((ds.lookup r s).1, ((ds.lookup r s).2, log ++ [.lookup r (ds.lookup r s).1])) := rfl

end DataSource

end TableExplorer
