import TableExplorer.Proofs.Engine.Alike
import TableExplorer.Proofs.Store.Reflection

/-!
# A warehouse is its answers

A warehouse remembers the tables that it has read, and answers as if it did not: what it learns on
the way does not show. So for the engine it is an oracle, a source without a state that answers
every request and every lookup in one way.

Main result: `Warehouse.alikeFor_oracle`.
-/

namespace TableExplorer.Store.Warehouse

variable {w a : Warehouse}

/-- A warehouse answers as another one does: it may remember more tables, as they are taken for
anyway. -/
structure Like (w a : Warehouse) : Prop where
  database_eq : a.database = w.database
  knownJoins_eq : a.knownJoins = w.knownJoins
  reflection_eq : a.reflection = w.reflection

theorem Like.self (w : Warehouse) : w.Like w := ⟨rfl, rfl, rfl⟩

theorem Like.query (h : w.Like a) (r : Request) :
    (a.query r).1 = w.answer r ∧ w.Like (a.query r).2 := by
  obtain ⟨memory, hquery, hsame, -⟩ := a.query_eq r
  rw [hquery]
  constructor
  · unfold answer
    rw [h.database_eq, h.knownJoins_eq, h.reflection_eq]
  · exact ⟨h.database_eq, h.knownJoins_eq, hsame.trans h.reflection_eq⟩

theorem Like.lookup (h : w.Like a) (r : LookupRequest) :
    (a.lookup r).1 = w.lookupAnswer r ∧ w.Like (a.lookup r).2 := by
  obtain ⟨memory, hlookup, hsame⟩ := a.lookup_eq r
  rw [hlookup]
  constructor
  · unfold lookupAnswer
    rw [h.database_eq, h.reflection_eq]
  · exact ⟨h.database_eq, h.knownJoins_eq, hsame.trans h.reflection_eq⟩

/-- The source that answers as a warehouse does, and remembers nothing. -/
def oracle (w : Warehouse) : DataSource Unit where
  query r _ := (w.answer r, ())
  describe name _ := ((w.describe name).1, ())
  lookup r _ := (w.lookupAnswer r, ())
  listTables _ := (w.listTables.1, ())

/-- **A warehouse cannot be told from its oracle.** -/
theorem alikeFor_oracle (w : Warehouse) (mandatory : Registry.MandatoryFilters)
    (lookups : Registry.Lookups) (q : QueryState) :
    AlikeFor source w.oracle mandatory lookups q (fun a _ => w.Like a) :=
  ⟨fun _ _ _ _ _ ha => ha.query _, fun _ _ _ _ _ ha => ha.lookup _⟩

/-- The calls of a sweep are answered as the warehouse answers them at the start. -/
theorem answer_of_mem_calls {mandatory : Registry.MandatoryFilters} {limits : SweepLimits}
    {q : QueryState} {request : Request} {answer : Except Failure Response}
    (hpage : 0 < limits.pageSize) (hfloor : 0 < limits.minPageSize)
    (hmem : .query request answer ∈ Sweep.calls source mandatory limits q w) :
    answer = w.answer request := by
  rw [(w.alikeFor_oracle mandatory [] q).calls_eq limits (b := ()) (.self w)] at hmem
  obtain ⟨hanswered, -⟩ := Sweep.ofState_trace w.oracle mandatory limits hpage hfloor q ()
  obtain ⟨_, hanswer⟩ := hanswered _ hmem
  exact hanswer.symm

end TableExplorer.Store.Warehouse
