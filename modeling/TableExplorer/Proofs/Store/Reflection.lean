import TableExplorer.Proofs.Dict
import TableExplorer.Store.Warehouse

/-!
# Planning is a function of what is known

A request is checked step by step, and each step may read a table from the database and remember
it. What is remembered is what would be read again, so the memory plays no part beyond the tables
that it held before: checking a request has the outcome of `Plan.fromTables`, a plain computation
from what each table is taken for.

Main results: `Plan.learns_ofRequest`, `Warehouse.query_eq` and `Warehouse.Reached.filed`.
-/

namespace TableExplorer.Store

/-- What a table is taken for: as it is remembered, or else as it is in the database. -/
def reflectionOf (db : Database) (memory : Memory) (name : String) :
    Except QueryFault Reflection :=
  match Dict.get? memory name with
  | some r => .ok r
  | none => db.reflect name

/-- Each table is remembered under its own name. -/
def Filed (memory : Memory) : Prop :=
  ∀ name r, Dict.get? memory name = some r → r.name = name

theorem filed_nil : Filed [] := fun _ _ h => nomatch h

theorem name_of_reflect {db : Database} {name : String} {r : Reflection}
    (h : db.reflect name = .ok r) : r.name = name := by
  unfold Database.reflect at h
  cases hrel : db.relation name (.unknownTable name) with
  | error f => rw [hrel] at h; cases h
  | ok found => rw [hrel] at h; cases h; rfl

theorem name_of_reflectionOf {db : Database} {memory : Memory} (hfiled : Filed memory)
    {name : String} {r : Reflection} (h : reflectionOf db memory name = .ok r) :
    r.name = name := by
  unfold reflectionOf at h
  cases hget : Dict.get? memory name with
  | some known => rw [hget] at h; cases h; exact hfiled name _ hget
  | none => rw [hget] at h; exact name_of_reflect h

/-! ## Steps that learn -/

/-- A step that learns about tables: its outcome depends on what they are taken for, and it leaves
that as it is. -/
def Learns {α : Type} (db : Database) (step : Reflecting α)
    (outcome : (String → Except QueryFault Reflection) → Except QueryFault α) : Prop :=
  ∀ memory, ∃ memory', step.run memory = (outcome (reflectionOf db memory), memory') ∧
    reflectionOf db memory' = reflectionOf db memory ∧ (Filed memory → Filed memory')

theorem learns_pure {α : Type} (db : Database) (a : α) :
    Learns db (pure a) (fun _ => .ok a) :=
  fun memory => ⟨memory, rfl, rfl, id⟩

theorem learns_throw {α : Type} (db : Database) (f : QueryFault) :
    Learns db (throw f : Reflecting α) (fun _ => .error f) :=
  fun memory => ⟨memory, rfl, rfl, id⟩

theorem learns_known {α : Type} (db : Database) (x : Except QueryFault α) :
    Learns db (Plan.known x) (fun _ => x) := by
  cases x with
  | ok a => exact learns_pure db a
  | error f => exact learns_throw db f

theorem Learns.bind {α β : Type} {db : Database} {step : Reflecting α} {next : α → Reflecting β}
    {outcome : (String → Except QueryFault Reflection) → Except QueryFault α}
    {nextOutcome : α → (String → Except QueryFault Reflection) → Except QueryFault β}
    (hstep : Learns db step outcome) (hnext : ∀ a, Learns db (next a) (nextOutcome a)) :
    Learns db (step >>= next) (fun tables => outcome tables >>= fun a => nextOutcome a tables) := by
  intro memory
  obtain ⟨memory', hrun, hsame, hfiled⟩ := hstep memory
  have hbind : (step >>= next).run memory =
      match step.run memory with
      | (.ok a, m) => (next a).run m
      | (.error f, m) => (.error f, m) := by
    rw [ExceptT.run_bind]
    show StateT.bind step.run _ memory = _
    unfold StateT.bind
    rcases step.run memory with ⟨a | a, m⟩ <;> rfl
  rw [hbind, hrun]
  dsimp only
  cases hout : outcome (reflectionOf db memory) with
  | error f => exact ⟨memory', rfl, hsame, hfiled⟩
  | ok a =>
    obtain ⟨memory'', hrun', hsame', hfiled'⟩ := hnext a memory'
    refine ⟨memory'', ?_, hsame'.trans hsame, fun h => hfiled' (hfiled h)⟩
    show (next a).run memory' = (nextOutcome a (reflectionOf db memory), memory'')
    rw [hrun', hsame]

theorem run_reflect (db : Database) (name : String) (memory : Memory) :
    (reflect db name).run memory =
      match Dict.get? memory name with
      | some r => (.ok r, memory)
      | none =>
        match db.reflect name with
        | .ok r => (.ok r, Dict.insert memory name r)
        | .error f => (.error f, memory) := by
  show (match Dict.get? memory name with
    | some r => (pure r : Reflecting Reflection)
    | none => _).run memory = _
  cases Dict.get? memory name with
  | some r => rfl
  | none =>
    show (match db.reflect name with
      | .ok r => (do modify fun memory => Dict.insert memory name r; return r)
      | .error f => throw f : Reflecting Reflection).run memory = _
    cases db.reflect name <;> rfl

/-- Reading a table keeps what it finds, which changes nothing about any table. -/
theorem learns_reflect (db : Database) (name : String) :
    Learns db (reflect db name) (fun tables => tables name) := by
  intro memory
  rw [run_reflect]
  cases hget : Dict.get? memory name with
  | some r =>
    refine ⟨memory, ?_, rfl, id⟩
    simp only [reflectionOf, hget]
  | none =>
    have hof : reflectionOf db memory name = db.reflect name := by simp only [reflectionOf, hget]
    dsimp only
    rw [hof]
    cases hreflect : db.reflect name with
    | error f => exact ⟨memory, rfl, rfl, id⟩
    | ok r =>
      refine ⟨Dict.insert memory name r, rfl, ?_, fun hfiled => ?_⟩
      · funext other
        unfold reflectionOf
        rw [Dict.get?_insert]
        by_cases hother : other = name
        · rw [if_pos hother, hother, hget]
          exact hreflect.symm
        · rw [if_neg hother]
      · intro other known hknown
        rw [Dict.get?_insert] at hknown
        by_cases hother : other = name
        · rw [if_pos hother] at hknown
          cases hknown
          rw [hother]
          exact name_of_reflect hreflect
        · rw [if_neg hother] at hknown
          exact hfiled other known hknown

/-! ## The plain computation -/

namespace Plan

variable (tables : String → Except QueryFault Reflection) (joins : Registry.KnownJoins)

/-- Check one embedded relation. -/
def embeddingFrom (base : Reflection) (index : Nat) (earlier : List Embedding) (e : Embedding) :
    Except QueryFault EmbeddingPlan :=
  if earlier.any fun other => other.relation = e.relation then
    .error (.embeddedTwice e.relation base.name)
  else
    match joins.find? base.name e.hint e.relation with
    | none => .error (.noRelationship base.name e.relation e.hint)
    | some join => do
      let related ← tables e.relation
      let source := aliasOf index e.relation
      let _ ← base.column base.name e.hint
      let keyType ← related.column source join.foreignColumn
      let columns ← readColumns related source e.columns
      return { relation := e.relation, hint := e.hint, foreignColumn := join.foreignColumn,
               keyType, columns }

/-- Check embedded relations, in order; `earlier` are those before them. -/
def embeddingsFrom (base : Reflection) :
    (earlier : List Embedding) → List Embedding → Except QueryFault (List EmbeddingPlan)
  | _, [] => .ok []
  | earlier, e :: rest => do
    let plan ← embeddingFrom tables joins base earlier.length earlier e
    let plans ← embeddingsFrom base (earlier ++ [e]) rest
    return plan :: plans

/-- Check a request. -/
def fromTables (r : Request) : Except QueryFault Plan := do
  let base ← tables r.table
  let columns ← readColumns base base.name r.projection.columns
  let embeddings ← embeddingsFrom tables joins base [] r.projection.nested
  let conditions ← r.predicates.mapM (checkCondition base)
  let order ← checkOrder base r.order
  return { table := base.name, columns, embeddings, conditions, order }

theorem learns_checkEmbedding (db : Database) (base : Reflection) (index : Nat)
    (earlier : List Embedding) (e : Embedding) :
    Learns db (checkEmbedding db joins base index earlier e)
      (fun tables => embeddingFrom tables joins base index earlier e) := by
  unfold checkEmbedding embeddingFrom
  by_cases htwice : earlier.any fun other => other.relation = e.relation
  · simp only [htwice, if_true]
    exact learns_throw db _
  · simp only [htwice]
    cases joins.find? base.name e.hint e.relation with
    | none => exact learns_throw db _
    | some join =>
      exact (learns_reflect db e.relation).bind fun related =>
        (learns_known db _).bind fun _ => (learns_known db _).bind fun _ =>
          (learns_known db _).bind fun _ => learns_pure db _

theorem learns_checkEmbeddings (db : Database) (base : Reflection) (earlier : List Embedding)
    (embeddings : List Embedding) :
    Learns db (checkEmbeddings db joins base earlier embeddings)
      (fun tables => embeddingsFrom tables joins base earlier embeddings) := by
  induction embeddings generalizing earlier with
  | nil => exact learns_pure db []
  | cons e rest ih =>
    exact (learns_checkEmbedding joins db base earlier.length earlier e).bind fun _ =>
      (ih (earlier ++ [e])).bind fun _ => learns_pure db _

/-- **Planning is a function of what tables are taken for.** -/
theorem learns_ofRequest (db : Database) (r : Request) :
    Learns db (ofRequest db joins r) (fun tables => fromTables tables joins r) :=
  (learns_reflect db r.table).bind fun base =>
    (learns_known db _).bind fun _ =>
      (learns_checkEmbeddings joins db base [] r.projection.nested).bind fun _ =>
        (learns_known db _).bind fun _ =>
          (learns_known db _).bind fun _ => learns_pure db _

end Plan

/-! ## Requests -/

namespace Warehouse

/-- What a table is taken for. -/
def reflection (w : Warehouse) (name : String) : Except QueryFault Reflection :=
  reflectionOf w.database w.memory name

/-- The answer to a request. -/
def answer (w : Warehouse) (r : Request) : Except Failure Response :=
  match Plan.fromTables w.reflection w.knownJoins r with
  | .error f => .ok { error := some f.report }
  | .ok plan =>
    match Run.plan w.database plan r.range r.countExact with
    | .ok response => .ok response
    | .error (.reported f) => .ok { error := some f.report }
    | .error (.failed f) => .error f

/-- **The answer to a request** depends on the database and on what tables are taken for. The
request itself changes neither. -/
theorem query_eq (w : Warehouse) (r : Request) :
    ∃ memory', w.query r = (w.answer r, { w with memory := memory' }) ∧
      reflectionOf w.database memory' = w.reflection ∧ (Filed w.memory → Filed memory') := by
  obtain ⟨memory', hrun, hsame, hfiled⟩ :=
    Plan.learns_ofRequest w.knownJoins w.database r w.memory
  refine ⟨memory', ?_, hsame, hfiled⟩
  have hreflecting : w.reflecting (Plan.ofRequest w.database w.knownJoins r) =
      (Plan.fromTables w.reflection w.knownJoins r, { w with memory := memory' }) := by
    unfold reflecting
    rw [show (Plan.ofRequest w.database w.knownJoins r).run w.memory = _ from hrun]
    rfl
  unfold query answer
  rw [hreflecting]
  cases Plan.fromTables w.reflection w.knownJoins r with
  | error f => rfl
  | ok plan =>
    simp only
    rcases Run.plan w.database plan r.range r.countExact with (f | f) | response <;> rfl

def lookupFrom (tables : String → Except QueryFault Reflection) (r : LookupRequest) :
    Except QueryFault LookupPlan := do
  let table ← tables r.table
  let idType ← table.column table.name r.idField
  let labelType ← table.column table.name r.labelField
  return {
    plan := {
      table := table.name, columns := [(r.idField, idType), (r.labelField, labelType)],
      embeddings := [], conditions := [],
      order := if r.orderByLabel then some { column := r.labelField } else none }
    condition := match r.ids with
      | none => []
      | some ids => [{ column := r.idField, test := .oneOf (ids.map .text) }] }

theorem learns_lookupPlan (db : Database) (r : LookupRequest) :
    Learns db (lookupPlan db r) (fun tables => lookupFrom tables r) :=
  (learns_reflect db r.table).bind fun _ =>
    (learns_known db _).bind fun _ => (learns_known db _).bind fun _ => learns_pure db _

/-- The answer to a lookup. -/
def lookupAnswer (w : Warehouse) (r : LookupRequest) : Except Failure (List Row) :=
  match lookupFrom w.reflection r with
  | .error f => .error (.ofSource f.report)
  | .ok p =>
    match runLookup w.database p with
    | .ok rows => .ok rows
    | .error (.reported f) => .error (.ofSource f.report)
    | .error (.failed f) => .error f

/-- **The answer to a lookup** depends on the same as that to a request. -/
theorem lookup_eq (w : Warehouse) (r : LookupRequest) :
    ∃ memory', w.lookup r = (w.lookupAnswer r, { w with memory := memory' }) ∧
      reflectionOf w.database memory' = w.reflection := by
  obtain ⟨memory', hrun, hsame, -⟩ := learns_lookupPlan w.database r w.memory
  refine ⟨memory', ?_, hsame⟩
  have hreflecting : w.reflecting (lookupPlan w.database r) =
      (lookupFrom w.reflection r, { w with memory := memory' }) := by
    unfold reflecting
    rw [hrun]
    rfl
  unfold lookup lookupAnswer
  rw [hreflecting]
  cases lookupFrom w.reflection r with
  | error f => rfl
  | ok p =>
    simp only
    rcases runLookup w.database p with (f | f) | rows <;> rfl

theorem snd_lookup (w : Warehouse) (r : LookupRequest) :
    (w.lookup r).2 = { w with memory := ((lookupPlan w.database r).run w.memory).2 } := by
  unfold lookup reflecting
  rcases (lookupPlan w.database r).run w.memory with ⟨f | p, memory⟩
  · rfl
  · simp only
    rcases runLookup w.database p with (f | f) | rows <;> rfl

/-! ## Warehouses -/

/-- The warehouses that there can be: each begins without memory, and what it is asked and what
becomes of its database may come in any order. The calls that are left out leave a warehouse as it
is. -/
inductive Reached : Warehouse → Prop
  | start (database : Database) (knownJoins : Registry.KnownJoins) :
      Reached { database, knownJoins }
  | query {w : Warehouse} (hw : Reached w) (r : Request) : Reached (w.query r).2
  | lookup {w : Warehouse} (hw : Reached w) (r : LookupRequest) : Reached (w.lookup r).2
  | change {w : Warehouse} (hw : Reached w) (f : Database → Database) : Reached (w.change f)
  | clear {w : Warehouse} (hw : Reached w) : Reached w.clearReflection

theorem Reached.filed {w : Warehouse} (hw : w.Reached) : Filed w.memory := by
  induction hw with
  | start database knownJoins => exact filed_nil
  | @query w _ r ih =>
    obtain ⟨memory', hquery, -, hfiled⟩ := w.query_eq r
    rw [hquery]
    exact hfiled ih
  | @lookup w _ r ih =>
    obtain ⟨memory', hrun, -, hfiled⟩ := learns_lookupPlan w.database r w.memory
    rw [snd_lookup, hrun]
    exact hfiled ih
  | change _ f ih => exact ih
  | clear _ ih => exact filed_nil

end Warehouse

end TableExplorer.Store
