import Mathlib.Data.List.TakeWhile
import TableExplorer.Proofs.Except
import TableExplorer.Proofs.Store.Place
import TableExplorer.Proofs.Store.Reflection
import TableExplorer.Proofs.Store.Shape

/-!
# Faults and their reports

A fault is reported as its wording without the blanks at both ends. A wording that names a cause
keeps words of its own, so that its report is never empty. That of an unknown table is the bare name
of the table, so that its report is empty exactly if the name is blank.

Planning meets unknown tables only under the names that a request asks for, and a run meets none:
by then every table of the plan was found.

Main result: `Warehouse.tells_of_answer`.
-/

namespace TableExplorer

/-! ## Blanks -/

namespace Text

theorem trimBoth_eq_nil_iff {isDropped : Char → Bool} {cs : List Char} :
    trimBoth isDropped cs = [] ↔ ∀ c ∈ cs, isDropped c = true := by
  unfold trimBoth
  rw [List.reverse_eq_nil_iff, List.dropWhile_eq_nil_iff]
  constructor
  · intro h
    rw [← List.dropWhile_eq_nil_iff]
    cases hdrop : cs.dropWhile isDropped with
    | nil => rfl
    | cons c rest =>
      have hfirst : isDropped c = false := by
        have hhead := List.head?_dropWhile_not isDropped cs
        rw [hdrop] at hhead
        simpa using hhead
      have hall := h c (by simp [hdrop])
      rw [hfirst] at hall
      cases hall
  · intro h
    have hnil : cs.dropWhile isDropped = [] := List.dropWhile_eq_nil_iff.2 h
    simp [hnil]

theorem strip_ne_empty {s : String} (c : Char) (hmem : c ∈ s.toList) (hc : isBlank c = false) :
    strip s ≠ "" := by
  intro h
  have hnil : trimBoth isBlank s.toList = [] := by
    have hlist := congrArg String.toList h
    simpa [strip] using hlist
  have hall := trimBoth_eq_nil_iff.1 hnil c hmem
  rw [hc] at hall
  cases hall

end Text

namespace Store

open Text

/-! ## Reports -/

/-- The report of a fault says something. -/
def QueryFault.Tells (f : QueryFault) : Prop := f.report ≠ ""

theorem ColumnType.BindFault.strip_message_ne (f : ColumnType.BindFault) :
    strip f.message ≠ "" := by
  delta message
  cases f with
  | notNumber shown => exact strip_ne_empty 'c' (by simp) rfl
  | tooLarge => exact strip_ne_empty 'i' (by simp) rfl
  | notTruth shown => exact strip_ne_empty 'N' (by simp) rfl
  | otherInteger i => exact strip_ne_empty 'V' (by simp) rfl
  | notDate => exact strip_ne_empty 'S' (by simp) rfl
  | notDateTime => exact strip_ne_empty 'S' (by simp) rfl
  | notTime => exact strip_ne_empty 'S' (by simp) rfl
  | notOctets kind => exact strip_ne_empty 'm' (by simp) rfl
  | notDocument => exact strip_ne_empty 'O' (by simp) rfl

namespace QueryFault

/-- **Only the report of an unknown table may be empty**, and it is where the name is blank. -/
@[simp] theorem tells_iff (f : QueryFault) :
    f.Tells ↔ ∀ name, f = .unknownTable name → strip name ≠ "" := by
  unfold Tells report
  delta message
  cases f with
  | unknownTable name => simp
  | unknownColumn source column =>
    simpa using strip_ne_empty 'c' (by simp) rfl
  | embeddedTwice relation base =>
    simpa using strip_ne_empty 'c' (by simp) rfl
  | noRelationship base relation hint =>
    simpa using strip_ne_empty 'c' (by simp) rfl
  | unsupportedOperator operator =>
    simpa using strip_ne_empty 'u' (by simp) rfl
  | unbindable fault => simpa using fault.strip_message_ne
  | tableGone name => simpa using strip_ne_empty 'n' (by simp) rfl
  | baseGone name => simpa using strip_ne_empty 'n' (by simp) rfl
  | columnGone source column =>
    simpa using strip_ne_empty 'n' (by simp) rfl
  | ambiguousName name => simpa using strip_ne_empty 'A' (by simp) rfl

end QueryFault

/-! ## Runs -/

theorem tells_relation (db : Database) (name : String) {absent : QueryFault}
    (habsent : absent.Tells) : FailsIn QueryFault.Tells (db.relation name absent) := by
  unfold Database.relation
  cases db.find name with
  | nothing => exact .error habsent
  | baseMissing base => exact .error (by simp)
  | relation columns rows => exact .ok _

namespace Run

theorem tells_live (db : Database) (name : String) :
    FailsIn QueryFault.Tells (live db name) :=
  (tells_relation db name (by simp)).map _

theorem tells_placeColumn (t : Live) (source name : String) :
    FailsIn QueryFault.Tells (t.place source name) := by
  unfold Live.place
  cases t.columns.findIdx? fun c => sameName c.name name with
  | none => exact .error (by simp)
  | some i => exact .ok _

theorem tells_placeEmbedding (base related : Live) (table : String) (index : Nat)
    (e : EmbeddingPlan) :
    FailsIn QueryFault.Tells (placeEmbedding base table index related e) := by
  have hplaces : FailsIn QueryFault.Tells (e.columns.mapM fun c =>
      (related.place (Plan.aliasOf index e.relation) c.1).map Prod.fst) :=
    .mapM fun c _ => (tells_placeColumn _ _ _).map _
  exact hplaces.bind fun _ => (tells_placeColumn _ _ _).bind fun _ =>
    (tells_placeColumn _ _ _).bind fun _ => .ok _

theorem tells_placeEmbeddings (base : Live) (table : String) (index : Nat)
    (related : List (EmbeddingPlan × Live)) :
    FailsIn QueryFault.Tells (placeEmbeddings base table index related) := by
  induction related generalizing index with
  | nil => exact .ok []
  | cons e rest ih =>
    exact (tells_placeEmbedding base e.2 table index e.1).bind fun _ =>
      (ih (index + 1)).bind fun _ => .ok _

theorem tells_bindCondition (c : ConditionPlan) : FailsIn QueryFault.Tells (bindCondition c) := by
  unfold bindCondition
  cases bindTest c.columnType c.test with
  | ok test => exact .ok _
  | error f => exact .error (by simp)

theorem tells_place (db : Database) (p : Plan) (conditions : List BoundCondition) :
    FailsIn QueryFault.Tells (place db p conditions) := by
  unfold place
  refine (tells_live db p.table).bind fun base => ?_
  refine (FailsIn.mapM fun e _ => (tells_live db e.relation).map _).bind fun related => ?_
  refine (FailsIn.mapM fun c _ => (tells_placeColumn base p.table c.1).map _).bind fun _ => ?_
  refine (tells_placeEmbeddings base p.table 0 related).bind fun _ => ?_
  refine (FailsIn.mapM fun c _ => (tells_placeColumn base p.table c.column).map _).bind fun _ => ?_
  cases p.order with
  | none => exact .ok _
  | some o => exact ((tells_placeColumn base p.table o.column).map _).bind fun _ => .ok _

/-- What goes wrong in a run is reported by words, or is no report at all. -/
def RunFault.Tells : RunFault → Prop
  | .reported f => f.Tells
  | .failed _ => True

theorem tells_readRow (q : Placed) (row : JoinedRow) : FailsIn RunFault.Tells (q.readRow row) := by
  unfold Placed.readRow
  split
  · exact .error trivial
  · split
    · exact .error trivial
    · exact (failsIn_shape (fun label _ => by simp) _ _).mapError fun f (h : f.Tells) => h

/-- **A run that goes wrong says what went wrong.** -/
theorem tells_plan (db : Database) (p : Plan) (range : Option RowRange) (countExact : Bool) :
    FailsIn RunFault.Tells (Run.plan db p range countExact) := by
  have hbound : FailsIn RunFault.Tells ((p.conditions.mapM bindCondition).mapError .reported) :=
    (FailsIn.mapM fun c _ => tells_bindCondition c).mapError fun _ h => h
  have hplaced : ∀ conditions,
      FailsIn RunFault.Tells ((place db p conditions).mapError .reported) :=
    fun conditions => (tells_place db p conditions).mapError fun _ h => h
  rw [plan_eq]
  refine hbound.bind fun conditions => (hplaced conditions).bind fun q => ?_
  unfold Placed.answer
  by_cases hfit : (!integersFit conditions range) = true
  · rw [if_pos hfit]
    exact .error trivial
  · rw [if_neg hfit]
    exact (FailsIn.mapM fun row _ => tells_readRow q row).bind fun _ => .ok _

theorem error_of_plan {db : Database} {p : Plan} {range : Option RowRange} {countExact : Bool}
    {response : Response} (h : Run.plan db p range countExact = .ok response) :
    response.error = none := by
  rw [plan_eq] at h
  obtain ⟨conditions, _, h⟩ := bind_eq_ok.1 h
  obtain ⟨q, _, h⟩ := bind_eq_ok.1 h
  exact (reads_of_answer h).2.2

end Run

/-! ## Plans -/

namespace Plan

variable {tables : String → Except QueryFault Reflection} {joins : Registry.KnownJoins}

theorem tells_column (r : Reflection) (source name : String) :
    FailsIn QueryFault.Tells (r.column source name) := by
  unfold Reflection.column
  cases Dict.get? r.columns name with
  | some t => exact .ok t
  | none => exact .error (by simp)

theorem tells_readColumns (r : Reflection) (source : String) (names : List String) :
    FailsIn QueryFault.Tells (readColumns r source names) := by
  unfold readColumns
  by_cases hnames : names.isEmpty = true
  · rw [if_pos hnames]
    exact .ok _
  · rw [if_neg hnames]
    exact .mapM fun name _ => (tells_column r source name).map _

/-- A relation is looked for only if a known join leads to it. -/
theorem tells_embeddingFrom {e : Embedding}
    (hrelated : ∀ table, (joins.find? table e.hint e.relation).isSome = true →
      FailsIn QueryFault.Tells (tables e.relation))
    (base : Reflection) (index : Nat) (earlier : List Embedding) :
    FailsIn QueryFault.Tells (embeddingFrom tables joins base index earlier e) := by
  unfold embeddingFrom
  split
  · exact .error (by simp)
  · cases hjoin : joins.find? base.name e.hint e.relation with
    | none => exact .error (by simp)
    | some join =>
      refine (hrelated base.name (by simp [hjoin])).bind fun related => ?_
      exact (tells_column base base.name e.hint).bind fun _ =>
        (tells_column related _ join.foreignColumn).bind fun _ =>
          (tells_readColumns related _ e.columns).bind fun _ => .ok _

theorem tells_embeddingsFrom {embeddings : List Embedding}
    (hrelated : ∀ e ∈ embeddings, ∀ table, (joins.find? table e.hint e.relation).isSome = true →
      FailsIn QueryFault.Tells (tables e.relation))
    (base : Reflection) (earlier : List Embedding) :
    FailsIn QueryFault.Tells (embeddingsFrom tables joins base earlier embeddings) := by
  induction embeddings generalizing earlier with
  | nil => exact .ok []
  | cons e rest ih =>
    have hfirst := tells_embeddingFrom (hrelated e List.mem_cons_self) base earlier.length earlier
    have hrest := ih fun e' he' => hrelated e' (List.mem_cons_of_mem _ he')
    exact hfirst.bind fun _ => (hrest (earlier ++ [e])).bind fun _ => .ok _

theorem tells_checkCondition (base : Reflection) (p : Predicate) :
    FailsIn QueryFault.Tells (checkCondition base p) := by
  unfold checkCondition
  cases hcolumn : base.column base.name p.column with
  | error f => exact .error (tells_column base base.name p.column f hcolumn)
  | ok columnType =>
    cases p.test with
    | unsupported operator => exact .error (by simp)
    | _ => exact .ok _

theorem tells_checkOrder (base : Reflection) (order : Option RowOrder) :
    FailsIn QueryFault.Tells (checkOrder base order) := by
  cases order with
  | none => exact .ok none
  | some o => exact (tells_column base base.name o.column).map _

/-- **A request that is refused says why**, if the tables that it asks for do. -/
theorem tells_fromTables {r : Request} (hbase : FailsIn QueryFault.Tells (tables r.table))
    (hrelated : ∀ e ∈ r.projection.nested, ∀ table,
      (joins.find? table e.hint e.relation).isSome = true →
      FailsIn QueryFault.Tells (tables e.relation)) :
    FailsIn QueryFault.Tells (fromTables tables joins r) := by
  have hconditions : ∀ base : Reflection,
      FailsIn QueryFault.Tells (r.predicates.mapM (checkCondition base)) :=
    fun base => .mapM fun p _ => tells_checkCondition base p
  exact hbase.bind fun base => (tells_readColumns base base.name r.projection.columns).bind fun _ =>
    (tells_embeddingsFrom hrelated base []).bind fun _ => (hconditions base).bind fun _ =>
      (tells_checkOrder base r.order).bind fun _ => .ok _

end Plan

end Store

/-! ## Answers -/

/-- No known join leads to a table with a blank name. -/
def Registry.KnownJoins.Named (joins : KnownJoins) : Prop :=
  ∀ entry ∈ joins, ∀ j ∈ entry.2, Text.strip j.foreignTable ≠ ""

instance (joins : Registry.KnownJoins) : Decidable joins.Named :=
  inferInstanceAs (Decidable (∀ entry ∈ joins, ∀ j ∈ entry.2, Text.strip j.foreignTable ≠ ""))

theorem Registry.KnownJoins.Named.strip_ne {joins : KnownJoins} (hjoins : joins.Named)
    {table column foreignTable : String}
    (hfound : (joins.find? table column foreignTable).isSome = true) :
    Text.strip foreignTable ≠ "" := by
  obtain ⟨join, hjoin⟩ := Option.isSome_iff_exists.1 hfound
  have hleads : join.foreignTable = foreignTable := by
    have hcond := List.find?_some hjoin
    simp only [Bool.and_eq_true, decide_eq_true_eq] at hcond
    exact hcond.2
  have hmem : join ∈ joins.ofTable table := List.mem_of_find?_eq_some hjoin
  rw [← hleads]
  unfold KnownJoins.ofTable at hmem
  cases hget : Dict.get? joins table with
  | none => simp [hget] at hmem
  | some found =>
    rw [hget] at hmem
    exact hjoins (table, found) (Dict.mem_of_get? hget) join hmem

namespace Store.Warehouse

variable {w : Warehouse}

/-- If a table is not known, its name tells. -/
def Told (w : Warehouse) (table : String) : Prop :=
  w.reflection table = .error (.unknownTable table) → Text.strip table ≠ ""

theorem tells_reflection {name : String} (hname : w.Told name) :
    FailsIn QueryFault.Tells (w.reflection name) := by
  intro f hf
  refine f.tells_iff.2 ?_
  rintro unknown rfl
  have hsame : unknown = name := by
    unfold reflection reflectionOf at hf
    cases hget : Dict.get? w.memory name with
    | some known =>
      rw [hget] at hf
      cases hf
    | none =>
      rw [hget] at hf
      unfold Database.reflect Database.relation at hf
      cases hfind : w.database.find name with
      | nothing => simpa [hfind, Except.map] using hf.symm
      | baseMissing base => simp [hfind, Except.map] at hf
      | relation columns rows => simp [hfind, Except.map] at hf
  rw [hsame] at hf ⊢
  exact hname hf

/-- **The error of an answer is never empty**, unless the base table has a blank name and is not
known. -/
theorem tells_of_answer {r : Request} (hjoins : w.knownJoins.Named) (hbase : w.Told r.table)
    {response : Response} (hanswer : w.answer r = .ok response) {text : String}
    (herror : response.error = some text) : text ≠ "" := by
  have hplanned : FailsIn QueryFault.Tells (Plan.fromTables w.reflection w.knownJoins r) := by
    refine Plan.tells_fromTables (tells_reflection hbase) fun e _ table hjoin => ?_
    exact tells_reflection fun _ => hjoins.strip_ne hjoin
  unfold answer at hanswer
  cases hplan : Plan.fromTables w.reflection w.knownJoins r with
  | error f =>
    rw [hplan] at hanswer
    cases hanswer
    cases herror
    exact hplanned f hplan
  | ok p =>
    rw [hplan] at hanswer
    dsimp only at hanswer
    cases hrun : Run.plan w.database p r.range r.countExact with
    | ok found =>
      rw [hrun] at hanswer
      cases hanswer
      rw [Run.error_of_plan hrun] at herror
      cases herror
    | error f =>
      rw [hrun] at hanswer
      have htells := Run.tells_plan _ _ _ _ f hrun
      cases f with
      | failed f => cases hanswer
      | reported f =>
        cases hanswer
        cases herror
        exact htells

end Store.Warehouse

end TableExplorer
