import TableExplorer.Proofs.Store.Semantics
import TableExplorer.Request.Compile

/-!
# Rows that are left out

A database may be restricted to some of the rows of its tables. What its names stand for stays what
it was, apart from the rows, and so do the columns that are read from it. A request is answered
alike over both databases where its conditions reject the rows that are left out of its base table
anyway, and none are left out of the other tables that it reads.

A warehouse is concealed by leaving out the rows of guarded tables that do not meet the mandatory
filters. Requests and lookups that reach guarded tables in no other way than under their own names,
as a base that is filtered, cannot tell whether the warehouse is concealed.

Main results: `Warehouse.answer_conceal` and `Warehouse.lookupAnswer_conceal`.
-/

namespace TableExplorer.Store

/-! ## The tables behind names -/

namespace Database

/-- The table that a name leads to, by its name in small letters. A view leads on to its base. -/
def homeWithin (db : Database) : (steps : Nat) → (name : String) → Option String
  | 0, _ => none
  | steps + 1, name =>
    match db.tables.find? fun t => sameName t.name name with
    | some _ => some (Text.asciiLowered name)
    | none =>
      match db.views.find? fun v => sameName v.name name with
      | none => none
      | some v => db.homeWithin steps v.base

/-- The table that a name leads to. -/
def home? (db : Database) (name : String) : Option String :=
  db.homeWithin (db.views.length + 1) name

/-- Two names lead to one table. -/
def SameHome (db : Database) (a b : String) : Prop := db.home? a ≠ none ∧ db.home? a = db.home? b

instance (db : Database) (a b : String) : Decidable (db.SameHome a b) :=
  inferInstanceAs (Decidable (_ ∧ _))

theorem homeWithin_of_relation {db : Database} {steps : Nat} {name : String}
    {columns : List ColumnDef} {rows : List (List Cell)}
    (h : db.findWithin steps name = .relation columns rows) : db.homeWithin steps name ≠ none := by
  induction steps generalizing name with
  | zero => cases h
  | succ steps ih =>
    unfold findWithin at h
    unfold homeWithin
    cases htable : db.tables.find? fun t => sameName t.name name with
    | some t => simp
    | none =>
      rw [htable] at h
      cases hview : db.views.find? fun v => sameName v.name name with
      | none => simp [hview] at h
      | some v =>
        refine ih ?_
        simp only [hview] at h
        cases hbase : db.findWithin steps v.base with
        | nothing => simp [hbase] at h
        | baseMissing base => simp [hbase] at h
        | relation columns' rows' => simpa [hbase] using h

/-! ## Restrictions -/

/-- The rows of each table that are kept. -/
def restrict (db : Database) (keep : String → List Cell → Bool) : Database :=
  { db with tables := db.tables.map fun t =>
      { t with rows := t.rows.filter (keep (Text.asciiLowered t.name)) } }

/-- Whether a row is kept that is found under a name. -/
def keeps (db : Database) (keep : String → List Cell → Bool) (name : String) (row : List Cell) :
    Bool :=
  (db.home? name).all fun home => keep home row

/-- What was found, with only the rows that are kept. -/
def Found.sift (keep : List Cell → Bool) : Found → Found
  | .relation columns rows => .relation columns (rows.filter keep)
  | found => found

variable (db : Database) (keep : String → List Cell → Bool)

theorem findWithin_restrict (steps : Nat) (name : String) :
    (db.restrict keep).findWithin steps name =
      (db.findWithin steps name).sift fun row =>
        (db.homeWithin steps name).all fun home => keep home row := by
  induction steps generalizing name with
  | zero => rfl
  | succ steps ih =>
    rw [findWithin, findWithin, homeWithin, restrict, List.find?_map]
    cases htable : db.tables.find? fun t => sameName t.name name with
    | some t =>
      have hname : Text.asciiLowered t.name = Text.asciiLowered name := by
        simpa [sameName] using List.find?_some htable
      have hfound : db.tables.find? ((fun t => sameName t.name name) ∘ fun t =>
          { t with rows := t.rows.filter (keep (Text.asciiLowered t.name)) }) = some t := htable
      rw [hfound]
      simp only [Option.map_some, Found.sift, Option.all_some, hname]
    | none =>
      have hfound : db.tables.find? ((fun t => sameName t.name name) ∘ fun t =>
          { t with rows := t.rows.filter (keep (Text.asciiLowered t.name)) }) = none := htable
      rw [hfound]
      simp only [Option.map_none]
      cases db.views.find? fun v => sameName v.name name with
      | none => rfl
      | some v =>
        have hbase := ih v.base
        unfold restrict at hbase
        simp only [hbase]
        cases db.findWithin steps v.base <;> rfl

theorem relation_restrict (name : String) (absent : QueryFault) :
    (db.restrict keep).relation name absent =
      (db.relation name absent).map fun found =>
        (found.1, found.2.filter (db.keeps keep name)) := by
  have hfind : (db.restrict keep).find name = (db.find name).sift (db.keeps keep name) :=
    db.findWithin_restrict keep (db.views.length + 1) name
  unfold relation
  rw [hfind]
  cases db.find name <;> rfl

@[simp] theorem reflect_restrict (name : String) :
    (db.restrict keep).reflect name = db.reflect name := by
  unfold reflect
  rw [relation_restrict]
  cases db.relation name (.unknownTable name) <;> rfl

end Database

/-! ## Runs -/

namespace Run

/-- A table with only the rows that are kept. -/
def Live.sift (keep : List Cell → Bool) (t : Live) : Live := { t with rows := t.rows.filter keep }

/-- A placed plan with only the base rows that are kept. -/
def Placed.sift (keep : List Cell → Bool) (q : Placed) : Placed :=
  { q with rows := q.rows.filter keep }

theorem Live.sift_of_all {keep : List Cell → Bool} (h : ∀ row, keep row = true) (t : Live) :
    t.sift keep = t := by
  rw [Live.sift, List.filter_eq_self.2 fun row _ => h row]

theorem Placed.sift_of_all {keep : List Cell → Bool} (h : ∀ row, keep row = true) (q : Placed) :
    q.sift keep = q := by
  rw [Placed.sift, List.filter_eq_self.2 fun row _ => h row]

theorem live_restrict (db : Database) (keep : String → List Cell → Bool) (name : String) :
    live (db.restrict keep) name = (live db name).map (Live.sift (db.keeps keep name)) := by
  unfold live
  rw [db.relation_restrict]
  cases db.relation name (.tableGone name) <;> rfl

theorem placeEmbeddings_sift (keep : List Cell → Bool) (t : Live) (table : String) (index : Nat)
    (related : List (EmbeddingPlan × Live)) :
    placeEmbeddings (t.sift keep) table index related = placeEmbeddings t table index related := by
  induction related generalizing index with
  | nil => rfl
  | cons e rest ih =>
    rw [placeEmbeddings, placeEmbeddings, ih]
    rfl

variable {db db' : Database} {p : Plan} {keep : List Cell → Bool}

theorem place_sift (hbase : live db' p.table = (live db p.table).map (Live.sift keep))
    (hrelated : ∀ e ∈ p.embeddings, live db' e.relation = live db e.relation)
    (conditions : List BoundCondition) :
    place db' p conditions = (place db p conditions).map (Placed.sift keep) := by
  have htables : p.embeddings.mapM (fun e => (live db' e.relation).map fun t => (e, t)) =
      p.embeddings.mapM fun e => (live db e.relation).map fun t => (e, t) := by
    refine mapM_congr fun e he => ?_
    rw [hrelated e he]
  unfold place
  rw [hbase, htables]
  cases live db p.table with
  | error f => rfl
  | ok base =>
    have hsifted : (Except.ok base : Except QueryFault Live).map (Live.sift keep) =
        .ok (base.sift keep) := rfl
    simp only [hsifted, map_bind, ok_bind]
    refine bind_congr fun related => bind_congr fun columns => ?_
    rw [placeEmbeddings_sift]
    refine bind_congr fun embeddings => bind_congr fun placed => ?_
    cases p.order with
    | none => rfl
    | some o =>
      simp only [map_bind]
      rfl

theorem place_congr (hbase : live db' p.table = live db p.table)
    (hrelated : ∀ e ∈ p.embeddings, live db' e.relation = live db e.relation)
    (conditions : List BoundCondition) : place db' p conditions = place db p conditions := by
  have hall : live db' p.table = (live db p.table).map (Live.sift fun _ => true) := by
    rw [hbase]
    cases live db p.table with
    | error f => rfl
    | ok t => exact congrArg _ (Live.sift_of_all (fun _ => rfl) t).symm
  rw [place_sift hall hrelated]
  cases place db p conditions with
  | error f => rfl
  | ok q => exact congrArg _ (Placed.sift_of_all (fun _ => rfl) q)

theorem selected_sift {q : Placed} (hkept : ∀ row ∈ q.selected, keep row = true) :
    (q.sift keep).selected = q.selected := by
  have hsame : q.selected.filter keep = q.selected := List.filter_eq_self.2 hkept
  rw [← hsame, Placed.selected, Placed.selected, Placed.sift, List.filter_filter,
    List.filter_filter]
  refine List.filter_congr fun row _ => ?_
  exact Bool.and_comm _ _

/-- Base rows that the conditions reject may be missing. -/
theorem answer_sift {q : Placed} (hkept : ∀ row ∈ q.selected, keep row = true)
    (conditions : List BoundCondition) (range : Option RowRange) (countExact : Bool) :
    (q.sift keep).answer conditions range countExact = q.answer conditions range countExact := by
  have hselected := selected_sift hkept
  have hjoined : (q.sift keep).joined range = q.joined range := by
    unfold Placed.joined
    rw [hselected]
    rfl
  have hread : (q.sift keep).readRow = q.readRow := rfl
  unfold Placed.answer
  rw [hselected, hjoined, hread]

theorem plan_sift (hbase : live db' p.table = (live db p.table).map (Live.sift keep))
    (hrelated : ∀ e ∈ p.embeddings, live db' e.relation = live db e.relation)
    (hkept : ∀ conditions q, p.conditions.mapM bindCondition = .ok conditions →
      place db p conditions = .ok q → ∀ row ∈ q.selected, keep row = true)
    (range : Option RowRange) (countExact : Bool) :
    Run.plan db' p range countExact = Run.plan db p range countExact := by
  rw [plan_eq, plan_eq]
  cases hbound : p.conditions.mapM bindCondition with
  | error f => rfl
  | ok conditions =>
    show ((place db' p conditions).mapError _ >>= _) = ((place db p conditions).mapError _ >>= _)
    rewrite [place_sift hbase hrelated conditions]
    cases hplaced : place db p conditions with
    | error f => rfl
    | ok q => exact answer_sift (hkept conditions q hbound hplaced) conditions range countExact

end Run

/-! ## Concealed warehouses -/

/-- The mandatory equalities of a table, as predicates. -/
def demands (mandatory : Registry.MandatoryFilters) (table : String) : List Predicate :=
  (mandatory.ofTable table).map fun p => { column := p.1, test := .compare .eq p.2 }

namespace Warehouse

open Run

/-- Whether a row of a table may be seen: it meets the demands on every guarded name that leads to
the table. -/
def visible (w : Warehouse) (mandatory : Registry.MandatoryFilters) (home : String)
    (row : List Cell) : Bool :=
  (Dict.keys mandatory).all fun guarded =>
    w.database.home? guarded != some home || (demands mandatory guarded).all (w.meets guarded row)

/-- The warehouse without the rows that may not be seen. -/
def conceal (w : Warehouse) (mandatory : Registry.MandatoryFilters) : Warehouse :=
  { w with database := w.database.restrict (w.visible mandatory) }

variable {w : Warehouse} {mandatory : Registry.MandatoryFilters}

theorem reflection_conceal : (w.conceal mandatory).reflection = w.reflection := by
  funext name
  simp only [reflection, reflectionOf, conceal, Database.reflect_restrict]

theorem live_conceal (name : String) :
    live (w.conceal mandatory).database name =
      (live w.database name).map
        (Live.sift (w.database.keeps (w.visible mandatory) name)) :=
  live_restrict _ _ _

/-- All rows of a table are kept that no guarded name leads to. -/
theorem live_conceal_of_open {name : String}
    (hopen : ∀ guarded ∈ Dict.keys mandatory, ¬ w.database.SameHome guarded name) :
    live (w.conceal mandatory).database name = live w.database name := by
  have hkeeps : ∀ row, w.database.keeps (w.visible mandatory) name row = true := by
    intro row
    unfold Database.keeps
    cases hhome : w.database.home? name with
    | none => rfl
    | some home =>
      rw [Option.all_some, visible, List.all_eq_true]
      intro guarded hguarded
      have hother := hopen guarded hguarded
      simp only [Database.SameHome, hhome] at hother
      simp only [bne, Bool.or_eq_true, Bool.not_eq_true', beq_eq_false_iff_ne]
      left
      intro hsame
      exact hother ⟨by simp [hsame], hsame⟩
  rw [live_conceal]
  cases live w.database name with
  | error f => rfl
  | ok t => exact congrArg _ (Live.sift_of_all hkeeps t)

/-- A row is kept that meets the demands on the only name under which its table is guarded. -/
theorem keeps_of_meets {name : String} {row : List Cell}
    (hown : ∀ guarded ∈ Dict.keys mandatory, w.database.SameHome guarded name → guarded = name)
    (hmeets : ∀ p ∈ demands mandatory name, w.meets name row p = true) :
    w.database.keeps (w.visible mandatory) name row = true := by
  unfold Database.keeps
  cases hhome : w.database.home? name with
  | none => rfl
  | some home =>
    rw [Option.all_some, visible, List.all_eq_true]
    intro guarded hguarded
    by_cases hsame : w.database.home? guarded = some home
    · have hname : guarded = name :=
        hown guarded hguarded ⟨by simp [hsame], hsame.trans hhome.symm⟩
      have hall : (demands mandatory guarded).all (w.meets guarded row) = true := by
        rw [hname, List.all_eq_true]
        exact hmeets
      rw [hall, Bool.or_true]
    · simp [hsame]

/-! ## Answers -/

/-- **The rows that may not be seen play no part in an answer** to a request that carries the
demands on its base table, where its base table is guarded under no other name and the tables that
it embeds are not guarded. -/
theorem answer_conceal (hw : w.Reached) {r : Request}
    (hbase : ∀ guarded ∈ Dict.keys mandatory,
      w.database.SameHome guarded r.table → guarded = r.table)
    (hnested : ∀ e ∈ r.projection.nested,
      (w.knownJoins.find? r.table e.hint e.relation).isSome = true →
      ∀ guarded ∈ Dict.keys mandatory, ¬ w.database.SameHome guarded e.relation)
    (hdemands : ∀ p ∈ demands mandatory r.table, p ∈ r.predicates) :
    (w.conceal mandatory).answer r = w.answer r := by
  unfold answer
  rw [reflection_conceal, show (w.conceal mandatory).knownJoins = w.knownJoins from rfl]
  cases hplan : Plan.fromTables w.reflection w.knownJoins r with
  | error f => rfl
  | ok p =>
    obtain ⟨base, hfits⟩ := Plan.fits_of_fromTables hplan
    have hname : base.name = r.table := name_of_reflectionOf hw.filed hfits.reflected
    have htable : p.table = r.table := hfits.table_eq.trans hname
    have hrelated : ∀ e ∈ p.embeddings,
        live (w.conceal mandatory).database e.relation = live w.database e.relation := by
      intro e he
      obtain ⟨asked, hasked, hfit⟩ := exists_of_mem_right hfits.embeddings he
      obtain ⟨join, hjoin, -⟩ := hfit.joined
      rw [hname] at hjoin
      have hopen := hnested asked hasked (by simp [hjoin])
      rw [hfit.relation_eq]
      exact live_conceal_of_open hopen
    have hkept : ∀ conditions q, p.conditions.mapM bindCondition = .ok conditions →
        place w.database p conditions = .ok q → ∀ row ∈ q.selected,
        w.database.keeps (w.visible mandatory) p.table row = true := by
      intro conditions q hbound hplaced row hrow
      obtain ⟨t, hstands⟩ := stands_of_place hplaced
      rw [selected_eq hfits hbound hstands hname] at hrow
      have hmeets := List.all_eq_true.1 (List.mem_filter.1 hrow).2
      rw [htable]
      exact keeps_of_meets hbase fun q hq => hmeets q (hdemands q hq)
    have hrun := plan_sift (live_conceal p.table) hrelated hkept r.range r.countExact
    simp only [hrun]

theorem lookupFrom_eq_ok {tables : String → Except QueryFault Reflection} {r : LookupRequest}
    {p : LookupPlan} (h : lookupFrom tables r = .ok p) :
    p.plan.embeddings = [] ∧ ∃ table, tables r.table = .ok table ∧ p.plan.table = table.name := by
  obtain ⟨table, htable, h⟩ := bind_eq_ok.1 h
  obtain ⟨_, _, h⟩ := bind_eq_ok.1 h
  obtain ⟨_, _, h⟩ := bind_eq_ok.1 h
  cases h
  exact ⟨rfl, table, htable, rfl⟩

/-- **The rows that may not be seen play no part in a lookup** from a table that is not guarded. -/
theorem lookupAnswer_conceal (hw : w.Reached) {r : LookupRequest}
    (hopen : ∀ guarded ∈ Dict.keys mandatory, ¬ w.database.SameHome guarded r.table) :
    (w.conceal mandatory).lookupAnswer r = w.lookupAnswer r := by
  unfold lookupAnswer
  rw [reflection_conceal]
  cases hplan : lookupFrom w.reflection r with
  | error f => rfl
  | ok p =>
    obtain ⟨hembeddings, table, htable, hname⟩ := lookupFrom_eq_ok hplan
    rw [name_of_reflectionOf hw.filed htable] at hname
    have hlive : live (w.conceal mandatory).database p.plan.table =
        live w.database p.plan.table := by
      rw [hname]
      exact live_conceal_of_open hopen
    have hrelated : ∀ e ∈ p.plan.embeddings,
        live (w.conceal mandatory).database e.relation = live w.database e.relation := by
      simp [hembeddings]
    have hrun : runLookup (w.conceal mandatory).database p = runLookup w.database p := by
      unfold runLookup
      rw [place_congr hlive hrelated]
    simp only [hrun]

/-! ## What is concealed -/

theorem tableOf_conceal (name : String) :
    ((w.conceal mandatory).tableOf name).rows =
      (w.tableOf name).rows.filter (w.database.keeps (w.visible mandatory) name) := by
  unfold tableOf
  rw [live_conceal]
  cases live w.database name <;> rfl

theorem home?_ne_none {name : String} {row : List Cell} (h : row ∈ (w.tableOf name).rows) :
    w.database.home? name ≠ none := by
  cases hfind : w.database.find name with
  | relation columns rows => exact Database.homeWithin_of_relation hfind
  | nothing =>
    simp [tableOf, live, Database.relation, hfind, Except.map, Except.toOption] at h
  | baseMissing base =>
    simp [tableOf, live, Database.relation, hfind, Except.map, Except.toOption] at h

/-- **No row of a guarded table that may not be seen is left** in a concealed warehouse. -/
theorem meets_of_mem_conceal {guarded : String} (hguarded : guarded ∈ Dict.keys mandatory)
    {row : List Cell} (hrow : row ∈ ((w.conceal mandatory).tableOf guarded).rows) :
    ∀ p ∈ demands mandatory guarded, w.meets guarded row p = true := by
  rw [tableOf_conceal] at hrow
  obtain ⟨hstored, hkept⟩ := List.mem_filter.1 hrow
  obtain ⟨home, hhome⟩ := Option.ne_none_iff_exists'.1 (home?_ne_none hstored)
  rw [Database.keeps, hhome, Option.all_some, visible, List.all_eq_true] at hkept
  have hdemands := hkept guarded hguarded
  simpa [hhome] using hdemands

end Warehouse

end TableExplorer.Store
