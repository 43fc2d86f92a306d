import TableExplorer.Proofs.Api.Complaints
import TableExplorer.QueryState.Reader
import TableExplorer.Request.Compile

/-!
# Normal forms of query states

A state is written as a document in which every field is present, under one of its two names, with a
value that its reader takes as it is. So reading it back gives the state, whichever of the names
were used: `ofValue_toValue` for filters, for joins and for states. The names of different fields
are apart, and of the two names of one field only one is there.

A document that is accepted has the normal form of the state that it is read as (`normalised`).

Main result: `normalised_idempotent`.
-/

namespace TableExplorer

/-! ## Written fields -/

namespace FieldName

/-- A spelling: each field gets one of its two names. -/
def Spells (spell : FieldName → String) : Prop :=
  ∀ name, spell name = name.wire ∨ spell name = name.plain

/-- No name of one field is a name of the other. -/
abbrev Apart (a b : FieldName) : Prop :=
  a.wire ≠ b.wire ∧ a.wire ≠ b.plain ∧ a.plain ≠ b.wire ∧ a.plain ≠ b.plain

theorem spells_wire : Spells wire := fun _ => .inl rfl

theorem spells_plain : Spells plain := fun _ => .inr rfl

variable {spell : FieldName → String}

theorem Spells.ne (hspell : Spells spell) {name other : FieldName} (h : Apart name other)
    {key : String} (hkey : key = name.wire ∨ key = name.plain) : spell other ≠ key := by
  obtain ⟨hww, hwp, hpw, hpp⟩ := h
  rcases hkey with rfl | rfl <;> rcases hspell other with heq | heq <;> rw [heq]
  · exact hww.symm
  · exact hwp.symm
  · exact hpw.symm
  · exact hpp.symm

end FieldName

namespace Checked

variable {α : Type} {spell : FieldName → String} {fields : List (FieldName × Value)}

/-- Fields written under the names of a spelling. -/
def written (spell : FieldName → String) (fields : List (FieldName × Value)) : Dict Value :=
  fields.map fun p => (spell p.1, p.2)

theorem get?_written_of_apart (hspell : FieldName.Spells spell) {name : FieldName}
    (hapart : ∀ p ∈ fields, name.Apart p.1) {key : String}
    (hkey : key = name.wire ∨ key = name.plain) : Dict.get? (written spell fields) key = none := by
  rw [Dict.get?_eq_none_iff, Dict.keys, written, List.map_map]
  rintro hmem
  obtain ⟨p, hp, heq⟩ := List.mem_map.1 hmem
  exact hspell.ne (hapart p hp) hkey heq

theorem get?_written (hspell : FieldName.Spells spell)
    (hapart : (fields.map Prod.fst).Pairwise FieldName.Apart) {name : FieldName} {v : Value}
    (hmem : (name, v) ∈ fields) {key : String} (hkey : key = name.wire ∨ key = name.plain) :
    Dict.get? (written spell fields) key = if spell name = key then some v else none := by
  induction fields with
  | nil => cases hmem
  | cons p fields ih =>
    rw [List.map_cons, List.pairwise_cons] at hapart
    show Dict.get? ((spell p.1, p.2) :: written spell fields) key = _
    rw [Dict.get?_cons]
    rcases List.mem_cons.1 hmem with rfl | htail
    · rw [get?_written_of_apart hspell
        (fun q hq => hapart.1 q.1 (List.mem_map_of_mem (f := Prod.fst) hq)) hkey]
    · obtain ⟨hww, hwp, hpw, hpp⟩ := hapart.1 name (List.mem_map_of_mem (f := Prod.fst) htail)
      have hfirst : spell p.1 ≠ key :=
        hspell.ne ⟨hww.symm, hpw.symm, hwp.symm, hpp.symm⟩ hkey
      rw [if_neg hfirst]
      exact ih hapart.2 htail

/-- Fields hold a value under one of the names of a field. -/
def Holds (fields : Dict Value) (name : FieldName) (v : Value) : Prop :=
  ∃ step, present? fields name = some (step, v)

/-- **A written field is found.** -/
theorem holds_written (fields : List (FieldName × Value)) (hspell : FieldName.Spells spell)
    (hapart : (fields.map Prod.fst).Pairwise FieldName.Apart) :
    ∀ p ∈ fields, Holds (written spell fields) p.1 p.2 := by
  rintro ⟨name, v⟩ hmem
  unfold Holds present?
  rw [get?_written hspell hapart hmem (.inl rfl), get?_written hspell hapart hmem (.inr rfl)]
  rcases hspell name with hwire | hplain
  · rw [if_pos hwire]
    exact ⟨_, rfl⟩
  · -- The wire name is asked for first. It is there too if both names of the field are one.
    by_cases hboth : spell name = name.wire
    · rw [if_pos hboth]
      exact ⟨_, rfl⟩
    · rw [if_neg hboth, if_pos hplain]
      exact ⟨_, rfl⟩

theorem Holds.optional {d : Dict Value} {read : Value → Checked α} {name : FieldName} {v : Value}
    {a absent : α} (h : Holds d name v) (hread : read v = .ok a) :
    optional d name absent read = .ok a := by
  obtain ⟨step, hpresent⟩ := h
  unfold Checked.optional
  rw [hpresent]
  dsimp only
  rw [hread]
  rfl

theorem Holds.required {d : Dict Value} {read : Value → Checked α} {name : FieldName} {v : Value}
    {a : α} (h : Holds d name v) (hread : read v = .ok a) : required d name read = .ok a := by
  obtain ⟨step, hpresent⟩ := h
  unfold Checked.required
  rw [hpresent]
  dsimp only
  rw [hread]
  rfl

/-! ## Written values -/

theorem all_map_ok (as : List α) : all (as.map .ok) = .ok as := by
  induction as with
  | nil => rfl
  | cons a as ih => rw [List.map_cons, all, ih]; rfl

theorem members_map {read : Nat → Value → Checked α} {write : α → Value}
    (h : ∀ i a, read i (write a) = .ok a) (as : List α) :
    members read (.list (as.map write)) = .ok as := by
  have hall : (as.map write).mapIdx (fun i v => (read i v).within (.member i)) = as.map .ok := by
    refine List.ext_getElem (by simp) fun i hi hi' => ?_
    simp only [List.getElem_mapIdx, List.getElem_map, h]
    rfl
  show all _ = _
  rw [hall, all_map_ok]

theorem text_text (s : String) : text (.text s) = .ok s := rfl

theorem texts_ofTexts (ss : List String) : texts (.ofTexts ss) = .ok ss := by
  show members (fun _ => text) (.list (ss.map .text)) = .ok ss
  exact members_map (fun _ => text_text) ss

theorem within_eq_ok {x : Checked α} {step : Complaint.Step} {a : α} :
    x.within step = .ok a ↔ x = .ok a := by
  cases x <;> simp [within]

theorem natural_eq_ok {v : Value} {n : Nat} : natural v = .ok n ↔ integer v = .ok (n : Int) := by
  unfold natural
  cases integer v with
  | error cs => simp
  | ok i =>
    dsimp only
    split
    next hneg =>
      simp only [refuse, reduceCtorEq, Except.ok.injEq, false_iff]
      omega
    next hle =>
      simp only [Except.ok.injEq]
      omega

theorem positive_eq_ok {v : Value} {n : { n : Nat // 0 < n }} :
    positive v = .ok n ↔ integer v = .ok (n.1 : Int) := by
  obtain ⟨n, hn⟩ := n
  unfold positive
  cases integer v with
  | error cs => simp
  | ok i =>
    dsimp only
    split
    next hpos =>
      simp only [Except.ok.injEq, Subtype.mk.injEq]
      omega
    next hle =>
      simp only [refuse, reduceCtorEq, Except.ok.injEq, false_iff]
      omega

/-- What one reader takes from a field, another takes from it too, if it does from every value. -/
theorem optional_of_imp {β : Type} {d : Dict Value} {name : FieldName} {absent a : α}
    {absent' b : β} {read : Value → Checked α} {read' : Value → Checked β}
    (h : optional d name absent read = .ok a) (habsent : absent = a → absent' = b)
    (hread : ∀ v, read v = .ok a → read' v = .ok b) : optional d name absent' read' = .ok b := by
  unfold optional at h ⊢
  cases hpresent : present? d name with
  | none =>
    rw [hpresent] at h
    exact congrArg _ (habsent (Except.ok.inj h))
  | some found =>
    rw [hpresent] at h
    exact within_eq_ok.2 (hread found.2 (within_eq_ok.1 h))

end Checked

/-! ## Filters, joins and states -/

variable {spell : FieldName → String}

theorem Operator.ofValue_name (op : Option Operator) :
    Operator.ofValue ((op.map fun op => Value.text op.name).getD .null) = .ok op := by
  cases op with
  | none => rfl
  | some op => cases op <;> rfl

theorem OrderDirection.choice_name (d : OrderDirection) :
    Checked.choice OrderDirection.choices OrderDirection.ofName? (.text d.name) = .ok d := by
  cases d <;> rfl

theorem Filter.valueOf_text (s : String) : Filter.valueOf (.text s) = .ok s := rfl

theorem Filter.ofValue_toValue (hspell : FieldName.Spells spell) (rule : ObjectRule)
    (fresh : String) (f : Filter) : Filter.ofValue rule fresh (f.toValue spell) = .ok f := by
  have hapart : [FieldName.id, .column, .operator, .value].Pairwise FieldName.Apart := by decide
  have hfields := Checked.holds_written [(.id, .text f.id), (.column, .text f.column),
    (.operator, (f.operator.map fun op => Value.text op.name).getD .null),
    (.value, .text f.value)] hspell hapart
  simp only [Checked.written, List.map_cons, List.map_nil, List.forall_mem_cons] at hfields
  obtain ⟨hid, hcolumn, hoperator, hvalue, -⟩ := hfields
  unfold Filter.ofValue Filter.toValue
  dsimp only [ObjectRule.fields]
  rw [hid.optional (Checked.text_text _), hcolumn.optional (Checked.text_text _),
    hoperator.optional (Operator.ofValue_name _), hvalue.optional (Filter.valueOf_text _)]
  rfl

theorem JoinConfig.ofValue_toValue (hspell : FieldName.Spells spell) (rule : ObjectRule)
    (fresh : String) (j : JoinConfig) :
    JoinConfig.ofValue rule fresh (j.toValue spell) = .ok j := by
  have hapart : [FieldName.id, .fromTable, .fromColumn, .toTable, .toColumn,
    .selectedColumns].Pairwise FieldName.Apart := by decide
  have hfields := Checked.holds_written [(.id, .text j.id),
    (.fromTable, .text j.fromTable), (.fromColumn, .text j.fromColumn),
    (.toTable, .text j.toTable), (.toColumn, .text j.toColumn),
    (.selectedColumns, .ofTexts j.selectedColumns)] hspell hapart
  simp only [Checked.written, List.map_cons, List.map_nil, List.forall_mem_cons] at hfields
  obtain ⟨hid, hfromTable, hfromColumn, htoTable, htoColumn, hselected, -⟩ := hfields
  unfold JoinConfig.ofValue JoinConfig.toValue
  dsimp only [ObjectRule.fields]
  rw [hid.optional (Checked.text_text _), hfromTable.required (Checked.text_text _),
    hfromColumn.required (Checked.text_text _), htoTable.required (Checked.text_text _),
    htoColumn.optional (Checked.text_text _), hselected.optional (Checked.texts_ofTexts _)]
  rfl

/-- **A state is read back from its document**, whichever names its fields were written under. -/
theorem QueryState.ofValue_toValue (hspell : FieldName.Spells spell) (rule : ObjectRule)
    (ids : IdSupply) (s : QueryState) :
    QueryState.ofValue rule ids (s.toValue spell) = .ok s := by
  have hapart : [FieldName.table, .selectedColumns, .filters, .joins, .orderBy, .orderDirection,
    .page, .pageSize].Pairwise FieldName.Apart := by decide
  have hfields := Checked.holds_written [(.table, .text s.table),
    (.selectedColumns, .ofTexts s.selectedColumns),
    (.filters, .list (s.filters.map (Filter.toValue spell))),
    (.joins, .list (s.joins.map (JoinConfig.toValue spell))), (.orderBy, .text s.orderBy),
    (.orderDirection, .text s.orderDirection.name), (.page, .int s.page),
    (.pageSize, .int s.pageSize)] hspell hapart
  simp only [Checked.written, List.map_cons, List.map_nil, List.forall_mem_cons] at hfields
  obtain ⟨htable, hselected, hfilters, hjoins, horderBy, hdirection, hpage, hpageSize, -⟩ := hfields
  have hpositive : Checked.positive (.int s.pageSize) = .ok ⟨s.pageSize, s.pageSize_pos⟩ :=
    Checked.positive_eq_ok.2 rfl
  unfold QueryState.ofValue QueryState.toValue
  dsimp only [ObjectRule.fields]
  rw [htable.optional (Checked.text_text _), hselected.optional (Checked.texts_ofTexts _),
    hfilters.optional (Checked.members_map (fun _ => Filter.ofValue_toValue hspell rule _) _),
    hjoins.optional (Checked.members_map (fun _ => JoinConfig.ofValue_toValue hspell rule _) _),
    horderBy.optional (Checked.text_text _), hdirection.optional (OrderDirection.choice_name _),
    hpage.optional (Checked.natural_eq_ok.2 rfl), hpageSize.optional hpositive]
  rfl

/-! ## Accepted documents -/

namespace QueryState

/-- The normal form of a document: that of the state it is read as, with the names on the wire. -/
def normalised (rule : ObjectRule) (ids : IdSupply) (v : Value) : Checked Value :=
  (QueryState.ofValue rule ids v).map (QueryState.toValue FieldName.wire)

/-- The page and the size of an accepted document are the integers that it holds. -/
theorem integers_of_ofValue {rule : ObjectRule} {ids : IdSupply} {v : Value} {s : QueryState}
    (h : QueryState.ofValue rule ids v = .ok s) :
    ∃ fields, v = .record fields ∧
      Checked.optional fields .page 0 Checked.integer = .ok (s.page : Int) ∧
      Checked.optional fields .pageSize (defaultPageSize : Int) Checked.integer =
        .ok (s.pageSize : Int) := by
  unfold QueryState.ofValue at h
  cases hv : rule.fields "QueryState" v with
  | error cs => rw [hv] at h; cases h
  | ok fields =>
    have hrecord : v = .record fields := by
      cases v <;> cases hv
      rfl
    rw [hv] at h
    dsimp only at h
    obtain ⟨_, pageSize, h₁, hpageSize, rfl⟩ := Api.both_eq_ok.1 h
    obtain ⟨_, page, h₂, hpage, rfl⟩ := Api.both_eq_ok.1 h₁
    obtain ⟨_, direction, h₃, -, rfl⟩ := Api.both_eq_ok.1 h₂
    obtain ⟨_, orderBy, h₄, -, rfl⟩ := Api.both_eq_ok.1 h₃
    obtain ⟨_, joins, h₅, -, rfl⟩ := Api.both_eq_ok.1 h₄
    obtain ⟨_, filters, h₆, -, rfl⟩ := Api.both_eq_ok.1 h₅
    obtain ⟨_, selected, h₇, -, rfl⟩ := Api.both_eq_ok.1 h₆
    obtain ⟨_, table, h₈, -, rfl⟩ := Api.both_eq_ok.1 h₇
    cases h₈
    refine ⟨fields, hrecord, ?_, ?_⟩
    · exact Checked.optional_of_imp hpage (congrArg Nat.cast) fun _ => Checked.natural_eq_ok.1
    · exact Checked.optional_of_imp hpageSize (fun heq => congrArg (fun n => (n.1 : Int)) heq)
        fun _ => Checked.positive_eq_ok.1

/-- **Normalising is idempotent.** The normal form of an accepted document is accepted under any
rule and any supply of ids, and is its own normal form. The document that the state is written as
with any other spelling, with the plain names throughout for one, has the same normal form. Whatever
is read back is compiled, under any mandatory filters, to the same page, the same exports and the
same preview. The page is the integer of its field and not negative, and the size is the integer of
its field and positive. -/
theorem normalised_idempotent (rule : ObjectRule) (ids : IdSupply) (v : Value)
    (state : QueryState) (haccepted : QueryState.ofValue rule ids v = .ok state)
    (rule' : ObjectRule) (ids' : IdSupply) :
    let normal := state.toValue FieldName.wire
    normalised rule ids v = .ok normal ∧ normalised rule' ids' normal = .ok normal ∧
    (∀ spell, FieldName.Spells spell →
      normalised rule' ids' (state.toValue spell) = .ok normal ∧
      ∃ reread, QueryState.ofValue rule' ids' (state.toValue spell) = .ok reread ∧
        ∀ mandatory, reread.pageRequest mandatory = state.pageRequest mandatory ∧
          reread.exportRequest mandatory = state.exportRequest mandatory ∧
          reread.preview mandatory = state.preview mandatory) ∧
    ∃ fields, ∃ page pageSize : Int, v = .record fields ∧
      Checked.optional fields .page 0 Checked.integer = .ok page ∧
      Checked.optional fields .pageSize (defaultPageSize : Int) Checked.integer = .ok pageSize ∧
      0 ≤ page ∧ 0 < pageSize ∧ state.page = page ∧ state.pageSize = pageSize := by
  intro normal
  have hread : ∀ spell, FieldName.Spells spell →
      normalised rule' ids' (state.toValue spell) = .ok normal := by
    intro spell hspell
    rw [normalised, ofValue_toValue hspell]
    rfl
  refine ⟨?_, hread _ FieldName.spells_wire, fun spell hspell => ⟨hread spell hspell, state,
    ofValue_toValue hspell rule' ids' state, fun _ => ⟨rfl, rfl, rfl⟩⟩, ?_⟩
  · rw [normalised, haccepted]
    rfl
  · obtain ⟨fields, hrecord, hpage, hpageSize⟩ := integers_of_ofValue haccepted
    exact ⟨fields, _, _, hrecord, hpage, hpageSize, Int.natCast_nonneg _,
      Int.natCast_pos.2 state.pageSize_pos, rfl, rfl⟩

/-- A document with both names of the page size, numbers in other notations, an operator that is
not picked, a null value, no id and a field that nobody knows. Its normal form and the document with
plain names have the same normal form. -/
theorem normalised_idempotent_mixed :
    let v : Value := .record [("page_size", .int 7), ("table", .text "leads"), ("page", .bool true),
      ("filters", .list [.record [("column", .text "etapa"), ("operator", .text ""),
        ("value", .null)]]),
      ("pageSize", .text " 1_0.0 "), ("unknown", .int 1)]
    let filter : Filter :=
      { id := "00000000000000000000000000000000", column := "etapa", operator := none, value := "" }
    let state : QueryState := { table := "leads", filters := [filter], page := 1, pageSize := 10 }
    QueryState.ofValue .named .numbered v = .ok state ∧
    normalised .named .numbered (state.toValue FieldName.wire) =
      .ok (state.toValue FieldName.wire) ∧
    normalised .named .numbered (state.toValue FieldName.plain) =
      .ok (state.toValue FieldName.wire) := by
  intro v filter state
  have haccepted : QueryState.ofValue .named .numbered v = .ok state := by rfl
  obtain ⟨-, hwire, hspelled, -⟩ :=
    normalised_idempotent .named .numbered v state haccepted .named .numbered
  exact ⟨haccepted, hwire, (hspelled FieldName.plain FieldName.spells_plain).1⟩

end QueryState

end TableExplorer
