import TableExplorer.Proofs.Store.Semantics
import TableExplorer.Request.Compile

/-!
# Binding the values of a request

Before a plan is run, the values of its conditions are bound by the types of their columns. Which
values can be bound depends on nothing else, and the first that cannot be is the fault. Of the tests
that a query state is compiled to, only a comparison with a whole number brings an integer into the
statement that may be too large for it.

Main results: `Warehouse.endsWith_bindConditions` and `exists_oversized`.
-/

namespace TableExplorer

/-! ## Tests of compiled requests -/

/-- A test that a query state is compiled to: its operator is supported, and what it lists are
texts. -/
structure Test.Compiled (t : Test) : Prop where
  supported : ∀ operator, t ≠ .unsupported operator
  texts : ∀ members, t = .oneOf members → ∀ s ∈ members, ∃ text, s = .text text

theorem Operator.compiled_test (op : Operator) (value : String) : (op.test value).Compiled := by
  constructor
  · intro operator
    cases op <;> simp [Operator.test]
  · intro members h s hs
    cases op <;> simp [Operator.test] at h
    subst h
    obtain ⟨text, -, rfl⟩ := List.mem_map.1 hs
    exact ⟨text, rfl⟩

theorem QueryState.compiled_predicates (mandatory : Registry.MandatoryFilters) (q : QueryState) :
    ∀ p ∈ q.predicates mandatory, p.test.Compiled := by
  intro p hp
  rcases List.mem_append.1 hp with hmandatory | hfilter
  · obtain ⟨pair, -, rfl⟩ := List.mem_map.1 hmandatory
    exact ⟨nofun, nofun⟩
  · obtain ⟨f, -, hf⟩ := List.mem_filterMap.1 hfilter
    unfold Filter.predicate? at hf
    split at hf
    · cases hf
    · obtain ⟨op, -, rfl⟩ := Option.map_eq_some_iff.1 hf
      exact op.compiled_test f.value

namespace Store

open Run

/-! ## Values that cannot be bound -/

namespace Warehouse

variable (w : Warehouse)

/-- The fault of a predicate whose value cannot be compared with its column. -/
def bindFault? (table : String) (p : Predicate) : Option QueryFault :=
  (Dict.get? (w.columnsOf table) p.column).bind fun t =>
    match bindTest t p.test with
    | .ok _ => none
    | .error f => some (QueryFault.unbindable f)

/-- The fault of the first predicate whose value cannot be compared with its column. -/
def firstUnbindable (r : Request) : Option QueryFault :=
  r.predicates.findSome? (w.bindFault? r.table)

variable {w} {base : Reflection} {table : String}

theorem endsWith_bindCondition (hreflected : w.reflection table = .ok base) {p : Predicate}
    {c : ConditionPlan} (hfits : c.Fits base p) :
    EndsWith (w.bindFault? table p) (bindCondition c) := by
  unfold bindFault? bindCondition
  rw [columnsOf_eq hreflected, hfits.typed, Option.bind_some, ← hfits.test_eq]
  cases bindTest c.columnType c.test with
  | error f => exact EndsWith.error (QueryFault.unbindable f)
  | ok test => exact EndsWith.ok _

/-- **The conditions of a plan are bound**, or the first value that cannot be is the fault. -/
theorem endsWith_bindConditions (hreflected : w.reflection table = .ok base)
    {predicates : List Predicate} {conditions : List ConditionPlan}
    (hfits : List.Forall₂ (fun p c => c.Fits base p) predicates conditions) :
    EndsWith (predicates.findSome? (w.bindFault? table)) (conditions.mapM bindCondition) := by
  induction hfits with
  | nil => exact .ok []
  | @cons p c predicates conditions hfit _ ih =>
    rw [List.mapM_cons, List.findSome?_cons]
    have hall := (endsWith_bindCondition hreflected hfit).bind fun b _ => ih.map (b :: ·)
    cases hfault : w.bindFault? table p with
    | some f => rwa [hfault, Option.some_or] at hall
    | none => rwa [hfault, Option.none_or] at hall

end Warehouse

/-! ## Integers that are bound -/

namespace ColumnType

theorem bindNumber_ne_int (s : Scalar) (i : Int) : bindNumber s ≠ .ok (.int i) := by
  intro h
  delta bindNumber at h
  -- The doubles play no part. They are left open, as their bounds are too large to compute with.
  obtain ⟨ofInt, hofInt⟩ : ∃ f, f = Double.ofInt := ⟨_, rfl⟩
  rw [← hofInt] at h
  split at h
  · cases h
  · split at h <;> cases h
  · split at h <;> cases h
  · split at h <;> cases h
  next hint _ _ =>
    cases h
    exact hint i rfl

theorem bindTruth_eq_ok {s bound : Scalar} (h : bindTruth s = .ok bound) :
    bound = .int 0 ∨ bound = .int 1 := by
  unfold bindTruth at h
  extract_lets number at h
  by_cases hnumber : number = some 0 ∨ number = some 1
  · rw [if_pos hnumber] at h
    rw [← Except.ok.inj h]
    rcases hnumber with hnumber | hnumber <;> simp [hnumber]
  · rw [if_neg hnumber] at h
    split at h <;> cases h

theorem int_of_ofScalar {s : Scalar} {i : Int} (h : Cell.ofScalar s = .int i) :
    s = .int i ∨ i = 0 ∨ i = 1 := by
  cases s with
  | int j =>
    cases h
    exact .inl rfl
  | bool b => cases b <;> simp_all [Cell.ofScalar]
  | real d => cases d <;> cases h
  | null | text | octets => cases h

/-- An integer that is bound was one before, or stands for a truth value. -/
theorem int_of_bind {t : ColumnType} {s : Scalar} {i : Int} (h : t.bind s = .ok (.int i)) :
    s = .int i ∨ i = 0 ∨ i = 1 := by
  have hnumber : (bindNumber s).map Cell.ofScalar = .ok (.int i) → s = .int i ∨ i = 0 ∨ i = 1 := by
    intro hmap
    obtain ⟨bound, hbound, hcell⟩ := map_eq_ok.1 hmap
    rcases int_of_ofScalar hcell with rfl | hsmall
    · exact absurd hbound (bindNumber_ne_int s i)
    · exact .inr hsmall
  obtain ⟨name, args⟩ := t
  unfold bind at h
  split at h
  · cases h
  · cases name with
    | numeric | decimal | real | float | double | doublePrecision => exact hnumber h
    | boolean =>
      obtain ⟨bound, hbound, hcell⟩ := map_eq_ok.1 h
      rcases bindTruth_eq_ok hbound with rfl | rfl <;> cases hcell <;> simp
    | date | datetime | timestamp | time => cases h
    | blob => cases s <;> cases h
    | json => cases s <;> cases h
    | _ => exact int_of_ofScalar (Except.ok.inj h)

end ColumnType

/-- The integers of a bound test fit. -/
def BoundTest.Fits : BoundTest → Prop
  | .compare _ operand => ∀ i, operand = .int i → fits i = true
  | .oneOf members => ∀ i, .int i ∈ members → fits i = true
  | .isNull | .isNotNull => True

/-- All integers fit if those of the conditions and of the range do. -/
theorem Run.integersFit_of_fits {conditions : List BoundCondition} {range : Option RowRange}
    (hconditions : ∀ c ∈ conditions, c.test.Fits)
    (hrange : ∀ r, range = some r → fits r.start = true ∧ fits r.limit = true) :
    integersFit conditions range = true := by
  unfold integersFit
  rw [Bool.and_eq_true, List.all_eq_true]
  constructor
  · intro c hc
    have hfits := hconditions c hc
    cases htest : c.test with
    | isNull | isNotNull => rfl
    | compare comparison operand =>
      rw [htest] at hfits
      cases operand with
      | int i => exact hfits i rfl
      | _ => rfl
    | oneOf members =>
      rw [htest] at hfits
      refine List.all_eq_true.2 fun m hm => ?_
      cases m with
      | int i => exact hfits i hm
      | _ => rfl
  · cases range with
    | none => rfl
    | some r => simpa using hrange r rfl

/-- A comparison with a whole number of more than 64 bits. -/
def Oversized (t : Test) : Prop := ∃ c i, t = .compare c (.int i) ∧ fits i = false

/-- A compiled test that does not compare with a whole number of more than 64 bits has integers that
fit when it is bound. -/
theorem fits_of_bindTest {t : ColumnType} {test : Test} {bound : BoundTest}
    (hcompiled : test.Compiled) (hsmall : ¬ Oversized test) (h : bindTest t test = .ok bound) :
    bound.Fits := by
  cases test with
  | isNull | isNotNull =>
    cases h
    trivial
  | unsupported operator => exact absurd rfl (hcompiled.supported operator)
  | compare c operand =>
    obtain ⟨cell, hcell, rfl⟩ := map_eq_ok.1 h
    rintro i rfl
    rcases ColumnType.int_of_bind hcell with rfl | rfl | rfl
    · by_contra hbig
      exact hsmall ⟨c, i, rfl, Bool.eq_false_iff.2 hbig⟩
    · rfl
    · rfl
  | oneOf members =>
    cases h
    intro i hi
    obtain ⟨s, hs, hcell⟩ := List.mem_map.1 hi
    obtain ⟨text, rfl⟩ := hcompiled.texts members rfl s hs
    cases hcell

/-- **Integers that do not fit** come from a predicate that compares with one. -/
theorem exists_oversized {base : Reflection} {predicates : List Predicate}
    {plans : List ConditionPlan} {conditions : List BoundCondition} {range : Option RowRange}
    (hfits : List.Forall₂ (fun p c => c.Fits base p) predicates plans)
    (hbound : plans.mapM bindCondition = .ok conditions)
    (hcompiled : ∀ p ∈ predicates, p.test.Compiled)
    (hrange : ∀ r, range = some r → fits r.start = true ∧ fits r.limit = true)
    (h : integersFit conditions range = false) : ∃ p ∈ predicates, Oversized p.test := by
  by_contra hnone
  refine Bool.false_ne_true (h.symm.trans (integersFit_of_fits (fun b hb => ?_) hrange))
  obtain ⟨p, hp, c, hfit, hbind⟩ :=
    exists_of_mem_right (forall₂_comp hfits (mapM_eq_ok.1 hbound)) hb
  unfold bindCondition at hbind
  split at hbind
  next test htest =>
    cases hbind
    rw [hfit.test_eq] at htest
    exact fits_of_bindTest (hcompiled p hp) (fun hbig => hnone ⟨p, hp, hbig⟩) htest
  · cases hbind

end Store

end TableExplorer
