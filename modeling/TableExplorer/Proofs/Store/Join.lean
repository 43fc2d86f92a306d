import Mathlib.Data.List.Forall2
import TableExplorer.Store.Run

/-!
# Joins that find at most one row

A join multiplies a base row by the related rows that it finds, and keeps it once where it finds
none. Where no embedded relation finds two rows, the join is a map: each base row comes once, with
the one row that it finds in each relation or none, and order and range act on the base rows alone.

Main result: `Placed.joined_eq`.
-/

namespace TableExplorer.Store.Run

/-! ## One base row -/

/-- The first related row of a base row, if there is one. -/
def PlacedEmbedding.partner? (e : PlacedEmbedding) (base : List Cell) : Option (List Cell) :=
  e.rows.find? (e.joins base)

/-- No embedded relation finds two rows for a base row. -/
def Single (embeddings : List PlacedEmbedding) (base : List Cell) : Prop :=
  ∀ e ∈ embeddings, (e.rows.filter (e.joins base)).length ≤ 1

theorem partners_eq {e : PlacedEmbedding} {base : List Cell}
    (h : (e.rows.filter (e.joins base)).length ≤ 1) : e.partners base = [e.partner? base] := by
  rw [PlacedEmbedding.partner?, ← List.head?_filter]
  unfold PlacedEmbedding.partners
  cases hfound : e.rows.filter (e.joins base) with
  | nil => rfl
  | cons first rest =>
    rw [hfound, List.length_cons] at h
    have hrest : rest = [] := List.eq_nil_of_length_eq_zero (by omega)
    rw [hrest]
    rfl

theorem combinations_eq {embeddings : List PlacedEmbedding} {base : List Cell}
    (h : Single embeddings base) :
    combinations base embeddings = [embeddings.map fun e => e.partner? base] := by
  induction embeddings with
  | nil => rfl
  | cons e rest ih =>
    have hrest : Single rest base := fun f hf => h f (List.mem_cons_of_mem _ hf)
    rw [combinations, partners_eq (h e List.mem_cons_self), ih hrest]
    rfl

/-- Each way puts a related row that is found, or none, beside the base row for each relation. -/
theorem partners_of_mem_combinations {embeddings : List PlacedEmbedding} {base : List Cell}
    {related : List (Option (List Cell))} (h : related ∈ combinations base embeddings) :
    List.Forall₂ (fun e found => found ∈ e.partners base) embeddings related := by
  induction embeddings generalizing related with
  | nil =>
    cases List.mem_singleton.1 h
    exact .nil
  | cons e rest ih =>
    obtain ⟨found, hfound, h⟩ := List.mem_flatMap.1 h
    obtain ⟨others, hothers, rfl⟩ := List.mem_map.1 h
    exact .cons hfound (ih hothers)

/-! ## All base rows -/

/-- A base row with the rows that it finds. -/
def withPartners (embeddings : List PlacedEmbedding) (base : List Cell) : JoinedRow :=
  { base, related := embeddings.map fun e => e.partner? base }

theorem join_eq {embeddings : List PlacedEmbedding} {rows : List (List Cell)}
    (h : ∀ base ∈ rows, Single embeddings base) :
    join embeddings rows = rows.map (withPartners embeddings) := by
  induction rows with
  | nil => rfl
  | cons base rest ih =>
    have hrest : ∀ other ∈ rest, Single embeddings other :=
      fun other hother => h other (List.mem_cons_of_mem _ hother)
    rw [List.map_cons, ← ih hrest, join, List.flatMap_cons,
      combinations_eq (h base List.mem_cons_self)]
    rfl

/-- The order of base rows by the cells at a place. -/
def inOrder (place : Nat) (ascending : Bool) (a b : List Cell) : Bool :=
  let o := (cellAt a place).compare (cellAt b place)
  if ascending then o != .gt else o != .lt

theorem sort_map (embeddings : List PlacedEmbedding) (place : Nat) (ascending : Bool)
    (rows : List (List Cell)) :
    sort place ascending (rows.map (withPartners embeddings)) =
      (rows.mergeSort (inOrder place ascending)).map (withPartners embeddings) := by
  unfold sort
  rw [← List.map_mergeSort]
  intro a _ b _
  rfl

theorem cut_map {α β : Type} (f : α → β) (range : Option RowRange) (rows : List α) :
    cut range (rows.map f) = (cut range rows).map f := by
  cases range with
  | none => rfl
  | some r =>
    simp only [cut]
    split
    · rw [List.map_drop]
    · rw [List.map_take, List.map_drop]

theorem cut_sublist {α : Type} (range : Option RowRange) (rows : List α) :
    (cut range rows).Sublist rows := by
  cases range with
  | none => exact List.Sublist.refl rows
  | some r =>
    simp only [cut]
    split
    · exact List.drop_sublist _ _
    · exact (List.take_sublist _ _).trans (List.drop_sublist _ _)

theorem length_cut {α : Type} (r : RowRange) (rows : List α) :
    ((cut (some r) rows).length : Int) =
      let rest := max 0 ((rows.length : Int) - max 0 r.start)
      if r.limit < 0 then rest else min r.limit rest := by
  simp only [cut]
  split
  · rw [List.length_drop]
    omega
  · rw [List.length_take, List.length_drop]
    omega

/-- Every joined row comes from a base row that meets the conditions, with what it finds. -/
theorem Placed.mem_joined {p : Placed} {range : Option RowRange} {row : JoinedRow}
    (h : row ∈ p.joined range) : row.base ∈ p.selected ∧
      List.Forall₂ (fun e found => found ∈ e.partners row.base) p.embeddings row.related := by
  have hmem : row ∈ join p.embeddings p.selected := by
    have hcut := (cut_sublist range _).subset h
    cases hasked : p.order with
    | none => rwa [hasked] at hcut
    | some o =>
      rw [hasked] at hcut
      exact (List.mergeSort_perm _ _).mem_iff.1 hcut
  obtain ⟨base, hbase, hmem⟩ := List.mem_flatMap.1 hmem
  obtain ⟨related, hrelated, rfl⟩ := List.mem_map.1 hmem
  exact ⟨hbase, partners_of_mem_combinations hrelated⟩

/-- The base rows that meet the conditions, in order. -/
def Placed.ordered (p : Placed) : List (List Cell) :=
  match p.order with
  | none => p.selected
  | some (place, ascending) => p.selected.mergeSort (inOrder place ascending)

/-- **A join that finds at most one row is a map.** -/
theorem Placed.joined_eq {p : Placed} (h : ∀ base ∈ p.selected, Single p.embeddings base)
    (range : Option RowRange) :
    p.joined range = (cut range p.ordered).map (withPartners p.embeddings) := by
  unfold Placed.joined Placed.ordered
  rw [join_eq h, ← cut_map]
  cases p.order with
  | none => rfl
  | some o => exact congrArg (cut range) (sort_map p.embeddings o.1 o.2 p.selected)

end TableExplorer.Store.Run
