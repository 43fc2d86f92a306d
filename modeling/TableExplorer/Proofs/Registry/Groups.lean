import Mathlib.Data.List.Nodup
import Mathlib.Data.List.Pairwise
import TableExplorer.Proofs.Dict
import TableExplorer.Registry.Groups

/-!
# The listing of the tables

No table is in two groups, and no group has the name of the default group. So the group of a table
is the only one that lists it, and what the listing adds to the groups, for tables that are in none
of them, stands behind all groups and changes none.

Main result: `listing_partitions`.
-/

namespace TableExplorer.Registry

variable {table : String}

/-! ## The groups -/

theorem nodup_groups : (Dict.keys tableGroups).Nodup := by decide

theorem defaultGroup_not_mem_groups : defaultGroup ∉ Dict.keys tableGroups := by decide

theorem nodup_groupedNames : (tableGroups.flatMap Prod.snd).Nodup := by decide +kernel

theorem group_unique {g g' : String × List String} (hg : g ∈ tableGroups) (hg' : g' ∈ tableGroups)
    (ht : table ∈ g.2) (ht' : table ∈ g'.2) : g = g' := by
  have hdisjoint := (List.nodup_flatMap.1 nodup_groupedNames).2
  have : Std.Symm (Function.onFun List.Disjoint (Prod.snd : String × List String → List String)) :=
    ⟨fun _ _ h _ hx hy => h hy hx⟩
  by_contra hne
  exact hdisjoint.forall hg hg' hne ht ht'

/-- The table is in no group. -/
def Ungrouped (table : String) : Prop := ∀ g ∈ tableGroups, table ∉ g.2

instance : DecidablePred Ungrouped := fun table =>
  inferInstanceAs (Decidable (∀ g ∈ tableGroups, table ∉ g.2))

theorem groupOf_of_mem {g : String × List String} (hg : g ∈ tableGroups) (ht : table ∈ g.2) :
    groupOf table = g.1 := by
  unfold groupOf
  cases hfind : tableGroups.find? fun g => g.2.contains table with
  | none =>
    have hnone := List.find?_eq_none.1 hfind g hg
    simp [ht] at hnone
  | some found =>
    have hfound : table ∈ found.2 := by simpa using List.find?_some hfind
    rw [group_unique (List.mem_of_find?_eq_some hfind) hg hfound ht]

theorem groupOf_of_ungrouped (h : Ungrouped table) : groupOf table = defaultGroup := by
  have hnone : tableGroups.find? (fun g => g.2.contains table) = none := by
    rw [List.find?_eq_none]
    intro g hg
    simpa using h g hg
  rw [groupOf, hnone]

/-- The default group is that of the tables in no group, and of no other. -/
theorem groupOf_eq_default_iff : groupOf table = defaultGroup ↔ Ungrouped table := by
  refine ⟨fun hdefault g hg ht => ?_, groupOf_of_ungrouped⟩
  rw [groupOf_of_mem hg ht] at hdefault
  exact defaultGroup_not_mem_groups (hdefault ▸ List.mem_map_of_mem hg)

theorem mem_group_iff {g : String × List String} (hg : g ∈ tableGroups) :
    table ∈ g.2 ↔ g.1 = groupOf table := by
  refine ⟨fun ht => (groupOf_of_mem hg ht).symm, fun hname => ?_⟩
  by_cases hungrouped : Ungrouped table
  · rw [groupOf_of_ungrouped hungrouped] at hname
    exact absurd (hname ▸ List.mem_map_of_mem hg) defaultGroup_not_mem_groups
  · obtain ⟨g', hg', ht⟩ : ∃ g' ∈ tableGroups, table ∈ g'.2 := by
      simpa [Ungrouped] using hungrouped
    rw [groupOf_of_mem hg' ht] at hname
    rwa [List.inj_on_of_nodup_map nodup_groups hg hg' hname]

/-! ## The tables in no group -/

/-- The available tables in no group, as they are listed. -/
def otherTables (available : Option (List String)) : List String :=
  sortNames ((available.getD []).filter fun t => groupOf t = defaultGroup)

theorem pairwise_sortNames (names : List String) : (sortNames names).Pairwise (· ≤ ·) := by
  have hle : ∀ a b : String, !decide (b < a) ↔ a ≤ b := by
    intro a b
    rw [Bool.not_eq_true', decide_eq_false_iff_not, String.not_lt]
  have htrans : ∀ a b c : String, !decide (b < a) → !decide (c < b) → !decide (c < a) := by
    intro a b c
    rw [hle, hle, hle]
    exact String.le_trans
  have htotal : ∀ a b : String, !decide (b < a) || !decide (a < b) := by
    intro a b
    rw [Bool.or_eq_true, hle, hle]
    exact String.le_total a b
  exact (List.pairwise_mergeSort htrans htotal names).imp fun h => (hle _ _).1 h

theorem count_otherTables (available : Option (List String)) (t : String) :
    (otherTables available).count t =
      if Ungrouped t then (available.getD []).count t else 0 := by
  have hperm : (otherTables available).Perm _ := List.mergeSort_perm _ _
  rw [hperm.count_eq]
  split
  next hungrouped =>
    rw [List.count_filter (by simpa using groupOf_of_ungrouped hungrouped)]
  next hgrouped =>
    rw [List.count_eq_zero]
    intro hmem
    have hdefault : groupOf t = defaultGroup := by simpa using (List.mem_filter.1 hmem).2
    exact hgrouped (groupOf_eq_default_iff.1 hdefault)

theorem mem_otherTables {available : Option (List String)} {t : String} :
    t ∈ otherTables available ↔ t ∈ available.getD [] ∧ groupOf t = defaultGroup := by
  rw [← List.count_pos_iff, count_otherTables, groupOf_eq_default_iff]
  by_cases hungrouped : Ungrouped t <;> simp [hungrouped]

/-- The tables in no group are listed behind all groups, if there are any. -/
theorem groupedTables_eq (available : Option (List String)) :
    groupedTables available =
      if otherTables available = [] then tableGroups
      else tableGroups ++ [(defaultGroup, otherTables available)] := by
  show (if (otherTables available).isEmpty then tableGroups
    else Dict.insert tableGroups defaultGroup (otherTables available)) = _
  by_cases hnone : otherTables available = []
  · rw [if_pos (List.isEmpty_iff.2 hnone), if_pos hnone]
  · rw [if_neg (by simpa using hnone), if_neg hnone,
      Dict.insert_of_not_mem defaultGroup_not_mem_groups]

theorem mem_groupedTables {available : Option (List String)} {g : String × List String} :
    g ∈ groupedTables available ↔ g ∈ tableGroups ∨
      (otherTables available ≠ [] ∧ g = (defaultGroup, otherTables available)) := by
  rw [groupedTables_eq]
  split
  next hnone => simp [hnone]
  next hsome => simp [hsome]

/-! ## The listing -/

theorem nodup_keys_groupedTables (available : Option (List String)) :
    (Dict.keys (groupedTables available)).Nodup := by
  unfold groupedTables
  dsimp only
  split
  · exact nodup_groups
  · exact Dict.nodup_keys_insert nodup_groups _ _

theorem defaultGroup_mem_keys_iff (available : Option (List String)) :
    defaultGroup ∈ Dict.keys (groupedTables available) ↔
      ∃ t ∈ available.getD [], Ungrouped t := by
  constructor
  · intro hlisted
    obtain ⟨g, hg, hname⟩ := List.mem_map.1 hlisted
    rcases mem_groupedTables.1 hg with hg | ⟨hsome, -⟩
    · exact absurd (hname ▸ List.mem_map_of_mem hg) defaultGroup_not_mem_groups
    · obtain ⟨t, ht⟩ := List.exists_mem_of_ne_nil _ hsome
      obtain ⟨havailable, hdefault⟩ := mem_otherTables.1 ht
      exact ⟨t, havailable, groupOf_eq_default_iff.1 hdefault⟩
  · rintro ⟨t, ht, hungrouped⟩
    have hother := mem_otherTables.2 ⟨ht, groupOf_of_ungrouped hungrouped⟩
    exact Dict.mem_keys_of_mem (mem_groupedTables.2 (.inr ⟨List.ne_nil_of_mem hother, rfl⟩))

theorem groupOf_mem_keys {available : Option (List String)} {t : String}
    (ht : t ∈ available.getD []) : groupOf t ∈ Dict.keys (groupedTables available) := by
  by_cases hungrouped : Ungrouped t
  · rw [groupOf_of_ungrouped hungrouped]
    exact (defaultGroup_mem_keys_iff available).2 ⟨t, ht, hungrouped⟩
  · obtain ⟨g, hg, hmem⟩ : ∃ g ∈ tableGroups, t ∈ g.2 := by
      simpa [Ungrouped] using hungrouped
    rw [groupOf_of_mem hg hmem]
    exact List.mem_map_of_mem (mem_groupedTables.2 (.inl hg))

/-- Of the groups that are listed, that of an available table holds it, and no other does. -/
theorem mem_listed_iff {available : Option (List String)} {t : String}
    (ht : t ∈ available.getD []) {g : String × List String} (hg : g ∈ groupedTables available) :
    t ∈ g.2 ↔ g.1 = groupOf t := by
  rcases mem_groupedTables.1 hg with hg | ⟨-, rfl⟩
  · exact mem_group_iff hg
  · rw [mem_otherTables]
    exact ⟨fun h => h.2.symm, fun h => ⟨ht, h.symm⟩⟩

/-- **The listing partitions the available tables.** Whatever is available, all groups are listed
with all their tables, in their order. The default group comes behind them, if some available table
is in no group; it holds just these tables, each as often as it is available, in the order of their
code points. Every available table is listed under its group and under no other. -/
theorem listing_partitions (available : Option (List String)) :
    let names := available.getD []
    let listed := groupedTables available
    ∃ others : List String,
      listed = tableGroups ++ (if others = [] then [] else [(defaultGroup, others)]) ∧
      others.Pairwise (· ≤ ·) ∧
      (∀ t, others.count t = if Ungrouped t then names.count t else 0) ∧
      (defaultGroup ∈ Dict.keys listed ↔ ∃ t ∈ names, Ungrouped t) ∧
      (Dict.keys listed).Nodup ∧
      ∀ t ∈ names, groupOf t ∈ Dict.keys listed ∧ ∀ g ∈ listed, t ∈ g.2 ↔ g.1 = groupOf t := by
  intro names listed
  have hlisted : listed =
      tableGroups ++ (if otherTables available = [] then []
        else [(defaultGroup, otherTables available)]) := by
    rw [show listed = _ from groupedTables_eq available]
    split
    · rw [List.append_nil]
    · rfl
  exact ⟨otherTables available, hlisted, pairwise_sortNames _, count_otherTables available,
    defaultGroup_mem_keys_iff available, nodup_keys_groupedTables available,
    fun t ht => ⟨groupOf_mem_keys ht, fun g hg => mem_listed_iff ht hg⟩⟩

end TableExplorer.Registry
