import Mathlib.Data.List.Nodup

/-!
# Lists related member by member

Where two lists are related, every member has a counterpart, members with equal images make equal
images of the lists, and relations compose.
-/

namespace TableExplorer

variable {α β γ : Type}

theorem exists_of_mem_left {R : α → β → Prop} {xs : List α} {ys : List β}
    (h : List.Forall₂ R xs ys) {x : α} (hx : x ∈ xs) : ∃ y ∈ ys, R x y := by
  induction h with
  | nil => cases hx
  | cons hhead _ ih =>
    rcases List.mem_cons.1 hx with rfl | hx
    · exact ⟨_, List.mem_cons_self, hhead⟩
    · obtain ⟨y, hy, hxy⟩ := ih hx
      exact ⟨y, List.mem_cons_of_mem _ hy, hxy⟩

theorem exists_of_mem_right {R : α → β → Prop} {xs : List α} {ys : List β}
    (h : List.Forall₂ R xs ys) {y : β} (hy : y ∈ ys) : ∃ x ∈ xs, R x y :=
  exists_of_mem_left h.flip hy

theorem map_eq_map_of_forall₂ {f : α → γ} {g : β → γ} {xs : List α} {ys : List β}
    (h : List.Forall₂ (fun x y => f x = g y) xs ys) : xs.map f = ys.map g := by
  rwa [← List.forall₂_eq_eq_eq, List.forall₂_map_left_iff, List.forall₂_map_right_iff]

theorem all_eq_all_of_forall₂ {f : α → Bool} {g : β → Bool} {xs : List α} {ys : List β}
    (h : List.Forall₂ (fun x y => f x = g y) xs ys) : xs.all f = ys.all g := by
  induction h with
  | nil => rfl
  | cons hhead _ ih => rw [List.all_cons, List.all_cons, hhead, ih]

theorem mapIdx_eq_mapIdx_of_forall₂ {R : α → β → Prop} {xs : List α} {ys : List β}
    (h : List.Forall₂ R xs ys) {f : Nat → α → γ} {g : Nat → β → γ}
    (hfg : ∀ i x y, R x y → f i x = g i y) : xs.mapIdx f = ys.mapIdx g := by
  induction h generalizing f g with
  | nil => rfl
  | cons hhead _ ih =>
    rw [List.mapIdx_cons, List.mapIdx_cons, hfg 0 _ _ hhead, ih fun i => hfg (i + 1)]

theorem forall₂_comp {R : α → β → Prop} {S : β → γ → Prop} {xs : List α} {ys : List β}
    {zs : List γ} (hR : List.Forall₂ R xs ys) (hS : List.Forall₂ S ys zs) :
    List.Forall₂ (fun x z => ∃ y, R x y ∧ S y z) xs zs := by
  induction hR generalizing zs with
  | nil =>
    cases hS
    exact .nil
  | cons hxy _ ih =>
    obtain ⟨_, _, hyz, hrest, rfl⟩ := List.forall₂_cons_left_iff.1 hS
    exact .cons ⟨_, hxy, hyz⟩ (ih hrest)

theorem forall₂_zip {R : α → β → Prop} {S : α × β → γ → Prop} {xs : List α} {ys : List β}
    {zs : List γ} (hR : List.Forall₂ R xs ys) (hS : List.Forall₂ S (xs.zip ys) zs) :
    List.Forall₂ (fun x z => ∃ y, R x y ∧ S (x, y) z) xs zs := by
  induction hR generalizing zs with
  | nil =>
    cases hS
    exact .nil
  | cons hxy _ ih =>
    obtain ⟨_, _, hz, hrest, rfl⟩ := List.forall₂_cons_left_iff.1 hS
    exact .cons ⟨_, hxy, hz⟩ (ih hrest)

theorem nodup_of_count_le_one [BEq α] [LawfulBEq α] {part whole : List α}
    (hsub : part.Sublist whole) (hcount : ∀ x ∈ part, whole.count x ≤ 1) : part.Nodup := by
  rw [List.nodup_iff_count_le_one]
  intro x
  by_cases hmem : x ∈ part
  · exact Nat.le_trans (hsub.count_le x) (hcount x hmem)
  · rw [List.count_eq_zero_of_not_mem hmem]
    omega

end TableExplorer
