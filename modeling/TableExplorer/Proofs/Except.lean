import Mathlib.Data.List.Forall2

/-!
# Computations that may fail

What is known of the parts of a computation that succeeds. A traversal of a list succeeds exactly
if every member does, so its result is related to the list member by member. A computation whose
parts fail in some ways only fails in these ways (`FailsIn`). Of faults that are checked one after
the other, the first is the one that a computation ends with (`EndsWith`).

Main results: `mapM_eq_ok` and `EndsWith.mapM`.
-/

namespace TableExplorer

variable {ε ε' α β : Type}

theorem bind_eq_ok {x : Except ε α} {f : α → Except ε β} {b : β} :
    (x >>= f) = .ok b ↔ ∃ a, x = .ok a ∧ f a = .ok b := by
  cases x with
  | error e =>
    constructor
    · intro h
      cases h
    · rintro ⟨_, h, _⟩
      cases h
  | ok a =>
    refine ⟨fun h => ⟨a, rfl, h⟩, ?_⟩
    rintro ⟨_, ⟨⟩, h⟩
    exact h

theorem map_eq_ok {x : Except ε α} {f : α → β} {b : β} :
    x.map f = .ok b ↔ ∃ a, x = .ok a ∧ f a = b := by
  cases x with
  | error e =>
    constructor
    · intro h
      cases h
    · rintro ⟨_, h, _⟩
      cases h
  | ok a =>
    refine ⟨fun h => ⟨a, rfl, Except.ok.inj h⟩, ?_⟩
    rintro ⟨_, ⟨⟩, rfl⟩
    rfl

theorem mapError_eq_ok {x : Except ε α} {f : ε → ε'} {a : α} :
    x.mapError f = .ok a ↔ x = .ok a := by
  cases x <;> simp [Except.mapError]

theorem ok_bind (a : α) (f : α → Except ε β) : (Except.ok a >>= f) = f a := rfl

theorem map_bind {γ : Type} (x : Except ε α) (f : α → Except ε β) (g : β → γ) :
    (x >>= f).map g = x >>= fun a => (f a).map g := by
  cases x <;> rfl

theorem mapM_congr {f g : α → Except ε β} {xs : List α} (h : ∀ x ∈ xs, f x = g x) :
    xs.mapM f = xs.mapM g := by
  induction xs with
  | nil => rfl
  | cons x xs ih =>
    rw [List.mapM_cons, List.mapM_cons, h x List.mem_cons_self,
      ih fun y hy => h y (List.mem_cons_of_mem _ hy)]

/-- **A traversal succeeds exactly if every member does.** -/
theorem mapM_eq_ok {f : α → Except ε β} {xs : List α} {ys : List β} :
    xs.mapM f = .ok ys ↔ List.Forall₂ (fun x y => f x = .ok y) xs ys := by
  induction xs generalizing ys with
  | nil =>
    rw [List.mapM_nil, List.forall₂_nil_left_iff]
    exact ⟨fun h => (Except.ok.inj h).symm, fun h => congrArg _ h.symm⟩
  | cons x xs ih =>
    rw [List.mapM_cons, bind_eq_ok, List.forall₂_cons_left_iff]
    constructor
    · rintro ⟨y, hy, h⟩
      obtain ⟨rest, hrest, hys⟩ := bind_eq_ok.1 h
      exact ⟨y, rest, hy, ih.1 hrest, (Except.ok.inj hys).symm⟩
    · rintro ⟨y, rest, hy, hrest, rfl⟩
      exact ⟨y, hy, bind_eq_ok.2 ⟨rest, ih.2 hrest, rfl⟩⟩

theorem exists_mapM_eq_ok {f : α → Except ε β} {xs : List α} (h : ∀ x ∈ xs, ∃ y, f x = .ok y) :
    ∃ ys, xs.mapM f = .ok ys := by
  induction xs with
  | nil => exact ⟨[], rfl⟩
  | cons x xs ih =>
    obtain ⟨y, hy⟩ := h x List.mem_cons_self
    obtain ⟨ys, hys⟩ := ih fun z hz => h z (List.mem_cons_of_mem _ hz)
    refine ⟨y :: ys, ?_⟩
    rw [List.mapM_cons, hy, hys]
    rfl

theorem forM_eq_ok {f : α → Except ε Unit} {xs : List α} :
    xs.forM f = .ok () ↔ ∀ x ∈ xs, f x = .ok () := by
  induction xs with
  | nil => exact ⟨fun _ _ h => absurd h List.not_mem_nil, fun _ => rfl⟩
  | cons x xs ih =>
    rw [show (x :: xs).forM f = (f x >>= fun _ => xs.forM f) from rfl, bind_eq_ok,
      List.forall_mem_cons]
    constructor
    · rintro ⟨⟨⟩, hx, hxs⟩
      exact ⟨hx, ih.1 hxs⟩
    · rintro ⟨hx, hxs⟩
      exact ⟨(), hx, ih.2 hxs⟩

/-! ## Ways to fail -/

/-- Whatever error a computation ends with is of some kind. -/
def FailsIn (P : ε → Prop) (x : Except ε α) : Prop := ∀ e, x = .error e → P e

namespace FailsIn

variable {P : ε → Prop}

theorem ok (a : α) : FailsIn P (.ok a : Except ε α) := fun _ h => nomatch h

theorem error {e : ε} (h : P e) : FailsIn P (.error e : Except ε α) := by
  rintro _ ⟨⟩
  exact h

theorem bind {x : Except ε α} {f : α → Except ε β} (hx : FailsIn P x)
    (hf : ∀ a, FailsIn P (f a)) : FailsIn P (x >>= f) := by
  cases x with
  | error e => exact error (hx e rfl)
  | ok a => exact hf a

theorem map {x : Except ε α} (hx : FailsIn P x) (f : α → β) : FailsIn P (x.map f) := by
  cases x with
  | error e => exact error (hx e rfl)
  | ok a => exact ok (f a)

theorem mapError {Q : ε' → Prop} {x : Except ε α} {f : ε → ε'} (hx : FailsIn P x)
    (hf : ∀ e, P e → Q (f e)) : FailsIn Q (x.mapError f) := by
  cases x with
  | error e => exact error (hf e (hx e rfl))
  | ok a => exact ok a

theorem mapM {f : α → Except ε β} {xs : List α} (hf : ∀ x ∈ xs, FailsIn P (f x)) :
    FailsIn P (xs.mapM f) := by
  induction xs with
  | nil => exact ok []
  | cons x xs ih =>
    rw [List.mapM_cons]
    have hrest := ih fun y hy => hf y (List.mem_cons_of_mem _ hy)
    exact (hf x List.mem_cons_self).bind fun y => hrest.bind fun ys => ok (y :: ys)

theorem forM {f : α → Except ε Unit} (hf : ∀ x, FailsIn P (f x)) (xs : List α) :
    FailsIn P (xs.forM f) := by
  induction xs with
  | nil => exact ok ()
  | cons x xs ih => exact (hf x).bind fun _ => ih

theorem foldlM {f : β → α → Except ε β} (hf : ∀ b x, FailsIn P (f b x)) (b : β) (xs : List α) :
    FailsIn P (xs.foldlM f b) := by
  induction xs generalizing b with
  | nil => exact ok b
  | cons x xs ih =>
    rw [List.foldlM_cons]
    exact (hf b x).bind fun b' => ih b'

end FailsIn

/-! ## The first fault -/

/-- A computation ends with a fault, or with a value if there is none. -/
def EndsWith (fault? : Option ε) (x : Except ε α) : Prop :=
  match fault? with
  | some e => x = .error e
  | none => ∃ a, x = .ok a

namespace EndsWith

theorem ok (a : α) : EndsWith none (.ok a : Except ε α) := ⟨a, rfl⟩

theorem error (e : ε) : EndsWith (some e) (.error e : Except ε α) := rfl

variable {fault? later? : Option ε} {x : Except ε α}

theorem bind {f : α → Except ε β} (hx : EndsWith fault? x)
    (hf : ∀ a, x = .ok a → EndsWith later? (f a)) : EndsWith (fault?.or later?) (x >>= f) := by
  cases fault? with
  | some e =>
    cases hx
    exact error e
  | none =>
    obtain ⟨a, rfl⟩ := hx
    exact hf a rfl

theorem map (hx : EndsWith fault? x) (f : α → β) : EndsWith fault? (x.map f) := by
  cases fault? with
  | some e =>
    cases hx
    exact error e
  | none =>
    obtain ⟨a, rfl⟩ := hx
    exact ok (f a)

/-- **A traversal ends with the first fault of a member.** -/
theorem mapM {f : α → Except ε β} {memberFault? : α → Option ε} {xs : List α}
    (hf : ∀ x ∈ xs, EndsWith (memberFault? x) (f x)) :
    EndsWith (xs.findSome? memberFault?) (xs.mapM f) := by
  induction xs with
  | nil => exact ok []
  | cons x xs ih =>
    rw [List.mapM_cons, List.findSome?_cons]
    have hrest := ih fun y hy => hf y (List.mem_cons_of_mem _ hy)
    have hall := (hf x List.mem_cons_self).bind fun y _ => hrest.map (y :: ·)
    cases hfault : memberFault? x with
    | some e => rwa [hfault, Option.some_or] at hall
    | none => rwa [hfault, Option.none_or] at hall

end EndsWith

end TableExplorer
