import Mathlib.Data.List.Forall2

/-! # Results of steps that can fail

A chain of steps succeeds exactly when each step does, and then with the results of the steps
(`except_bind_eq_ok_iff`); a pass over a list gives a result where it does for each piece
(`exists_mapM_eq_ok`), and relates each piece to its result (`forall₂_of_mapM_eq_ok`).
-/
namespace BeanBuilder

variable {ε α β : Type}

@[simp] theorem except_ok_bind (a : α) (f : α → Except ε β) : (Except.ok a >>= f) = f a := rfl

theorem except_bind_eq_ok_iff {x : Except ε α} {f : α → Except ε β} {y : β} :
    (x >>= f) = .ok y ↔ ∃ a, x = .ok a ∧ f a = .ok y := by
  cases x with
  | error e => exact ⟨fun h => (nomatch h), fun ⟨_, h, _⟩ => (nomatch h)⟩
  | ok a =>
    constructor
    · exact fun h => ⟨a, rfl, h⟩
    · rintro ⟨_, ha, h⟩
      cases ha
      exact h

theorem except_ok_eq_ok_iff {x y : α} : (Except.ok x : Except ε α) = .ok y ↔ y = x :=
  ⟨fun h => (Except.ok.inj h).symm, fun h => congrArg _ h.symm⟩

theorem except_pure_eq_ok_iff {x y : α} : (pure x : Except ε α) = .ok y ↔ y = x :=
  except_ok_eq_ok_iff

/-- A step fails exactly when it gives no result. -/
theorem exists_eq_error_iff {x : Except ε α} : (∃ e, x = .error e) ↔ ¬∃ a, x = .ok a := by
  cases x <;> simp

theorem toOption_eq_some_iff {x : Except ε α} {a : α} : x.toOption = some a ↔ x = .ok a := by
  cases x with
  | error e => exact ⟨fun h => (nomatch h), fun h => (nomatch h)⟩
  | ok b => exact ⟨fun h => congrArg _ (Option.some.inj h), fun h => congrArg _ (Except.ok.inj h)⟩

theorem mapError_eq_ok_iff {ε' : Type} {f : ε → ε'} {x : Except ε α} {a : α} :
    x.mapError f = .ok a ↔ x = .ok a := by
  cases x with
  | error e => exact ⟨fun h => (nomatch h), fun h => (nomatch h)⟩
  | ok b =>
    have hmap : (Except.ok b : Except ε α).mapError f = .ok b := rfl
    rw [hmap, except_ok_eq_ok_iff, except_ok_eq_ok_iff]

/-- A pass over a list succeeds where each of its steps does. -/
theorem exists_mapM_eq_ok {f : α → Except ε β} {xs : List α} (h : ∀ x ∈ xs, ∃ y, f x = .ok y) :
    ∃ ys, xs.mapM f = .ok ys := by
  induction xs with
  | nil => exact ⟨[], rfl⟩
  | cons x rest ih =>
    obtain ⟨y, hy⟩ := h x List.mem_cons_self
    obtain ⟨ys, hys⟩ := ih fun z hz => h z (List.mem_cons_of_mem _ hz)
    exact ⟨y :: ys, by rw [List.mapM_cons, hy, except_ok_bind, hys]; rfl⟩

/-- What a pass over a list gives is related to the list piece by piece. -/
theorem forall₂_of_mapM_eq_ok {f : α → Except ε β} {p : α → β → Prop}
    (hf : ∀ x y, f x = .ok y → p x y) {xs : List α} {ys : List β} (h : xs.mapM f = .ok ys) :
    List.Forall₂ p xs ys := by
  induction xs generalizing ys with
  | nil =>
    rw [List.mapM_nil, except_pure_eq_ok_iff] at h
    exact h ▸ List.Forall₂.nil
  | cons x rest ih =>
    rw [List.mapM_cons] at h
    obtain ⟨y, hy, h⟩ := except_bind_eq_ok_iff.mp h
    obtain ⟨ys', hys, h⟩ := except_bind_eq_ok_iff.mp h
    rw [except_pure_eq_ok_iff] at h
    exact h ▸ List.Forall₂.cons (hf x y hy) (ih hys)

end BeanBuilder
