import Mathlib.Data.List.Forall2

/-!
# Computations that may fail

A computation that may fail gives a result or a fault.  One that goes on after another one fails
with the first fault of the two.  For a list of computations this says which of them decides: all of
them succeed (`Failing.mapM_eq_ok_iff`), or one fails and those before it succeed
(`Failing.mapM_eq_error_iff`).
-/

namespace LiterateLinks

namespace Failing

variable {α β ε : Type}

/-- Two computations succeed if the first does, and the second with its result. -/
lemma bind_eq_ok_iff {x : Except ε α} {f : α → Except ε β} {b : β} :
    x >>= f = .ok b ↔ ∃ a, x = .ok a ∧ f a = .ok b := by
  cases x <;> simp [bind, Except.bind]

/-- Two computations fail with the first, or with the second after a result of the first. -/
lemma bind_eq_error_iff {x : Except ε α} {f : α → Except ε β} {fault : ε} :
    x >>= f = .error fault ↔ x = .error fault ∨ ∃ a, x = .ok a ∧ f a = .error fault := by
  cases x <;> simp [bind, Except.bind]

/-- A value that is returned is the result. -/
lemma pure_eq_ok_iff {a b : α} : (pure a : Except ε α) = .ok b ↔ a = b :=
  ⟨Except.ok.inj, congrArg Except.ok⟩

/-- A value that is returned is no failure. -/
lemma pure_ne_error {a : α} {fault : ε} : (pure a : Except ε α) ≠ .error fault := by
  rintro ⟨⟩

variable {f : α → Except ε β}

/-- A list of computations succeeds with the results of all of them. -/
lemma mapM_eq_ok_iff {xs : List α} {ys : List β} :
    xs.mapM f = .ok ys ↔ List.Forall₂ (fun x y => f x = .ok y) xs ys := by
  induction xs generalizing ys with
  | nil => rw [List.mapM_nil, pure_eq_ok_iff, List.forall₂_nil_left_iff, eq_comm]
  | cons x xs ih =>
    simp only [List.mapM_cons, bind_eq_ok_iff, pure_eq_ok_iff, ih, List.forall₂_cons_left_iff]
    constructor
    · rintro ⟨y, hy, rest, hrest, rfl⟩
      exact ⟨y, rest, hy, hrest, rfl⟩
    · rintro ⟨y, rest, hy, hrest, rfl⟩
      exact ⟨y, hy, rest, hrest, rfl⟩

/-- A list of computations fails with the first that fails. -/
lemma mapM_eq_error_iff {xs : List α} {fault : ε} :
    xs.mapM f = .error fault ↔ ∃ before x after, xs = before ++ x :: after ∧
      (∀ y ∈ before, ∃ result, f y = .ok result) ∧ f x = .error fault := by
  induction xs with
  | nil => simp [pure_ne_error]
  | cons x xs ih =>
    simp only [List.mapM_cons, bind_eq_error_iff, pure_ne_error, and_false, exists_false, or_false,
      ih]
    constructor
    · rintro (hx | ⟨result, hx, before, y, after, rfl, hbefore, hy⟩)
      · exact ⟨[], x, xs, rfl, by simp, hx⟩
      · refine ⟨x :: before, y, after, rfl, ?_, hy⟩
        exact List.forall_mem_cons.2 ⟨⟨result, hx⟩, hbefore⟩
    · rintro ⟨before, y, after, hxs, hbefore, hy⟩
      cases before with
      | nil =>
        obtain ⟨rfl, rfl⟩ := List.cons.inj hxs
        exact .inl hy
      | cons first before =>
        obtain ⟨rfl, rfl⟩ := List.cons.inj hxs
        obtain ⟨⟨result, hx⟩, hbefore⟩ := List.forall_mem_cons.1 hbefore
        exact .inr ⟨result, hx, before, y, after, rfl, hbefore, hy⟩

end Failing

end LiterateLinks
