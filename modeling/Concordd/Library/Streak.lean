import Mathlib

/-! Equal entries in a row. -/
namespace List

variable {α : Type*} {a b : α} {n k : ℕ} {l : List α}

theorem le_of_prefix_replicate (hab : a ≠ b)
    (h : replicate n a <+: replicate k a ++ b :: l) : n ≤ k := by
  induction k generalizing n with
  | zero =>
    cases n with
    | zero => exact le_rfl
    | succ n =>
      rw [replicate_succ, replicate_zero, nil_append, cons_prefix_cons] at h
      exact (hab h.1).elim
  | succ k ih =>
    cases n with
    | zero => exact Nat.zero_le _
    | succ n =>
      rw [replicate_succ, replicate_succ, cons_append, cons_prefix_cons] at h
      exact Nat.succ_le_succ (ih h.2)

/-- A row that another entry breaks off early does not count. -/
theorem replicate_infix_break (hab : a ≠ b) (hk : k < n) :
    replicate n a <:+: replicate k a ++ b :: l ↔ replicate n a <:+: l := by
  induction k with
  | zero =>
    rw [replicate_zero, nil_append, infix_cons_iff]
    refine or_iff_right fun h => ?_
    exact absurd (le_of_prefix_replicate (k := 0) hab h) (by omega)
  | succ k ih =>
    have hstart : ¬ replicate n a <+: replicate (k + 1) a ++ b :: l := fun h =>
      absurd (le_of_prefix_replicate hab h) (by omega)
    rw [← ih (by omega), replicate_succ, cons_append, infix_cons_iff]
    exact or_iff_right hstart

theorem not_replicate_infix (hk : k < n) : ¬ replicate n a <:+: replicate k a := by
  intro h
  have hle := h.length_le
  rw [length_replicate, length_replicate] at hle
  omega

end List
