import Mathlib

/-! The occupied slots of a ring buffer: the indices from `head` up to, not including, `tail`. -/
namespace RingBuffer

variable {n : ℕ} [NeZero n] {h t i : Fin n} {α : Type*} {a : α}

/-- `k` slots in ring order, starting at `h`. -/
def slots (h : Fin n) : ℕ → List (Fin n)
  | 0 => []
  | k + 1 => h :: slots (h + 1) k

/-- The slots in use between `h` and `t`. -/
def span (h t : Fin n) : List (Fin n) := slots h (t - h).val

@[simp] theorem length_slots (h : Fin n) (k : ℕ) : (slots h k).length = k := by
  induction k generalizing h with
  | zero => rfl
  | succ k ih => simp [slots, ih]

theorem slots_snoc (h : Fin n) (k : ℕ) : slots h (k + 1) = slots h k ++ [h + Fin.ofNat n k] := by
  induction k generalizing h with
  | zero => simp [slots]
  | succ k ih =>
    have hk : h + 1 + Fin.ofNat n k = h + Fin.ofNat n (k + 1) := by
      apply Fin.ext
      simp only [Fin.val_add, Fin.val_ofNat, Fin.val_one', Nat.mod_add_mod, Nat.add_mod_mod]
      congr 1
      omega
    rw [slots, ih, hk]
    rfl

/-- Up to `n` slots from `h` on are exactly those at a distance less than `k`. -/
theorem mem_slots {k : ℕ} (hk : k ≤ n) : i ∈ slots h k ↔ (i - h).val < k := by
  induction k generalizing h with
  | zero => simp [slots]
  | succ k ih =>
    rw [slots, List.mem_cons, ih (by omega)]
    by_cases hi : i = h
    · simp [hi]
    · have hne : i - h ≠ 0 := sub_ne_zero.mpr hi
      have hpos : (i - h).val ≠ 0 := fun he => hne (Fin.ext he)
      have hv : (i - (h + 1)).val = (i - h).val - 1 := by
        rw [← sub_sub]
        exact Fin.val_sub_one_of_ne_zero hne
      rw [hv]
      simp only [hi, false_or]
      omega

@[simp] theorem length_span : (span h t).length = (t - h).val := length_slots ..

theorem length_span_lt : (span h t).length < n := by
  rw [length_span]
  exact (t - h).isLt

theorem span_eq_nil : span h t = [] ↔ h = t := by
  rw [← List.length_eq_zero_iff, length_span]
  constructor
  · intro he
    exact (sub_eq_zero.mp (Fin.ext he)).symm
  · rintro rfl
    simp

/-- The oldest slot in use is the head. -/
theorem span_cons (hne : h ≠ t) : span h t = h :: span (h + 1) t := by
  have hd : t - h ≠ 0 := sub_ne_zero.mpr hne.symm
  have hv : (t - (h + 1)).val = (t - h).val - 1 := by
    rw [← sub_sub]
    exact Fin.val_sub_one_of_ne_zero hd
  have hpos : (t - h).val ≠ 0 := fun he => hd (Fin.ext he)
  unfold span
  rw [hv]
  conv_lhs => rw [show (t - h).val = (t - h).val - 1 + 1 by omega]
  rfl

theorem ofNat_val_sub : h + Fin.ofNat n (t - h).val = t := by
  rw [Fin.ofNat_val_eq_self]
  exact add_sub_cancel h t

/-- Filling the tail slot appends it, unless that makes the ring wrap onto its head. -/
theorem span_snoc (hne : t + 1 ≠ h) : span h (t + 1) = span h t ++ [t] := by
  have hv : (t + 1 - h).val = (t - h).val + 1 := by
    rw [add_sub_right_comm]
    apply Fin.val_add_one_of_lt'
    have hlt := (t - h).isLt
    by_contra hge
    apply hne
    have hz : t - h + 1 = 0 := by
      apply Fin.ext
      have hn : (t - h).val + 1 = n := by omega
      simp only [Fin.val_add, Fin.val_one', Nat.add_mod_mod, hn, Nat.mod_self, Fin.val_zero]
    rw [← add_sub_right_comm] at hz
    exact sub_eq_zero.mp hz
  unfold span
  rw [hv, slots_snoc, ofNat_val_sub]

theorem mem_span : i ∈ span h t ↔ (i - h).val < (t - h).val :=
  mem_slots (t - h).isLt.le

theorem tail_not_mem_span : t ∉ span h t := by
  simp [mem_span]

/-- A ring is full, one slot short of `n`, exactly when filling the tail would reach the head. -/
theorem length_span_full : (span h t).length + 1 = n ↔ t + 1 = h := by
  constructor
  · intro hl
    by_contra hne
    have hs := length_span_lt (h := h) (t := t + 1)
    rw [span_snoc hne] at hs
    simp only [List.length_append, List.length_singleton] at hs
    omega
  · rintro rfl
    by_contra hne
    rw [length_span] at hne
    have hlt := (t - (t + 1)).isLt
    have hv := Fin.val_add_one_of_lt' (show (t - (t + 1)).val + 1 < n by omega)
    simp at hv

/-- Writing a slot that is not in use changes nothing that is. -/
theorem map_span_update {β : Type*} (f : Fin n → α) (g : α → β) (hi : i ∉ span h t) :
    (span h t).map (fun j => g (Function.update f i a j)) = (span h t).map (fun j => g (f j)) := by
  apply List.map_congr_left
  intro j hj
  have hji : j ≠ i := fun he => hi (he ▸ hj)
  rw [Function.update_of_ne hji]

end RingBuffer
