import Mathlib

/-! Strings of single-byte characters, as C programs in the C locale see them. -/
namespace Ascii

/-- The characters of a literal. -/
def text (s : String) : List UInt8 := s.toList.map fun c => UInt8.ofNat c.toNat

/-- `strlcat(dest, src, size)` for a `dest` shorter than `size`. -/
def strlcat (dest src : List UInt8) (size : ℕ) : List UInt8 := (dest ++ src).take (size - 1)

variable {s t : List UInt8} {c : UInt8} {size : ℕ}

/-- Nothing is cut off what fits. -/
theorem strlcat_of_length_lt (h : (strlcat s t size).length < size - 1) :
    strlcat s t size = s ++ t := by
  unfold strlcat at h ⊢
  rw [List.length_take] at h
  exact List.take_of_length_le (by omega)

theorem length_le_strlcat (h : s.length ≤ size - 1) : s.length ≤ (strlcat s t size).length := by
  unfold strlcat
  rw [List.length_take, List.length_append]
  omega

theorem length_strlcat_le : (strlcat s t size).length ≤ size - 1 := by
  unfold strlcat
  rw [List.length_take]
  omega

section
variable {α : Type*} {f : α → Bool} {s t : List α}

theorem rdropWhile_append (f : α → Bool) (s t : List α) :
    (s ++ t).rdropWhile f =
      if t.rdropWhile f = [] then s.rdropWhile f else s ++ t.rdropWhile f := by
  unfold List.rdropWhile
  rw [List.reverse_append, List.dropWhile_append]
  simp only [List.isEmpty_iff, List.reverse_eq_nil_iff]
  split
  · rfl
  · rw [List.reverse_append, List.reverse_reverse]

/-- Trimming a part of a string gives as much as trimming it all exactly when the rest of it is
trimmed away. -/
theorem rdropWhile_append_eq_left :
    s.rdropWhile f = (s ++ t).rdropWhile f ↔ ∀ c ∈ t, f c = true := by
  rw [rdropWhile_append, ← List.rdropWhile_eq_nil_iff]
  by_cases h : t.rdropWhile f = []
  · simp [h]
  · rw [if_neg h]
    refine iff_of_false ?_ h
    intro he
    have hle : (s.rdropWhile f).length ≤ s.length := (List.rdropWhile_prefix _ s).length_le
    rw [he, List.length_append] at hle
    have hpos : 0 < (t.rdropWhile f).length := List.length_pos_iff.mpr h
    omega

end

end Ascii
