import Concordd.Text.Model

/-! Trimming counts in eight bits: it is right for short texts, and for few of the long ones. -/
namespace Concordd

open Ascii

variable {s : GeText} {r : List UInt8} {before : UInt8} {bytes : List UInt8}

/-- The string without its trailing white space. -/
def trimRight (s : List UInt8) : List UInt8 := s.rdropWhile isSpace

theorem getD_take_succ {len : ℕ} (h : len < r.length) :
    r.take (len + 1) = r.take len ++ [r.getD len 0] := by
  rw [List.take_succ_eq_append_getElem h, List.getD_eq_getElem _ _ h]

/-- From the end of the string on, the loop removes exactly the trailing white space. -/
theorem trim_of_length (len : ℕ) {s : GeText} (h : s.ret.length = len) :
    (geTextTrim len s).ret = trimRight s.ret := by
  induction len generalizing s with
  | zero =>
    rw [List.length_eq_zero_iff.mp h]
    exact List.length_eq_zero_iff.mp h
  | succ len ih =>
    have hret : s.ret = s.ret.take len ++ [s.ret.getD len 0] := by
      rw [← getD_take_succ (by omega), List.take_of_length_le (by omega)]
    rw [trimRight, hret, geTextTrim]
    by_cases hc : isSpace (s.ret.getD len 0) = true
    · rw [if_pos hc, List.rdropWhile_concat_pos _ _ _ hc]
      exact ih (by simp [h])
    · rw [if_neg hc, List.rdropWhile_concat_neg _ _ _ hc]
      exact hret

/-- From a place inside the string on, it removes nothing, or everything that follows too. -/
theorem trim_of_lt (len : ℕ) (h : len < s.ret.length) :
    (geTextTrim (len + 1) s).ret =
      if isSpace (s.ret.getD len 0) then trimRight (s.ret.take (len + 1)) else s.ret := by
  rw [geTextTrim]
  by_cases hc : isSpace (s.ret.getD len 0) = true
  · rw [if_pos hc, if_pos hc, trim_of_length len (by simp; omega), getD_take_succ h, trimRight,
      trimRight, List.rdropWhile_concat_pos _ _ _ hc]
  · rw [if_neg hc, if_neg hc]
    rfl

/-- Whether the trimming removes the trailing white space of `r` and nothing else: the character
it starts at is the last one only in a short string. -/
def TrimsExactly (r : List UInt8) : Prop :=
  r.length < 256 ∨
    if r.length % 256 ≠ 0 ∧ isSpace (r.getD (r.length % 256 - 1) 0) then
      ∀ c ∈ r.drop (r.length % 256), isSpace c = true
    else ∀ h : r ≠ [], ¬ isSpace (r.getLast h) = true

instance (r : List UInt8) : Decidable (TrimsExactly r) := inferInstanceAs (Decidable (_ ∨ _))

theorem trimmed_iff (s : GeText) : s.trimmed.ret = trimRight s.ret ↔ TrimsExactly s.ret := by
  unfold GeText.trimmed TrimsExactly
  rw [UInt8.toNat_ofNat']
  by_cases hshort : s.ret.length < 256
  · rw [Nat.mod_eq_of_lt hshort]
    exact iff_of_true (trim_of_length _ rfl) (.inl hshort)
  rw [or_iff_right hshort]
  have hself : s.ret = trimRight s.ret ↔ ∀ h : s.ret ≠ [], ¬ isSpace (s.ret.getLast h) = true := by
    rw [eq_comm, trimRight]
    exact List.rdropWhile_eq_self_iff
  cases hm : s.ret.length % 256 with
  | zero =>
    simp only [ne_eq, not_true_eq_false, false_and, if_false]
    exact hself
  | succ m =>
    rw [trim_of_lt m (by omega)]
    simp only [Nat.add_sub_cancel, ne_eq, Nat.add_one_ne_zero, not_false_eq_true, true_and]
    by_cases hc : isSpace (s.ret.getD m 0) = true
    · rw [if_pos hc, if_pos hc]
      have hleft := rdropWhile_append_eq_left (f := isSpace)
        (s := s.ret.take (m + 1)) (t := s.ret.drop (m + 1))
      rw [List.take_append_drop] at hleft
      exact hleft
    · rw [if_neg hc, if_neg hc]
      exact hself

theorem returned_of_decode (hs : geTextDecode true before bytes = .ok s) :
    geTextToAsciiOneLine before bytes = .ok s.trimmed := by
  rw [geTextToAsciiOneLine, hs]
  rfl

/-- Where decoding stays inside its input, what is returned is the text without its trailing white
space, and nothing else is lost, exactly when the trimming starts at the right character. -/
theorem text_trimmed_iff (bytes : List UInt8) (before : UInt8)
    (hs : geTextDecode true before bytes = .ok s) :
    ∃ returned, geTextToAsciiOneLine before bytes = .ok returned ∧
      (returned.ret = trimRight s.ret ↔ TrimsExactly s.ret) :=
  ⟨s.trimmed, returned_of_decode hs, trimmed_iff s⟩

/-- The text a call has come to, if it has not read past its input. -/
def textOf : Except GeText GeText → Option (List UInt8)
  | .ok s => some s.ret
  | .error _ => none

theorem textOf_eq_some {result : Except GeText GeText} (h : textOf result = some r) :
    ∃ s, result = .ok s ∧ s.ret = r := by
  cases result with
  | ok s => exact ⟨s, rfl, Option.some.inj h⟩
  | error s => cases h

/-- `"ALARM "` and `"OFF "`. -/
theorem text_trimmed_short :
    ∃ s, geTextDecode true 0 [0x33, 0x97] = .ok s ∧
      ∃ returned, geTextToAsciiOneLine 0 [0x33, 0x97] = .ok returned ∧
        (returned.ret = trimRight s.ret ↔ TrimsExactly s.ret) := by
  have htext : textOf (geTextDecode true 0 [0x33, 0x97]) = some (text "ALARM OFF ") := by
    decide +kernel
  obtain ⟨s, hs, -⟩ := textOf_eq_some htext
  exact ⟨s, hs, text_trimmed_iff [0x33, 0x97] 0 hs⟩

/-- Twenty times `"ENERGY SAVER "` are 260 characters, of which the last is left. -/
theorem text_untrimmed :
    ¬ ∀ (bytes : List UInt8) (before : UInt8) (s returned : GeText),
      geTextDecode true before bytes = .ok s → geTextToAsciiOneLine before bytes = .ok returned →
        returned.ret = trimRight s.ret := by
  intro h
  have htext : textOf (geTextDecode true 0 (List.replicate 20 0x5F)) =
      some (List.replicate 20 (text "ENERGY SAVER ")).flatten := by
    decide +kernel
  have hexact : ¬ TrimsExactly (List.replicate 20 (text "ENERGY SAVER ")).flatten := by
    decide +kernel
  obtain ⟨s, hs, hret⟩ := textOf_eq_some htext
  have hr := h _ 0 s s.trimmed hs (returned_of_decode hs)
  rw [trimmed_iff, hret] at hr
  exact hexact hr

end Concordd
