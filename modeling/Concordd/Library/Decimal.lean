import Concordd.Library.Ascii

/-! Decimal numbers, as `printf` writes them and `strtol` reads them back. -/
namespace Ascii

/-- `snprintf` of what is printed into an array of `size` characters. -/
def snprintf (size : ℕ) (s : List UInt8) : List UInt8 := s.take (size - 1)

/-- `%u`. -/
def decimal (n : ℕ) : List UInt8 := (Nat.toDigits 10 n).map fun c => UInt8.ofNat c.toNat

/-- `%d`. -/
def decimalInt : ℤ → List UInt8
  | .ofNat n => decimal n
  | .negSucc n => 0x2D :: decimal (n + 1)

def IsDigit (c : UInt8) : Prop := 0x30 ≤ c ∧ c ≤ 0x39

/-- The number a string of digits stands for. -/
def digitsValue (s : List UInt8) : ℕ := s.foldl (fun acc c => 10 * acc + (c - 0x30).toNat) 0

/-- The value of an `int`. -/
def IsInt (i : ℤ) : Prop := -2 ^ 31 ≤ i ∧ i < 2 ^ 31

instance (i : ℤ) : Decidable (IsInt i) := inferInstanceAs (Decidable (_ ∧ _))

variable {n m : ℕ} {i j : ℤ} {c : UInt8}

theorem snprintf_of_lt {size : ℕ} {s : List UInt8} (h : s.length < size) : snprintf size s = s :=
  List.take_of_length_le (by omega)

theorem digitsValue_concat (s : List UInt8) (c : UInt8) :
    digitsValue (s ++ [c]) = 10 * digitsValue s + (c - 0x30).toNat := by
  simp [digitsValue, List.foldl_append]

/-- The character of a digit. -/
theorem digitChar_byte (h : n < 10) :
    UInt8.ofNat n.digitChar.toNat = 0x30 + UInt8.ofNat n := by
  interval_cases n <;> rfl

theorem decimal_of_lt (h : n < 10) : decimal n = [0x30 + UInt8.ofNat n] := by
  rw [decimal, Nat.toDigits_of_lt_base h, List.map_singleton, digitChar_byte h]

theorem decimal_of_le (h : 10 ≤ n) :
    decimal n = decimal (n / 10) ++ [0x30 + UInt8.ofNat (n % 10)] := by
  rw [decimal, Nat.toDigits_of_base_le (by decide) h, List.map_append, List.map_singleton,
    digitChar_byte (Nat.mod_lt _ (by decide))]
  rfl

theorem digit_value (h : n < 10) : (0x30 + UInt8.ofNat n - 0x30).toNat = n := by
  interval_cases n <;> rfl

theorem isDigit_digit (h : n < 10) : IsDigit (0x30 + UInt8.ofNat n) := by
  unfold IsDigit
  interval_cases n <;> decide

/-- What is printed has the value it was printed from. -/
theorem digitsValue_decimal (n : ℕ) : digitsValue (decimal n) = n := by
  induction n using Nat.strong_induction_on with
  | _ n ih =>
    by_cases h : n < 10
    · rw [decimal_of_lt h]
      simpa [digitsValue] using digit_value h
    · have hlast : n % 10 < 10 := Nat.mod_lt _ (by decide)
      rw [decimal_of_le (by omega), digitsValue_concat, ih (n / 10) (by omega), digit_value hlast]
      omega

theorem isDigit_decimal (n : ℕ) : ∀ c ∈ decimal n, IsDigit c := by
  induction n using Nat.strong_induction_on with
  | _ n ih =>
    intro c hc
    by_cases h : n < 10
    · rw [decimal_of_lt h, List.mem_singleton] at hc
      exact hc ▸ isDigit_digit h
    · rw [decimal_of_le (by omega), List.mem_append, List.mem_singleton] at hc
      rcases hc with hc | rfl
      · exact ih (n / 10) (by omega) c hc
      · exact isDigit_digit (Nat.mod_lt _ (by decide))

theorem decimal_ne_nil (n : ℕ) : decimal n ≠ [] := by
  intro h
  exact Nat.toDigits_ne_nil (List.map_eq_nil_iff.mp h)

theorem decimal_injective : Function.Injective decimal := by
  intro n m h
  rw [← digitsValue_decimal n, h, digitsValue_decimal]

/-- A printed number is at most as long as its bound has digits. -/
theorem length_decimal_le {k : ℕ} (hk : 0 < k) (h : n < 10 ^ k) : (decimal n).length ≤ k := by
  rw [decimal, List.length_map]
  exact (Nat.length_toDigits_le_iff (by decide) hk).mpr h

/-- What can stand in a printed number. -/
theorem mem_decimalInt (h : c ∈ decimalInt i) : IsDigit c ∨ c = 0x2D := by
  cases i with
  | ofNat n => exact .inl (isDigit_decimal n c h)
  | negSucc n =>
    rcases List.mem_cons.mp h with rfl | h
    · exact .inr rfl
    · exact .inl (isDigit_decimal _ c h)

theorem exists_decimalInt (i : ℤ) :
    ∃ c digits, decimalInt i = c :: digits ∧ (IsDigit c ∨ c = 0x2D) := by
  have hne : decimalInt i ≠ [] := by
    cases i with
    | ofNat n => exact decimal_ne_nil n
    | negSucc n => exact List.cons_ne_nil _ _
  obtain ⟨c, digits, hc⟩ := List.exists_cons_of_ne_nil hne
  exact ⟨c, digits, hc, mem_decimalInt (hc ▸ List.mem_cons_self)⟩

theorem decimal_ne_minus (n m : ℕ) : decimal n ≠ 0x2D :: decimal m := by
  intro h
  have hdigit := isDigit_decimal n 0x2D (h ▸ List.mem_cons_self)
  exact absurd hdigit (by unfold IsDigit; decide)

theorem decimalInt_injective : Function.Injective decimalInt := by
  intro i j h
  cases i with
  | ofNat n =>
    cases j with
    | ofNat m => exact congrArg Int.ofNat (decimal_injective h)
    | negSucc m => exact (decimal_ne_minus n (m + 1) h).elim
  | negSucc n =>
    cases j with
    | ofNat m => exact (decimal_ne_minus m (n + 1) h.symm).elim
    | negSucc m =>
      have hm := decimal_injective (List.cons.inj h).2
      exact congrArg Int.negSucc (Nat.succ.inj hm)

theorem length_decimalInt_le (h : IsInt i) : (decimalInt i).length ≤ 11 := by
  obtain ⟨hlo, hhi⟩ := h
  cases i with
  | ofNat n =>
    have hn : n < 10 ^ 11 := by
      simp only [Int.ofNat_eq_natCast] at hhi
      omega
    exact length_decimal_le (by decide) hn
  | negSucc n =>
    have hn : n + 1 < 10 ^ 10 := by omega
    have hle := length_decimal_le (by decide) hn
    rw [decimalInt, List.length_cons]
    omega

end Ascii
