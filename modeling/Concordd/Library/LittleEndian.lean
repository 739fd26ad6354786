import Mathlib

/-! Numbers and the bytes that store them, the least significant one first. -/
namespace LittleEndian

/-- Byte `i` of a number. -/
def byte (n i : ℕ) : UInt8 := UInt8.ofNat (n / 256 ^ i)

/-- The number in the first `w` bytes. -/
def number (f : ℕ → UInt8) : ℕ → ℕ
  | 0 => 0
  | w + 1 => (f 0).toNat + 256 * number (fun i => f (i + 1)) w

/-- Byte `i` of a number of 64 bits in two's complement. -/
def byteInt (x : ℤ) (i : ℕ) : UInt8 := byte (x % 2 ^ 64).toNat i

/-- What a number of 64 bits is after its bytes have become `f`. Where it has more than 64 bits,
the rest stays. -/
def replaceInt (x : ℤ) (f : ℕ → UInt8) : ℤ :=
  x - x.bmod (2 ^ 64) + (number f 8 : ℤ).bmod (2 ^ 64)

variable {f g : ℕ → UInt8} {n w i : ℕ} {x : ℤ}

theorem number_lt (f : ℕ → UInt8) (w : ℕ) : number f w < 256 ^ w := by
  induction w generalizing f with
  | zero => simp [number]
  | succ w ih =>
    have hbyte := (f 0).toNat_lt
    have hrest := ih fun i => f (i + 1)
    rw [number, pow_succ]
    omega

theorem number_congr (h : ∀ i < w, f i = g i) : number f w = number g w := by
  induction w generalizing f g with
  | zero => rfl
  | succ w ih =>
    have hrest : number (fun i => f (i + 1)) w = number (fun i => g (i + 1)) w :=
      ih fun i hi => h (i + 1) (by omega)
    rw [number, number, h 0 (by omega), hrest]

theorem byte_succ (n i : ℕ) : byte n (i + 1) = byte (n / 256) i := by
  rw [byte, byte, pow_succ', Nat.div_div_eq_div_mul]

theorem number_byte (n w : ℕ) : number (byte n) w = n % 256 ^ w := by
  induction w generalizing n with
  | zero => simp [number, Nat.mod_one]
  | succ w ih =>
    have hrest : number (fun i => byte n (i + 1)) w = n / 256 % 256 ^ w := by
      rw [← ih]
      exact number_congr fun i _ => byte_succ n i
    have hfirst : (byte n 0).toNat = n % 256 := by
      simp [byte]
    rw [number, hrest, hfirst, pow_succ', Nat.mod_mul]

/-- The bytes of the number that some bytes store are those bytes. -/
theorem byte_number (h : i < w) : byte (number f w) i = f i := by
  induction w generalizing f i with
  | zero => omega
  | succ w ih =>
    have hbyte := (f 0).toNat_lt
    rw [number]
    cases i with
    | zero =>
      rw [← UInt8.toNat_inj, byte, UInt8.toNat_ofNat']
      omega
    | succ i =>
      have hdiv : ((f 0).toNat + 256 * number (fun i => f (i + 1)) w) / 256 =
          number (fun i => f (i + 1)) w := by
        omega
      rw [byte_succ, hdiv]
      exact ih (by omega)

theorem number_of_byte (hn : n < 256 ^ w) (h : ∀ i < w, f i = byte n i) : number f w = n := by
  rw [number_congr h, number_byte, Nat.mod_eq_of_lt hn]

theorem byteInt_replaceInt (x : ℤ) (f : ℕ → UInt8) (h : i < 8) :
    byteInt (replaceInt x f) i = f i := by
  have hlt := number_lt f 8
  have hlow : replaceInt x f % 2 ^ 64 = number f 8 := by
    unfold replaceInt
    simp only [Int.bmod_def]
    split <;> split <;> omega
  rw [byteInt, hlow, Int.toNat_natCast]
  exact byte_number h

theorem replaceInt_of_byteInt (h : ∀ i < 8, f i = byteInt x i) : replaceInt x f = x := by
  have hnumber : (number f 8 : ℤ) = x % 2 ^ 64 := by
    have hlt : (x % 2 ^ 64).toNat < 256 ^ 8 := by omega
    rw [number_of_byte hlt h]
    omega
  rw [replaceInt, hnumber]
  simp only [Int.bmod_def]
  split <;> split <;> omega

end LittleEndian
