import Concordd.Instance.Keys
import Concordd.Library.Words

/-! `get_next_arg`: the next word of a string, unquoted in the buffer it is read from. -/
namespace Concordd

/-- `*p`, and zero past the end of the buffer. -/
def charAt (mem : List UInt8) (p : ℕ) : UInt8 := mem.getD p 0

/-- The string at a pointer. -/
def stringAt (mem : List UInt8) (p : ℕ) : List UInt8 := (mem.drop p).takeWhile (· ≠ 0)

/-- The string stands at the pointer, with its terminator. -/
def HoldsString (mem : List UInt8) (p : ℕ) (value : List UInt8) : Prop :=
  (mem.drop p).take (value.length + 1) = value ++ [0]

/-- `while (p(*buf)) buf++;` -/
def skipWhile (p : UInt8 → Bool) (mem : List UInt8) : ℕ → ℕ → ℕ
  | 0, buf => buf
  | fuel + 1, buf => if p (charAt mem buf) then skipWhile p mem fuel (buf + 1) else buf

/-- The variables of the loop of `get_next_arg`, and the memory it works in. -/
structure ArgScan where
  mem : List UInt8
  buf : ℕ
  writeIter : ℕ
  quoteType : UInt8

/-- `if (buf[0] == '\\' && buf[1]) buf++; *write_iter++ = *buf++;` -/
def ArgScan.copy (s : ArgScan) : ArgScan :=
  let buf := if charAt s.mem s.buf = 0x5C ∧ charAt s.mem (s.buf + 1) ≠ 0 then s.buf + 1 else s.buf
  { s with
    mem := s.mem.set s.writeIter (charAt s.mem buf)
    buf := buf + 1
    writeIter := s.writeIter + 1 }

/-- `while (*buf) { … }` -/
def argLoop : ℕ → ArgScan → ArgScan
  | 0, s => s
  | fuel + 1, s =>
    if charAt s.mem s.buf = 0 then s
    else if s.quoteType ≠ 0 then
      if charAt s.mem s.buf = s.quoteType then
        argLoop fuel { s with quoteType := 0, buf := s.buf + 1 }
      else argLoop fuel s.copy
    else if charAt s.mem s.buf = 0x22 ∨ charAt s.mem s.buf = 0x27 then
      argLoop fuel { s with quoteType := charAt s.mem s.buf, buf := s.buf + 1 }
    else if isSpace (charAt s.mem s.buf) then { s with buf := s.buf + 1 }
    else argLoop fuel s.copy

/-- What a call leaves behind: the memory, the pointer it returns and `*rest`. -/
structure NextArg where
  mem : List UInt8
  ret : Option ℕ
  rest : ℕ

/-- `get_next_arg`. No loop makes more steps than the memory has cells. -/
def getNextArg (mem : List UInt8) (buf : ℕ) : NextArg :=
  let buf := skipWhile (fun c => c ≠ 0 && isSpace c) mem mem.length buf
  if charAt mem buf = 0 ∨ charAt mem buf = 0x23 then ⟨mem, none, buf⟩
  else
    let s := argLoop mem.length ⟨mem, skipWhile isSpace mem mem.length buf, buf, 0⟩
    ⟨s.mem.set s.writeIter 0, some buf, s.buf⟩

/-- The quoting `get_next_arg` undoes. -/
def quoting : Words.Quoting UInt8 where
  space := isSpace
  quote c := c = 0x22 ∨ c = 0x27
  escape := 0x5C
  comment := 0x23
  quote_not_space c hc := by
    rcases of_decide_eq_true hc with rfl | rfl <;> rfl
  escape_not_space := rfl
  escape_not_quote := rfl

variable {mem text post value : List UInt8} {buf p : ℕ} {c d : UInt8} {s t u : ArgScan}

/-! ### Memory -/

theorem charAt_of_drop (h : mem.drop p = c :: text) : charAt mem p = c := by
  have hp : mem[p]? = some c := by
    rw [← List.head?_drop, h]
    rfl
  rw [charAt, List.getD_eq_getElem?_getD, hp]
  rfl

theorem drop_succ (h : mem.drop p = c :: text) : mem.drop (p + 1) = text := by
  rw [← List.tail_drop, h, List.tail_cons]

theorem lt_length_of_drop (h : mem.drop p = c :: text) : p < mem.length := by
  by_contra hp
  rw [List.drop_eq_nil_of_le (by omega)] at h
  cases h

theorem drop_eq_of_le {mem' : List UInt8} {q : ℕ} (h : mem'.drop p = mem.drop p) (hpq : p ≤ q) :
    mem'.drop q = mem.drop q := by
  obtain ⟨n, rfl⟩ := Nat.exists_eq_add_of_le hpq
  rw [← List.drop_drop, h, List.drop_drop]

theorem HoldsString.stringAt_eq (h : HoldsString mem p value) (hnul : 0 ∉ value) :
    stringAt mem p = value := by
  rw [stringAt, ← List.take_append_drop (value.length + 1) (mem.drop p), h, List.append_assoc,
    List.takeWhile_append_of_pos]
  · simp
  · intro c hc
    have hne : c ≠ 0 := fun h0 => hnul (h0 ▸ hc)
    simpa using hne

/-- A string stays as long as nothing before `n` changes. -/
theorem HoldsString.of_take {mem' : List UInt8} {n : ℕ} (h : HoldsString mem p value)
    (hlt : p + value.length < n) (hmem : mem'.take n = mem.take n) : HoldsString mem' p value := by
  have htake : mem'.take (p + (value.length + 1)) = mem.take (p + (value.length + 1)) := by
    have hcut := congrArg (List.take (p + (value.length + 1))) hmem
    rwa [List.take_take, List.take_take, min_eq_left (by omega)] at hcut
  unfold HoldsString at h ⊢
  rw [List.take_drop, htake, ← List.take_drop, h]

theorem take_set_succ (h : p < mem.length) : (mem.set p c).take (p + 1) = mem.take p ++ [c] := by
  rw [List.take_succ_eq_append_getElem (by simpa using h), List.getElem_set_self,
    List.take_set_of_le le_rfl]

end Concordd
