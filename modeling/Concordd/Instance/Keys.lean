import Concordd.Rs232.Model

/-! The key strings of `concordd_press_keys`. -/
namespace Concordd

def geRs232AtpKeypress : UInt8 := 0x40

/-- `isspace` in the C locale. -/
def isSpace (c : UInt8) : Bool := c = 0x20 ∨ (0x09 ≤ c ∧ c ≤ 0x0D)

def isHexDigit (c : UInt8) : Bool :=
  (0x30 ≤ c ∧ c ≤ 0x39) ∨ (0x41 ≤ c ∧ c ≤ 0x46) ∨ (0x61 ≤ c ∧ c ≤ 0x66)

/-- The sign `strtol` accepts: how many characters it takes, and its factor. -/
def strtolSign : List UInt8 → ℕ × ℤ
  | 0x2D :: _ => (1, -1)
  | 0x2B :: _ => (1, 1)
  | _ => (0, 1)

/-- The `0x` that `strtol` skips in base 16, if a digit follows it. -/
def strtolPrefix : List UInt8 → ℕ
  | 0x30 :: x :: c :: _ => if (x = 0x78 ∨ x = 0x58) ∧ isHexDigit c then 2 else 0
  | _ => 0

/-- `strtol` in base 16: the value, and how many characters it has consumed. A value out of range
is the nearest one a 64-bit `long` has. -/
def strtol16 (s : List UInt8) : ℤ × ℕ :=
  let space := (s.takeWhile isSpace).length
  let sign := strtolSign (s.drop space)
  let start := space + sign.1 + strtolPrefix (s.drop (space + sign.1))
  let digits := (s.drop start).takeWhile isHexDigit
  if digits = [] then (0, 0)
  else
    let value := sign.2 * (digits.foldl (fun acc c => 16 * acc + (hexDigitToInt c).toNat) 0 : ℕ)
    (max (-2 ^ 63) (min (2 ^ 63 - 1) value), start + digits.length)

/-- The keys that are one character. -/
def keyCode (c : UInt8) : Option UInt8 :=
  if 0x30 ≤ c ∧ c ≤ 0x39 then some (c - 0x30)
  else if c = 0x2A then some 0x0A
  else if c = 0x23 then some 0x0B
  else if c = 0x41 ∨ c = 0x61 then some 0x2C
  else if c = 0x42 ∨ c = 0x62 then some 0x30
  else if c = 0x43 ∨ c = 0x63 then some 0x2D
  else if c = 0x44 ∨ c = 0x64 then some 0x33
  else if c = 0x45 ∨ c = 0x65 then some 0x2E
  else if c = 0x46 ∨ c = 0x66 then some 0x36
  else none

/-- `msg[len-1] |= (1<<6)`. -/
def markLongPress (msg : List UInt8) : List UInt8 :=
  msg.dropLast ++ (msg.getLast?.map (· ||| 0x40)).toList

/-- The loop of `concordd_press_keys` over the characters of `keys`. `skip` counts the characters
that `strtol` has already moved `keys` past. -/
def pressKeysLoop : List UInt8 → ℕ → List UInt8 → Except GeRs232Status (List UInt8)
  | msg, _, [] => .ok msg
  | msg, skip + 1, _ :: keys => pressKeysLoop msg skip keys
  | msg, 0, c :: keys =>
    if geRs232MaxMessageSize ≤ msg.length then .ok msg
    else if c = 0x21 ∨ c = 0x5B then
      -- '!' marks the key before it and falls through to '['
      let msg := if c = 0x21 then markLongPress msg else msg
      if keys = [] then .ok msg
      else
        let code := strtol16 keys
        if (keys.drop code.2).head? = some 0x5D then
          let msg := if UInt8.ofInt code.1 = 255 then msg else msg ++ [UInt8.ofInt code.1]
          pressKeysLoop msg (code.2 + 1) keys
        else .error .error
    else
      match keyCode c with
      | some code => pressKeysLoop (msg ++ [code]) 0 keys
      | none => .error .error

/-- The message `concordd_press_keys` builds, or the error it returns instead. -/
def pressKeysMessage (partition : ℤ) (keys : List UInt8) : Except GeRs232Status (List UInt8) :=
  pressKeysLoop [geRs232AtpKeypress, UInt8.ofInt partition, 0] 0 keys

theorem pressKeysLoop_error {msg keys : List UInt8} {skip : ℕ} {status : GeRs232Status}
    (h : pressKeysLoop msg skip keys = .error status) : status = .error := by
  fun_induction pressKeysLoop msg skip keys with
  | case1 | case3 | case4 => cases h
  | case2 | case5 | case7 =>
    next ih => exact ih h
  | case6 | case8 => exact (Except.error.inj h).symm

end Concordd
