import Concordd.Instance.KeyFrames

/-! The key strings that the loop of `concordd_press_keys` reads to the end. -/
namespace Concordd

/-! `strtol` up to the character it stops at. -/

/-- A character that `strtol` never takes. -/
def StopsStrtol (c : UInt8) : Prop :=
  isSpace c = false ∧ isHexDigit c = false ∧ c ≠ 0x2B ∧ c ≠ 0x2D ∧ c ≠ 0x58 ∧ c ≠ 0x78

instance (c : UInt8) : Decidable (StopsStrtol c) :=
  inferInstanceAs (Decidable (_ ∧ _ ∧ _ ∧ _ ∧ _ ∧ _))

theorem stops_openBracket : StopsStrtol 0x5B := by decide

theorem stops_closeBracket : StopsStrtol 0x5D := by decide

section

variable {c : UInt8} {t rest : List UInt8}

theorem takeWhile_stop {p : UInt8 → Bool} (h : p c = false) :
    (t ++ c :: rest).takeWhile p = t.takeWhile p := by
  induction t with
  | nil => simp [h]
  | cons x t ih => simp only [List.cons_append, List.takeWhile_cons, ih]

theorem strtolSign_stop (h : StopsStrtol c) : strtolSign (t ++ c :: rest) = strtolSign t := by
  cases t with
  | nil =>
    obtain ⟨-, -, hplus, hminus, -, -⟩ := h
    rw [List.nil_append]
    unfold strtolSign
    split
    · next he => exact absurd (List.cons.inj he).1 hminus
    · next he => exact absurd (List.cons.inj he).1 hplus
    · rfl
  | cons x t =>
    rw [List.cons_append]
    unfold strtolSign
    split <;> simp_all

theorem strtolPrefix_short (h : t.length < 3) : strtolPrefix t = 0 := by
  unfold strtolPrefix
  split
  · simp only [List.length_cons] at h
    omega
  · rfl

theorem strtolPrefix_cons (x y z : UInt8) (t : List UInt8) :
    strtolPrefix (x :: y :: z :: t) =
      if x = 0x30 ∧ (y = 0x78 ∨ y = 0x58) ∧ isHexDigit z then 2 else 0 := by
  by_cases hx : x = 0x30
  · subst hx
    simp [strtolPrefix]
  · unfold strtolPrefix
    split
    · next he => exact absurd (List.cons.inj he).1 hx
    · simp [hx]

theorem strtolPrefix_stop (h : StopsStrtol c) :
    strtolPrefix (t ++ c :: rest) = strtolPrefix t := by
  obtain ⟨-, hhex, -, -, hupper, hlower⟩ := h
  match t with
  | [] =>
    rw [List.nil_append, strtolPrefix_short (t := []) (by simp)]
    match rest with
    | [] | [_] => exact strtolPrefix_short (by simp)
    | y :: z :: rest =>
      rw [strtolPrefix_cons, if_neg]
      rintro ⟨rfl, -⟩
      exact absurd hhex (by decide)
  | [x] =>
    rw [List.singleton_append, strtolPrefix_short (t := [x]) (by simp)]
    match rest with
    | [] => exact strtolPrefix_short (by simp)
    | z :: rest => simp [strtolPrefix_cons, hupper, hlower]
  | [x, y] =>
    rw [strtolPrefix_short (t := [x, y]) (by simp)]
    simp [strtolPrefix_cons, hhex]
  | x :: y :: z :: t => simp only [List.cons_append, strtolPrefix_cons]

theorem strtolSign_le (t : List UInt8) : (strtolSign t).1 ≤ t.length := by
  unfold strtolSign
  split <;> simp

theorem strtolPrefix_le (t : List UInt8) : strtolPrefix t ≤ t.length := by
  unfold strtolPrefix
  split
  · split <;> simp
  · simp

/-- What `strtol` reads is decided before a character it never takes. -/
theorem strtol16_stop (h : StopsStrtol c) : strtol16 (t ++ c :: rest) = strtol16 t := by
  have hdrop : ∀ k ≤ t.length, (t ++ c :: rest).drop k = t.drop k ++ c :: rest :=
    fun k hk => List.drop_append_of_le_length hk
  have hspace := (List.takeWhile_prefix isSpace (l := t)).length_le
  have hsign := strtolSign_le (t.drop (t.takeWhile isSpace).length)
  unfold strtol16
  rw [takeWhile_stop h.1]
  generalize (t.takeWhile isSpace).length = space at hspace hsign
  dsimp only
  rw [hdrop space hspace, strtolSign_stop h]
  generalize strtolSign (t.drop space) = sign at hsign
  rw [List.length_drop] at hsign
  have hpre := strtolPrefix_le (t.drop (space + sign.1))
  rw [List.length_drop] at hpre
  rw [hdrop (space + sign.1) (by omega), strtolPrefix_stop h]
  generalize strtolPrefix (t.drop (space + sign.1)) = pre at hpre
  rw [hdrop (space + sign.1 + pre) (by omega), takeWhile_stop h.2.1]

theorem strtol16_le (t : List UInt8) : (strtol16 t).2 ≤ t.length := by
  have hspace := (List.takeWhile_prefix isSpace (l := t)).length_le
  have hsign := strtolSign_le (t.drop (t.takeWhile isSpace).length)
  unfold strtol16
  generalize (t.takeWhile isSpace).length = space at hspace hsign
  dsimp only
  generalize strtolSign (t.drop space) = sign at hsign
  have hpre := strtolPrefix_le (t.drop (space + sign.1))
  generalize strtolPrefix (t.drop (space + sign.1)) = pre at hpre
  have hdigits := (List.takeWhile_prefix isHexDigit (l := t.drop (space + sign.1 + pre))).length_le
  rw [List.length_drop] at hsign hpre hdigits
  split
  · exact Nat.zero_le _
  · dsimp only
    omega

/-- The test for the closing bracket. -/
theorem strtol16_close_iff {keys : List UInt8} :
    (keys.drop (strtol16 keys).2).head? = some 0x5D ↔
      ∃ t rest, keys = t ++ 0x5D :: rest ∧ (strtol16 t).2 = t.length := by
  constructor
  · intro h
    obtain ⟨rest, hrest⟩ := List.head?_eq_some_iff.mp h
    have hkeys : keys = keys.take (strtol16 keys).2 ++ 0x5D :: rest := by
      rw [← hrest, List.take_append_drop]
    refine ⟨_, rest, hkeys, ?_⟩
    have hle := strtol16_le keys
    have heq : strtol16 keys = strtol16 (keys.take (strtol16 keys).2) := by
      conv_lhs => rw [hkeys]
      exact strtol16_stop stops_closeBracket
    rw [← heq, List.length_take]
    omega
  · rintro ⟨t, rest, rfl, ht⟩
    rw [strtol16_stop stops_closeBracket, ht, List.drop_left]
    rfl

end

/-! Keys as the loop reads them. -/

/-- A character with a code, or text that `strtol` reads to its end between '[' and ']'; the '['
may be a '!', which marks the key before. -/
inductive ReadKey
  | plain (c : UInt8) (h : (keyCode c).isSome)
  | bracket (mark : Bool) (text : List UInt8) (h : (strtol16 text).2 = text.length)

def openBracket (mark : Bool) : UInt8 := if mark then 0x21 else 0x5B

def ReadKey.text : ReadKey → List UInt8
  | .plain c _ => [c]
  | .bracket mark text _ => openBracket mark :: (text ++ [0x5D])

def ReadKey.code : ReadKey → UInt8
  | .plain c h => (keyCode c).get h
  | .bracket _ text _ => UInt8.ofInt (strtol16 text).1

/-- The message with '!' applied to it. -/
def markIf (mark : Bool) (msg : List UInt8) : List UInt8 := if mark then markLongPress msg else msg

/-- What one turn of the loop does to the message. -/
def ReadKey.press (msg : List UInt8) (key : ReadKey) : List UInt8 :=
  if geRs232MaxMessageSize ≤ msg.length then msg
  else
    match key with
    | .plain _ _ => msg ++ [key.code]
    | .bracket mark _ _ =>
      if key.code = 255 then markIf mark msg else markIf mark msg ++ [key.code]

def keysText (keys : List ReadKey) : List UInt8 := keys.flatMap ReadKey.text

/-- How many keys put a code into the message. -/
def keysCoded (keys : List ReadKey) : ℕ := keys.countP fun key => key.code ≠ 255

@[simp] theorem keysText_nil : keysText [] = [] := rfl

@[simp] theorem keysText_cons (key : ReadKey) (keys : List ReadKey) :
    keysText (key :: keys) = key.text ++ keysText keys := rfl

/-- The loop ends after such text, or has no room for it. -/
def LoopEnds (room : ℕ) (keys : List ReadKey) (rest : List UInt8) : Prop :=
  (∃ mark, rest = [openBracket mark]) ∨ rest = [] ∨ room ≤ keysCoded keys

/-- Keys up to the end of the string, but for one last bracket that nothing follows; what comes
after the message is full does not matter. -/
def Readable (room : ℕ) (s : List UInt8) : Prop :=
  ∃ keys rest, s = keysText keys ++ rest ∧ LoopEnds room keys rest

/-! One turn, then all of them. -/

variable {msg rest : List UInt8} {key : ReadKey}

theorem pressKeysLoop_skip (msg text rest : List UInt8) :
    pressKeysLoop msg text.length (text ++ rest) = pressKeysLoop msg 0 rest := by
  induction text with
  | nil => rfl
  | cons c text ih => exact ih

theorem pressKeysLoop_full (h : geRs232MaxMessageSize ≤ msg.length) (s : List UInt8) :
    pressKeysLoop msg 0 s = .ok msg := by
  cases s with
  | nil => rfl
  | cons c s =>
    unfold pressKeysLoop
    rw [if_pos h]

theorem openBracket_cases {c : UInt8} (h : c = 0x21 ∨ c = 0x5B) : ∃ mark, c = openBracket mark := by
  rcases h with rfl | rfl
  · exact ⟨true, rfl⟩
  · exact ⟨false, rfl⟩

theorem pressKeysLoop_bracket (hroom : msg.length < geRs232MaxMessageSize) (mark : Bool)
    (s : List UInt8) :
    pressKeysLoop msg 0 (openBracket mark :: s) =
      if s = [] then .ok (markIf mark msg)
      else if (s.drop (strtol16 s).2).head? = some 0x5D then
        pressKeysLoop (if UInt8.ofInt (strtol16 s).1 = 255 then markIf mark msg
          else markIf mark msg ++ [UInt8.ofInt (strtol16 s).1]) ((strtol16 s).2 + 1) s
      else .error .error := by
  have hmark : (if openBracket mark = 0x21 then markLongPress msg else msg) = markIf mark msg := by
    cases mark <;> rfl
  rw [pressKeysLoop, if_neg (Nat.not_le.mpr hroom), if_pos (by cases mark <;> decide), hmark]

theorem keyCode_plain {c code : UInt8} (h : keyCode c = some code) : c ≠ 0x21 ∧ c ≠ 0x5B := by
  constructor <;> rintro rfl <;> cases h

theorem pressKeysLoop_plain (hroom : msg.length < geRs232MaxMessageSize) {c code : UInt8}
    (h : keyCode c = some code) (s : List UInt8) :
    pressKeysLoop msg 0 (c :: s) = pressKeysLoop (msg ++ [code]) 0 s := by
  rw [pressKeysLoop, if_neg (Nat.not_le.mpr hroom), if_neg (not_or.mpr (keyCode_plain h)), h]

theorem press_full (h : geRs232MaxMessageSize ≤ msg.length) (key : ReadKey) :
    key.press msg = msg := if_pos h

theorem press_plain (hroom : msg.length < geRs232MaxMessageSize) {c : UInt8}
    (h : (keyCode c).isSome) : (ReadKey.plain c h).press msg = msg ++ [(keyCode c).get h] :=
  if_neg (Nat.not_le.mpr hroom)

theorem press_bracket (hroom : msg.length < geRs232MaxMessageSize) (mark : Bool)
    {text : List UInt8} (h : (strtol16 text).2 = text.length) :
    (ReadKey.bracket mark text h).press msg =
      if UInt8.ofInt (strtol16 text).1 = 255 then markIf mark msg
      else markIf mark msg ++ [UInt8.ofInt (strtol16 text).1] :=
  if_neg (Nat.not_le.mpr hroom)

/-- One turn of the loop, with room or without. -/
theorem pressKeysLoop_key (msg rest : List UInt8) (key : ReadKey) :
    pressKeysLoop msg 0 (key.text ++ rest) = pressKeysLoop (key.press msg) 0 rest := by
  by_cases hfull : geRs232MaxMessageSize ≤ msg.length
  · rw [press_full hfull, pressKeysLoop_full hfull, pressKeysLoop_full hfull]
  have hroom := Nat.lt_of_not_le hfull
  cases key with
  | plain c h =>
    rw [press_plain hroom]
    exact pressKeysLoop_plain hroom (Option.some_get h).symm rest
  | bracket mark text h =>
    have htext : (ReadKey.bracket mark text h).text ++ rest =
        openBracket mark :: (text ++ 0x5D :: rest) := by
      simp [ReadKey.text]
    have hclose := strtol16_close_iff.mpr ⟨text, rest, rfl, h⟩
    rw [htext, pressKeysLoop_bracket hroom, if_neg (by simp), if_pos hclose,
      strtol16_stop stops_closeBracket, h, ← press_bracket hroom mark h]
    have hskip := pressKeysLoop_skip ((ReadKey.bracket mark text h).press msg) (text ++ [0x5D]) rest
    simpa using hskip

theorem pressKeysLoop_keys (keys : List ReadKey) (msg rest : List UInt8) :
    pressKeysLoop msg 0 (keysText keys ++ rest) =
      pressKeysLoop (keys.foldl ReadKey.press msg) 0 rest := by
  induction keys generalizing msg with
  | nil => rfl
  | cons key keys ih =>
    rw [keysText_cons, List.append_assoc, pressKeysLoop_key, ih, List.foldl_cons]

theorem length_markIf (h : msg ≠ []) (mark : Bool) : (markIf mark msg).length = msg.length :=
  length_marked h (mark = true)

theorem keyCode_ne (c : UInt8) : keyCode c ≠ some 255 := by
  revert c
  decide +kernel

theorem ReadKey.plain_code_ne {c : UInt8} (h : (keyCode c).isSome) :
    (ReadKey.plain c h).code ≠ 255 := by
  intro he
  exact keyCode_ne c (by rw [← he]; exact (Option.some_get h).symm)

theorem length_press (hne : msg ≠ []) (hmax : msg.length ≤ geRs232MaxMessageSize)
    (key : ReadKey) :
    (key.press msg).length =
      min geRs232MaxMessageSize (msg.length + if key.code ≠ 255 then 1 else 0) := by
  unfold ReadKey.press
  split
  · omega
  · cases key with
    | plain c h =>
      rw [if_pos (ReadKey.plain_code_ne h), List.length_append, List.length_singleton]
      omega
    | bracket mark text h =>
      by_cases hc : (ReadKey.bracket mark text h).code = 255
      · simp only [hc, ne_eq, not_true_eq_false, if_true, if_false]
        rw [length_markIf hne]
        omega
      · simp only [hc, ne_eq, not_false_eq_true, if_true, if_false]
        rw [List.length_append, length_markIf hne, List.length_singleton]
        omega

theorem length_foldl_press (hne : msg ≠ []) (hmax : msg.length ≤ geRs232MaxMessageSize)
    (keys : List ReadKey) :
    (keys.foldl ReadKey.press msg).length =
      min geRs232MaxMessageSize (msg.length + keysCoded keys) := by
  induction keys generalizing msg with
  | nil => simpa [keysCoded] using hmax
  | cons key keys ih =>
    have hlen := length_press hne hmax key
    have hpos := List.length_pos_of_ne_nil hne
    have hne' : key.press msg ≠ [] := by
      apply List.ne_nil_of_length_pos
      omega
    rw [List.foldl_cons, ih hne' (by omega), hlen]
    unfold keysCoded
    rw [List.countP_cons]
    simp only [decide_eq_true_eq]
    split <;> omega

theorem loopEnds_cons {room n : ℕ} {keys : List ReadKey} (h : LoopEnds n keys rest)
    (hn : room - (if key.code ≠ 255 then 1 else 0) ≤ n) : LoopEnds room (key :: keys) rest := by
  rcases h with h | h | h
  · exact .inl h
  · exact .inr (.inl h)
  · refine .inr (.inr ?_)
    unfold keysCoded at h ⊢
    rw [List.countP_cons]
    simp only [decide_eq_true_eq]
    omega

/-- What the loop accepts is readable. The recursion is on the rest of the string, as the
loop's is. -/
theorem readable_of_ok (hne : msg ≠ []) (hmax : msg.length ≤ geRs232MaxMessageSize)
    {s out : List UInt8} (h : pressKeysLoop msg 0 s = .ok out) :
    Readable (geRs232MaxMessageSize - msg.length) s := by
  induction hn : s.length using Nat.strong_induction_on generalizing s msg with
  | _ n ih =>
    subst hn
    have turn : ∀ (key : ReadKey) (rest : List UInt8), s = key.text ++ rest →
        msg.length < geRs232MaxMessageSize →
        Readable (geRs232MaxMessageSize - msg.length) s := by
      intro key rest hs hroom
      have hlen := length_press hne hmax key
      have hpos := List.length_pos_of_ne_nil hne
      have htext : 0 < key.text.length := by
        cases key <;> simp [ReadKey.text]
      rw [hs, pressKeysLoop_key] at h
      have hshort : rest.length < s.length := by
        rw [hs, List.length_append]
        omega
      obtain ⟨keys, rest', rfl, hends⟩ := ih rest.length hshort
        (List.ne_nil_of_length_pos (by omega)) (by omega) h rfl
      refine ⟨key :: keys, rest', by rw [hs, keysText_cons, List.append_assoc], ?_⟩
      exact loopEnds_cons hends (by rw [hlen]; split <;> omega)
    cases s with
    | nil => exact ⟨[], [], rfl, .inr (.inl rfl)⟩
    | cons c s =>
      by_cases hroom : msg.length < geRs232MaxMessageSize
      · by_cases hc : c = 0x21 ∨ c = 0x5B
        · obtain ⟨mark, rfl⟩ := openBracket_cases hc
          rw [pressKeysLoop_bracket hroom] at h
          by_cases hs : s = []
          · subst hs
            exact ⟨[], [openBracket mark], rfl, .inl ⟨mark, rfl⟩⟩
          · rw [if_neg hs] at h
            split at h
            · next hclose =>
              obtain ⟨t, rest, rfl, ht⟩ := strtol16_close_iff.mp hclose
              exact turn (.bracket mark t ht) rest (by simp [ReadKey.text]) hroom
            · cases h
        · cases hcode : keyCode c with
          | some code => exact turn (.plain c (by rw [hcode]; rfl)) s rfl hroom
          | none =>
            rw [pressKeysLoop, if_neg (Nat.not_le.mpr hroom), if_neg hc, hcode] at h
            cases h
      · exact ⟨[], c :: s, rfl, .inr (.inr (by omega))⟩

theorem ok_of_readable (hne : msg ≠ []) (hmax : msg.length ≤ geRs232MaxMessageSize)
    {s : List UInt8} (h : Readable (geRs232MaxMessageSize - msg.length) s) :
    ∃ out, pressKeysLoop msg 0 s = .ok out := by
  obtain ⟨keys, rest, rfl, hends⟩ := h
  have hlen := length_foldl_press hne hmax keys
  rw [pressKeysLoop_keys]
  by_cases hroom : (keys.foldl ReadKey.press msg).length < geRs232MaxMessageSize
  · rcases hends with ⟨mark, rfl⟩ | rfl | hcoded
    · exact ⟨_, by rw [pressKeysLoop_bracket hroom, if_pos rfl]⟩
    · exact ⟨_, rfl⟩
    · omega
  · exact ⟨_, pressKeysLoop_full (Nat.le_of_not_lt hroom) rest⟩

/-- The three bytes every message of keys starts with. -/
def keysHead (partition : ℤ) : List UInt8 := [geRs232AtpKeypress, UInt8.ofInt partition, 0]

theorem keysHead_ne (partition : ℤ) : keysHead partition ≠ [] := List.cons_ne_nil _ _

@[simp] theorem length_keysHead (partition : ℤ) : (keysHead partition).length = 3 := rfl

theorem keysHead_le (partition : ℤ) : (keysHead partition).length ≤ geRs232MaxMessageSize := by
  rw [length_keysHead]
  decide

/-- The strings that become a message: 53 codes fit after its head. -/
theorem pressKeysMessage_ok_iff (partition : ℤ) (s : List UInt8) :
    (∃ msg, pressKeysMessage partition s = .ok msg) ↔ Readable 53 s := by
  constructor
  · rintro ⟨msg, h⟩
    exact readable_of_ok (keysHead_ne partition) (keysHead_le partition) h
  · intro h
    exact ok_of_readable (keysHead_ne partition) (keysHead_le partition) h

end Concordd
