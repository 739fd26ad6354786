import Concordd.Instance.KeyStrings
import Concordd.Instance.Requests
import Concordd.Queue.Effects

/-! Well-formed key strings, token by token. -/
namespace Concordd

structure HexChar where
  value : Fin 16
  upper : Bool

def HexChar.char (x : HexChar) : UInt8 :=
  if x.value.val < 10 then 0x30 + UInt8.ofNat x.value
  else (if x.upper then 0x41 else 0x61) + UInt8.ofNat (x.value - 10)

inductive KeyToken
  | digit (d : Fin 10)
  | star
  | hash
  | letter (l : Fin 6) (upper : Bool)
  | short (x : HexChar)
  | long (x y : HexChar)

def KeyToken.text : KeyToken → List UInt8
  | .digit d => [0x30 + UInt8.ofNat d]
  | .star => [0x2A]
  | .hash => [0x23]
  | .letter l upper => [(if upper then 0x41 else 0x61) + UInt8.ofNat l]
  | .short x => [0x5B, x.char, 0x5D]
  | .long x y => [0x5B, x.char, y.char, 0x5D]

def KeyToken.code : KeyToken → UInt8
  | .digit d => UInt8.ofNat d
  | .star => 0x0A
  | .hash => 0x0B
  | .letter l _ => ![0x2C, 0x30, 0x2D, 0x33, 0x2E, 0x36] l
  | .short x => UInt8.ofNat x.value
  | .long x y => UInt8.ofNat (16 * x.value + y.value)

def keyText (tokens : List KeyToken) : List UInt8 := tokens.flatMap KeyToken.text

def keyCodes (tokens : List KeyToken) : List UInt8 := tokens.map KeyToken.code

/-- The codes that reach the message: "[FF]" names the loop's own mark for no key. -/
def keyCodesSent (tokens : List KeyToken) : List UInt8 := (keyCodes tokens).filter (· ≠ 255)

/-! A token is a key the loop reads, with the same text and code. -/

theorem hexChar_digit (x : HexChar) :
    isHexDigit x.char = true ∧ hexDigitToInt x.char = UInt8.ofNat x.value := by
  obtain ⟨value, upper⟩ := x
  revert value upper
  decide

theorem isHexDigit_plain {c : UInt8} (h : isHexDigit c = true) :
    isSpace c = false ∧ c ≠ 0x2B ∧ c ≠ 0x2D := by
  revert c
  decide +kernel

theorem takeWhile_hexDigit {t : List UInt8} (ht : ∀ d ∈ t, isHexDigit d = true) :
    t.takeWhile isHexDigit = t ∧ t.takeWhile isSpace = [] ∧ strtolSign t = (0, 1) := by
  refine ⟨List.takeWhile_eq_self_iff.mpr ht, ?_⟩
  cases t with
  | nil => exact ⟨rfl, rfl⟩
  | cons c t =>
    obtain ⟨hspace, hplus, hminus⟩ := isHexDigit_plain (ht c List.mem_cons_self)
    refine ⟨by simp [hspace], ?_⟩
    unfold strtolSign
    split
    · next he => exact absurd (List.cons.inj he).1 hminus
    · next he => exact absurd (List.cons.inj he).1 hplus
    · rfl

/-- Hex digits alone, too few of them for a "0x". -/
theorem strtol16_digits {t : List UInt8} {n : ℕ} (hne : t ≠ [])
    (ht : ∀ d ∈ t, isHexDigit d = true) (hlen : t.length < 3)
    (hn : t.foldl (fun acc d => 16 * acc + (hexDigitToInt d).toNat) 0 = n) (hmax : n < 256) :
    strtol16 t = ((n : ℤ), t.length) := by
  obtain ⟨hdigits, hspace, hsign⟩ := takeWhile_hexDigit ht
  unfold strtol16
  simp only [hspace, hsign, List.length_nil, Nat.add_zero, List.drop_zero,
    strtolPrefix_short hlen, hdigits, if_neg hne, hn]
  refine Prod.ext ?_ ?_
  · simp only
    omega
  · exact Nat.zero_add _

theorem strtol16_hexChar (x : HexChar) : strtol16 [x.char] = (((x.value : ℕ) : ℤ), 1) := by
  have hx := hexChar_digit x
  apply strtol16_digits
  · simp
  · simpa using hx.1
  · simp
  · simp only [List.foldl_cons, List.foldl_nil, hx.2, UInt8.toNat_ofNat']
    omega
  · omega

theorem strtol16_hexChars (x y : HexChar) :
    strtol16 [x.char, y.char] = (((16 * x.value + y.value : ℕ) : ℤ), 2) := by
  have hx := hexChar_digit x
  have hy := hexChar_digit y
  apply strtol16_digits
  · simp
  · simpa using ⟨hx.1, hy.1⟩
  · simp
  · simp only [List.foldl_cons, List.foldl_nil, hx.2, hy.2, UInt8.toNat_ofNat']
    omega
  · omega

theorem ofInt_natCast (n : ℕ) : UInt8.ofInt n = UInt8.ofNat n := by
  have hmod : (n : ℤ) % 2 ^ 8 = (n % 2 ^ 8 : ℕ) := by omega
  rw [UInt8.ofInt, hmod, Int.toNat_natCast]
  exact UInt8.ofNat_mod_size

/-- The key the loop reads in a token. -/
def KeyToken.read : KeyToken → ReadKey
  | .digit d => .plain (0x30 + UInt8.ofNat d) (by revert d; decide)
  | .star => .plain 0x2A rfl
  | .hash => .plain 0x23 rfl
  | .letter l upper =>
    .plain ((if upper then 0x41 else 0x61) + UInt8.ofNat l) (by revert l upper; decide)
  | .short x => .bracket false [x.char] (by rw [strtol16_hexChar]; rfl)
  | .long x y => .bracket false [x.char, y.char] (by rw [strtol16_hexChars]; rfl)

theorem read_text (token : KeyToken) : token.read.text = token.text := by
  cases token <;> rfl

theorem read_code (token : KeyToken) : token.read.code = token.code := by
  cases token with
  | digit d =>
    revert d
    decide
  | star => rfl
  | hash => rfl
  | letter l upper =>
    revert l upper
    decide
  | short x =>
    simp only [KeyToken.read, ReadKey.code, KeyToken.code, strtol16_hexChar]
    exact ofInt_natCast x.value
  | long x y =>
    simp only [KeyToken.read, ReadKey.code, KeyToken.code, strtol16_hexChars]
    exact ofInt_natCast (16 * x.value + y.value)

/-- A token is a character that is no bracket, or something in brackets. -/
theorem token_text_cases (token : KeyToken) :
    (∃ c, token.text = [c] ∧ c ≠ 0x5B ∧ c ≠ 0x5D) ∨
      ∃ t, t ≠ [] ∧ token.text = 0x5B :: (t ++ [0x5D]) := by
  cases token with
  | digit d =>
    refine .inl ⟨_, rfl, ?_⟩
    revert d
    decide
  | star | hash => exact .inl ⟨_, rfl, by decide, by decide⟩
  | letter l upper =>
    refine .inl ⟨_, rfl, ?_⟩
    revert l upper
    decide
  | short x => exact .inr ⟨[x.char], by simp, rfl⟩
  | long x y => exact .inr ⟨[x.char, y.char], by simp, rfl⟩

theorem keysText_read (tokens : List KeyToken) :
    keysText (tokens.map KeyToken.read) = keyText tokens := by
  simp only [keysText, keyText, List.flatMap_map, read_text]

@[simp] theorem keyText_cons (token : KeyToken) (tokens : List KeyToken) :
    keyText (token :: tokens) = token.text ++ keyText tokens := rfl

@[simp] theorem keyText_append (s t : List KeyToken) :
    keyText (s ++ t) = keyText s ++ keyText t := List.flatMap_append

@[simp] theorem keyCodesSent_append (s t : List KeyToken) :
    keyCodesSent (s ++ t) = keyCodesSent s ++ keyCodesSent t := by
  simp [keyCodesSent, keyCodes]

theorem keyCodesSent_cons (token : KeyToken) (tokens : List KeyToken) :
    keyCodesSent (token :: tokens) =
      (if token.code = 255 then [] else [token.code]) ++ keyCodesSent tokens := by
  simp only [keyCodesSent, keyCodes, List.map_cons, List.filter_cons, decide_eq_true_eq]
  by_cases h : token.code = 255 <;> simp [h]

theorem length_keyCodesSent (tokens : List KeyToken) :
    (keyCodesSent tokens).length ≤ tokens.length := by
  have h := List.length_filter_le (· ≠ 255) (keyCodes tokens)
  rwa [keyCodes, List.length_map] at h

theorem keyCodesSent_eq {tokens : List KeyToken} (h : ∀ token ∈ tokens, token.code ≠ 255) :
    keyCodesSent tokens = keyCodes tokens := by
  rw [keyCodesSent, List.filter_eq_self]
  intro code hc
  obtain ⟨token, ht, rfl⟩ := List.mem_map.mp hc
  simpa using h token ht

theorem press_read {msg : List UInt8} (hroom : msg.length < geRs232MaxMessageSize)
    (token : KeyToken) :
    token.read.press msg = msg ++ if token.code = 255 then [] else [token.code] := by
  have hplain : ∀ c h, (ReadKey.plain c h).press msg =
      msg ++ if (ReadKey.plain c h).code = 255 then [] else [(ReadKey.plain c h).code] := by
    intro c h
    rw [if_neg (ReadKey.plain_code_ne h), press_plain hroom]
    rfl
  have hbracket : ∀ text h, (ReadKey.bracket false text h).press msg =
      msg ++ if (ReadKey.bracket false text h).code = 255 then []
        else [(ReadKey.bracket false text h).code] := by
    intro text h
    rw [press_bracket hroom, ReadKey.code]
    split
    · exact (List.append_nil msg).symm
    · rfl
  rw [← read_code]
  cases token with
  | short | long => exact hbracket _ _
  | _ => exact hplain _ _

/-- Where they all fit, the codes follow the message in their order. -/
theorem foldl_press_read (tokens : List KeyToken) {msg : List UInt8}
    (h : msg.length + (keyCodesSent tokens).length ≤ geRs232MaxMessageSize) :
    (tokens.map KeyToken.read).foldl ReadKey.press msg = msg ++ keyCodesSent tokens := by
  induction tokens generalizing msg with
  | nil => simp [keyCodesSent, keyCodes]
  | cons token tokens ih =>
    rw [List.map_cons, List.foldl_cons]
    rw [keyCodesSent_cons, List.length_append] at h
    by_cases hroom : msg.length < geRs232MaxMessageSize
    · rw [press_read hroom, ih, keyCodesSent_cons, List.append_assoc]
      rw [List.length_append]
      omega
    · -- a full message has room for none of the codes
      have hfull : token.read.press msg = msg := if_pos (Nat.le_of_not_lt hroom)
      have hnone : (if token.code = 255 then [] else [token.code]) = [] :=
        List.length_eq_zero_iff.mp (by omega)
      rw [hfull, ih (by omega), keyCodesSent_cons, hnone, List.nil_append]

theorem pressKeysLoop_tokens (tokens : List KeyToken) (msg rest : List UInt8)
    (h : msg.length + (keyCodesSent tokens).length ≤ geRs232MaxMessageSize) :
    pressKeysLoop msg 0 (keyText tokens ++ rest) =
      pressKeysLoop (msg ++ keyCodesSent tokens) 0 rest := by
  rw [← keysText_read, pressKeysLoop_keys, foldl_press_read tokens h]

theorem pressKeysMessage_tokens (partition : ℤ) {tokens : List KeyToken}
    (h : tokens.length ≤ 53) :
    pressKeysMessage partition (keyText tokens) =
      .ok (keysHead partition ++ keyCodesSent tokens) := by
  have hlen := length_keyCodesSent tokens
  have hloop := pressKeysLoop_tokens tokens (keysHead partition) []
    (by rw [length_keysHead, geRs232MaxMessageSize]; omega)
  rw [List.append_nil] at hloop
  exact hloop.trans rfl

/-! What is handed to the queue. -/

/-- The messages given to `ge_queue_message`. -/
def enqueued (out : List InstanceEvent) : List (List UInt8) :=
  out.filterMap fun e => match e with
    | .link (.queueMessage data _ _) => some data
    | _ => none

/-- The same of a step of the daemon. -/
def enqueuedBy (out : List DaemonEvent) : List (List UInt8) :=
  out.filterMap fun e => match e with
    | .calls (.link (.queueMessage data _ _)) => some data
    | _ => none

/-- One message is enqueued, and it is the newest in the ring. -/
structure EnqueuesOne (data : List UInt8) (finished : Option ℕ)
    (r : Outcome ConcorddInstance InstanceEvent) : Prop where
  status : r.status = .ok
  once : enqueued r.out = [data]
  newest : r.state.geQueue.contents.getLast? = some ⟨data, finished⟩

/-- An error, with the instance as it was and nothing called. -/
structure Refuses (old : ConcorddInstance) (r : Outcome ConcorddInstance InstanceEvent) :
    Prop where
  status : r.status ≠ .ok
  same : r.state = old
  silent : r.out = []

theorem transmit_enqueued (env : Env) (q : GeQueue) :
    enqueued ((geQueueTransmit env q).out.map .link) = [] := by
  rcases transmit_out env q with h | h <;> rw [h] <;> rfl

theorem update_enqueued (env : Env) (q : GeQueue) :
    enqueued ((geQueueUpdate env q).out.map .link) = [] := by
  rcases update_cases env q with ⟨-, h⟩ | ⟨-, h⟩ | ⟨-, -, -, h⟩
  · rw [h]
    rfl
  · rw [h]
    exact transmit_enqueued env (geQueueDrop q)
  · rw [h]
    exact transmit_enqueued env q

theorem queueMessage_enqueued (env : Env) (self : ConcorddInstance) (data : List UInt8)
    (finished : Option ℕ) :
    enqueued (concorddQueueMessage env self data finished).out = [data] := by
  have hrest := update_enqueued env (geQueuePush self.geQueue data finished)
  unfold enqueued at hrest ⊢
  simp only [concorddQueueMessage, geQueueMessage, List.map_cons, List.filterMap_cons, hrest]

theorem queueMessage_enqueues (env : Env) {self : ConcorddInstance} (hroom : ¬ self.geQueue.Full)
    (data : List UInt8) (finished : Option ℕ) :
    EnqueuesOne data finished (concorddQueueMessage env self data finished) := by
  refine ⟨?_, queueMessage_enqueued env self data finished, ?_⟩
  · simp [concorddQueueMessage, geQueueMessage, hroom]
  · have hc := message_contents env self.geQueue data finished
    rw [if_neg hroom] at hc
    simp only [concorddQueueMessage]
    rw [hc, List.getLast?_concat]

theorem enqueuedBy_command (s : Daemon) (i : DaemonStep)
    (r : Outcome ConcorddInstance InstanceEvent) :
    enqueuedBy (s.command i r).2 = enqueued r.out := by
  simp only [enqueuedBy, enqueued, Daemon.command, List.filterMap_append, List.filterMap_map,
    List.filterMap_cons, List.filterMap_nil, List.append_nil]
  congr 1
  funext e
  cases e with
  | link event => cases event <;> rfl
  | _ => rfl

theorem reject_refuses (self : ConcorddInstance) {status : GeRs232Status} (h : status ≠ .ok) :
    Refuses self (concorddReject self status) := ⟨h, rfl, rfl⟩

theorem EnqueuesOne.not_refuses {data : List UInt8} {finished : Option ℕ} {self : ConcorddInstance}
    {r : Outcome ConcorddInstance InstanceEvent} (h : EnqueuesOne data finished r) :
    ¬ Refuses self r := fun hr => hr.status h.status

/-- Every well-formed string without "[FF]" is sent as the codes of its keys, one part after the
other. -/
theorem pressKeys_encodes (env : Env) (self : ConcorddInstance) (hroom : ¬ self.geQueue.Full)
    (p : Fin 8) (s t : List KeyToken) (hlen : (s ++ t).length ≤ 53)
    (hcodes : ∀ token ∈ s ++ t, token.code ≠ 0xFF) (finished : Option ℕ) :
    EnqueuesOne ([0x40, UInt8.ofNat p, 0] ++ (keyCodes s ++ keyCodes t)) finished
      (concorddPressKeys env self p (keyText s ++ keyText t) finished) := by
  have hs : ∀ token ∈ s, token.code ≠ 255 := fun token h =>
    hcodes token (List.mem_append_left t h)
  have ht : ∀ token ∈ t, token.code ≠ 255 := fun token h =>
    hcodes token (List.mem_append_right s h)
  have hm := pressKeysMessage_tokens p hlen
  rw [keyText_append, keyCodesSent_append, keyCodesSent_eq hs, keyCodesSent_eq ht] at hm
  unfold concorddPressKeys
  rw [hm, keysHead, ofInt_natCast p.val]
  exact queueMessage_enqueues env hroom _ finished

/-- "#" and "[28]". -/
theorem pressKeys_encodes_bracket :
    EnqueuesOne [0x40, 1, 0, 0x0B, 0x28] none
      (concorddPressKeys ⟨0, .ok⟩ concorddInit 1 [0x23, 0x5B, 0x32, 0x38, 0x5D] none) :=
  pressKeys_encodes ⟨0, .ok⟩ concorddInit (by decide) 1 [.hash]
    [.long ⟨2, false⟩ ⟨8, false⟩] (by decide) (by decide) none

/-! Strings that are not well formed. -/

/-- Tokens that fit one message. -/
def WellFormedKeys (s : List UInt8) : Prop :=
  ∃ tokens : List KeyToken, tokens.length ≤ 53 ∧ keyText tokens = s

/-- The key string is refused exactly where it is not readable. -/
theorem pressKeys_refuses_iff (env : Env) (self : ConcorddInstance) (partition : ℤ)
    (s : List UInt8) (finished : Option ℕ) :
    Refuses self (concorddPressKeys env self partition s finished) ↔ ¬ Readable 53 s := by
  rw [← pressKeysMessage_ok_iff partition]
  rcases pressKeys_cases env self partition s finished with ⟨msg, hm, hr⟩ | ⟨hm, hr⟩
  · refine iff_of_false ?_ (not_not_intro ⟨msg, hm⟩)
    rintro ⟨-, -, hsilent⟩
    rw [hr] at hsilent
    exact absurd hsilent (List.cons_ne_nil _ _)
  · rw [hr, hm]
    exact iff_of_true (reject_refuses self (by decide)) (fun ⟨_, h⟩ => nomatch h)

/-- Strings that are not well formed are refused as a whole but for those the loop reads to the
end all the same. -/
theorem malformed_keys_refused_iff (env : Env) (self : ConcorddInstance) (partition : ℤ)
    (s : List UInt8) (finished : Option ℕ) :
    (¬ WellFormedKeys s → Refuses self (concorddPressKeys env self partition s finished)) ↔
      WellFormedKeys s ∨ ¬ Readable 53 s := by
  rw [pressKeys_refuses_iff]
  exact ⟨fun h => Classical.or_iff_not_imp_left.mpr h, Or.resolve_left⟩

/-- "[]" is sent as the key 0. -/
theorem empty_brackets_accepted :
    ¬ ∀ (env : Env) (self : ConcorddInstance) (partition : ℤ) (s : List UInt8)
      (finished : Option ℕ), ¬ self.geQueue.Full → 0x21 ∉ s → ¬ WellFormedKeys s →
        Refuses self (concorddPressKeys env self partition s finished) := by
  intro h
  have hform : ¬ WellFormedKeys [0x5B, 0x5D] := by
    rintro ⟨tokens, -, ht⟩
    cases tokens with
    | nil => cases ht
    | cons token tokens =>
      rw [keyText_cons] at ht
      rcases token_text_cases token with ⟨c, hc, hopen, -⟩ | ⟨t, hne, hc⟩
      · rw [hc] at ht
        exact hopen (List.cons.inj ht).1
      · have hpos := List.length_pos_of_ne_nil hne
        have hlen := congrArg List.length ht
        simp only [hc, List.length_append, List.length_cons, List.length_nil] at hlen
        omega
  have hr := h ⟨0, .ok⟩ concorddInit 1 [0x5B, 0x5D] none (by decide) (by decide) hform
  rw [pressKeys_refuses_iff] at hr
  exact hr ⟨[.bracket false [] rfl], [], rfl, .inr (.inl rfl)⟩

end Concordd
