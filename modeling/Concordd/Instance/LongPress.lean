import Concordd.Instance.KeyTokens

/-! The long press: '!' after a key. -/
namespace Concordd

/-! No token starts with what '!' needs after it. -/

/-- Every ']' of a well-formed string has a '[' before it. -/
theorem openBracket_mem {tokens : List KeyToken} {u v : List UInt8}
    (h : keyText tokens = u ++ 0x5D :: v) : 0x5B ∈ u := by
  induction tokens generalizing u with
  | nil =>
    have := congrArg List.length h
    simp [keyText] at this
  | cons token tokens ih =>
    rw [keyText_cons] at h
    rcases token_text_cases token with ⟨c, hc, -, hclose⟩ | ⟨t, -, hc⟩
    · rw [hc] at h
      cases u with
      | nil => exact absurd (List.cons.inj h).1 hclose
      | cons x u => exact List.mem_cons_of_mem x (ih (List.cons.inj h).2)
    · rw [hc] at h
      cases u with
      | nil => exact absurd (List.cons.inj h).1 (by decide)
      | cons x u =>
        rw [← (List.cons.inj h).1]
        exact List.mem_cons_self

/-- `strtol` never stops at the ']' of a token. -/
theorem keyText_not_closed (tokens : List KeyToken) :
    ((keyText tokens).drop (strtol16 (keyText tokens)).2).head? ≠ some 0x5D := by
  intro h
  obtain ⟨t, rest, ht, hlen⟩ := strtol16_close_iff.mp h
  obtain ⟨u, v, rfl⟩ := List.append_of_mem (openBracket_mem ht)
  rw [strtol16_stop stops_openBracket, List.length_append, List.length_cons] at hlen
  have := strtol16_le u
  omega

theorem keyText_ne_nil {tokens : List KeyToken} (h : tokens ≠ []) : keyText tokens ≠ [] := by
  cases tokens with
  | nil => exact absurd rfl h
  | cons token tokens =>
    rw [keyText_cons]
    rcases token_text_cases token with ⟨c, hc, -⟩ | ⟨t, -, hc⟩ <;> simp [hc]

variable {env : Env} {self : ConcorddInstance} {partition : ℤ} {a b : List KeyToken}
  {finished : Option ℕ}

/-- With keys after the '!', or with no room for its turn. -/
theorem pressKeysMessage_mark (partition : ℤ) (hlen : (a ++ b).length ≤ 53) :
    pressKeysMessage partition (keyText a ++ 0x21 :: keyText b) =
      if b ≠ [] then .error .error
      else if (keyCodesSent a).length < 53 then
        .ok (markLongPress (keysHead partition ++ keyCodesSent a))
      else .ok (keysHead partition ++ keyCodesSent a) := by
  have ha := length_keyCodesSent a
  rw [List.length_append] at hlen
  have hmsg : (keysHead partition ++ keyCodesSent a).length = 3 + (keyCodesSent a).length := by
    rw [List.length_append, length_keysHead]
  have hloop := pressKeysLoop_tokens a (keysHead partition) (0x21 :: keyText b)
    (by rw [length_keysHead, geRs232MaxMessageSize]; omega)
  have hopen : pressKeysMessage partition (keyText a ++ 0x21 :: keyText b) =
      pressKeysLoop (keysHead partition ++ keyCodesSent a) 0 (openBracket true :: keyText b) :=
    hloop
  rw [hopen]
  by_cases hb : b = []
  · subst hb
    rw [if_neg (not_not_intro rfl)]
    by_cases hroom : (keyCodesSent a).length < 53
    · rw [if_pos hroom, pressKeysLoop_bracket (by rw [hmsg, geRs232MaxMessageSize]; omega)]
      rfl
    · rw [if_neg hroom, pressKeysLoop_full (by rw [hmsg, geRs232MaxMessageSize]; omega)]
  · have hpos := List.length_pos_of_ne_nil hb
    rw [if_pos hb, pressKeysLoop_bracket (by rw [hmsg, geRs232MaxMessageSize]; omega),
      if_neg (keyText_ne_nil hb), if_neg (keyText_not_closed b)]

/-- The message of `a ++ b` with bit 0x40 set in the code of the last key of `a`; without such a
key, an error. -/
def MarksLastKey (env : Env) (self : ConcorddInstance) (partition : ℤ) (a b : List KeyToken)
    (finished : Option ℕ) : Prop :=
  let r := concorddPressKeys env self partition (keyText a ++ 0x21 :: keyText b) finished
  match a.getLast? with
  | none => Refuses self r
  | some last =>
    EnqueuesOne (keysHead partition ++
      (keyCodesSent a.dropLast ++ [last.code ||| 0x40] ++ keyCodesSent b)) finished r

/-- The '!' ends the string after a key whose code has been written, in a message with room left
where the code does not have the bit already; or it begins a longer string. -/
def MarkEndsKeys (a b : List KeyToken) : Prop :=
  match a.getLast? with
  | none => b ≠ []
  | some last => b = [] ∧ last.code ≠ 0xFF ∧
      ((keyCodesSent a).length < 53 ∨ last.code ||| 0x40 = last.code)

theorem enqueuesOne_queueMessage (hroom : ¬ self.geQueue.Full) {data msg : List UInt8} :
    EnqueuesOne data finished (concorddQueueMessage env self msg finished) ↔ data = msg := by
  constructor
  · intro h
    have honce := h.once
    rw [queueMessage_enqueued] at honce
    exact (List.cons.inj honce).1.symm
  · rintro rfl
    exact queueMessage_enqueues env hroom data finished

theorem markLongPress_concat (msg : List UInt8) (code : UInt8) :
    markLongPress (msg ++ [code]) = msg ++ [code ||| 0x40] := by
  simp [markLongPress]

theorem keyCodesSent_concat (tokens : List KeyToken) (last : KeyToken) :
    keyCodesSent (tokens ++ [last]) =
      keyCodesSent tokens ++ if last.code = 255 then [] else [last.code] := by
  rw [keyCodesSent_append, keyCodesSent_cons]
  exact congrArg _ (List.append_nil _)

/-- The message of a string that ends with '!'. -/
def markedMessage (partition : ℤ) (tokens : List KeyToken) : List UInt8 :=
  if (keyCodesSent tokens).length < 53 then
    markLongPress (keysHead partition ++ keyCodesSent tokens)
  else keysHead partition ++ keyCodesSent tokens

theorem length_markedMessage (partition : ℤ) (tokens : List KeyToken) :
    (markedMessage partition tokens).length = 3 + (keyCodesSent tokens).length := by
  unfold markedMessage
  split
  · rw [length_markLongPress (by simp [keysHead]), List.length_append, length_keysHead]
  · rw [List.length_append, length_keysHead]

/-- The last key is marked if it has a byte in the message, and the '!' gets its turn. -/
theorem markedMessage_eq_iff {partition : ℤ} {init : List KeyToken} {last : KeyToken} :
    keysHead partition ++ (keyCodesSent init ++ [last.code ||| 0x40]) =
        markedMessage partition (init ++ [last]) ↔
      last.code ≠ 0xFF ∧
        ((keyCodesSent (init ++ [last])).length < 53 ∨ last.code ||| 0x40 = last.code) := by
  have hsent := keyCodesSent_concat init last
  by_cases hff : last.code = 255
  · -- the message has no byte for the key, so it is too short
    refine iff_of_false ?_ fun h => h.1 hff
    intro h
    have hlength := congrArg List.length h
    rw [length_markedMessage, hsent, if_pos hff] at hlength
    simp only [List.length_append, length_keysHead, List.length_singleton, List.length_nil]
      at hlength
    omega
  · rw [if_neg hff] at hsent
    unfold markedMessage
    by_cases hfit : (keyCodesSent (init ++ [last])).length < 53
    · rw [if_pos hfit, hsent, ← List.append_assoc, ← List.append_assoc, markLongPress_concat]
      exact iff_of_true rfl ⟨hff, .inl (hsent ▸ hfit)⟩
    · rw [if_neg hfit, or_iff_right hfit, and_iff_right hff, hsent, List.append_cancel_left_eq,
        List.append_cancel_left_eq, List.singleton_inj]

/-- A '!' at the end, after at least one key. -/
theorem long_press_last (env : Env) (hroom : ¬ self.geQueue.Full) (partition : ℤ)
    {init : List KeyToken} {last : KeyToken} (hlen : (init ++ [last] ++ []).length ≤ 53)
    (finished : Option ℕ) :
    EnqueuesOne (keysHead partition ++ (keyCodesSent init ++ [last.code ||| 0x40])) finished
        (concorddPressKeys env self partition (keyText (init ++ [last]) ++ [0x21]) finished) ↔
      last.code ≠ 0xFF ∧
        ((keyCodesSent (init ++ [last])).length < 53 ∨ last.code ||| 0x40 = last.code) := by
  have hmessage : pressKeysMessage partition (keyText (init ++ [last]) ++ [0x21]) =
      .ok (markedMessage partition (init ++ [last])) := by
    have hm := pressKeysMessage_mark partition hlen
    rw [if_neg (not_not_intro rfl)] at hm
    rw [markedMessage, apply_ite Except.ok]
    exact hm
  rw [concorddPressKeys, hmessage, enqueuesOne_queueMessage hroom]
  exact markedMessage_eq_iff

/-- '!' marks the key before it where it ends the string, and nowhere else. -/
theorem long_press_iff (env : Env) (self : ConcorddInstance) (hroom : ¬ self.geQueue.Full)
    (partition : ℤ) (a b : List KeyToken) (hlen : (a ++ b).length ≤ 53) (finished : Option ℕ) :
    MarksLastKey env self partition a b finished ↔ MarkEndsKeys a b := by
  have hm := pressKeysMessage_mark partition hlen
  unfold MarksLastKey MarkEndsKeys
  by_cases hb : b = []
  · subst hb
    rcases List.eq_nil_or_concat' a with rfl | ⟨init, last, rfl⟩
    · rw [if_neg (not_not_intro rfl), if_pos (by decide)] at hm
      refine iff_of_false ?_ (not_not_intro rfl)
      unfold concorddPressKeys
      dsimp only
      rw [hm]
      exact (queueMessage_enqueues env hroom _ finished).not_refuses
    · have hlast := long_press_last env hroom partition hlen finished
      rw [List.getLast?_concat, List.dropLast_concat]
      dsimp only
      rw [and_iff_right rfl, ← hlast]
      have hnone : keyCodesSent init ++ [last.code ||| 0x40] ++ keyCodesSent [] =
          keyCodesSent init ++ [last.code ||| 0x40] := List.append_nil _
      rw [hnone]
      exact Iff.rfl
  · rw [if_pos hb] at hm
    have hr : concorddPressKeys env self partition (keyText a ++ 0x21 :: keyText b) finished =
        concorddReject self .error := by
      rw [concorddPressKeys, hm]
    have hrefuse : Refuses self (concorddReject self .error) := reject_refuses self (by decide)
    rw [hr]
    cases a.getLast? with
    | none => exact iff_of_true hrefuse hb
    | some last => exact iff_of_false (fun h => h.not_refuses hrefuse) (fun h => hb h.1)

/-- The key 5, long. -/
theorem long_press_five :
    MarksLastKey ⟨0, .ok⟩ concorddInit 1 [.digit 5] [] none ↔ MarkEndsKeys [.digit 5] [] :=
  long_press_iff ⟨0, .ok⟩ concorddInit (by decide) 1 [.digit 5] [] (by decide) none

/-- "5!7" is refused: what follows the '!' is read as if in brackets. -/
theorem long_press_refused_midway :
    ¬ ∀ (env : Env) (self : ConcorddInstance), ¬ self.geQueue.Full →
      ∀ (partition : ℤ) (a b : List KeyToken), (a ++ b).length ≤ 53 → ∀ finished : Option ℕ,
        MarksLastKey env self partition a b finished := by
  intro h
  have hmark := h ⟨0, .ok⟩ concorddInit (by decide) 1 [.digit 5] [.digit 7] (by decide) none
  rw [long_press_iff _ _ (by decide) _ _ _ (by decide)] at hmark
  exact absurd hmark.1 (List.cons_ne_nil _ _)

end Concordd
