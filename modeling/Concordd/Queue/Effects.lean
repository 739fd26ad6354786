import Concordd.Queue.Fifo

/-! What one operation of the queue sends, what an answer ends, and what they leave. -/
namespace Concordd

/-- A queued message is handed to `ge_rs232_send_message`. -/
def SendsMessage (out : List LinkEvent) : Prop := ∃ data, LinkEvent.sendMessage data ∈ out

def LinkEvent.isSendMessage : LinkEvent → Bool
  | .sendMessage _ => true
  | _ => false

theorem sendsMessage_iff_any {out : List LinkEvent} :
    SendsMessage out ↔ out.any LinkEvent.isSendMessage = true := by
  rw [List.any_eq_true]
  constructor
  · rintro ⟨data, hm⟩
    exact ⟨_, hm, rfl⟩
  · rintro ⟨e, hm, he⟩
    cases e with
    | sendMessage data => exact ⟨data, hm⟩
    | _ => cases he

instance (out : List LinkEvent) : Decidable (SendsMessage out) :=
  decidable_of_iff _ sendsMessage_iff_any.symm

variable {env : Env} {q : GeQueue} {byte : UInt8}

/-! What one operation of the queue sends. -/

theorem not_sends_nil : ¬ SendsMessage [] := by
  rintro ⟨data, hm⟩
  cases hm

theorem transmit_sends (env : Env) (q : GeQueue) : SendsMessage (geQueueTransmit env q).out :=
  ⟨(q.queue q.head).msg, List.mem_cons_self⟩

theorem update_sends_iff (env : Env) (q : GeQueue) :
    SendsMessage (geQueueUpdate env q).out ↔
      q.head ≠ q.tail ∧ geRs232ReadyToSend env q.interface ≠ .wait := by
  rcases update_cases env q with ⟨hidle, hu⟩ | ⟨hg, hu⟩ | ⟨hne, hw, -, hu⟩
  · rw [hu]
    refine iff_of_false not_sends_nil ?_
    rintro ⟨hne, hw⟩
    rcases hidle with he | he
    · exact hne he
    · exact hw he
  · rw [hu]
    obtain ⟨data, hm⟩ := transmit_sends env (geQueueDrop q)
    refine iff_of_true ⟨data, List.mem_cons_of_mem _ hm⟩ ⟨hg.1, ?_⟩
    rw [hg.2.1]
    decide
  · rw [hu]
    exact iff_of_true (transmit_sends env q) ⟨hne, hw⟩

/-- A message pushed on a full ring makes it look empty, and then nothing is sent. -/
theorem push_head_eq_tail_iff (q : GeQueue) (data : List UInt8) (finished : Option ℕ) :
    (geQueuePush q data finished).head = (geQueuePush q data finished).tail ↔ q.Full := by
  rw [← not_iff_not, not_full_iff]
  exact ne_comm

/-- Nothing happens to the ring that looks empty. -/
theorem message_full {data : List UInt8} {finished : Option ℕ} (env : Env) (h : q.Full) :
    geQueueMessage env q data finished =
      ⟨geQueuePush q data finished, [.queueMessage data finished .queueFull], .queueFull⟩ := by
  have hidle : geQueueUpdate env (geQueuePush q data finished) =
      ⟨geQueuePush q data finished, [], .ok⟩ := by
    rw [geQueueUpdate, if_pos ((push_head_eq_tail_iff q data finished).mpr h)]
  simp [geQueueMessage, hidle, h]

theorem message_sends_iff (env : Env) (q : GeQueue) (data : List UInt8) (finished : Option ℕ) :
    SendsMessage (geQueueMessage env q data finished).out ↔
      ¬ q.Full ∧ geRs232ReadyToSend env q.interface ≠ .wait := by
  have hu := update_sends_iff env (geQueuePush q data finished)
  rw [ne_eq, push_head_eq_tail_iff] at hu
  rw [← show (geQueuePush q data finished).interface = q.interface from rfl, ← hu]
  simp [SendsMessage, geQueueMessage]

theorem receiveByte_sends_not (env : Env) (q : GeQueue) (byte : UInt8) :
    ¬ SendsMessage (geQueueReceiveByte env q byte).2 := by
  rintro ⟨data, hm⟩
  rcases queueReceiveByte_cases env q byte with ⟨-, -, hr⟩ | ⟨-, -, hr⟩ | ⟨-, j, out, hr, -, hl⟩
  · rw [hr] at hm
    rcases gotResponse_cases env (geQueueAnswered q byte) with ⟨-, hg⟩ | ⟨-, -, hg⟩ <;>
      simp [hg] at hm
  · simp [hr] at hm
  · rw [hr] at hm
    rcases hl with rfl | rfl | ⟨buffer, len, rfl⟩ <;> simp at hm

/-! What one operation of the queue leaves of the receiver. -/

theorem update_readingMessage (env : Env) (q : GeQueue) :
    (geQueueUpdate env q).state.interface.readingMessage = q.interface.readingMessage := by
  rcases update_cases env q with ⟨-, hu⟩ | ⟨-, hu⟩ | ⟨-, -, -, hu⟩
  · rw [hu]
  · rw [hu]
    exact (sameReceiver_sendMessage env _ _).1
  · rw [hu]
    exact (sameReceiver_sendMessage env _ _).1

/-! Answers. -/

/-- The answer ends the message at the head. -/
def GeQueue.Ends (q : GeQueue) (byte : UInt8) : Prop :=
  q.interface.gotResponse = true ∧ (byte = geRs232Ack ∨ 3 ≤ (q.queue q.head).attempts)

instance (q : GeQueue) (byte : UInt8) : Decidable (q.Ends byte) :=
  inferInstanceAs (Decidable (_ ∧ (_ ∨ _)))

theorem answered_ready_iff (env : Env) (h : Intercepted q.interface byte) :
    geRs232ReadyToSend env (geQueueAnswered q byte).interface = .ok ↔ byte = geRs232Ack := by
  rcases h.1 with rfl | rfl
  · simp [geRs232ReadyToSend, geQueueAnswered]
  · simp [geRs232ReadyToSend, geQueueAnswered, geRs232Ack, geRs232Nak]

/-- An answer is recorded, and ends the message at the head if that is due. -/
theorem receiveByte_answered (env : Env) (h : Intercepted q.interface byte) :
    (geQueueReceiveByte env q byte).1.interface.lastResponse = byte ∧
      (geQueueReceiveByte env q byte).1.interface.readingMessage = q.interface.readingMessage ∧
      (geQueueReceiveByte env q byte).1.tail = q.tail ∧
      (geQueueReceiveByte env q byte).1.head = if q.Ends byte then q.head + 1 else q.head := by
  rcases queueReceiveByte_cases env q byte with ⟨-, hg, hr⟩ | ⟨-, hg, hr⟩ | ⟨hno, -⟩
  · rw [hr]
    dsimp only
    rcases gotResponse_cases env (geQueueAnswered q byte) with ⟨hend, he⟩ | ⟨hok, hatt, he⟩
    · rw [answered_ready_iff env h] at hend
      rw [he, if_pos ⟨hg, hend⟩]
      exact ⟨rfl, rfl, rfl, rfl⟩
    · rw [ne_eq, answered_ready_iff env h] at hok
      have hno : ¬ q.Ends byte := by
        rintro ⟨-, ha | h3⟩
        · exact hok ha
        · exact hatt h3
      rw [he, if_neg hno]
      exact ⟨rfl, rfl, rfl, rfl⟩
  · have hno : ¬ q.Ends byte := by
      rintro ⟨hyes, -⟩
      rw [hg] at hyes
      cases hyes
    rw [hr, if_neg hno]
    exact ⟨rfl, rfl, rfl, rfl⟩
  · exact (hno h).elim

/-- An answer finishes a message with `GE_RS232_STATUS_OK` exactly if it is an ACK. -/
theorem receiveByte_finished_ok (env : Env) (q : GeQueue) (byte : UInt8) :
    (∃ callback, .finished callback .ok ∈ (geQueueReceiveByte env q byte).2) ↔
      Intercepted q.interface byte ∧ byte = geRs232Ack ∧ q.interface.gotResponse = true := by
  rcases queueReceiveByte_cases env q byte with
    ⟨hi, hg, hr⟩ | ⟨hi, hg, hr⟩ | ⟨hno, j, out, hr, -, hl⟩
  · have hack := answered_ready_iff env hi
    rcases gotResponse_cases env (geQueueAnswered q byte) with ⟨-, he⟩ | ⟨hok, -, he⟩
    · rw [hr, he, ← hack]
      simp [hi, hg, eq_comm]
    · rw [hr, he, ← hack]
      simp [hok]
  · rw [hr]
    simp [hg]
  · rw [hr]
    rcases hl with rfl | rfl | ⟨buffer, len, rfl⟩ <;> simp [hno]

theorem receiveByte_other {env : Env} (hi : ¬ Intercepted q.interface byte) :
    (geQueueReceiveByte env q byte).1 =
      { q with interface := (geRs232ReceiveByte q.interface byte).state } := by
  simp [geQueueReceiveByte, dispatch_of_lineCalls env _ (receiveByte_calls hi).2]

/-! What one operation of the queue leaves in the ring. -/

theorem update_contents (env : Env) (q : GeQueue) :
    (geQueueUpdate env q).state.contents =
      if q.GivesUp env then (geQueueDrop q).contents else q.contents := by
  rcases update_cases env q with ⟨hidle, hu⟩ | ⟨hg, hu⟩ | ⟨-, -, hg, hu⟩
  · have hno : ¬ q.GivesUp env := by
      rintro ⟨hne, ht, -⟩
      rcases hidle with he | hw
      · exact hne he
      · cases ht.symm.trans hw
    rw [hu, if_neg hno]
  · rw [hu, if_pos hg]
    exact contents_transmit env
  · rw [hu, if_neg hg]
    exact contents_transmit env

/-- The new message does not decide whether the oldest is given up. -/
theorem push_givesUp_iff (hroom : ¬ q.Full) (data : List UInt8) (finished : Option ℕ) :
    (geQueuePush q data finished).GivesUp env ↔ q.GivesUp env := by
  have hne := (push_head_eq_tail_iff q data finished).not.mpr hroom
  by_cases he : q.head = q.tail
  · refine iff_of_false ?_ (fun hg => hg.1 he)
    rintro ⟨-, -, -, h3⟩
    have hslot : (geQueuePush q data finished).queue (geQueuePush q data finished).head =
        ⟨data, 0, finished⟩ := by
      simp [geQueuePush, he]
    rw [hslot] at h3
    exact absurd (show (3 : UInt8) ≤ 0 from h3) (by decide)
  · have hslot : (geQueuePush q data finished).queue (geQueuePush q data finished).head =
        q.queue q.head := Function.update_of_ne he ..
    unfold GeQueue.GivesUp
    rw [hslot, ne_eq, ne_eq, iff_true_intro hne, iff_true_intro he]
    exact Iff.rfl

theorem message_contents (env : Env) (q : GeQueue) (data : List UInt8) (finished : Option ℕ) :
    (geQueueMessage env q data finished).state.contents =
      if q.Full then []
      else (if q.GivesUp env then (geQueueDrop q).contents else q.contents) ++
        [⟨data, finished⟩] := by
  by_cases hfull : q.Full
  · rw [if_pos hfull, message_full env hfull]
    exact contents_eq_nil.mpr ((push_head_eq_tail_iff q data finished).mpr hfull)
  have hp := contents_push data finished hfull
  have hu : (geQueueMessage env q data finished).state.contents = _ :=
    update_contents env (geQueuePush q data finished)
  rw [if_neg hfull, hu]
  simp only [push_givesUp_iff hfull]
  split
  · next hg =>
    -- both rings lose the same oldest message
    have hne := (push_head_eq_tail_iff q data finished).not.mpr hfull
    rw [contents_cons hg.1, contents_cons hne] at hp
    exact (List.cons.inj hp).2
  · exact hp

theorem receiveByte_contents (env : Env) (q : GeQueue) (byte : UInt8) :
    (geQueueReceiveByte env q byte).1.contents =
      if Intercepted q.interface byte ∧ q.Ends byte then (geQueueDrop q).contents
      else q.contents := by
  rcases queueReceiveByte_cases env q byte with ⟨hi, hg, hr⟩ | ⟨-, hg, hr⟩ | ⟨hno, j, out, hr, -⟩
  · rw [hr]
    dsimp only
    have hend := answered_ready_iff env hi
    rcases gotResponse_cases env (geQueueAnswered q byte) with ⟨hyes, he⟩ | ⟨hok, hatt, he⟩
    · rw [hend] at hyes
      rw [he, if_pos ⟨hi, hg, hyes⟩]
      rfl
    · rw [ne_eq, hend] at hok
      rw [he, if_neg]
      · rfl
      · rintro ⟨-, -, ha | h3⟩
        · exact hok ha
        · exact hatt h3
  · rw [hr, if_neg]
    · rfl
    · rintro ⟨-, hyes, -⟩
      cases hg.symm.trans hyes
  · rw [hr, if_neg fun h => hno h.1]
    rfl

/-- Only an update that gives up finishes a message, with a time-out. -/
theorem update_finished {callback : Option ℕ} {status : GeRs232Status}
    (h : .finished callback status ∈ (geQueueUpdate env q).out) : status = .timeout := by
  have hsend : ∀ q : GeQueue, .finished callback status ∉ (geQueueTransmit env q).out := by
    intro q hm
    rcases List.mem_cons.mp hm with hm | hm
    · cases hm
    · rcases sendMessage_out env { q.interface with gotResponse := true }
        (q.queue q.head).msg with h | h <;> simp [h] at hm
  rcases update_cases env q with ⟨-, hu⟩ | ⟨-, hu⟩ | ⟨-, -, -, hu⟩
  · simp [hu] at h
  · rw [hu] at h
    rcases List.mem_cons.mp h with h | h
    · cases h
      rfl
    · exact (hsend _ h).elim
  · rw [hu] at h
    exact (hsend _ h).elim

end Concordd
