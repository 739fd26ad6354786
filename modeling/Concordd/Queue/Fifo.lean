import Concordd.Library.Machine
import Concordd.Queue.Model

/-! The ring buffer as a first-in, first-out queue of unfinished messages. -/
namespace Concordd

open RingBuffer

/-- A message handed to `ge_queue_message` whose callback has not been called. -/
structure Unfinished where
  data : List UInt8
  finished : Option ℕ
  deriving DecidableEq

/-- Messages join at the back; only the oldest is sent, and only the oldest is finished. -/
def fifo : Monitor (List Unfinished) LinkEvent where
  next l
    | .queueMessage data finished _ => l ++ [⟨data, finished⟩]
    | .finished callback _ => l.eraseP (·.finished = callback)
    | _ => l
  Allows l
    | .sendMessage data => l.head?.map (·.data) = some data
    | .finished callback _ => l.head?.map (·.finished) = some callback
    | _ => True

instance : ∀ l e, Decidable (fifo.Allows l e)
  | l, .sendMessage data => inferInstanceAs (Decidable (l.head?.map (·.data) = some data))
  | l, .finished callback _ =>
    inferInstanceAs (Decidable (l.head?.map (·.finished) = some callback))
  | _, .byteReceived _ => inferInstanceAs (Decidable True)
  | _, .sendBytes _ => inferInstanceAs (Decidable True)
  | _, .receivedMessage _ _ => inferInstanceAs (Decidable True)
  | _, .gotResponse _ => inferInstanceAs (Decidable True)
  | _, .queueMessage _ _ _ => inferInstanceAs (Decidable True)

def GeQueue.entry (q : GeQueue) (i : Fin geQueueMaxMessages) : Unfinished :=
  ⟨(q.queue i).msg, (q.queue i).finished⟩

/-- The occupied slots, oldest first. -/
def GeQueue.contents (q : GeQueue) : List Unfinished := (span q.head q.tail).map q.entry

variable {q : GeQueue} {l : List Unfinished}

/-! The contents under each operation. -/

theorem contents_eq_nil : q.contents = [] ↔ q.head = q.tail := by
  rw [GeQueue.contents, List.map_eq_nil_iff, span_eq_nil]

theorem isEmpty_iff : geQueueIsEmpty q = true ↔ q.contents = [] := by
  rw [contents_eq_nil]
  simp [geQueueIsEmpty]

theorem contents_cons (hne : q.head ≠ q.tail) :
    q.contents = q.entry q.head :: (geQueueDrop q).contents := by
  unfold GeQueue.contents
  rw [span_cons hne]
  rfl

theorem full_iff : q.Full ↔ q.contents.length = 7 := by
  rw [GeQueue.contents, List.length_map, length_span, GeQueue.Full]
  constructor
  · intro h
    rw [h]
    rfl
  · intro h
    exact Fin.ext h

theorem not_full_iff : ¬ q.Full ↔ q.tail + 1 ≠ q.head := by
  have hlen : q.contents.length + 1 = 8 ↔ q.tail + 1 = q.head := by
    rw [GeQueue.contents, List.length_map]
    exact length_span_full
  rw [full_iff, ne_eq, ← hlen]
  omega

theorem contents_push (data : List UInt8) (finished : Option ℕ) (hfull : ¬ q.Full) :
    (geQueuePush q data finished).contents = q.contents ++ [⟨data, finished⟩] := by
  unfold GeQueue.contents geQueuePush
  rw [span_snoc (not_full_iff.mp hfull), List.map_append]
  congr 1
  · exact map_span_update q.queue (fun m => (⟨m.msg, m.finished⟩ : Unfinished)) tail_not_mem_span
  · simp [GeQueue.entry]

/-- A send counts an attempt and changes neither messages nor callbacks. -/
theorem contents_transmit (env : Env) : (geQueueTransmit env q).state.contents = q.contents := by
  apply List.map_congr_left
  intro i _
  by_cases hi : i = q.head
  · subst hi
    simp [geQueueTransmit, GeQueue.entry]
  · simp [geQueueTransmit, GeQueue.entry, Function.update_of_ne hi]

/-! What the queue of unfinished messages makes of each operation's calls. -/

theorem sendMessage_out (env : Env) (self : GeRs232) (data : List UInt8) :
    (geRs232SendMessage env self data).out = [] ∨
      (geRs232SendMessage env self data).out = [.sendBytes (geRs232Frame data)] := by
  unfold geRs232SendMessage geRs232WriteFrame
  split
  · exact .inl rfl
  · split
    · exact .inl rfl
    · right
      dsimp only
      split <;> rfl

/-- A message that cannot be sent never reaches the line. -/
theorem transmit_out (env : Env) (q : GeQueue) :
    (geQueueTransmit env q).out = [.sendMessage (q.queue q.head).msg] ∨
      (geQueueTransmit env q).out =
        [.sendMessage (q.queue q.head).msg, .sendBytes (geRs232Frame (q.queue q.head).msg)] :=
  (sendMessage_out env { q.interface with gotResponse := true } (q.queue q.head).msg).imp
    (congrArg (List.cons _)) (congrArg (List.cons _))

theorem fifo_lineCalls {out : List LinkEvent} (h : LineCalls out) :
    fifo.Accepts l out ∧ fifo.after l out = l := by
  rcases h with rfl | rfl | ⟨buffer, len, rfl⟩ <;> simp [fifo]

theorem fifo_sendMessage (env : Env) (self : GeRs232) (data : List UInt8) :
    fifo.Accepts l (geRs232SendMessage env self data).out ∧
      fifo.after l (geRs232SendMessage env self data).out = l := by
  rcases sendMessage_out env self data with h | h <;> rw [h] <;> exact ⟨by simp [fifo], rfl⟩

theorem transmit_after (env : Env) : fifo.after l (geQueueTransmit env q).out = l :=
  (fifo_sendMessage env _ _).2

/-- Sending the head is in order exactly when there is a message at the head. -/
theorem transmit_fifo (env : Env) (hc : q.contents = l) :
    (geQueueTransmit env q).state.contents = fifo.after l (geQueueTransmit env q).out ∧
      (fifo.Accepts l (geQueueTransmit env q).out ↔ q.head ≠ q.tail) := by
  refine ⟨by rw [contents_transmit, hc, transmit_after], ?_⟩
  subst hc
  constructor
  · rintro ⟨ha, -⟩ he
    rw [contents_eq_nil.mpr he] at ha
    simp [fifo] at ha
  · intro hne
    refine ⟨?_, (fifo_sendMessage env _ _).1⟩
    rw [contents_cons hne]
    rfl

/-- A response while a message is at the head is in order. -/
theorem gotResponse_fifo (env : Env) (hc : q.contents = l) (hne : q.head ≠ q.tail) :
    (geQueueGotResponse env q).1.contents = fifo.after l (geQueueGotResponse env q).2 ∧
      fifo.Accepts l (geQueueGotResponse env q).2 := by
  subst hc
  cases gotResponse_cases env q with
  | inl h =>
    rw [h.2, contents_cons hne]
    simp [fifo, GeQueue.entry]
  | inr h =>
    rw [h.2.2]
    exact ⟨rfl, trivial⟩

/-- An update is in order unless it gives up the last message and sends the slot after it. -/
theorem update_fifo (env : Env) (hc : q.contents = l) :
    (geQueueUpdate env q).state.contents = fifo.after l (geQueueUpdate env q).out ∧
      (fifo.Accepts l (geQueueUpdate env q).out ↔ ¬ (q.GivesUp env ∧ q.head + 1 = q.tail)) := by
  rcases update_cases env q with ⟨hidle, hu⟩ | ⟨hg, hu⟩ | ⟨hne, -, hg, hu⟩
  · rw [hu]
    refine ⟨hc, iff_of_true trivial ?_⟩
    rintro ⟨⟨hne, ht, -⟩, -⟩
    rcases hidle with he | hw
    · exact hne he
    · rw [ht] at hw
      cases hw
  · rw [hu]
    subst hc
    have hfront : fifo.Allows q.contents (.finished (q.queue q.head).finished .timeout) ∧
        fifo.next q.contents (.finished (q.queue q.head).finished .timeout) =
          (geQueueDrop q).contents := by
      rw [contents_cons hg.1]
      simp [fifo, GeQueue.entry]
    obtain ⟨hafter, hacc⟩ := transmit_fifo env (q := geQueueDrop q) rfl
    simp only [Monitor.accepts_cons, Monitor.after_cons, hfront.2]
    refine ⟨hafter, ?_⟩
    simp only [hacc, hfront.1, hg, true_and]
    rfl
  · rw [hu]
    obtain ⟨hafter, hacc⟩ := transmit_fifo env hc
    refine ⟨hafter, iff_of_true (hacc.mpr hne) ?_⟩
    rintro ⟨h, -⟩
    exact hg h

theorem message_fifo (env : Env) (hc : q.contents = l) (data : List UInt8) (finished : Option ℕ)
    (hfull : ¬ q.Full) :
    (geQueueMessage env q data finished).state.contents =
        fifo.after l (geQueueMessage env q data finished).out ∧
      (fifo.Accepts l (geQueueMessage env q data finished).out ↔
        ¬ ((geQueuePush q data finished).GivesUp env ∧ q.head = q.tail)) := by
  have hp := contents_push data finished hfull
  rw [hc] at hp
  obtain ⟨hafter, hacc⟩ := update_fifo env hp
  refine ⟨hafter, ?_⟩
  have hone : (geQueuePush q data finished).head + 1 = (geQueuePush q data finished).tail ↔
      q.head = q.tail := add_left_inj 1
  rw [hone] at hacc
  simp only [geQueueMessage, Monitor.accepts_cons]
  rw [← hacc]
  simp [fifo]

/-- Received bytes are in order if an answer is only awaited for a message at the head. -/
theorem receiveByte_fifo (env : Env) (hc : q.contents = l)
    (hf : q.interface.lastResponse = 0 → q.head ≠ q.tail) (byte : UInt8) :
    (geQueueReceiveByte env q byte).1.contents = fifo.after l (geQueueReceiveByte env q byte).2 ∧
      fifo.Accepts l (geQueueReceiveByte env q byte).2 := by
  rcases queueReceiveByte_cases env q byte with ⟨hi, -, hr⟩ | ⟨-, -, hr⟩ | ⟨-, i, out, hr, -, hl⟩
  · rw [hr]
    have h := gotResponse_fifo env (q := geQueueAnswered q byte) hc (hf hi.2)
    exact ⟨h.1, by simp [fifo], by simp [fifo], h.2⟩
  · rw [hr]
    exact ⟨hc, by simp [fifo]⟩
  · rw [hr]
    have h := fifo_lineCalls (l := l) hl
    exact ⟨hc.trans h.2.symm, by simp [fifo], h.1⟩

/-! Runs. -/

/-- The ring holds the unfinished messages, and an answer is awaited only while there is one. -/
structure Refines (s : Link × List Unfinished) : Prop where
  contents : s.1.queue.contents = s.2
  awaits : s.1.queue.interface.lastResponse = 0 → s.1.queue.head ≠ s.1.queue.tail
  response : s.1.queue.interface.lastResponse = 0 ∨
    s.1.queue.interface.lastResponse = geRs232Ack ∨ s.1.queue.interface.lastResponse = geRs232Nak

/-- The update that gives up the only message in the queue. -/
def DropsLast (s : Link) (i : LinkStep) : Prop :=
  i = .queueUpdate ∧ s.queue.GivesUp s.env ∧ s.queue.head + 1 = s.queue.tail

instance (s : Link) (i : LinkStep) : Decidable (DropsLast s i) :=
  inferInstanceAs (Decidable (_ ∧ _ ∧ _))

/-- Messages of 1 to 56 bytes, handed over while fewer than seven are unfinished. -/
def WithinCapacity (s : Link × List Unfinished) : LinkStep → Prop
  | .queueMessage data _ =>
    1 ≤ data.length ∧ data.length ≤ geRs232MaxMessageSize ∧ s.2.length < 7
  | _ => True

instance (s : Link × List Unfinished) : ∀ i, Decidable (WithinCapacity s i)
  | .queueMessage _ _ => inferInstanceAs (Decidable (_ ∧ _ ∧ _))
  | .queueUpdate => inferInstanceAs (Decidable True)
  | .receiveByte _ => inferInstanceAs (Decidable True)
  | .advance _ => inferInstanceAs (Decidable True)
  | .sendReturns _ => inferInstanceAs (Decidable True)

/-- A step in order: what it sends and finishes is the oldest unfinished message, and the queue
then says it is empty exactly when nothing is unfinished. -/
def FifoStep (s : Link × List Unfinished) (i : LinkStep) : Prop :=
  fifo.Accepts s.2 (linkMachine.step s.1 i).2 ∧
    (geQueueIsEmpty (linkMachine.step s.1 i).1.queue = true ↔
      fifo.after s.2 (linkMachine.step s.1 i).2 = [])

instance (s : Link × List Unfinished) (i : LinkStep) : Decidable (FifoStep s i) :=
  inferInstanceAs (Decidable (_ ∧ (_ ↔ _)))

theorem transmit_lastResponse (env : Env) (q : GeQueue) :
    (geQueueTransmit env q).state.interface.lastResponse = 0 ∨
      (geQueueTransmit env q).state.interface.lastResponse = q.interface.lastResponse := by
  simp only [geQueueTransmit, geRs232SendMessage, geRs232WriteFrame]
  split
  · exact .inr rfl
  · split
    · exact .inr rfl
    · left
      split <;> rfl

theorem update_lastResponse (env : Env) (q : GeQueue) :
    (geQueueUpdate env q).state.interface.lastResponse = 0 ∨
      (geQueueUpdate env q).state.interface.lastResponse = q.interface.lastResponse := by
  rcases update_cases env q with ⟨-, hu⟩ | ⟨-, hu⟩ | ⟨-, -, -, hu⟩
  · rw [hu]
    exact .inr rfl
  · rw [hu]
    exact transmit_lastResponse env (geQueueDrop q)
  · rw [hu]
    exact transmit_lastResponse env q

theorem update_awaits (env : Env) (q : GeQueue)
    (hq : q.interface.lastResponse = 0 → q.head ≠ q.tail)
    (hlast : ¬ (q.GivesUp env ∧ q.head + 1 = q.tail)) :
    (geQueueUpdate env q).state.interface.lastResponse = 0 →
      (geQueueUpdate env q).state.head ≠ (geQueueUpdate env q).state.tail := by
  rcases update_cases env q with ⟨-, hu⟩ | ⟨hg, hu⟩ | ⟨hne, -, -, hu⟩
  · rw [hu]
    exact hq
  · rw [hu]
    intro _ he
    exact hlast ⟨hg, he⟩
  · rw [hu]
    intro _
    exact hne

theorem answer_ne_zero {byte : UInt8} (h : byte = geRs232Ack ∨ byte = geRs232Nak) : byte ≠ 0 := by
  rcases h with rfl | rfl <;> decide

theorem gotResponse_lastResponse (env : Env) (q : GeQueue) :
    (geQueueGotResponse env q).1.interface.lastResponse = q.interface.lastResponse := by
  cases gotResponse_cases env q with
  | inl h => rw [h.2]; rfl
  | inr h => rw [h.2.2]

/-- A new message is never the one given up: with no other message nothing has timed out. -/
theorem push_not_dropsLast {s : Link × List Unfinished} (h : Refines s) (data : List UInt8)
    (finished : Option ℕ) :
    ¬ ((geQueuePush s.1.queue data finished).GivesUp s.1.env ∧
        s.1.queue.head = s.1.queue.tail) := by
  rintro ⟨⟨-, ht, -⟩, he⟩
  have hne : s.1.queue.interface.lastResponse ≠ 0 := fun h0 => h.awaits h0 he
  rcases h.response with h0 | ha | hn
  · exact hne h0
  · simp [geQueuePush, geRs232ReadyToSend, ha] at ht
  · simp [geQueuePush, geRs232ReadyToSend, hn, geRs232Ack, geRs232Nak] at ht

theorem refines_not_full {s : Link × List Unfinished} (h : Refines s) (hlt : s.2.length < 7) :
    ¬ s.1.queue.Full := by
  rw [full_iff, h.contents]
  omega

/-- One step is in order exactly when it does not give up the last message. -/
theorem fifoStep_iff {s : Link × List Unfinished} {i : LinkStep} (h : Refines s)
    (hd : WithinCapacity s i) :
    (linkMachine.step s.1 i).1.queue.contents = fifo.after s.2 (linkMachine.step s.1 i).2 ∧
      (FifoStep s i ↔ ¬ DropsLast s.1 i) := by
  have hsame : ∀ {b : Prop}, (linkMachine.step s.1 i).1.queue.contents =
      fifo.after s.2 (linkMachine.step s.1 i).2 ∧
        (fifo.Accepts s.2 (linkMachine.step s.1 i).2 ↔ b) →
      (linkMachine.step s.1 i).1.queue.contents = fifo.after s.2 (linkMachine.step s.1 i).2 ∧
        (FifoStep s i ↔ b) := by
    rintro b ⟨hc, ha⟩
    refine ⟨hc, ?_⟩
    rw [FifoStep, isEmpty_iff, hc, ← ha]
    simp
  apply hsame
  cases i with
  | queueMessage data finished =>
    obtain ⟨hc, ha⟩ := message_fifo s.1.env h.contents data finished (refines_not_full h hd.2.2)
    exact ⟨hc, iff_of_true (ha.mpr (push_not_dropsLast h data finished)) (by simp [DropsLast])⟩
  | queueUpdate =>
    obtain ⟨hc, ha⟩ := update_fifo s.1.env h.contents
    refine ⟨hc, ha.trans ?_⟩
    simp [DropsLast]
  | receiveByte byte =>
    obtain ⟨hc, ha⟩ := receiveByte_fifo s.1.env h.contents h.awaits byte
    exact ⟨hc, iff_of_true ha (by simp [DropsLast])⟩
  | advance seconds => exact ⟨h.contents, iff_of_true trivial (by simp [DropsLast])⟩
  | sendReturns status => exact ⟨h.contents, iff_of_true trivial (by simp [DropsLast])⟩

/-- A byte changes what was last answered only by being an answer, and the ends of the queue only
by finishing a message. -/
theorem receiveByte_lastResponse (env : Env) (q : GeQueue) (byte : UInt8) :
    (byte = geRs232Ack ∨ byte = geRs232Nak) ∧
        (geQueueReceiveByte env q byte).1.interface.lastResponse = byte ∨
      (geQueueReceiveByte env q byte).1.interface.lastResponse = q.interface.lastResponse ∧
        (geQueueReceiveByte env q byte).1.head = q.head ∧
        (geQueueReceiveByte env q byte).1.tail = q.tail := by
  rcases queueReceiveByte_cases env q byte with
    ⟨hi, -, hr⟩ | ⟨hi, -, hr⟩ | ⟨-, j, out, hr, hs, -⟩
  · left
    rw [hr, gotResponse_lastResponse]
    exact ⟨hi.1, rfl⟩
  · left
    rw [hr]
    exact ⟨hi.1, rfl⟩
  · right
    rw [hr]
    exact ⟨hs.1, rfl, rfl⟩

theorem awaits_step {s : Link × List Unfinished} {i : LinkStep} (h : Refines s)
    (hd : WithinCapacity s i) (hl : ¬ DropsLast s.1 i)
    (h0 : (linkMachine.step s.1 i).1.queue.interface.lastResponse = 0) :
    (linkMachine.step s.1 i).1.queue.head ≠ (linkMachine.step s.1 i).1.queue.tail := by
  cases i with
  | queueMessage data finished =>
    refine update_awaits _ _ ?_ ?_ h0
    · intro _ he
      exact not_full_iff.mp (refines_not_full h hd.2.2) he.symm
    · rintro ⟨hg, he⟩
      exact push_not_dropsLast h data finished ⟨hg, (add_left_inj 1).mp he⟩
  | queueUpdate => exact update_awaits _ _ h.awaits (fun hg => hl ⟨rfl, hg⟩) h0
  | receiveByte byte =>
    simp only [linkMachine] at h0 ⊢
    rcases receiveByte_lastResponse s.1.env s.1.queue byte with ⟨ha, hb⟩ | ⟨hb, hh, ht⟩
    · rw [hb] at h0
      exact (answer_ne_zero ha h0).elim
    · rw [hh, ht]
      exact h.awaits (hb.symm.trans h0)
  | advance seconds => exact h.awaits h0
  | sendReturns status => exact h.awaits h0

theorem response_step {s : Link × List Unfinished} (h : Refines s) (i : LinkStep) :
    (linkMachine.step s.1 i).1.queue.interface.lastResponse = 0 ∨
      (linkMachine.step s.1 i).1.queue.interface.lastResponse = geRs232Ack ∨
      (linkMachine.step s.1 i).1.queue.interface.lastResponse = geRs232Nak := by
  cases i with
  | queueMessage data finished =>
    rcases update_lastResponse s.1.env (geQueuePush s.1.queue data finished) with h0 | hu
    · exact .inl h0
    · simp only [linkMachine, geQueueMessage, hu]
      exact h.response
  | queueUpdate =>
    rcases update_lastResponse s.1.env s.1.queue with h0 | hu
    · exact .inl h0
    · simp only [linkMachine, hu]
      exact h.response
  | receiveByte byte =>
    simp only [linkMachine]
    rcases receiveByte_lastResponse s.1.env s.1.queue byte with ⟨ha, hb⟩ | ⟨hb, -, -⟩
    · rw [hb]
      exact .inr ha
    · rw [hb]
      exact h.response
  | advance seconds => exact h.response
  | sendReturns status => exact h.response

theorem refines_step {s : Link × List Unfinished} {i : LinkStep} (h : Refines s)
    (hd : WithinCapacity s i) (hl : ¬ DropsLast s.1 i) :
    Refines ((fifo.watch linkMachine).step s i).1 where
  contents := (fifoStep_iff h hd).1
  awaits := awaits_step h hd hl
  response := response_step h i

theorem refines_init (env : Env) : Refines (linkInit env, []) := by
  refine ⟨?_, ?_, .inr (.inl rfl)⟩
  · exact contents_eq_nil.mpr rfl
  · intro h
    cases h

/-- A run within the ring's capacity is first-in, first-out exactly when no update in it gives up
the only message left. -/
theorem queue_refines_fifo_iff (env : Env) (steps : List LinkStep)
    (hd : (fifo.watch linkMachine).Along WithinCapacity (linkInit env, []) steps) :
    (fifo.watch linkMachine).Along FifoStep (linkInit env, []) steps ↔
      (fifo.watch linkMachine).Along (fun s i => ¬ DropsLast s.1 i) (linkInit env, []) steps :=
  Machine.along_iff_of_inv (fun _ _ h hd => (fifoStep_iff h hd).2)
    (fun _ _ h hd hl => refines_step h hd hl) (refines_init env) hd

/-- Two messages; the first is retried after a time-out and then acknowledged. -/
theorem queue_refines_fifo_retry :
    (fifo.watch linkMachine).Along FifoStep (linkInit ⟨0, .ok⟩, [])
        [.queueMessage [0x20] (some 0), .queueMessage [0x02] (some 1), .advance 2, .queueUpdate,
          .receiveByte 0x06, .queueUpdate] ↔
      (fifo.watch linkMachine).Along (fun s i => ¬ DropsLast s.1 i) (linkInit ⟨0, .ok⟩, [])
        [.queueMessage [0x20] (some 0), .queueMessage [0x02] (some 1), .advance 2, .queueUpdate,
          .receiveByte 0x06, .queueUpdate] :=
  queue_refines_fifo_iff ⟨0, .ok⟩ _ (by decide +kernel)

/-- Seven acknowledged messages fill the ring with old payloads; the eighth is never answered. -/
def unansweredRun : List LinkStep :=
  (List.range 7).flatMap (fun k =>
    [.queueMessage [0x30 + UInt8.ofNat k] (some k), .receiveByte geRs232Ack]) ++
  [.queueMessage [0x20] (some 7), .advance 2, .queueUpdate, .advance 2, .queueUpdate,
    .advance 2, .queueUpdate]

/-- The last update gives up the eighth message and sends the first one again. -/
theorem queue_sends_finished_message :
    (fifo.watch linkMachine).Along WithinCapacity (linkInit ⟨0, .ok⟩, []) unansweredRun ∧
      ¬ (fifo.watch linkMachine).Along FifoStep (linkInit ⟨0, .ok⟩, []) unansweredRun ∧
      (linkMachine.trace (linkInit ⟨0, .ok⟩) unansweredRun).drop 49 =
        [.finished (some 7) .timeout, .sendMessage [0x30], .sendBytes (geRs232Frame [0x30])] := by
  decide +kernel

end Concordd
