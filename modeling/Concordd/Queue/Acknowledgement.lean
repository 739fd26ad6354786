import Concordd.Queue.Fifo

/-! Which message an acknowledgement is for, and when success is reported. -/
namespace Concordd

/-- How far an unfinished message has come on the line since it was enqueued. A message is
overtaken when another one is transmitted before it is acknowledged. -/
inductive Phase
  | unsent | sent | acknowledged | overtaken
  deriving DecidableEq

structure Tracked where
  message : Unfinished
  phase : Phase

def Tracked.hearFrame (m : Tracked) (bytes : List UInt8) : Tracked :=
  if bytes = geRs232Frame m.message.data then { m with phase := .sent }
  else if m.phase = .sent then { m with phase := .overtaken }
  else m

def Tracked.hearAck (m : Tracked) : Tracked :=
  if m.phase = .sent then { m with phase := .acknowledged } else m

/-- Success may be reported for a message only after it was transmitted, and acknowledged after
its last transmission, before any other message was transmitted. -/
def acknowledgements : Monitor (List Tracked) LinkEvent where
  next l
    | .queueMessage data finished _ => l ++ [⟨⟨data, finished⟩, .unsent⟩]
    | .finished callback _ => l.eraseP (·.message.finished = callback)
    | .byteReceived byte => if byte = geRs232Ack then l.map .hearAck else l
    | .sendBytes bytes =>
      -- a single byte answers the panel's own frames
      if bytes = [geRs232Ack] ∨ bytes = [geRs232Nak] then l else l.map (·.hearFrame bytes)
    | _ => l
  Allows l
    | .finished callback .ok =>
      (l.find? (·.message.finished = callback)).map (·.phase) = some .acknowledged
    | _ => True

instance : ∀ l e, Decidable (acknowledgements.Allows l e)
  | l, .finished callback .ok =>
    inferInstanceAs (Decidable
      ((l.find? (·.message.finished = callback)).map (·.phase) = some .acknowledged))
  | _, .finished _ .error | _, .finished _ .wait | _, .finished _ .nak | _, .finished _ .timeout
  | _, .finished _ .messageTooBig | _, .finished _ .junk | _, .finished _ .badChecksum
  | _, .finished _ .messageTooSmall | _, .finished _ .queueFull
  | _, .finished _ .invalidArgument | _, .finished _ .already | _, .finished _ .forbidden =>
    inferInstanceAs (Decidable True)
  | _, .sendMessage _ => inferInstanceAs (Decidable True)
  | _, .byteReceived _ => inferInstanceAs (Decidable True)
  | _, .sendBytes _ => inferInstanceAs (Decidable True)
  | _, .receivedMessage _ _ => inferInstanceAs (Decidable True)
  | _, .gotResponse _ => inferInstanceAs (Decidable True)
  | _, .queueMessage _ _ _ => inferInstanceAs (Decidable True)

variable {q : GeQueue} {l : List Tracked}

/-! The tracked messages are the unfinished ones. -/

@[simp] theorem hearFrame_message (m : Tracked) (bytes : List UInt8) :
    (m.hearFrame bytes).message = m.message := by
  unfold Tracked.hearFrame
  split
  · rfl
  · split <;> rfl

@[simp] theorem hearAck_message (m : Tracked) : m.hearAck.message = m.message := by
  unfold Tracked.hearAck
  split <;> rfl

theorem next_messages (l : List Tracked) (e : LinkEvent) :
    (acknowledgements.next l e).map (·.message) = fifo.next (l.map (·.message)) e := by
  cases e with
  | byteReceived byte =>
    simp only [acknowledgements, fifo]
    split
    · simp [Function.comp_def]
    · rfl
  | sendBytes bytes =>
    simp only [acknowledgements, fifo]
    split
    · rfl
    · simp [Function.comp_def]
  | finished callback status =>
    simp only [acknowledgements, fifo, List.eraseP_map]
    rfl
  | queueMessage data finished status => simp [acknowledgements, fifo]
  | _ => rfl

theorem after_messages (l : List Tracked) (out : List LinkEvent) :
    (acknowledgements.after l out).map (·.message) = fifo.after (l.map (·.message)) out := by
  induction out generalizing l with
  | nil => rfl
  | cons e out ih => rw [Monitor.after_cons, Monitor.after_cons, ih, next_messages]

/-! One operation of the queue. -/

/-- An answer is awaited only for the oldest message, and only after it was transmitted. -/
structure Awaiting (q : GeQueue) (l : List Tracked) : Prop where
  contents : q.contents = l.map (·.message)
  inFlight : q.interface.lastResponse = 0 →
    q.interface.gotResponse = true ∧ l.head?.map (·.phase) = some .sent

theorem Awaiting.head_ne_tail (h : Awaiting q l) (h0 : q.interface.lastResponse = 0) :
    q.head ≠ q.tail := by
  intro he
  have hnil := h.contents
  rw [contents_eq_nil.mpr he, eq_comm, List.map_eq_nil_iff] at hnil
  have hf := (h.inFlight h0).2
  simp [hnil] at hf

/-- The message at the head can be put on the line. -/
def GeQueue.HeadSendable (q : GeQueue) : Prop :=
  q.head ≠ q.tail ∧ 1 ≤ (q.queue q.head).msg.length ∧
    (q.queue q.head).msg.length ≤ geRs232MaxMessageSize

instance (q : GeQueue) : Decidable q.HeadSendable := inferInstanceAs (Decidable (_ ∧ _ ∧ _))

theorem frame_ne_answer (data : List UInt8) :
    ¬ (geRs232Frame data = [geRs232Ack] ∨ geRs232Frame data = [geRs232Nak]) := by
  simp [geRs232Frame]

/-- A message of a size that can be sent is sent. -/
theorem transmit_sent (env : Env) (hpos : 1 ≤ (q.queue q.head).msg.length)
    (hle : (q.queue q.head).msg.length ≤ geRs232MaxMessageSize) :
    (geQueueTransmit env q).out =
        [.sendMessage (q.queue q.head).msg, .sendBytes (geRs232Frame (q.queue q.head).msg)] ∧
      (geQueueTransmit env q).state.interface.lastResponse = 0 ∧
      (geQueueTransmit env q).state.interface.gotResponse = true := by
  have hbig : ¬ geRs232MaxMessageSize < (q.queue q.head).msg.length := by omega
  have hempty : (q.queue q.head).msg.length ≠ 0 := by omega
  simp only [geQueueTransmit, geRs232SendMessage, if_neg hbig, if_neg hempty, geRs232WriteFrame]
  split <;> exact ⟨rfl, rfl, rfl⟩

theorem transmit_sendable (env : Env) (h : q.HeadSendable) :
    (geQueueTransmit env q).out =
        [.sendMessage (q.queue q.head).msg, .sendBytes (geRs232Frame (q.queue q.head).msg)] ∧
      (geQueueTransmit env q).state.interface.lastResponse = 0 ∧
      (geQueueTransmit env q).state.interface.gotResponse = true :=
  transmit_sent env h.2.1 h.2.2

theorem transmit_unsendable (env : Env) (hne : q.head ≠ q.tail) (h : ¬ q.HeadSendable) :
    (geQueueTransmit env q).out = [.sendMessage (q.queue q.head).msg] ∧
      (geQueueTransmit env q).state.interface.lastResponse = q.interface.lastResponse ∧
      (geQueueTransmit env q).state.interface.gotResponse = true := by
  by_cases hbig : geRs232MaxMessageSize < (q.queue q.head).msg.length
  · simp [geQueueTransmit, geRs232SendMessage, hbig]
  · have hempty : (q.queue q.head).msg.length = 0 := by
      by_contra hpos
      exact h ⟨hne, by omega, by omega⟩
    simp [geQueueTransmit, geRs232SendMessage, hempty]

/-- Transmitting the head makes it the message an answer is awaited for. -/
theorem transmit_awaiting (env : Env) (hc : q.contents = l.map (·.message))
    (hs : q.HeadSendable) :
    acknowledgements.Accepts l (geQueueTransmit env q).out ∧
      Awaiting (geQueueTransmit env q).state
        (acknowledgements.after l (geQueueTransmit env q).out) := by
  obtain ⟨hout, h0, hhook⟩ := transmit_sendable env hs
  have hcont : (geQueueTransmit env q).state.contents =
      (acknowledgements.after l (geQueueTransmit env q).out).map (·.message) := by
    rw [after_messages, ← hc, transmit_after, contents_transmit]
  refine ⟨by rw [hout]; simp [acknowledgements], hcont, fun _ => ⟨hhook, ?_⟩⟩
  rw [contents_cons hs.1] at hc
  cases l with
  | nil => cases hc
  | cons m l =>
    obtain ⟨hm, -⟩ := List.cons.inj hc
    simp [hout, acknowledgements, frame_ne_answer, Tracked.hearFrame, ← hm, GeQueue.entry]

/-- Every message an update goes on to after giving one up can be put on the line. -/
def GeQueue.GivesWay (env : Env) (q : GeQueue) : Prop :=
  q.GivesUp env → (geQueueDrop q).HeadSendable

instance (env : Env) (q : GeQueue) : Decidable (q.GivesWay env) :=
  inferInstanceAs (Decidable (_ → _))

theorem update_awaiting (env : Env) (h : Awaiting q l) (hg : q.GivesWay env) :
    acknowledgements.Accepts l (geQueueUpdate env q).out ∧
      Awaiting (geQueueUpdate env q).state
        (acknowledgements.after l (geQueueUpdate env q).out) := by
  rcases update_cases env q with ⟨-, hu⟩ | ⟨hup, hu⟩ | ⟨hne, -, -, hu⟩
  · rw [hu]
    exact ⟨trivial, h⟩
  · have hdrop : (geQueueDrop q).contents =
        (acknowledgements.next l (.finished (q.queue q.head).finished .timeout)).map
          (·.message) := by
      rw [next_messages, ← h.contents, contents_cons hup.1]
      simp [fifo, GeQueue.entry]
    obtain ⟨hacc, haw⟩ := transmit_awaiting env hdrop (hg hup)
    rw [hu]
    exact ⟨⟨trivial, hacc⟩, haw⟩
  · rw [hu]
    by_cases hs : q.HeadSendable
    · exact transmit_awaiting env h.contents hs
    · -- nothing reaches the line, so whatever was awaited still is
      obtain ⟨hout, hlast, hhook⟩ := transmit_unsendable env hne hs
      have hafter : acknowledgements.after l (geQueueTransmit env q).out = l := by
        rw [hout]
        rfl
      refine ⟨by rw [hout]; simp [acknowledgements], ?_, fun h0 => ⟨hhook, ?_⟩⟩
      · rw [hafter, contents_transmit]
        exact h.contents
      · rw [hafter]
        exact (h.inFlight (hlast ▸ h0)).2

theorem push_awaiting (h : Awaiting q l) (data : List UInt8) (finished : Option ℕ)
    (hfull : ¬ q.Full) :
    Awaiting (geQueuePush q data finished) (l ++ [⟨⟨data, finished⟩, .unsent⟩]) := by
  refine ⟨?_, ?_⟩
  · rw [contents_push data finished hfull, h.contents]
    simp
  · intro h0
    obtain ⟨hhook, hsent⟩ := h.inFlight h0
    refine ⟨hhook, ?_⟩
    cases l with
    | nil => cases hsent
    | cons m l => simpa using hsent

theorem lineCalls_fixed {out : List LinkEvent} (h : LineCalls out) :
    acknowledgements.Accepts l out ∧ acknowledgements.after l out = l := by
  rcases h with rfl | rfl | ⟨buffer, len, rfl⟩ <;> simp [acknowledgements]

/-- The answer to the message in flight: success is reported for an acknowledgement only. -/
theorem answer_accepts (env : Env) {byte : UInt8} (h : Awaiting q l)
    (hi : Intercepted q.interface byte) :
    acknowledgements.Accepts l (.byteReceived byte :: .gotResponse (byte == geRs232Ack) ::
      (geQueueGotResponse env (geQueueAnswered q byte)).2) := by
  refine ⟨trivial, trivial, ?_⟩
  have hc := h.contents
  rw [contents_cons (h.head_ne_tail hi.2)] at hc
  obtain ⟨-, hsent⟩ := h.inFlight hi.2
  cases l with
  | nil => cases hc
  | cons m l =>
    obtain ⟨hm, -⟩ := List.cons.inj hc
    simp only [List.head?_cons, Option.map_some, Option.some.injEq] at hsent
    cases gotResponse_cases env (geQueueAnswered q byte) with
    | inr hno =>
      rw [hno.2.2]
      trivial
    | inl hyes =>
      rw [hyes.2]
      refine ⟨?_, trivial⟩
      rcases hi.1 with rfl | rfl
      · have hready : geRs232ReadyToSend env (geQueueAnswered q geRs232Ack).interface = .ok := by
          simp [geRs232ReadyToSend, geQueueAnswered]
        rw [hready]
        simp [acknowledgements, Tracked.hearAck, hsent, ← hm, GeQueue.entry, geQueueAnswered]
      · have hready : geRs232ReadyToSend env (geQueueAnswered q geRs232Nak).interface = .nak := by
          simp [geRs232ReadyToSend, geQueueAnswered, geRs232Ack, geRs232Nak]
        rw [hready]
        trivial

theorem receiveByte_awaiting (env : Env) (h : Awaiting q l) (byte : UInt8) :
    acknowledgements.Accepts l (geQueueReceiveByte env q byte).2 ∧
      Awaiting (geQueueReceiveByte env q byte).1
        (acknowledgements.after l (geQueueReceiveByte env q byte).2) := by
  have hcont : (geQueueReceiveByte env q byte).1.contents =
      (acknowledgements.after l (geQueueReceiveByte env q byte).2).map (·.message) := by
    rw [after_messages]
    exact (receiveByte_fifo env h.contents h.head_ne_tail byte).1
  rcases queueReceiveByte_cases env q byte with
    ⟨hi, -, hr⟩ | ⟨hi, -, hr⟩ | ⟨hi, j, out, hr, hs, hl⟩
  · refine ⟨hr ▸ answer_accepts env h hi, hcont, ?_⟩
    rw [hr, gotResponse_lastResponse]
    intro h0
    exact (answer_ne_zero hi.1 h0).elim
  · refine ⟨by rw [hr]; simp [acknowledgements], hcont, ?_⟩
    rw [hr]
    intro h0
    exact (answer_ne_zero hi.1 h0).elim
  · rw [hr] at hcont ⊢
    obtain ⟨hacc, hafter⟩ := lineCalls_fixed (l := acknowledgements.next l (.byteReceived byte)) hl
    refine ⟨⟨trivial, hacc⟩, hcont, ?_⟩
    rw [Monitor.after_cons, hafter, hs.1, hs.2.2.2.2]
    intro h0
    have hack : byte ≠ geRs232Ack := fun ha => hi ⟨.inl ha, h0⟩
    simpa [acknowledgements, hack] using h.inFlight h0

/-! Runs. -/

/-- An update that gives a message up goes on to a message it can send. -/
def SendsNext (s : Link) : LinkStep → Prop
  | .queueMessage data finished => (geQueuePush s.queue data finished).GivesWay s.env
  | .queueUpdate => s.queue.GivesWay s.env
  | _ => True

instance (s : Link) : ∀ i, Decidable (SendsNext s i)
  | .queueMessage _ _ => inferInstanceAs (Decidable (GeQueue.GivesWay _ _))
  | .queueUpdate => inferInstanceAs (Decidable (GeQueue.GivesWay _ _))
  | .receiveByte _ => inferInstanceAs (Decidable True)
  | .advance _ => inferInstanceAs (Decidable True)
  | .sendReturns _ => inferInstanceAs (Decidable True)

theorem awaiting_step {s : Link × List Tracked} {i : LinkStep} (h : Awaiting s.1.queue s.2)
    (hi : HasRoom s.1 i ∧ SendsNext s.1 i) :
    acknowledgements.Accepts s.2 (linkMachine.step s.1 i).2 ∧
      Awaiting (linkMachine.step s.1 i).1.queue
        (acknowledgements.after s.2 (linkMachine.step s.1 i).2) := by
  cases i with
  | queueMessage data finished =>
    have hu := update_awaiting s.1.env (push_awaiting h data finished hi.1) hi.2
    exact ⟨⟨trivial, hu.1⟩, hu.2⟩
  | queueUpdate => exact update_awaiting s.1.env h hi.2
  | receiveByte byte => exact receiveByte_awaiting s.1.env h byte
  | advance seconds => exact ⟨trivial, h⟩
  | sendReturns status => exact ⟨trivial, h⟩

theorem awaiting_init (env : Env) : Awaiting (linkInit env).queue [] := by
  refine ⟨contents_eq_nil.mpr rfl, ?_⟩
  intro h
  cases h

/-- In a run that never overflows, and never gives up a message without another one to send,
success is reported only for messages that were sent and acknowledged. -/
theorem success_only_after_ack (env : Env) (steps : List LinkStep)
    (hroom : linkMachine.Along HasRoom (linkInit env) steps)
    (hnext : linkMachine.Along SendsNext (linkInit env) steps) :
    acknowledgements.Accepts [] (linkMachine.trace (linkInit env) steps) :=
  Monitor.accepts_of_inv (I := fun s => Awaiting s.1.queue s.2)
    (P := fun s i => HasRoom s i ∧ SendsNext s i) (fun _ _ h hi => awaiting_step h hi)
    (awaiting_init env) (Machine.along_and.mpr ⟨hroom, hnext⟩)

/-- The first message is given up after three attempts; the second is sent and acknowledged. -/
theorem success_only_after_ack_retry :
    acknowledgements.Accepts [] (linkMachine.trace (linkInit ⟨0, .ok⟩)
      [.queueMessage [0x20] (some 0), .queueMessage [0x02] (some 1), .advance 2, .queueUpdate,
        .advance 2, .queueUpdate, .advance 2, .queueUpdate, .receiveByte 0x06]) :=
  success_only_after_ack ⟨0, .ok⟩ _ (by decide +kernel) (by decide +kernel)

/-- After the last message is given up, one more is enqueued before the late answer comes. -/
def lateAnswerRun : List LinkStep :=
  unansweredRun ++ [.queueMessage [0x40] (some 8), .receiveByte geRs232Ack]

/-- The late answer reports success for a message that was never transmitted. -/
theorem success_without_transmission :
    linkMachine.Along HasRoom (linkInit ⟨0, .ok⟩) lateAnswerRun ∧
      ¬ acknowledgements.Accepts [] (linkMachine.trace (linkInit ⟨0, .ok⟩) lateAnswerRun) ∧
      (linkMachine.trace (linkInit ⟨0, .ok⟩) lateAnswerRun).drop 52 =
        [.queueMessage [0x40] (some 8) .ok, .byteReceived geRs232Ack, .gotResponse true,
          .finished (some 8) .ok] := by
  decide +kernel

end Concordd
