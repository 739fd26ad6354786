import Concordd.Library.RingBuffer
import Concordd.Rs232.Receiver

/-! The message queue over the serial interface, and the two of them as a machine. -/
namespace Concordd

abbrev geQueueMaxMessages : ℕ := 8

instance neZeroGeQueueMaxMessages : NeZero geQueueMaxMessages := ⟨by decide⟩

/-- `struct ge_message_s`: `msg` is the first `msg_len` bytes of the array, and `finished` stands
for the callback with its context, `none` for `NULL`. -/
structure GeMessage where
  msg : List UInt8
  attempts : UInt8
  finished : Option ℕ

/-- `struct ge_queue_s`, with the interface it points to. -/
structure GeQueue where
  interface : GeRs232
  queue : Fin geQueueMaxMessages → GeMessage
  head : Fin geQueueMaxMessages
  tail : Fin geQueueMaxMessages

/-- `ge_queue_init` on the zeroed memory `concordd_init` gives it. -/
def geQueueInit (interface : GeRs232) : GeQueue where
  interface := interface
  queue := fun _ => ⟨[], 0, none⟩
  head := 0
  tail := 0

/-- `ge_queue_got_response`. It asks the interface for the status and ignores its `didAck`. -/
def geQueueGotResponse (env : Env) (q : GeQueue) : GeQueue × List LinkEvent :=
  let status := geRs232ReadyToSend env q.interface
  let message := q.queue q.head
  let interface := { q.interface with gotResponse := false }
  if status = .ok ∨ 3 ≤ message.attempts then
    ({ q with interface, head := q.head + 1 }, [.finished message.finished status])
  else
    ({ q with interface }, [])

def geQueueIsEmpty (q : GeQueue) : Bool := q.head = q.tail

/-- The end of `ge_queue_update`, which sends the message at the head. -/
def geQueueTransmit (env : Env) (q : GeQueue) : Outcome GeQueue LinkEvent :=
  let message := q.queue q.head
  let sent := geRs232SendMessage env { q.interface with gotResponse := true } message.msg
  ⟨{ q with
      interface := sent.state
      queue := Function.update q.queue q.head { message with attempts := message.attempts + 1 } },
    .sendMessage message.msg :: sent.out, sent.status⟩

def geQueueUpdate (env : Env) (q : GeQueue) : Outcome GeQueue LinkEvent :=
  if q.head = q.tail then ⟨q, [], .ok⟩
  else if geRs232ReadyToSend env q.interface = .wait then ⟨q, [], .ok⟩
  else
    let responded :=
      if geRs232ReadyToSend env q.interface = .timeout ∧ q.interface.gotResponse then
        geQueueGotResponse env q
      else (q, [])
    let sent := geQueueTransmit env responded.1
    ⟨sent.state, responded.2 ++ sent.out, sent.status⟩

/-- The slot write and the advance of `tail` in `ge_queue_message`. -/
def geQueuePush (q : GeQueue) (data : List UInt8) (finished : Option ℕ) : GeQueue :=
  { q with
    queue := Function.update q.queue q.tail ⟨data, 0, finished⟩
    tail := q.tail + 1 }

def GeQueue.Full (q : GeQueue) : Prop := q.tail - q.head = 7

instance (q : GeQueue) : Decidable q.Full := inferInstanceAs (Decidable (_ = _))

/-- `ge_queue_message`. A full queue changes the status it returns, and nothing else. -/
def geQueueMessage (env : Env) (q : GeQueue) (data : List UInt8) (finished : Option ℕ) :
    Outcome GeQueue LinkEvent :=
  let status : GeRs232Status := if q.Full then .queueFull else .ok
  let updated := geQueueUpdate env (geQueuePush q data finished)
  ⟨updated.state, .queueMessage data finished status :: updated.out, status⟩

/-- `got_response` runs inside `ge_rs232_receive_byte` where that calls it. -/
def geQueueDispatch (env : Env) : GeQueue → List LinkEvent → GeQueue × List LinkEvent
  | q, [] => (q, [])
  | q, .gotResponse didAck :: events =>
    let responded := geQueueGotResponse env q
    let rest := geQueueDispatch env responded.1 events
    (rest.1, .gotResponse didAck :: (responded.2 ++ rest.2))
  | q, event :: events =>
    let rest := geQueueDispatch env q events
    (rest.1, event :: rest.2)

/-- `ge_rs232_receive_byte` on the queue's interface. -/
def geQueueReceiveByte (env : Env) (q : GeQueue) (byte : UInt8) : GeQueue × List LinkEvent :=
  let r := geRs232ReceiveByte q.interface byte
  let dispatched := geQueueDispatch env { q with interface := r.state } r.out
  (dispatched.1, .byteReceived byte :: dispatched.2)

/-! The queue, its interface and what lies outside them. -/

structure Link where
  queue : GeQueue
  env : Env

inductive LinkStep
  | queueMessage (data : List UInt8) (finished : Option ℕ)
  | queueUpdate
  | receiveByte (byte : UInt8)
  | advance (seconds : ℕ)
  | sendReturns (status : GeRs232Status)
  deriving DecidableEq

def linkMachine : Machine Link LinkStep LinkEvent where
  step s
    | .queueMessage data finished =>
      let r := geQueueMessage s.env s.queue data finished
      ({ s with queue := r.state }, r.out)
    | .queueUpdate =>
      let r := geQueueUpdate s.env s.queue
      ({ s with queue := r.state }, r.out)
    | .receiveByte byte =>
      let r := geQueueReceiveByte s.env s.queue byte
      ({ s with queue := r.1 }, r.2)
    | .advance seconds => ({ s with env := { s.env with now := s.env.now + seconds } }, [])
    | .sendReturns status => ({ s with env := { s.env with sendRet := status } }, [])

/-- The link after `concordd_init`, at any time. -/
def linkInit (env : Env) : Link := ⟨geQueueInit geRs232Init, env⟩

/-- No message is enqueued on a full ring. -/
def HasRoom (s : Link) : LinkStep → Prop
  | .queueMessage _ _ => ¬ s.queue.Full
  | _ => True

instance (s : Link) : ∀ i, Decidable (HasRoom s i)
  | .queueMessage _ _ => inferInstanceAs (Decidable (¬ s.queue.Full))
  | .queueUpdate => inferInstanceAs (Decidable True)
  | .receiveByte _ => inferInstanceAs (Decidable True)
  | .advance _ => inferInstanceAs (Decidable True)
  | .sendReturns _ => inferInstanceAs (Decidable True)

/-! What each operation can do. -/

/-- The message in flight has had no answer in time after its third attempt. -/
def GeQueue.GivesUp (env : Env) (q : GeQueue) : Prop :=
  q.head ≠ q.tail ∧ geRs232ReadyToSend env q.interface = .timeout ∧
    q.interface.gotResponse = true ∧ 3 ≤ (q.queue q.head).attempts

instance (env : Env) (q : GeQueue) : Decidable (q.GivesUp env) :=
  inferInstanceAs (Decidable (_ ∧ _ ∧ _ ∧ _))

/-- The state between a time-out's `ge_queue_got_response` and the send that follows it. -/
def geQueueDrop (q : GeQueue) : GeQueue :=
  { q with interface := { q.interface with gotResponse := false }, head := q.head + 1 }

theorem gotResponse_cases (env : Env) (q : GeQueue) :
    ((geRs232ReadyToSend env q.interface = .ok ∨ 3 ≤ (q.queue q.head).attempts) ∧
      geQueueGotResponse env q = (geQueueDrop q,
        [.finished (q.queue q.head).finished (geRs232ReadyToSend env q.interface)])) ∨
    (geRs232ReadyToSend env q.interface ≠ .ok ∧ ¬ 3 ≤ (q.queue q.head).attempts ∧
      geQueueGotResponse env q =
        ({ q with interface := { q.interface with gotResponse := false } }, [])) := by
  by_cases h : geRs232ReadyToSend env q.interface = .ok ∨ 3 ≤ (q.queue q.head).attempts
  · left
    simp [geQueueGotResponse, geQueueDrop, h]
  · right
    have hb := not_or.mp h
    simp [geQueueGotResponse, hb]

/-- `ge_queue_update` does nothing, or sends the head, or gives the head up and sends the next
slot, whatever that holds. -/
theorem update_cases (env : Env) (q : GeQueue) :
    ((q.head = q.tail ∨ geRs232ReadyToSend env q.interface = .wait) ∧
      geQueueUpdate env q = ⟨q, [], .ok⟩) ∨
    (q.GivesUp env ∧ geQueueUpdate env q =
      ⟨(geQueueTransmit env (geQueueDrop q)).state,
        .finished (q.queue q.head).finished .timeout :: (geQueueTransmit env (geQueueDrop q)).out,
        (geQueueTransmit env (geQueueDrop q)).status⟩) ∨
    (q.head ≠ q.tail ∧ geRs232ReadyToSend env q.interface ≠ .wait ∧ ¬ q.GivesUp env ∧
      geQueueUpdate env q = geQueueTransmit env q) := by
  by_cases he : q.head = q.tail
  · left
    simp [geQueueUpdate, he]
  by_cases hw : geRs232ReadyToSend env q.interface = .wait
  · left
    simp [geQueueUpdate, he, hw]
  right
  by_cases ht : geRs232ReadyToSend env q.interface = .timeout ∧ q.interface.gotResponse
  · cases gotResponse_cases env q with
    | inl h =>
      left
      have ha : 3 ≤ (q.queue q.head).attempts := by simpa [ht.1] using h.1
      refine ⟨⟨he, ht.1, ht.2, ha⟩, ?_⟩
      simp [geQueueUpdate, he, ht, h.2]
    | inr h =>
      right
      refine ⟨he, hw, fun hg => h.2.1 hg.2.2.2, ?_⟩
      -- clearing the hook is undone by the send
      simp [geQueueUpdate, he, ht, h.2.2, geQueueTransmit]
  · right
    refine ⟨he, hw, fun hg => ht ⟨hg.2.1, hg.2.2.1⟩, ?_⟩
    simp [geQueueUpdate, he, hw, ht]

theorem dispatch_of_lineCalls (env : Env) (q : GeQueue) {events : List LinkEvent}
    (h : LineCalls events) : geQueueDispatch env q events = (q, events) := by
  rcases h with rfl | rfl | ⟨buffer, len, rfl⟩ <;> rfl

/-- The link with the panel's answer recorded, before the queue hears of it. -/
def geQueueAnswered (q : GeQueue) (byte : UInt8) : GeQueue :=
  { q with interface := { q.interface with lastResponse := byte } }

/-- A byte is an answer to a message in flight, or it only changes the receiver. -/
theorem queueReceiveByte_cases (env : Env) (q : GeQueue) (byte : UInt8) :
    (Intercepted q.interface byte ∧ q.interface.gotResponse = true ∧
      geQueueReceiveByte env q byte =
        ((geQueueGotResponse env (geQueueAnswered q byte)).1,
          .byteReceived byte :: .gotResponse (byte == geRs232Ack) ::
            (geQueueGotResponse env (geQueueAnswered q byte)).2)) ∨
    (Intercepted q.interface byte ∧ q.interface.gotResponse = false ∧
      geQueueReceiveByte env q byte = (geQueueAnswered q byte, [.byteReceived byte])) ∨
    (¬ Intercepted q.interface byte ∧
      ∃ interface out, geQueueReceiveByte env q byte =
          ({ q with interface }, .byteReceived byte :: out) ∧
        SameSender interface q.interface ∧ LineCalls out) := by
  by_cases hi : Intercepted q.interface byte
  · cases hg : q.interface.gotResponse with
    | true =>
      left
      refine ⟨hi, rfl, ?_⟩
      simp [geQueueReceiveByte, receiveByte_answer hi, hg, geQueueDispatch, geQueueAnswered]
    | false =>
      right
      left
      refine ⟨hi, rfl, ?_⟩
      simp [geQueueReceiveByte, receiveByte_answer hi, hg, geQueueDispatch, geQueueAnswered]
  · right
    right
    obtain ⟨hs, hl⟩ := receiveByte_calls hi
    refine ⟨hi, (geRs232ReceiveByte q.interface byte).state,
      (geRs232ReceiveByte q.interface byte).out, ?_, hs, hl⟩
    simp [geQueueReceiveByte, dispatch_of_lineCalls env _ hl]

end Concordd
