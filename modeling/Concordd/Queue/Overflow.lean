import Concordd.Queue.Effects

/-! Enqueueing on a full ring, and when the ring keeps what is unfinished. -/
namespace Concordd

open RingBuffer

variable {q : GeQueue} {l : List Unfinished}

/-! The unfinished messages stay in the ring, in order. -/

theorem drop_covers (h : l.Sublist q.contents) :
    (l.eraseP (·.finished = (q.queue q.head).finished)).Sublist (geQueueDrop q).contents := by
  by_cases he : q.head = q.tail
  · rw [contents_eq_nil.mpr he, List.sublist_nil] at h
    subst h
    simp
  · rw [contents_cons he] at h
    cases h with
    | cons _ h => exact List.eraseP_sublist.trans h
    | cons_cons _ h => simpa [GeQueue.entry] using h

theorem gotResponse_covers (env : Env) (h : l.Sublist q.contents) :
    (fifo.after l (geQueueGotResponse env q).2).Sublist (geQueueGotResponse env q).1.contents := by
  cases gotResponse_cases env q with
  | inl hg =>
    rw [hg.2]
    exact drop_covers h
  | inr hg =>
    rw [hg.2.2]
    exact h

theorem update_covers (env : Env) (h : l.Sublist q.contents) :
    (fifo.after l (geQueueUpdate env q).out).Sublist (geQueueUpdate env q).state.contents := by
  rcases update_cases env q with ⟨-, hu⟩ | ⟨-, hu⟩ | ⟨-, -, -, hu⟩
  · rw [hu]
    exact h
  · rw [hu, Monitor.after_cons, transmit_after, contents_transmit]
    exact drop_covers h
  · rw [hu, transmit_after, contents_transmit]
    exact h

theorem message_covers (env : Env) (h : l.Sublist q.contents) (data : List UInt8)
    (finished : Option ℕ) (hfull : ¬ q.Full) :
    (fifo.after l (geQueueMessage env q data finished).out).Sublist
      (geQueueMessage env q data finished).state.contents := by
  apply update_covers
  rw [contents_push data finished hfull]
  exact h.append_right _

theorem receiveByte_covers (env : Env) (h : l.Sublist q.contents) (byte : UInt8) :
    (fifo.after l (geQueueReceiveByte env q byte).2).Sublist
      (geQueueReceiveByte env q byte).1.contents := by
  rcases queueReceiveByte_cases env q byte with ⟨-, -, hr⟩ | ⟨-, -, hr⟩ | ⟨-, i, out, hr, -, hl⟩
  · rw [hr]
    exact gotResponse_covers env (q := geQueueAnswered q byte) h
  · rw [hr]
    exact h
  · rw [hr, Monitor.after_cons]
    exact ((fifo_lineCalls hl).2.symm ▸ h : (fifo.after l out).Sublist q.contents)

theorem covers_step {s : Link × List Unfinished} {i : LinkStep}
    (h : s.2.Sublist s.1.queue.contents) (hroom : HasRoom s.1 i) :
    (fifo.after s.2 (linkMachine.step s.1 i).2).Sublist
      (linkMachine.step s.1 i).1.queue.contents := by
  cases i with
  | queueMessage data finished =>
    exact message_covers s.1.env h data finished hroom
  | queueUpdate => exact update_covers s.1.env h
  | receiveByte byte => exact receiveByte_covers s.1.env h byte
  | advance seconds => exact h
  | sendReturns status => exact h

/-- While every message finds room, a queue with unfinished messages never says it is empty. -/
theorem not_isEmpty_of_unfinished (env : Env) (steps : List LinkStep)
    (hroom : linkMachine.Along HasRoom (linkInit env) steps)
    (hne : ((fifo.watch linkMachine).run (linkInit env, []) steps).2 ≠ []) :
    geQueueIsEmpty ((fifo.watch linkMachine).run (linkInit env, []) steps).1.queue = false := by
  have hinv : ((fifo.watch linkMachine).run (linkInit env, []) steps).2.Sublist
      ((fifo.watch linkMachine).run (linkInit env, []) steps).1.queue.contents := by
    have hstep : ∀ s i, (fun s : Link × List Unfinished => s.2.Sublist s.1.queue.contents) s →
        HasRoom s.1 i → (fun s : Link × List Unfinished => s.2.Sublist s.1.queue.contents)
          ((fifo.watch linkMachine).step s i).1 := fun s i => covers_step
    exact Machine.inv_run hstep (List.nil_sublist _) (Monitor.watch_along.mpr hroom)
  by_contra hempty
  rw [Bool.not_eq_false, isEmpty_iff] at hempty
  rw [hempty, List.sublist_nil] at hinv
  exact hne hinv

/-! One enqueue. -/

/-- The enqueue left the queue alone, and nothing that happens later has to do with it. -/
structure RejectLeavesQueue (s : Link) (data : List UInt8) (finished : Option ℕ) (t : Link) :
    Prop where
  head : t.queue.head = s.queue.head
  tail : t.queue.tail = s.queue.tail
  pending : ∀ i ∈ span s.queue.head s.queue.tail, t.queue.queue i = s.queue.queue i
  unsent : (∀ i, (s.queue.queue i).msg ≠ data) → ∀ steps,
    (∀ f, LinkStep.queueMessage data f ∉ steps) →
      LinkEvent.sendMessage data ∉ linkMachine.trace t steps
  unfinished : finished ≠ none → (∀ i, (s.queue.queue i).finished ≠ finished) → ∀ steps,
    (∀ d, LinkStep.queueMessage d finished ∉ steps) →
      ∀ status, LinkEvent.finished finished status ∉ linkMachine.trace t steps

/-- `ge_queue_message` returns `QUEUE_FULL` only if it leaves the queue as it was. -/
def RejectsCleanly (s : Link) (data : List UInt8) (finished : Option ℕ) : Prop :=
  (geQueueMessage s.env s.queue data finished).status = .queueFull →
    RejectLeavesQueue s data finished (linkMachine.step s (.queueMessage data finished)).1

/-- The tail moves on even when the ring is full. -/
theorem rejectsCleanly_iff (s : Link) (data : List UInt8) (finished : Option ℕ) :
    RejectsCleanly s data finished ↔ ¬ s.queue.Full := by
  constructor
  · intro h hfull
    have hstatus : (geQueueMessage s.env s.queue data finished).status = .queueFull := by
      rw [message_full s.env hfull]
    have htail := (h hstatus).tail
    have hnew : (linkMachine.step s (.queueMessage data finished)).1.queue.tail =
        s.queue.tail + 1 := by
      show (geQueueMessage s.env s.queue data finished).state.tail = _
      rw [message_full s.env hfull]
      rfl
    rw [hnew] at htail
    simp at htail
  · intro hfull hstatus
    simp [geQueueMessage, hfull] at hstatus

/-- A rejected message leaves the queue as it was exactly when none is rejected; and in runs
without a rejection an unfinished message keeps the queue from saying it is empty. -/
theorem rejected_enqueue_iff (s : Link) (data : List UInt8) (finished : Option ℕ) (env : Env)
    (steps : List LinkStep) :
    (RejectsCleanly s data finished ↔ ¬ s.queue.Full) ∧
      (linkMachine.Along HasRoom (linkInit env) steps →
        ((fifo.watch linkMachine).run (linkInit env, []) steps).2 ≠ [] →
        geQueueIsEmpty ((fifo.watch linkMachine).run (linkInit env, []) steps).1.queue = false) :=
  ⟨rejectsCleanly_iff s data finished, not_isEmpty_of_unfinished env steps⟩

/-- Messages that nothing answers. -/
def unansweredMessages (n : ℕ) : List LinkStep :=
  (List.range n).map fun k => .queueMessage [0x30 + UInt8.ofNat k] (some k)

theorem rejected_enqueue_seven :
    geQueueIsEmpty ((fifo.watch linkMachine).run (linkInit ⟨0, .ok⟩, [])
      (unansweredMessages 7)).1.queue = false :=
  (rejected_enqueue_iff (linkInit ⟨0, .ok⟩) [] none ⟨0, .ok⟩ (unansweredMessages 7)).2
    (by decide +kernel) (by decide +kernel)

/-- Whether a callback is called. -/
def isFinishedEvent : LinkEvent → Bool
  | .finished _ _ => true
  | _ => false

/-- The eighth message is rejected, and with it the ring forgets the other seven. -/
theorem rejected_enqueue_empties_ring :
    ¬ RejectsCleanly (linkMachine.run (linkInit ⟨0, .ok⟩) (unansweredMessages 7)) [0x37] (some 7) ∧
      (geQueueMessage ⟨0, .ok⟩ (linkMachine.run (linkInit ⟨0, .ok⟩) (unansweredMessages 7)).queue
        [0x37] (some 7)).status = .queueFull ∧
      geQueueIsEmpty (linkMachine.run (linkInit ⟨0, .ok⟩) (unansweredMessages 8)).queue = true ∧
      ∀ callback status, LinkEvent.finished callback status ∉
        linkMachine.trace (linkInit ⟨0, .ok⟩) (unansweredMessages 8) := by
  refine ⟨?_, by decide +kernel, by decide +kernel, ?_⟩
  · intro h
    exact absurd (h (by decide +kernel)).tail (by decide +kernel)
  · have hnone : ∀ e ∈ linkMachine.trace (linkInit ⟨0, .ok⟩) (unansweredMessages 8),
        isFinishedEvent e = false := by
      decide +kernel
    intro callback status hmem
    cases hnone _ hmem

end Concordd
