import Concordd.Queue.Acknowledgement
import Concordd.Queue.Effects

/-! How often a message is transmitted before it is finished. -/
namespace Concordd

/-- The message last enqueued into a slot: how often it was transmitted since, and whether it is
finished. A slot never used counts as finished. -/
structure Sending where
  data : List UInt8 := []
  finished : Option ℕ := none
  sent : ℕ := 0
  done : Bool := true

/-- The ring as the calls show it. -/
structure RetryLedger where
  slot : Fin geQueueMaxMessages → Sending := fun _ => {}
  head : Fin geQueueMaxMessages := 0
  tail : Fin geQueueMaxMessages := 0

/-- A message is enqueued into the slot at the tail. The slot at the head is the one that is
transmitted, and the one that is finished. An unfinished message is transmitted at most three
times, and fails only after three transmissions, by a NAK or a time-out. -/
def retryBudget : Monitor RetryLedger LinkEvent where
  next l
    | .queueMessage data finished _ =>
      { l with
        slot := Function.update l.slot l.tail ⟨data, finished, 0, false⟩
        tail := l.tail + 1 }
    | .sendBytes bytes =>
      -- a single byte answers the panel's own frames
      if bytes = [geRs232Ack] ∨ bytes = [geRs232Nak] then l
      else { l with
        slot := Function.update l.slot l.head
          { l.slot l.head with sent := (l.slot l.head).sent + 1 } }
    | .finished _ _ =>
      { l with
        slot := Function.update l.slot l.head { l.slot l.head with done := true }
        head := l.head + 1 }
    | _ => l
  Allows l
    | .sendBytes bytes =>
      bytes = [geRs232Ack] ∨ bytes = [geRs232Nak] ∨
        (bytes = geRs232Frame (l.slot l.head).data ∧
          ((l.slot l.head).done = false → (l.slot l.head).sent < 3))
    | .finished callback status =>
      callback = (l.slot l.head).finished ∧
        ((l.slot l.head).done = false → status ≠ .ok →
          (status = .nak ∨ status = .timeout) ∧ (l.slot l.head).sent = 3)
    | _ => True

/-- The messages `ge_rs232_send_message` does not refuse. -/
def LinkStep.Sendable : LinkStep → Prop
  | .queueMessage data _ => 1 ≤ data.length ∧ data.length ≤ geRs232MaxMessageSize
  | _ => True

instance : ∀ i : LinkStep, Decidable i.Sendable
  | .queueMessage _ _ => inferInstanceAs (Decidable (_ ∧ _))
  | .queueUpdate => inferInstanceAs (Decidable True)
  | .receiveByte _ => inferInstanceAs (Decidable True)
  | .advance _ => inferInstanceAs (Decidable True)
  | .sendReturns _ => inferInstanceAs (Decidable True)

/-- The slot's attempts are the transmissions of its unfinished message. -/
structure SlotCounts (m : GeMessage) (w : Sending) : Prop where
  data : w.data = m.msg
  finished : w.finished = m.finished
  attempts : w.done = false → m.attempts.toNat = w.sent ∧ w.sent ≤ 3
  sendable : w.done = false → 1 ≤ m.msg.length ∧ m.msg.length ≤ geRs232MaxMessageSize

/-- Only the message at the head has been transmitted, and once that was done three times its
answer is awaited. -/
structure Counts (q : GeQueue) (l : RetryLedger) : Prop where
  head : l.head = q.head
  tail : l.tail = q.tail
  slot : ∀ j, SlotCounts (q.queue j) (l.slot j)
  waiting : ∀ j, j ≠ q.head → (l.slot j).done = false → (l.slot j).sent = 0
  spent : (l.slot q.head).done = false → (l.slot q.head).sent = 3 →
    q.interface.lastResponse = 0 ∧ q.interface.gotResponse = true

variable {env : Env} {q : GeQueue} {l : RetryLedger} {byte : UInt8}

/-! The operations of the queue. -/

theorem counts_push (h : Counts q l) {data : List UInt8} (hpos : 1 ≤ data.length)
    (hle : data.length ≤ geRs232MaxMessageSize) (finished : Option ℕ) (status : GeRs232Status) :
    Counts (geQueuePush q data finished)
      (retryBudget.next l (.queueMessage data finished status)) := by
  have hslot : ∀ j, SlotCounts ((geQueuePush q data finished).queue j)
      ((retryBudget.next l (.queueMessage data finished status)).slot j) := by
    intro j
    simp only [geQueuePush, retryBudget, h.tail, Function.update_apply]
    split
    · exact ⟨rfl, rfl, fun _ => ⟨rfl, Nat.zero_le _⟩, fun _ => ⟨hpos, hle⟩⟩
    · exact h.slot j
  refine ⟨h.head, congrArg (· + 1) h.tail, hslot, ?_, ?_⟩
  · intro j hj
    simp only [retryBudget, Function.update_apply]
    split
    · exact fun _ => rfl
    · exact h.waiting j hj
  · simp only [retryBudget, Function.update_apply, geQueuePush]
    split
    · intro _ h3
      cases h3
    · exact h.spent

/-- Whatever status the callback at the head is given, the next slot has not been sent. -/
theorem counts_drop (h : Counts q l) (interface : GeRs232) (callback : Option ℕ)
    (status : GeRs232Status) :
    Counts { q with interface, head := q.head + 1 }
      (retryBudget.next l (.finished callback status)) := by
  have hne : q.head + 1 ≠ q.head := by simp
  refine ⟨congrArg (· + 1) h.head, h.tail, ?_, ?_, ?_⟩
  · intro j
    simp only [retryBudget, h.head, Function.update_apply]
    split
    · next hj =>
      subst hj
      have hs := h.slot q.head
      exact ⟨hs.data, hs.finished, fun hd => (nomatch hd), fun hd => (nomatch hd)⟩
    · exact h.slot j
  · intro j _
    simp only [retryBudget, h.head, Function.update_apply]
    split
    · intro hd
      cases hd
    · next hj => exact h.waiting j hj
  · simp only [retryBudget, h.head, Function.update_apply, if_neg hne]
    intro hd h3
    rw [h.waiting _ hne hd] at h3
    cases h3

theorem Counts.atHead (h : Counts q l) : SlotCounts (q.queue q.head) (l.slot l.head) := by
  rw [h.head]
  exact h.slot q.head

/-- The message at the head after one more attempt, whatever came of it. -/
theorem counts_attempt (h : Counts q l) {w : Sending} {interface : GeRs232}
    (hw : SlotCounts { q.queue q.head with attempts := (q.queue q.head).attempts + 1 } w)
    (hspent : w.done = false → w.sent = 3 →
      interface.lastResponse = 0 ∧ interface.gotResponse = true) :
    Counts
      { q with
        interface
        queue := Function.update q.queue q.head
          { q.queue q.head with attempts := (q.queue q.head).attempts + 1 } }
      { l with slot := Function.update l.slot l.head w } := by
  refine ⟨h.head, h.tail, ?_, ?_, ?_⟩
  · intro j
    simp only [h.head, Function.update_apply]
    split
    · exact hw
    · exact h.slot j
  · intro j hj
    simp only [h.head, Function.update_of_ne hj]
    exact h.waiting j hj
  · simp only [h.head, Function.update_self]
    exact hspent

/-- The head may be sent while it has been sent fewer than three times. -/
theorem counts_transmit (env : Env) (h : Counts q l)
    (hfew : (l.slot l.head).done = false → (l.slot l.head).sent < 3) :
    retryBudget.Accepts l (geQueueTransmit env q).out ∧
      Counts (geQueueTransmit env q).state
        (retryBudget.after l (geQueueTransmit env q).out) := by
  have hs := h.atHead
  rcases transmit_out env q with hout | hout
  · -- the message was refused, so it is not one that is counted
    have hdone : (l.slot l.head).done ≠ false := by
      intro hd
      obtain ⟨hpos, hle⟩ := hs.sendable hd
      rw [(transmit_sent env hpos hle).1] at hout
      cases hout
    rw [hout]
    refine ⟨⟨trivial, trivial⟩, ?_⟩
    have hc : Counts (geQueueTransmit env q).state
        { l with slot := Function.update l.slot l.head (l.slot l.head) } :=
      counts_attempt h
        ⟨hs.data, hs.finished, fun hd => (hdone hd).elim, fun hd => (hdone hd).elim⟩
        (fun hd => (hdone hd).elim)
    rwa [Function.update_eq_self] at hc
  · rw [hout]
    refine ⟨⟨trivial, .inr (.inr ⟨congrArg geRs232Frame hs.data.symm, hfew⟩), trivial⟩, ?_⟩
    simp only [Monitor.after_cons, Monitor.after_nil, retryBudget, if_neg (frame_ne_answer _)]
    refine counts_attempt h ⟨hs.data, hs.finished, ?_, hs.sendable⟩ ?_
    · intro hd
      obtain ⟨hattempts, -⟩ := hs.attempts hd
      have hlt := hfew hd
      refine ⟨?_, hlt⟩
      rw [UInt8.toNat_add, hattempts, UInt8.toNat_one]
      exact Nat.mod_eq_of_lt (by omega)
    · intro hd _
      obtain ⟨hpos, hle⟩ := hs.sendable hd
      exact (transmit_sent env hpos hle).2

/-- A message that is given up was transmitted three times. -/
theorem counts_spent (h : Counts q l) (ha : 3 ≤ (q.queue q.head).attempts)
    (hd : (l.slot l.head).done = false) : (l.slot l.head).sent = 3 := by
  obtain ⟨hattempts, hle⟩ := h.atHead.attempts hd
  have h3 : (3 : UInt8).toNat ≤ (q.queue q.head).attempts.toNat := UInt8.le_iff_toNat_le.mp ha
  rw [hattempts] at h3
  exact Nat.le_antisymm hle h3

theorem counts_update (env : Env) (h : Counts q l) :
    retryBudget.Accepts l (geQueueUpdate env q).out ∧
      Counts (geQueueUpdate env q).state (retryBudget.after l (geQueueUpdate env q).out) := by
  rcases update_cases env q with ⟨-, hu⟩ | ⟨hg, hu⟩ | ⟨hne, hready, hg, hu⟩
  · rw [hu]
    exact ⟨trivial, h⟩
  · rw [hu]
    have hdrop : Counts (geQueueDrop q) _ :=
      counts_drop h _ (q.queue q.head).finished .timeout
    have hnew : q.head + 1 ≠ q.head := by simp
    have hcount := counts_transmit env hdrop (by
      simp only [retryBudget, h.head, Function.update_of_ne hnew]
      intro hd
      rw [h.waiting _ hnew hd]
      decide)
    refine ⟨⟨⟨h.atHead.finished.symm, ?_⟩, hcount.1⟩, hcount.2⟩
    exact fun hd _ => ⟨.inr rfl, counts_spent h hg.2.2.2 hd⟩
  · rw [hu]
    refine counts_transmit env h (fun hd => ?_)
    obtain ⟨hattempts, hle⟩ := h.atHead.attempts hd
    by_contra h3
    have hsent : (l.slot l.head).sent = 3 := by omega
    -- its answer is awaited, so an update that does not wait gives it up
    obtain ⟨h0, hhook⟩ := h.spent (h.head ▸ hd) (h.head ▸ hsent)
    apply hg
    refine ⟨hne, ?_, hhook, ?_⟩
    · revert hready
      simp [geRs232ReadyToSend, h0, geRs232Ack, geRs232Nak]
    · rw [UInt8.le_iff_toNat_le, hattempts, hsent]
      decide

/-- The ledger looks at the interface only while an answer is awaited. -/
theorem counts_interface (h : Counts q l) {interface : GeRs232}
    (hspent : (l.slot q.head).done = false → (l.slot q.head).sent = 3 →
      interface.lastResponse = 0 ∧ interface.gotResponse = true) :
    Counts { q with interface } l :=
  ⟨h.head, h.tail, h.slot, h.waiting, hspent⟩

/-- What the interface calls for other bytes is not a transmission. -/
theorem retry_lineCalls {out : List LinkEvent} (h : LineCalls out) :
    retryBudget.Accepts l out ∧ retryBudget.after l out = l := by
  rcases h with rfl | rfl | ⟨buffer, len, rfl⟩ <;> simp [retryBudget]

theorem counts_receiveByte (env : Env) (h : Counts q l) (byte : UInt8) :
    retryBudget.Accepts l (geQueueReceiveByte env q byte).2 ∧
      Counts (geQueueReceiveByte env q byte).1
        (retryBudget.after l (geQueueReceiveByte env q byte).2) := by
  rcases queueReceiveByte_cases env q byte with
    ⟨hi, hg, hr⟩ | ⟨hi, hg, hr⟩ | ⟨-, j, out, hr, hs, hl⟩
  · have hack := answered_ready_iff env hi
    rcases gotResponse_cases env (geQueueAnswered q byte) with ⟨hend, he⟩ | ⟨-, hfew, he⟩
    · rw [hr, he]
      refine ⟨⟨trivial, trivial, ⟨h.atHead.finished.symm, ?_⟩, trivial⟩, ?_⟩
      · intro hd hnok
        have hnak : byte = geRs232Nak := hi.1.resolve_left (fun ha => hnok (hack.mpr ha))
        refine ⟨.inl ?_, counts_spent h (hend.resolve_left hnok) hd⟩
        simp [geRs232ReadyToSend, geQueueAnswered, hnak, geRs232Ack, geRs232Nak]
      · exact counts_drop h _ _ _
    · rw [hr, he]
      refine ⟨⟨trivial, trivial, trivial⟩, counts_interface h (fun hd h3 => ?_)⟩
      obtain ⟨hattempts, -⟩ := (h.slot q.head).attempts hd
      refine (hfew ?_).elim
      rw [UInt8.le_iff_toNat_le]
      simp only [geQueueAnswered, hattempts, h3]
      decide
  · rw [hr]
    refine ⟨⟨trivial, trivial⟩, counts_interface h (fun hd h3 => ?_)⟩
    rw [(h.spent hd h3).2] at hg
    cases hg
  · rw [hr]
    obtain ⟨hacc, hafter⟩ := retry_lineCalls (l := l) hl
    refine ⟨⟨trivial, hacc⟩, ?_⟩
    rw [Monitor.after_cons, show retryBudget.next l (.byteReceived byte) = l from rfl, hafter]
    refine counts_interface h (fun hd h3 => ?_)
    rw [hs.1, hs.2.2.2.2]
    exact h.spent hd h3

/-! Runs. -/

theorem counts_step {s : Link × RetryLedger} {i : LinkStep} (h : Counts s.1.queue s.2)
    (hi : i.Sendable) :
    retryBudget.Accepts s.2 (linkMachine.step s.1 i).2 ∧
      Counts (linkMachine.step s.1 i).1.queue
        (retryBudget.after s.2 (linkMachine.step s.1 i).2) := by
  cases i with
  | queueMessage data finished =>
    obtain ⟨hacc, hc⟩ := counts_update s.1.env (counts_push h hi.1 hi.2 finished _)
    exact ⟨⟨trivial, hacc⟩, hc⟩
  | queueUpdate => exact counts_update s.1.env h
  | receiveByte byte => exact counts_receiveByte s.1.env h byte
  | advance seconds => exact ⟨trivial, h⟩
  | sendReturns status => exact ⟨trivial, h⟩

theorem counts_init (env : Env) : Counts (linkInit env).queue {} := by
  refine ⟨rfl, rfl, fun _ => ⟨rfl, rfl, ?_, ?_⟩, ?_, ?_⟩ <;> simp

/-- In every run of messages that can be sent, overflowing or not, no unfinished message is
transmitted a fourth time, and none fails before its third transmission. -/
theorem retry_budget_three (env : Env) (steps : List LinkStep)
    (h : linkMachine.Along (fun _ i => i.Sendable) (linkInit env) steps) :
    retryBudget.Accepts {} (linkMachine.trace (linkInit env) steps) :=
  Monitor.accepts_of_inv (I := fun s => Counts s.1.queue s.2) (P := fun _ i => i.Sendable)
    (fun _ _ hc hi => counts_step hc hi) (counts_init env) h

/-- The first message is refused three times, the second is not answered three times. -/
theorem retry_budget_three_spent :
    retryBudget.Accepts {} (linkMachine.trace (linkInit ⟨0, .ok⟩)
      [.queueMessage [0x20] (some 0), .queueMessage [0x02] (some 1), .receiveByte 0x15,
        .queueUpdate, .receiveByte 0x15, .queueUpdate, .receiveByte 0x15, .queueUpdate,
        .advance 2, .queueUpdate, .advance 2, .queueUpdate, .advance 2, .queueUpdate]) :=
  retry_budget_three ⟨0, .ok⟩ _ (by decide +kernel)

end Concordd
