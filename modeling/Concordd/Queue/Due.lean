import Concordd.Queue.Retries

/-! The callbacks that are due, and how many updates it takes at most to call them. -/
namespace Concordd

open RingBuffer

/-- The callbacks that are still due, in the order in which they are to be called. -/
def served : Monitor (List (Option ℕ)) LinkEvent where
  next l
    | .finished _ _ => l.tail
    | _ => l
  Allows l
    | .finished callback _ => l = [] ∨ l.head? = some callback
    | _ => True

/-- The callbacks called in a trace. -/
def finishedCallbacks (events : List LinkEvent) : List (Option ℕ) :=
  events.filterMap fun
    | .finished callback _ => some callback
    | _ => none

theorem served_nil (events : List LinkEvent) :
    served.Accepts [] events ∧ served.after [] events = [] := by
  induction events with
  | nil => exact ⟨trivial, rfl⟩
  | cons e events ih =>
    have hnext : served.next [] e = [] := by cases e <;> rfl
    rw [Monitor.accepts_cons, Monitor.after_cons, hnext]
    refine ⟨⟨?_, ih.1⟩, ih.2⟩
    cases e with
    | finished callback status => exact .inl rfl
    | _ => trivial

/-- When nothing is due any more, what was due has been called. -/
theorem prefix_of_served {l : List (Option ℕ)} {events : List LinkEvent}
    (h : served.Accepts l events) (hend : served.after l events = []) :
    l <+: finishedCallbacks events := by
  induction events generalizing l with
  | nil =>
    rw [Monitor.after_nil] at hend
    rw [hend]
    exact List.nil_prefix
  | cons e events ih =>
    have hrest := ih h.2 hend
    cases e with
    | finished callback status =>
      cases l with
      | nil => exact List.nil_prefix
      | cons c l =>
        have hc : c = callback := by simpa [served] using h.1
        rw [hc]
        exact (List.prefix_cons_inj callback).mpr hrest
    | _ => exact hrest

/-! The messages in the ring. -/

/-- The occupied slots, oldest first. -/
def GeQueue.messages (q : GeQueue) : List GeMessage := (span q.head q.tail).map q.queue

variable {env : Env} {q : GeQueue} {m : GeMessage} {older newer ms : List GeMessage}
  {l : List (Option ℕ)} {byte : UInt8}

theorem callbacks_messages (q : GeQueue) :
    q.contents.map (·.finished) = q.messages.map (·.finished) := by
  simp only [GeQueue.contents, GeQueue.messages, List.map_map]
  rfl

theorem messages_eq_nil : q.messages = [] ↔ q.head = q.tail := by
  rw [GeQueue.messages, List.map_eq_nil_iff, span_eq_nil]

theorem messages_cons (hne : q.head ≠ q.tail) :
    q.messages = q.queue q.head :: (geQueueDrop q).messages := by
  unfold GeQueue.messages
  rw [span_cons hne]
  rfl

/-- The message at the head is the first one, and dropping it leaves the others. -/
theorem messages_head (h : q.messages = m :: ms) :
    q.head ≠ q.tail ∧ q.queue q.head = m ∧ (geQueueDrop q).messages = ms := by
  have hne : q.head ≠ q.tail := by
    intro he
    rw [messages_eq_nil.mpr he] at h
    cases h
  rw [messages_cons hne] at h
  exact ⟨hne, (List.cons.inj h).1, (List.cons.inj h).2⟩

theorem messages_push (data : List UInt8) (finished : Option ℕ) (hroom : ¬ q.Full) :
    (geQueuePush q data finished).messages = q.messages ++ [⟨data, 0, finished⟩] := by
  unfold GeQueue.messages geQueuePush
  rw [span_snoc (not_full_iff.mp hroom), List.map_append]
  congr 1
  · exact map_span_update q.queue id tail_not_mem_span
  · simp

theorem head_notMem_span_succ (h t : Fin geQueueMaxMessages) : h ∉ span (h + 1) t := by
  rw [mem_span]
  have hlast : (h - (h + 1)).val = 7 := by
    rw [sub_add_cancel_left]
    rfl
  have hlt : (t - (h + 1)).val < 8 := (t - (h + 1)).isLt
  omega

theorem messages_transmit (env : Env) (h : q.messages = m :: ms) :
    (geQueueTransmit env q).state.messages = { m with attempts := m.attempts + 1 } :: ms := by
  obtain ⟨hne, hm, hms⟩ := messages_head h
  unfold GeQueue.messages
  rw [show (geQueueTransmit env q).state.head = q.head from rfl,
    show (geQueueTransmit env q).state.tail = q.tail from rfl, span_cons hne, List.map_cons, ← hms,
    ← hm]
  congr 1
  · simp [geQueueTransmit]
  · exact map_span_update q.queue id (head_notMem_span_succ _ _)

/-! What is due. -/

def GeMessage.Sendable (m : GeMessage) : Prop :=
  1 ≤ m.msg.length ∧ m.msg.length ≤ geRs232MaxMessageSize

/-- A message that has not been at the head yet. -/
def GeMessage.Fresh (m : GeMessage) : Prop := m.attempts = 0 ∧ m.Sendable

/-- At most three attempts, and after the third one the answer is awaited. -/
def GeMessage.Tried (interface : GeRs232) (m : GeMessage) : Prop :=
  m.attempts.toNat ≤ 3 ∧
    (m.attempts.toNat = 3 → interface.lastResponse = 0 ∧ interface.gotResponse = true)

/-- The oldest messages of the ring are the ones whose callbacks are due. Only the first of them
has been sent. -/
def Due (q : GeQueue) : List (Option ℕ) → Prop
  | [] => True
  | c :: l => ∃ m older newer, q.messages = m :: older ++ newer ∧ m.finished = c ∧
      older.map (·.finished) = l ∧ m.Sendable ∧ m.Tried q.interface ∧ ∀ w ∈ older, w.Fresh

/-- The updates it takes at most until nothing is due: three attempts for each message and one
update to give it up, which is the first attempt of the next. -/
def credit (q : GeQueue) (l : List (Option ℕ)) : ℕ :=
  if l = [] then 0 else 3 * l.length + 1 - (q.queue q.head).attempts.toNat

theorem nil_of_credit (h : Due q l) (h0 : credit q l = 0) : l = [] := by
  cases l with
  | nil => rfl
  | cons c l =>
    obtain ⟨m, older, newer, hq, -, -, -, htried, -⟩ := h
    obtain ⟨-, hm, -⟩ := messages_head hq
    have hle := htried.1
    rw [credit, if_neg (List.cons_ne_nil c l), hm, List.length_cons] at h0
    omega

theorem credit_le (q : GeQueue) (l : List (Option ℕ)) : credit q l ≤ 3 * l.length + 1 := by
  unfold credit
  split <;> omega

/-- The messages behind the head are due as well, once it is gone. -/
theorem due_of_fresh (newer : List GeMessage) (hq : q.messages = older ++ newer)
    (hfresh : ∀ w ∈ older, w.Fresh) : Due q (older.map (·.finished)) := by
  cases older with
  | nil => trivial
  | cons m older =>
    obtain ⟨⟨h0, hsend⟩, hrest⟩ := List.forall_mem_cons.mp hfresh
    refine ⟨m, older, newer, hq, rfl, rfl, hsend, ⟨?_, ?_⟩, hrest⟩
    · rw [h0]
      decide
    · rw [h0]
      intro h3
      cases h3

/-- What a step makes of what is due, and of the credit. -/
structure Serves (q q' : GeQueue) (l : List (Option ℕ)) (events : List LinkEvent) : Prop where
  accepts : served.Accepts l events
  due : Due q' (served.after l events)
  credit : credit q' (served.after l events) ≤ credit q l

theorem serves_nil (q q' : GeQueue) (events : List LinkEvent) : Serves q q' [] events := by
  obtain ⟨hacc, hafter⟩ := served_nil events
  refine ⟨hacc, ?_, ?_⟩
  · rw [hafter]
    trivial
  · rw [hafter]
    exact Nat.zero_le _

/-- Calls that finish nothing, with the ring and what is awaited unchanged. -/
theorem serves_idle (h : Due q l) {events : List LinkEvent} (hacc : served.Accepts l events)
    (hafter : served.after l events = l) : Serves q q l events :=
  ⟨hacc, hafter.symm ▸ h, by rw [hafter]⟩

theorem served_transmit (env : Env) (q : GeQueue) (l : List (Option ℕ)) :
    served.Accepts l (geQueueTransmit env q).out ∧
      served.after l (geQueueTransmit env q).out = l := by
  rcases transmit_out env q with hout | hout <;> rw [hout] <;> exact ⟨by simp [served], rfl⟩

/-- One more attempt at the first message that is due. -/
theorem due_transmit (env : Env) (hq : q.messages = m :: older ++ newer) (hsend : m.Sendable)
    (hfew : m.attempts.toNat < 3) (hfresh : ∀ w ∈ older, w.Fresh) :
    Due (geQueueTransmit env q).state (m.finished :: older.map (·.finished)) ∧
      credit (geQueueTransmit env q).state (m.finished :: older.map (·.finished)) =
        3 * (older.length + 1) - m.attempts.toNat := by
  obtain ⟨-, hm, -⟩ := messages_head hq
  have hms := messages_transmit env hq
  have hone : (m.attempts + 1).toNat = m.attempts.toNat + 1 := by
    rw [UInt8.toNat_add, UInt8.toNat_one]
    exact Nat.mod_eq_of_lt (by omega)
  obtain ⟨-, h0, hhook⟩ := transmit_sent env (hm.symm ▸ hsend.1) (hm.symm ▸ hsend.2)
  refine ⟨⟨_, older, newer, hms, rfl, rfl, hsend, ⟨?_, fun _ => ⟨h0, hhook⟩⟩, hfresh⟩, ?_⟩
  · rw [hone]
    exact hfew
  · obtain ⟨-, hm', -⟩ := messages_head hms
    rw [credit, if_neg (List.cons_ne_nil _ _), hm', hone, List.length_cons, List.length_map]
    omega

/-- A message given up makes way for the next one. -/
theorem due_dropped (env : Env) (hq : (geQueueDrop q).messages = older ++ newer)
    (hfresh : ∀ w ∈ older, w.Fresh) :
    Due (geQueueTransmit env (geQueueDrop q)).state (older.map (·.finished)) ∧
      credit (geQueueTransmit env (geQueueDrop q)).state (older.map (·.finished)) ≤
        3 * older.length := by
  cases older with
  | nil => exact ⟨trivial, Nat.zero_le _⟩
  | cons w older =>
    obtain ⟨⟨h0, hsend⟩, hrest⟩ := List.forall_mem_cons.mp hfresh
    have hfew : w.attempts.toNat < 3 := by
      rw [h0]
      decide
    obtain ⟨hdue, hcredit⟩ := due_transmit env hq hsend hfew hrest
    refine ⟨hdue, ?_⟩
    rw [List.map_cons, hcredit, List.length_cons]
    exact Nat.sub_le _ _

/-- An update waits for the panel, or lowers the credit. -/
theorem serves_update (h : Due q l) (env : Env) :
    Serves q (geQueueUpdate env q).state l (geQueueUpdate env q).out ∧
      (geRs232ReadyToSend env q.interface ≠ .wait →
        credit (geQueueUpdate env q).state (served.after l (geQueueUpdate env q).out) ≤
          credit q l - 1) := by
  cases l with
  | nil =>
    refine ⟨serves_nil q _ _, fun _ => ?_⟩
    rw [(served_nil _).2]
    exact Nat.zero_le _
  | cons c l =>
    obtain ⟨m, older, newer, hq, rfl, rfl, hsend, ⟨hle, hspent⟩, hfresh⟩ := h
    obtain ⟨hne, hm, hdrop⟩ := messages_head hq
    have hcredit : credit q (m.finished :: older.map (·.finished)) =
        3 * (older.length + 1) + 1 - m.attempts.toNat := by
      rw [credit, if_neg (List.cons_ne_nil _ _), hm, List.length_cons, List.length_map]
    rcases update_cases env q with ⟨hidle, hu⟩ | ⟨hg, hu⟩ | ⟨-, hready, hg, hu⟩
    · rw [hu]
      have hdue : Due q (m.finished :: older.map (·.finished)) :=
        ⟨m, older, newer, hq, rfl, rfl, hsend, ⟨hle, hspent⟩, hfresh⟩
      exact ⟨serves_idle hdue trivial rfl, fun hw => (hidle.elim hne hw).elim⟩
    · obtain ⟨hacc, hafter⟩ := served_transmit env (geQueueDrop q) (older.map (·.finished))
      obtain ⟨hdue, hlow⟩ := due_dropped env hdrop hfresh
      have hfin : (q.queue q.head).finished = m.finished := by rw [hm]
      have hnext : served.after (m.finished :: older.map (·.finished)) (geQueueUpdate env q).out =
          older.map (·.finished) := by
        rw [hu, Monitor.after_cons]
        exact hafter
      have hstrict : credit (geQueueUpdate env q).state (older.map (·.finished)) ≤
          credit q (m.finished :: older.map (·.finished)) - 1 := by
        rw [hu, hcredit]
        exact hlow.trans (by omega)
      refine ⟨⟨?_, ?_, ?_⟩, fun _ => ?_⟩
      · rw [hu]
        exact ⟨.inr (congrArg some hfin.symm), hacc⟩
      · rw [hnext, hu]
        exact hdue
      · rw [hnext]
        exact hstrict.trans (Nat.sub_le _ _)
      · rw [hnext]
        exact hstrict
    · have hfew : m.attempts.toNat < 3 := by
        by_contra hlt
        -- its answer is awaited, so an update that does not wait gives it up
        have h3 : m.attempts.toNat = 3 := by omega
        obtain ⟨h0, hhook⟩ := hspent h3
        apply hg
        refine ⟨hne, ?_, hhook, ?_⟩
        · revert hready
          simp [geRs232ReadyToSend, h0, geRs232Ack, geRs232Nak]
        · rw [UInt8.le_iff_toNat_le, hm, h3]
          decide
      obtain ⟨hacc, hafter⟩ := served_transmit env q (m.finished :: older.map (·.finished))
      obtain ⟨hdue, hlow⟩ := due_transmit env hq hsend hfew hfresh
      rw [hu, hafter, hlow, hcredit]
      refine ⟨⟨hacc, ?_, ?_⟩, fun _ => ?_⟩
      · rw [hafter]
        exact hdue
      · rw [hafter, hlow, hcredit]
        omega
      · omega

/-- A byte changes nothing that is due, or finishes the first message. -/
theorem serves_receiveByte (h : Due q l) (env : Env) (byte : UInt8) :
    Serves q (geQueueReceiveByte env q byte).1 l (geQueueReceiveByte env q byte).2 := by
  cases l with
  | nil => exact serves_nil q _ _
  | cons c l =>
    obtain ⟨m, older, newer, hq, rfl, rfl, hsend, ⟨hle, hspent⟩, hfresh⟩ := h
    obtain ⟨hne, hm, hdrop⟩ := messages_head hq
    -- what the other fields of the interface are does not matter here
    have hkept : ∀ interface : GeRs232, m.Tried interface →
        Due { q with interface } (m.finished :: older.map (·.finished)) := fun interface ht =>
      ⟨m, older, newer, hq, rfl, rfl, hsend, ht, hfresh⟩
    rcases queueReceiveByte_cases env q byte with
      ⟨hi, -, hr⟩ | ⟨hi, hg, hr⟩ | ⟨-, j, out, hr, hs, hl⟩
    · rcases gotResponse_cases env (geQueueAnswered q byte) with ⟨-, he⟩ | ⟨-, hfew, he⟩
      · have hfin : (q.queue q.head).finished = m.finished := by rw [hm]
        rw [hr, he]
        refine ⟨⟨trivial, trivial, .inr (congrArg some hfin.symm), trivial⟩,
          due_of_fresh newer hdrop hfresh, ?_⟩
        refine (credit_le _ _).trans ?_
        rw [credit, if_neg (List.cons_ne_nil _ _), hm, List.length_cons]
        simp only [served, Monitor.after_cons, Monitor.after_nil, List.tail_cons]
        omega
      · rw [hr, he]
        refine ⟨⟨trivial, trivial, trivial⟩, hkept _ ⟨hle, fun h3 => (hfew ?_).elim⟩, le_rfl⟩
        rw [UInt8.le_iff_toNat_le, show (geQueueAnswered q byte).queue = q.queue from rfl,
          show (geQueueAnswered q byte).head = q.head from rfl, hm, h3]
        decide
    · rw [hr]
      refine ⟨⟨trivial, trivial⟩, hkept _ ⟨hle, fun h3 => ?_⟩, le_rfl⟩
      rw [(hspent h3).2] at hg
      cases hg
    · have hline : served.Accepts (m.finished :: older.map (·.finished)) out ∧
          served.after (m.finished :: older.map (·.finished)) out =
            m.finished :: older.map (·.finished) := by
        rcases hl with rfl | rfl | ⟨buffer, len, rfl⟩ <;> simp [served]
      have hafter : served.after (m.finished :: older.map (·.finished))
          (.byteReceived byte :: out) = m.finished :: older.map (·.finished) := hline.2
      rw [hr]
      refine ⟨⟨trivial, hline.1⟩, ?_, ?_⟩
      · rw [hafter]
        refine hkept j ⟨hle, fun h3 => ?_⟩
        rw [hs.1, hs.2.2.2.2]
        exact hspent h3
      · rw [hafter]
        exact le_rfl

/-- A message joins behind those that are due. -/
theorem due_push (h : Due q l) (data : List UInt8) (finished : Option ℕ) (hroom : ¬ q.Full) :
    Due (geQueuePush q data finished) l ∧ credit (geQueuePush q data finished) l = credit q l := by
  cases l with
  | nil => exact ⟨trivial, rfl⟩
  | cons c l =>
    obtain ⟨m, older, newer, hq, hc, hl, hsend, htried, hfresh⟩ := h
    obtain ⟨hne, -, -⟩ := messages_head hq
    constructor
    · refine ⟨m, older, newer ++ [⟨data, 0, finished⟩], ?_, hc, hl, hsend, htried, hfresh⟩
      rw [messages_push data finished hroom, hq, List.append_assoc]
    · have hhead : (geQueuePush q data finished).queue q.head = q.queue q.head :=
        Function.update_of_ne hne _ _
      simp only [credit, show (geQueuePush q data finished).head = q.head from rfl, hhead]

theorem serves_step {s : Link × List (Option ℕ)} (h : Due s.1.queue s.2) (i : LinkStep)
    (hroom : HasRoom s.1 i) :
    Serves s.1.queue (linkMachine.step s.1 i).1.queue s.2 (linkMachine.step s.1 i).2 := by
  cases i with
  | queueMessage data finished =>
    obtain ⟨hdue, hcredit⟩ := due_push h data finished hroom
    obtain ⟨hacc, hdue', hle⟩ := (serves_update hdue s.1.env).1
    exact ⟨⟨trivial, hacc⟩, hdue', hle.trans hcredit.le⟩
  | queueUpdate => exact (serves_update h s.1.env).1
  | receiveByte byte => exact serves_receiveByte h s.1.env byte
  | advance seconds => exact serves_idle h trivial rfl
  | sendReturns status => exact serves_idle h trivial rfl

end Concordd
