import Concordd.Queue.Due

/-! Every message in the queue is finished after a bounded number of updates two seconds apart,
whatever else happens on the link. -/
namespace Concordd

open RingBuffer

variable {env : Env} {q : GeQueue} {l : List (Option ℕ)}

/-! The clock. -/

/-- The last frame went out in the past. -/
def SentBefore (s : Link) : Prop := s.queue.interface.lastSent ≤ s.env.now

/-- The time that passes in the steps. -/
def elapsed (steps : List LinkStep) : ℕ :=
  (steps.map fun
    | .advance seconds => seconds
    | _ => 0).sum

theorem lastSent_transmit (env : Env) (q : GeQueue) :
    (geQueueTransmit env q).state.interface.lastSent = env.now ∨
      (geQueueTransmit env q).state.interface.lastSent = q.interface.lastSent := by
  simp only [geQueueTransmit, geRs232SendMessage, geRs232WriteFrame]
  split
  · exact .inr rfl
  · split
    · exact .inr rfl
    · split
      · exact .inl rfl
      · exact .inr rfl

theorem lastSent_update (env : Env) (q : GeQueue) :
    (geQueueUpdate env q).state.interface.lastSent = env.now ∨
      (geQueueUpdate env q).state.interface.lastSent = q.interface.lastSent := by
  rcases update_cases env q with ⟨-, hu⟩ | ⟨-, hu⟩ | ⟨-, -, -, hu⟩
  · rw [hu]
    exact .inr rfl
  · rw [hu]
    exact lastSent_transmit env (geQueueDrop q)
  · rw [hu]
    exact lastSent_transmit env q

theorem lastSent_receiveByte (env : Env) (q : GeQueue) (byte : UInt8) :
    (geQueueReceiveByte env q byte).1.interface.lastSent = q.interface.lastSent := by
  rcases queueReceiveByte_cases env q byte with
    ⟨-, -, hr⟩ | ⟨-, -, hr⟩ | ⟨-, j, out, hr, hs, -⟩
  · rw [hr]
    rcases gotResponse_cases env (geQueueAnswered q byte) with ⟨-, he⟩ | ⟨-, -, he⟩ <;> rw [he] <;>
      rfl
  · rw [hr]
    rfl
  · rw [hr]
    exact hs.2.1

theorem sentBefore_step {s : Link} (h : SentBefore s) (i : LinkStep) :
    SentBefore (linkMachine.step s i).1 := by
  have hupdate : ∀ q : GeQueue, q.interface.lastSent ≤ s.env.now →
      (geQueueUpdate s.env q).state.interface.lastSent ≤ s.env.now := by
    intro q hq
    rcases lastSent_update s.env q with h | h
    · exact h.le
    · exact h.trans_le hq
  cases i with
  | queueMessage data finished => exact hupdate (geQueuePush s.queue data finished) h
  | queueUpdate => exact hupdate s.queue h
  | receiveByte byte => exact (lastSent_receiveByte s.env s.queue byte).trans_le h
  | advance seconds =>
    have hle : s.env.now ≤ s.env.now + seconds := by omega
    exact h.trans hle
  | sendReturns status => exact h

theorem now_step (s : Link) (i : LinkStep) :
    (linkMachine.step s i).1.env.now = s.env.now + elapsed [i] := by
  cases i with
  | advance seconds => simp [linkMachine, elapsed]
  | _ => simp [linkMachine, elapsed]

theorem now_run (s : Link) (steps : List LinkStep) :
    (linkMachine.run s steps).env.now = s.env.now + elapsed steps := by
  induction steps generalizing s with
  | nil => simp [elapsed]
  | cons i steps ih =>
    rw [Machine.run_cons, ih, now_step]
    simp [elapsed, add_assoc]

/-- Two seconds after the last frame at the latest, an update no longer waits. -/
theorem ready_of_late {env : Env} {rs : GeRs232} (h : rs.lastSent + 2 ≤ env.now) :
    geRs232ReadyToSend env rs ≠ .wait := by
  have hlate : env.now - rs.lastSent > 1 := by omega
  simp only [geRs232ReadyToSend, if_pos hlate]
  split
  · decide
  · split <;> decide

/-! Runs. -/

/-- Anything that takes two seconds or more, and then an update. -/
structure Round where
  others : List LinkStep
  late : 2 ≤ elapsed others

def Round.steps (r : Round) : List LinkStep := r.others ++ [.queueUpdate]

/-- What holds of the callbacks that are due, and of the time. -/
def Serving (s : Link × List (Option ℕ)) : Prop := Due s.1.queue s.2 ∧ SentBefore s.1

/-- Since time `t`, at which the credit was `c`, it was lowered or nothing was sent. -/
structure Waited (t : ℤ) (c : ℕ) (s : Link × List (Option ℕ)) : Prop where
  serving : Serving s
  credit : credit s.1.queue s.2 ≤ c
  progress : Concordd.credit s.1.queue s.2 ≤ c - 1 ∨ s.1.queue.interface.lastSent ≤ t

/-- Whatever is sent lowers the credit. -/
theorem serves_update_progress (h : Due q l) (env : Env) :
    credit (geQueueUpdate env q).state (served.after l (geQueueUpdate env q).out) ≤
        credit q l - 1 ∨
      (geQueueUpdate env q).state.interface.lastSent = q.interface.lastSent := by
  by_cases hw : geRs232ReadyToSend env q.interface = .wait
  · right
    rw [geQueueUpdate, if_pos hw]
    split <;> rfl
  · exact .inl ((serves_update h env).2 hw)

theorem waited_step {t : ℤ} {c : ℕ} (s : Link × List (Option ℕ)) (i : LinkStep)
    (h : Waited t c s) (hroom : HasRoom s.1 i) :
    Waited t c ((served.watch linkMachine).step s i).1 := by
  have hs := serves_step h.serving.1 i hroom
  refine ⟨⟨hs.due, sentBefore_step h.serving.2 i⟩, hs.credit.trans h.credit, ?_⟩
  rcases h.progress with hlow | hsent
  · exact .inl (hs.credit.trans hlow)
  have hdone : ∀ {q : GeQueue}, q.interface.lastSent = s.1.queue.interface.lastSent →
      Concordd.credit q s.2 ≤ c → Due q s.2 →
      Concordd.credit (geQueueUpdate s.1.env q).state
          (served.after s.2 (geQueueUpdate s.1.env q).out) ≤ c - 1 ∨
        (geQueueUpdate s.1.env q).state.interface.lastSent ≤ t := by
    intro q hq hc hdue
    rcases serves_update_progress hdue s.1.env with hlow | hsame
    · exact .inl (hlow.trans (Nat.sub_le_sub_right hc 1))
    · exact .inr ((hsame.trans hq).trans_le hsent)
  cases i with
  | queueMessage data finished =>
    obtain ⟨hdue, hcredit⟩ := due_push h.serving.1 data finished hroom
    exact hdone (q := geQueuePush s.1.queue data finished) rfl (hcredit.trans_le h.credit) hdue
  | queueUpdate => exact hdone rfl h.credit h.serving.1
  | receiveByte byte => exact .inr ((lastSent_receiveByte s.1.env s.1.queue byte).trans_le hsent)
  | advance seconds => exact .inr hsent
  | sendReturns status => exact .inr hsent

theorem serving_round (s : Link × List (Option ℕ)) (r : Round) (h : Serving s)
    (hroom : (served.watch linkMachine).Along (fun s i => HasRoom s.1 i) s r.steps) :
    Serving ((served.watch linkMachine).run s r.steps) ∧
      credit ((served.watch linkMachine).run s r.steps).1.queue
        ((served.watch linkMachine).run s r.steps).2 ≤ credit s.1.queue s.2 - 1 := by
  rw [Round.steps, Machine.along_append] at hroom
  rw [Round.steps, Machine.run_append]
  have hstart : Waited s.1.env.now (credit s.1.queue s.2) s := ⟨h, le_rfl, .inr h.2⟩
  have hend := Machine.inv_run (waited_step (t := s.1.env.now)) hstart hroom.1
  have hnow : ((served.watch linkMachine).run s r.others).1.env.now =
      s.1.env.now + elapsed r.others := by
    rw [Monitor.watch_run]
    exact now_run s.1 r.others
  generalize (served.watch linkMachine).run s r.others = u at hend hnow
  have hlate := r.late
  obtain ⟨hserves, hlow⟩ := serves_update hend.serving.1 u.1.env
  refine ⟨⟨hserves.due, sentBefore_step hend.serving.2 .queueUpdate⟩, ?_⟩
  rcases hend.progress with hp | hp
  · exact hserves.credit.trans hp
  · have hready : geRs232ReadyToSend u.1.env u.1.queue.interface ≠ .wait :=
      ready_of_late (by omega)
    exact (hlow hready).trans (Nat.sub_le_sub_right hend.credit 1)

/-- As many rounds as the credit allows serve all that is due. -/
theorem served_of_rounds {s : Link} (hdue : Due s.queue l) (hsent : SentBefore s)
    (rounds : List Round)
    (hroom : linkMachine.Along HasRoom s (rounds.flatMap Round.steps))
    (hlen : credit s.queue l ≤ rounds.length) :
    l <+: finishedCallbacks (linkMachine.trace s (rounds.flatMap Round.steps)) := by
  have hflat : rounds.flatMap Round.steps = (rounds.map Round.steps).flatten :=
    List.flatMap_def ..
  rw [hflat] at hroom ⊢
  have hone : ∀ t, ∀ r ∈ rounds.map Round.steps, Serving t →
      (served.watch linkMachine).Along (fun s i => HasRoom s.1 i) t r →
      Serving ((served.watch linkMachine).run t r) ∧
        credit ((served.watch linkMachine).run t r).1.queue
          ((served.watch linkMachine).run t r).2 ≤ credit t.1.queue t.2 - 1 := by
    intro t r hr ht hg
    obtain ⟨round, -, rfl⟩ := List.mem_map.mp hr
    exact serving_round t round ht hg
  obtain ⟨⟨hend, -⟩, hcredit⟩ := Machine.variant_rounds
    (μ := fun s : Link × List (Option ℕ) => credit s.1.queue s.2) hone
    (show Serving (s, l) from ⟨hdue, hsent⟩) (Monitor.watch_along.mpr hroom)
  rw [List.length_map] at hcredit
  have hnil := nil_of_credit hend (Nat.le_zero.mp (hcredit.trans (Nat.sub_eq_zero_of_le hlen).le))
  rw [Monitor.watch_run] at hnil
  refine prefix_of_served ?_ hnil
  exact Monitor.accepts_of_inv (I := fun t => Due t.1.queue t.2) (P := HasRoom)
    (fun t i ht hg => ⟨(serves_step ht i hg).accepts, (serves_step ht i hg).due⟩) hdue hroom

/-! From the start. -/

/-- Messages that can be sent, while there is room, and no update that gives up the only one. -/
def Orderly (s : Link) (i : LinkStep) : Prop := HasRoom s i ∧ i.Sendable ∧ ¬ DropsLast s i

instance (s : Link) (i : LinkStep) : Decidable (Orderly s i) :=
  inferInstanceAs (Decidable (_ ∧ _ ∧ _))

/-- The callbacks of all messages in the ring, oldest first. -/
def GeQueue.pending (q : GeQueue) : List (Option ℕ) := q.contents.map (·.finished)

theorem served_update (env : Env) (q : GeQueue) :
    served.after q.pending (geQueueUpdate env q).out = (geQueueUpdate env q).state.pending := by
  unfold GeQueue.pending
  rcases update_cases env q with ⟨-, hu⟩ | ⟨hg, hu⟩ | ⟨-, -, -, hu⟩
  · rw [hu]
    rfl
  · rw [hu, contents_transmit, contents_cons hg.1, Monitor.after_cons]
    exact (served_transmit env _ _).2
  · rw [hu, contents_transmit]
    exact (served_transmit env _ _).2

theorem served_receiveByte (env : Env) (hf : q.interface.lastResponse = 0 → q.head ≠ q.tail)
    (byte : UInt8) :
    served.after q.pending (geQueueReceiveByte env q byte).2 =
      (geQueueReceiveByte env q byte).1.pending := by
  rcases queueReceiveByte_cases env q byte with
    ⟨hi, -, hr⟩ | ⟨-, -, hr⟩ | ⟨-, j, out, hr, -, hl⟩
  · rw [hr]
    have hcons : q.pending = (q.queue q.head).finished :: (geQueueDrop q).pending := by
      unfold GeQueue.pending
      rw [contents_cons (hf hi.2)]
      rfl
    rcases gotResponse_cases env (geQueueAnswered q byte) with ⟨-, he⟩ | ⟨-, -, he⟩
    · rw [he, hcons]
      rfl
    · rw [he]
      rfl
  · rw [hr]
    rfl
  · rw [hr]
    rcases hl with rfl | rfl | ⟨buffer, len, rfl⟩ <;> rfl

/-- All messages are due, the new one included. -/
theorem due_push_all (h : Due q q.pending) (data : List UInt8) (finished : Option ℕ)
    (hroom : ¬ q.Full) (hsend : 1 ≤ data.length ∧ data.length ≤ geRs232MaxMessageSize) :
    Due (geQueuePush q data finished) (geQueuePush q data finished).pending := by
  have hnew : (⟨data, 0, finished⟩ : GeMessage).Fresh := ⟨rfl, hsend⟩
  have hms := messages_push data finished hroom
  have hcall : q.pending = q.messages.map (·.finished) := callbacks_messages q
  rw [GeQueue.pending, callbacks_messages, hms]
  cases hq : q.messages with
  | nil =>
    rw [hq] at hms
    exact due_of_fresh [] hms (by simpa using hnew)
  | cons m ms =>
    rw [hcall, hq] at h
    obtain ⟨w, older, newer, hw, -, hl, hsendw, htried, hfresh⟩ := h
    obtain ⟨rfl, rfl⟩ := List.cons.inj (hq.symm.trans hw)
    have hnil : newer = [] := by
      have hlen := congrArg List.length hl
      simp at hlen
      exact hlen
    subst hnil
    refine ⟨m, older ++ [⟨data, 0, finished⟩], [], ?_, rfl, ?_, hsendw, htried, ?_⟩
    · rw [hms, hq]
      simp
    · simp
    · intro v hv
      rcases List.mem_append.mp hv with hv | hv
      · exact hfresh v hv
      · rw [List.mem_singleton.mp hv]
        exact hnew

/-- The invariant of orderly runs. -/
structure AllDue (s : Link) : Prop where
  refines : Refines (s, s.queue.contents)
  due : Due s.queue s.queue.pending
  sent : SentBefore s

theorem allDue_step (s : Link) (i : LinkStep) (h : AllDue s) (hi : Orderly s i) :
    AllDue (linkMachine.step s i).1 := by
  obtain ⟨hroom, hsend, hlast⟩ := hi
  have hcap : WithinCapacity (s, s.queue.contents) i := by
    cases i with
    | queueMessage data finished =>
      have hlen : s.queue.contents.length < 8 := by
        rw [GeQueue.contents, List.length_map]
        exact length_span_lt
      have hne : s.queue.contents.length ≠ 7 := fun h7 => hroom (full_iff.mpr h7)
      exact ⟨hsend.1, hsend.2, by show s.queue.contents.length < 7; omega⟩
    | _ => trivial
  have hr := refines_step h.refines hcap hlast
  have hrefines : Refines ((linkMachine.step s i).1, (linkMachine.step s i).1.queue.contents) :=
    ⟨rfl, hr.awaits, hr.response⟩
  refine ⟨hrefines, ?_, sentBefore_step h.sent i⟩
  cases i with
  | queueMessage data finished =>
    have hdue := (serves_update (due_push_all h.due data finished hroom hsend) s.env).1.due
    rw [served_update] at hdue
    exact hdue
  | queueUpdate =>
    have hdue := (serves_update h.due s.env).1.due
    rw [served_update] at hdue
    exact hdue
  | receiveByte byte =>
    have hdue := (serves_receiveByte h.due s.env byte).due
    rw [served_receiveByte s.env h.refines.awaits] at hdue
    exact hdue
  | advance seconds => exact h.due
  | sendReturns status => exact h.due

theorem allDue_init {env : Env} (hnow : 0 ≤ env.now) : AllDue (linkInit env) :=
  ⟨⟨rfl, (refines_init env).awaits, (refines_init env).response⟩, trivial, hnow⟩

/-- After an orderly run, whatever then happens on the link short of an overflow, one round more
than three for each message in the ring calls all their callbacks, oldest first. -/
theorem queue_serves (env : Env) (hnow : 0 ≤ env.now) (before : List LinkStep)
    (hbefore : linkMachine.Along Orderly (linkInit env) before) (rounds : List Round)
    (hroom : linkMachine.Along HasRoom (linkMachine.run (linkInit env) before)
      (rounds.flatMap Round.steps))
    (hlen : 3 * (linkMachine.run (linkInit env) before).queue.contents.length < rounds.length) :
    (linkMachine.run (linkInit env) before).queue.pending <+:
      finishedCallbacks (linkMachine.trace (linkMachine.run (linkInit env) before)
        (rounds.flatMap Round.steps)) := by
  have hall : AllDue (linkMachine.run (linkInit env) before) :=
    Machine.inv_run allDue_step (allDue_init hnow) hbefore
  refine served_of_rounds hall.due hall.sent rounds hroom ((credit_le _ _).trans ?_)
  rw [GeQueue.pending, List.length_map]
  exact hlen

/-- Another message comes first, and then the panel is silent. -/
def silentRounds : List Round :=
  ⟨[.queueMessage [0x20] (some 2), .advance 2], by decide⟩ ::
    List.replicate 6 ⟨[.advance 1, .queueUpdate, .advance 1], by decide⟩

/-- The second of two messages is given up with a third one behind it. -/
theorem queue_serves_silent :
    (linkMachine.run (linkInit ⟨0, .ok⟩)
        [.queueMessage [0x20] (some 0), .queueMessage [0x02] (some 1)]).queue.pending <+:
      finishedCallbacks (linkMachine.trace (linkMachine.run (linkInit ⟨0, .ok⟩)
          [.queueMessage [0x20] (some 0), .queueMessage [0x02] (some 1)])
        (silentRounds.flatMap Round.steps)) :=
  queue_serves ⟨0, .ok⟩ le_rfl _ (by decide +kernel) _ (by decide +kernel) (by decide +kernel)

end Concordd
