import Concordd.Instance.LinkSteps
import Concordd.Queue.Effects

/-! When the main loop sends: not while a frame comes in, and whenever it is told not to wait. -/
namespace Concordd

def cmsDistantFuture : ℤ := 0x7FFFFFFF

def msecPerSec : ℤ := 1000

def concorddGetTimeoutCms (self : ConcorddInstance) : ℤ :=
  if self.geQueue.interface.lastResponse = geRs232Ack then cmsDistantFuture
  else if self.geQueue.interface.lastResponse = geRs232Nak then 0
  else msecPerSec

variable {s : Daemon} {i : DaemonStep} {byte : UInt8}

/-! No sending while a frame comes in. -/

/-- `reading_message` when the step makes its calls. Only the receiver changes it. -/
def Daemon.reading (s : Daemon) : DaemonStep → Bool
  | .receiveByte byte =>
    (geRs232ReceiveByte s.inst.geQueue.interface byte).state.readingMessage
  | _ => s.inst.geQueue.interface.readingMessage

def SendsBetweenFrames (s : Daemon) (i : DaemonStep) : Prop :=
  SendsMessage (linkEvents (daemonMachine.step s i).2) → s.reading i = false

instance (s : Daemon) (i : DaemonStep) : Decidable (SendsBetweenFrames s i) :=
  inferInstanceAs (Decidable (_ → _))

/-- What a command, or a frame handled by itself, hands to `ge_queue_message`. -/
def Daemon.handsOver (s : Daemon) : DaemonStep → Option Unfinished
  | .frame frameBytes _ => frameRequest frameBytes
  | i => i.request s.inst

/-- A message is handed over while a frame comes in, and there is room for it, and the line is
free. -/
def InterruptsFrame (s : Daemon) (i : DaemonStep) : Prop :=
  s.inst.geQueue.interface.readingMessage = true ∧ (s.handsOver i).isSome ∧
    ¬ s.inst.geQueue.Full ∧ geRs232ReadyToSend s.env s.inst.geQueue.interface ≠ .wait

instance (s : Daemon) (i : DaemonStep) : Decidable (InterruptsFrame s i) :=
  inferInstanceAs (Decidable (_ ∧ _ ∧ _ ∧ _))

theorem enqueueSteps_sends_iff (l : Link) (m : Option Unfinished) :
    SendsMessage (linkMachine.trace l (enqueueSteps m)) ↔
      m.isSome ∧ ¬ l.queue.Full ∧ geRs232ReadyToSend l.env l.queue.interface ≠ .wait := by
  cases m with
  | none => simp [enqueueSteps, not_sends_nil]
  | some m => simpa [enqueueSteps, linkMachine] using
      message_sends_iff l.env l.queue m.data m.finished

theorem sendsBetweenFrames_handsOver (hr : s.reading i = s.inst.geQueue.interface.readingMessage)
    (hl : s.linkSteps i = enqueueSteps (s.handsOver i)) :
    SendsBetweenFrames s i ↔ ¬ InterruptsFrame s i := by
  rw [SendsBetweenFrames, ← (follows_step s i).2, hl, enqueueSteps_sends_iff, hr, InterruptsFrame]
  simp only [Daemon.link]
  cases s.inst.geQueue.interface.readingMessage <;> simp

/-- One step sends between frames exactly when it does not interrupt one. -/
theorem sendsBetweenFrames_iff (s : Daemon) (i : DaemonStep) :
    SendsBetweenFrames s i ↔ ¬ InterruptsFrame s i := by
  have hquiet : (s.handsOver i).isSome = false →
      (SendsMessage (linkMachine.trace s.link (s.linkSteps i)) → s.reading i = false) →
      (SendsBetweenFrames s i ↔ ¬ InterruptsFrame s i) := by
    intro hnone h
    rw [SendsBetweenFrames, ← (follows_step s i).2]
    refine iff_of_true h ?_
    rintro ⟨-, hsome, -⟩
    rw [hnone] at hsome
    cases hsome
  cases i with
  | receiveByte byte =>
    apply hquiet rfl
    rintro ⟨data, hm⟩
    simp only [Daemon.linkSteps, Machine.trace_cons, List.mem_append] at hm
    rcases hm with hm | hm
    · exact (receiveByte_sends_not _ _ byte ⟨data, hm⟩).elim
    · obtain ⟨hsome, -⟩ := (enqueueSteps_sends_iff _ _).mp ⟨data, hm⟩
      rw [Daemon.byteRequest] at hsome
      cases hd : deliveredFrame (geRs232ReceiveByte s.inst.geQueue.interface byte).out with
      | none =>
        rw [hd] at hsome
        cases hsome
      | some buffer => exact (receiveByte_delivers hd).2.2
  | process =>
    apply hquiet rfl
    intro hm
    by_contra hreading
    have hreading : s.inst.geQueue.interface.readingMessage = true := by
      simpa [Daemon.reading] using hreading
    simp only [Daemon.linkSteps, hreading, if_true] at hm
    exact not_sends_nil hm
  | install | advance | sendReturns =>
    apply hquiet rfl
    intro hm
    exact (not_sends_nil hm).elim
  | _ => exact sendsBetweenFrames_handsOver rfl rfl

/-- A run sends queued messages only between frames exactly when no message is handed over,
with room for it on a free line, while a frame comes in. -/
theorem sends_between_frames_iff (env : Env) (steps : List DaemonStep) :
    daemonMachine.Along SendsBetweenFrames (daemonInit env) steps ↔
      daemonMachine.Along (fun s i => ¬ InterruptsFrame s i) (daemonInit env) steps :=
  Machine.along_iff_of_inv (I := fun _ => True) (D := fun _ _ => True)
    (fun s i _ _ => sendsBetweenFrames_iff s i) (fun _ _ _ _ _ => trivial) trivial
    Machine.along_true

/-- A key press right after the start of a frame. -/
theorem key_press_interrupts_frame :
    ¬ daemonMachine.Along SendsBetweenFrames (daemonInit ⟨0, .ok⟩)
      [.receiveByte geRs232StartOfMessage, .pressKeys 0 [0x31] none] := by
  decide +kernel

/-! No waiting time without anything to do. -/

/-- With a timeout of zero the next `concordd_process` sends. -/
def Daemon.Busy (s : Daemon) : Prop :=
  concorddGetTimeoutCms s.inst = 0 → SendsMessage (linkEvents (daemonMachine.step s .process).2)

instance (s : Daemon) : Decidable s.Busy := inferInstanceAs (Decidable (_ → _))

/-- A NAK is on record only with a message to send and no frame coming in. -/
def Link.Answerable (l : Link) : Prop :=
  l.queue.interface.lastResponse = geRs232Nak →
    l.queue.interface.readingMessage = false ∧ l.queue.head ≠ l.queue.tail

theorem timeout_eq_zero_iff (self : ConcorddInstance) :
    concorddGetTimeoutCms self = 0 ↔ self.geQueue.interface.lastResponse = geRs232Nak := by
  unfold concorddGetTimeoutCms
  split
  · next ha =>
    rw [ha]
    decide
  · split
    · next hn => simp [hn]
    · next hn => simp [hn, msecPerSec]

theorem readyToSend_nak {rs : GeRs232} (h : rs.lastResponse = geRs232Nak) (env : Env) :
    geRs232ReadyToSend env rs = .nak := by
  simp [geRs232ReadyToSend, h, geRs232Nak, geRs232Ack]

theorem busy_iff (s : Daemon) : s.Busy ↔ s.link.Answerable := by
  rw [Daemon.Busy, timeout_eq_zero_iff, Link.Answerable, ← (follows_step s .process).2]
  apply imp_congr_right
  intro hnak
  simp only [Daemon.linkSteps]
  cases hr : s.inst.geQueue.interface.readingMessage with
  | true =>
    refine iff_of_false not_sends_nil ?_
    rintro ⟨hf, -⟩
    cases hr.symm.trans hf
  | false =>
    have hu := update_sends_iff s.env s.inst.geQueue
    rw [readyToSend_nak hnak] at hu
    simpa [linkMachine, Daemon.link, hr] using hu

/-- The step leaves a NAK on record with nothing to send, or with a frame coming in. -/
def StrandsNak (s : Daemon) : DaemonStep → Prop
  | .receiveByte byte =>
    (byte = geRs232StartOfMessage ∧ s.inst.geQueue.interface.lastResponse = geRs232Nak) ∨
    (byte = geRs232Nak ∧ s.inst.geQueue.interface.lastResponse = 0 ∧
      (s.inst.geQueue.interface.readingMessage = true ∨
        (if s.inst.geQueue.Ends byte then s.inst.geQueue.head + 1 else s.inst.geQueue.head) =
          s.inst.geQueue.tail))
  | i => (s.handsOver i).isSome ∧ s.inst.geQueue.interface.lastResponse = geRs232Nak ∧
      s.inst.geQueue.Full

instance (s : Daemon) : ∀ i, Decidable (StrandsNak s i)
  | .receiveByte _ => inferInstanceAs (Decidable ((_ ∧ _) ∨ (_ ∧ _ ∧ (_ ∨ _))))
  | .frame _ _ | .process | .refresh _ | .dynamicDataRefresh _ | .pressKeys _ _ _
  | .setLight _ _ _ _ | .setZoneBypass _ _ _ _ | .setOutput _ _ _ | .setArmLevel _ _ _
  | .install _ | .advance _ | .sendReturns _ => inferInstanceAs (Decidable (_ ∧ _ ∧ _))

theorem update_answerable {l : Link} (h : l.Answerable) :
    Link.Answerable ⟨(geQueueUpdate l.env l.queue).state, l.env⟩ := by
  intro hnak
  simp only [update_readingMessage] at hnak ⊢
  rcases update_cases l.env l.queue with ⟨-, hu⟩ | ⟨hg, hu⟩ | ⟨hne, -, -, hu⟩
  · rw [hu] at hnak ⊢
    exact h hnak
  · -- a message is given up only before it is answered
    exfalso
    rcases update_lastResponse l.env l.queue with h0 | hsame
    · rw [h0] at hnak
      exact absurd hnak (by decide)
    · rw [hsame] at hnak
      have ht := hg.2.1
      rw [readyToSend_nak hnak] at ht
      cases ht
  · refine ⟨?_, ?_⟩
    · rcases update_lastResponse l.env l.queue with h0 | hsame
      · rw [h0] at hnak
        exact absurd hnak (by decide)
      · rw [hsame] at hnak
        exact (h hnak).1
    · rw [hu]
      exact hne

theorem message_answerable_iff {l : Link} (h : l.Answerable) (data : List UInt8)
    (finished : Option ℕ) :
    (linkMachine.step l (.queueMessage data finished)).1.Answerable ↔
      ¬ (l.queue.interface.lastResponse = geRs232Nak ∧ l.queue.Full) := by
  by_cases hfull : l.queue.Full
  · have he := (push_head_eq_tail_iff l.queue data finished).mpr hfull
    simp only [linkMachine, message_full l.env hfull, Link.Answerable, hfull, and_true]
    constructor
    · intro ha hnak
      exact (ha hnak).2 he
    · intro hno hnak
      exact (hno hnak).elim
  · refine iff_of_true ?_ (fun hno => hfull hno.2)
    apply update_answerable (l := ⟨geQueuePush l.queue data finished, l.env⟩)
    intro hnak
    exact ⟨(h hnak).1, fun he => hfull ((push_head_eq_tail_iff ..).mp he)⟩

/-- Without a frame coming in, only a start of message begins one. -/
theorem receiveByte_reading {rs : GeRs232} (h : rs.readingMessage = false)
    (hi : ¬ Intercepted rs byte) :
    (geRs232ReceiveByte rs byte).state.readingMessage = false ↔ byte ≠ geRs232StartOfMessage := by
  by_cases hlf : byte = geRs232StartOfMessage
  · subst hlf
    simp [geRs232ReceiveByte]
  · rw [receiveByte_of_not_intercepted hlf hi, h]
    simp [h, hlf]

theorem receiveByte_answerable_iff (h : s.link.Answerable) (byte : UInt8) :
    (linkMachine.step s.link (.receiveByte byte)).1.Answerable ↔
      ¬ StrandsNak s (.receiveByte byte) := by
  simp only [linkMachine, Daemon.link, Link.Answerable, StrandsNak]
  simp only [Daemon.link, Link.Answerable] at h
  by_cases hi : Intercepted s.inst.geQueue.interface byte
  · obtain ⟨hl, hm, ht, hh⟩ := receiveByte_answered s.env hi
    rw [hl, hm, ht, hh]
    have hlf : byte ≠ geRs232StartOfMessage := by
      rcases hi.1 with rfl | rfl <;> decide
    simp [hlf, hi.2]
  · rw [receiveByte_other hi]
    obtain ⟨hl, -⟩ := (receiveByte_calls hi).1
    simp only [hl]
    have hno : ¬ (byte = geRs232Nak ∧ s.inst.geQueue.interface.lastResponse = 0) :=
      fun hn => hi ⟨.inr hn.1, hn.2⟩
    by_cases hnak : s.inst.geQueue.interface.lastResponse = geRs232Nak
    · obtain ⟨hm, hne⟩ := h hnak
      have hr := receiveByte_reading hm hi
      simp only [hnak, true_imp_iff, hr, hne, ne_eq, not_false_eq_true, and_true]
      rw [hnak] at hno
      tauto
    · tauto

/-- A byte whose frame asks the queue for something was read as part of that frame, so no NAK is
on record. -/
theorem byteRequest_noNak (h : s.link.Answerable) {byte : UInt8} {m : Unfinished}
    (hm : s.byteRequest byte = some m) :
    (linkMachine.step s.link (.receiveByte byte)).1.queue.interface.lastResponse ≠
      geRs232Nak := by
  rw [Daemon.byteRequest, Option.bind_eq_some_iff] at hm
  obtain ⟨buffer, hb, -⟩ := hm
  obtain ⟨hreading, hi, -⟩ := receiveByte_delivers hb
  simp only [linkMachine, Daemon.link]
  rw [receiveByte_other hi]
  intro hn
  rw [(receiveByte_calls hi).1.1] at hn
  cases (h hn).1.symm.trans hreading

theorem answerable_step_iff (h : s.link.Answerable) :
    (daemonMachine.step s i).1.link.Answerable ↔ ¬ StrandsNak s i := by
  have hhand : s.linkSteps i = enqueueSteps (s.handsOver i) →
      ((daemonMachine.step s i).1.link.Answerable ↔
        ¬ ((s.handsOver i).isSome ∧ s.inst.geQueue.interface.lastResponse = geRs232Nak ∧
          s.inst.geQueue.Full)) := by
    intro hl
    rw [← (follows_step s i).1, hl]
    cases s.handsOver i with
    | none => simpa [enqueueSteps] using h
    | some m =>
      simp only [enqueueSteps, Machine.run_cons, Machine.run_nil, Option.isSome_some, true_and]
      exact message_answerable_iff h m.data m.finished
  cases i with
  | receiveByte byte =>
    have hbyte := receiveByte_answerable_iff h byte
    rw [← (follows_step s (.receiveByte byte)).1, ← hbyte]
    simp only [Daemon.linkSteps, Machine.run_cons]
    cases hm : s.byteRequest byte with
    | none => simp [enqueueSteps]
    | some m =>
      have hnak := byteRequest_noNak h hm
      have ha : (linkMachine.step s.link (.receiveByte byte)).1.Answerable :=
        fun hn => (hnak hn).elim
      refine iff_of_true ?_ ha
      exact (message_answerable_iff ha m.data m.finished).mpr fun hn => hnak hn.1
  | process =>
    refine iff_of_true ?_ (fun hn => Bool.false_ne_true hn.1)
    rw [← (follows_step s .process).1]
    simp only [Daemon.linkSteps]
    split
    · exact h
    · exact update_answerable h
  | install callbacks => exact iff_of_true h (fun hn => Bool.false_ne_true hn.1)
  | advance seconds => exact iff_of_true h (fun hn => Bool.false_ne_true hn.1)
  | sendReturns status => exact iff_of_true h (fun hn => Bool.false_ne_true hn.1)
  | _ => exact hhand rfl

/-- A run never leaves the main loop with a timeout of zero and nothing to send exactly when no
step of it strands a NAK. -/
theorem zero_timeout_sends_iff (env : Env) (steps : List DaemonStep) :
    daemonMachine.Always Daemon.Busy (daemonInit env) steps ↔
      daemonMachine.Along (fun s i => ¬ StrandsNak s i) (daemonInit env) steps := by
  have hinit : (daemonInit env).link.Answerable := fun h =>
    absurd (show geRs232Ack = geRs232Nak from h) (by decide)
  exact Machine.always_iff_of_inv (I := fun s : Daemon => s.link.Answerable)
    (D := fun _ _ => True) (fun s h => (busy_iff s).mpr h)
    (fun s i h _ => (busy_iff _).trans (answerable_step_iff h))
    (fun s i h _ hp => (answerable_step_iff h).mpr hp) hinit Machine.along_true

/-- One message, refused three times: the ring is empty and the timeout stays zero. -/
theorem refused_message_spins :
    ¬ daemonMachine.Always Daemon.Busy (daemonInit ⟨0, .ok⟩)
      [.dynamicDataRefresh none, .receiveByte geRs232Nak, .process, .receiveByte geRs232Nak,
        .process, .receiveByte geRs232Nak] := by
  decide +kernel

end Concordd
