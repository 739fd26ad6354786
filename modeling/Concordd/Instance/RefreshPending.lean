import Concordd.Instance.LinkSteps
import Concordd.Queue.Effects

/-! What `refresh_pending` promises: a request is queued, or one has been acknowledged. -/
namespace Concordd

/-- An equipment-list request or a dynamic-data request. -/
def IsRefreshRequest (data : List UInt8) : Prop :=
  data = [geRs232AtpEquipListRequest] ∨ data = [geRs232AtpDynamicDataRefresh]

instance (data : List UInt8) : Decidable (IsRefreshRequest data) :=
  inferInstanceAs (Decidable (_ ∨ _))

def HoldsRequest (l : List Unfinished) : Prop := ∃ m ∈ l, IsRefreshRequest m.data

instance (l : List Unfinished) : Decidable (HoldsRequest l) :=
  inferInstanceAs (Decidable (∃ m ∈ l, IsRefreshRequest m.data))

/-- The frame the step handles. -/
def Daemon.handled (s : Daemon) : DaemonStep → Option Buffer
  | .frame frameBytes _ => some frameBytes
  | .receiveByte byte => deliveredFrame (geRs232ReceiveByte s.inst.geQueue.interface byte).out
  | _ => none

/-- The step calls `concordd_equipment_refresh`, which sets the flag. -/
def Daemon.refreshes (s : Daemon) (i : DaemonStep) : Bool :=
  match i with
  | .refresh _ => true
  | i => (s.handled i).any fun b => GeRs232Pta.ofByte (b 0) = .clearAutomationDynamicImage

/-- What the step hands to `ge_queue_message`. -/
def Daemon.asked (s : Daemon) : DaemonStep → Option Unfinished
  | .receiveByte byte => s.byteRequest byte
  | .frame frameBytes _ => frameRequest frameBytes
  | i => i.request s.inst

def LinkEvent.isSuccess : LinkEvent → Bool
  | .finished _ .ok => true
  | _ => false

/-- The step finishes a request with `GE_RS232_STATUS_OK`. -/
def Daemon.acknowledges (s : Daemon) (i : DaemonStep) : Bool :=
  IsRefreshRequest (s.inst.geQueue.queue s.inst.geQueue.head).msg ∧
    (linkEvents (daemonMachine.step s i).2).any LinkEvent.isSuccess

/-- The daemon, and whether a request has been acknowledged since the flag was last set. -/
def refreshMachine : Machine (Daemon × Bool) DaemonStep DaemonEvent where
  step s i :=
    (((daemonMachine.step s.1 i).1, !s.1.refreshes i && (s.2 || s.1.acknowledges i)),
      (daemonMachine.step s.1 i).2)

/-- The flag stands for a request that is queued, or one that has been acknowledged. -/
def RefreshTracked (s : Daemon × Bool) : Prop :=
  s.1.inst.refreshPending = true → s.2 = true ∨ HoldsRequest s.1.inst.geQueue.contents

instance (s : Daemon × Bool) : Decidable (RefreshTracked s) := inferInstanceAs (Decidable (_ → _))

/-- The step gives up the message at the head: after three attempts it is refused, or has had no
answer in time when the queue sends again. -/
def GivesUpHead (s : Daemon) : DaemonStep → Prop
  | .process =>
    s.inst.geQueue.interface.readingMessage = false ∧ s.inst.geQueue.GivesUp s.env
  | .receiveByte byte =>
    (byte = geRs232Nak ∧ s.inst.geQueue.interface.lastResponse = 0 ∧ s.inst.geQueue.Ends byte) ∨
      ((s.byteRequest byte).isSome ∧ s.inst.geQueue.GivesUp s.env)
  | i => (s.asked i).isSome ∧ s.inst.geQueue.GivesUp s.env

instance (s : Daemon) : ∀ i, Decidable (GivesUpHead s i)
  | .receiveByte _ => inferInstanceAs (Decidable ((_ ∧ _ ∧ _) ∨ (_ ∧ _)))
  | .frame _ _ | .process | .refresh _ | .dynamicDataRefresh _ | .pressKeys _ _ _
  | .setLight _ _ _ _ | .setZoneBypass _ _ _ _ | .setOutput _ _ _ | .setArmLevel _ _ _
  | .install _ | .advance _ | .sendReturns _ => inferInstanceAs (Decidable (_ ∧ _))

/-- A refresh that has no acknowledgement yet loses its last request, by a message handed over on
a full ring or with the head that is given up. -/
def LosesRefresh (s : Daemon × Bool) (i : DaemonStep) : Prop :=
  (s.1.refreshes i = true ∨ (s.1.inst.refreshPending = true ∧ s.2 = false)) ∧
    (((s.1.asked i).isSome ∧ s.1.inst.geQueue.Full) ∨
      (GivesUpHead s.1 i ∧
        ¬ HoldsRequest ((geQueueDrop s.1.inst.geQueue).contents ++ (s.1.asked i).toList)))

instance (s : Daemon × Bool) (i : DaemonStep) : Decidable (LosesRefresh s i) :=
  inferInstanceAs (Decidable (_ ∧ (_ ∨ _)))

variable {env : Env} {self : ConcorddInstance} {b : Buffer} {n : ℕ} {s : Daemon} {i : DaemonStep}
  {byte : UInt8} {l : List Unfinished} {m : Unfinished}

/-! The queue. -/

theorem isSuccess_iff {out : List LinkEvent} :
    out.any LinkEvent.isSuccess = true ↔ ∃ callback, .finished callback .ok ∈ out := by
  rw [List.any_eq_true]
  constructor
  · rintro ⟨e, hm, he⟩
    cases e with
    | finished callback status =>
      cases status with
      | ok => exact ⟨callback, hm⟩
      | _ => cases he
    | _ => cases he
  · rintro ⟨callback, hm⟩
    exact ⟨_, hm, rfl⟩

theorem enqueue_not_success (l : Link) (m : Option Unfinished) :
    ¬ ∃ callback, .finished callback .ok ∈ linkMachine.trace l (enqueueSteps m) := by
  rintro ⟨callback, hm⟩
  cases m with
  | none => cases hm
  | some m =>
    simp only [enqueueSteps, Machine.trace_cons, Machine.trace_nil, List.append_nil] at hm
    rcases List.mem_cons.mp hm with hm | hm
    · cases hm
    · cases update_finished hm

/-- Only an ACK acknowledges. -/
theorem acknowledges_iff (s : Daemon) (i : DaemonStep) :
    s.acknowledges i = true ↔
      IsRefreshRequest (s.inst.geQueue.queue s.inst.geQueue.head).msg ∧
        i = .receiveByte geRs232Ack ∧ s.inst.geQueue.interface.lastResponse = 0 ∧
        s.inst.geQueue.interface.gotResponse = true := by
  rw [Daemon.acknowledges, decide_eq_true_iff, isSuccess_iff, ← (follows_step s i).2]
  apply and_congr_right
  intro _
  have hquiet : i ≠ .receiveByte geRs232Ack →
      (¬ ∃ callback, .finished callback .ok ∈ linkMachine.trace s.link (s.linkSteps i)) →
      ((∃ callback, .finished callback .ok ∈ linkMachine.trace s.link (s.linkSteps i)) ↔
        i = .receiveByte geRs232Ack ∧ s.inst.geQueue.interface.lastResponse = 0 ∧
          s.inst.geQueue.interface.gotResponse = true) :=
    fun hi hno => iff_of_false hno fun h => hi h.1
  have henqueue : i ≠ .receiveByte geRs232Ack → s.linkSteps i = enqueueSteps (s.asked i) →
      ((∃ callback, .finished callback .ok ∈ linkMachine.trace s.link (s.linkSteps i)) ↔
        i = .receiveByte geRs232Ack ∧ s.inst.geQueue.interface.lastResponse = 0 ∧
          s.inst.geQueue.interface.gotResponse = true) :=
    fun hi hl => hquiet hi (hl ▸ enqueue_not_success s.link (s.asked i))
  cases i with
  | receiveByte byte =>
    have hbyte := receiveByte_finished_ok s.env s.inst.geQueue byte
    have henqueue := enqueue_not_success (linkMachine.step s.link (.receiveByte byte)).1
      (s.byteRequest byte)
    simp only [Daemon.linkSteps, Machine.trace_cons, List.mem_append, exists_or]
    rw [or_iff_left henqueue]
    refine hbyte.trans ?_
    constructor
    · rintro ⟨hi, rfl, hg⟩
      exact ⟨rfl, hi.2, hg⟩
    · rintro ⟨hi, hl, hg⟩
      cases hi
      exact ⟨⟨.inl rfl, hl⟩, rfl, hg⟩
  | process =>
    apply hquiet (by simp)
    rintro ⟨callback, hm⟩
    simp only [Daemon.linkSteps] at hm
    split at hm
    · cases hm
    · rw [Machine.trace_cons, Machine.trace_nil, List.append_nil] at hm
      cases update_finished hm
  | install | advance | sendReturns =>
    apply hquiet (by simp)
    rintro ⟨callback, hm⟩
    cases hm
  | _ => exact henqueue (by simp) rfl

/-- An answer ends the message at the head if that is due. -/
theorem answer_contents (hi : Intercepted s.inst.geQueue.interface byte) :
    s.byteRequest byte = none ∧
      (daemonMachine.step s (.receiveByte byte)).1.inst.geQueue.contents =
        if s.inst.geQueue.Ends byte then (geQueueDrop s.inst.geQueue).contents
        else s.inst.geQueue.contents := by
  have hnone : s.byteRequest byte = none := by
    rw [Daemon.byteRequest, receiveByte_answer hi]
    dsimp only
    split <;> rfl
  refine ⟨hnone, ?_⟩
  have hrun := congrArg (fun l : Link => l.queue.contents) (follows_step s (.receiveByte byte)).1
  simp only [Daemon.linkSteps, hnone] at hrun
  refine hrun.symm.trans ((receiveByte_contents s.env s.inst.geQueue byte).trans ?_)
  simp only [hi, true_and]

theorem enqueue_contents (l : Link) (m : Option Unfinished) :
    (linkMachine.run l (enqueueSteps m)).queue.contents =
      if m.isSome ∧ l.queue.Full then []
      else (if m.isSome ∧ l.queue.GivesUp l.env then (geQueueDrop l.queue).contents
        else l.queue.contents) ++ m.toList := by
  cases m with
  | none => simp [enqueueSteps]
  | some m =>
    simp only [enqueueSteps, Machine.run_cons, Machine.run_nil, Option.isSome_some, true_and,
      Option.toList_some]
    exact message_contents l.env l.queue m.data m.finished

/-- Any other step may give up the head, and appends what it hands over. -/
theorem step_contents
    (hi : ∀ byte, i = .receiveByte byte → ¬ Intercepted s.inst.geQueue.interface byte) :
    (daemonMachine.step s i).1.inst.geQueue.contents =
      if (s.asked i).isSome ∧ s.inst.geQueue.Full then []
      else (if GivesUpHead s i then (geQueueDrop s.inst.geQueue).contents
        else s.inst.geQueue.contents) ++ (s.asked i).toList := by
  rw [show (daemonMachine.step s i).1.inst.geQueue = (linkMachine.run s.link (s.linkSteps i)).queue
    from congrArg Link.queue (follows_step s i).1.symm]
  have henqueue : s.linkSteps i = enqueueSteps (s.asked i) →
      (GivesUpHead s i ↔ (s.asked i).isSome ∧ s.inst.geQueue.GivesUp s.env) →
      (linkMachine.run s.link (s.linkSteps i)).queue.contents =
        if (s.asked i).isSome ∧ s.inst.geQueue.Full then []
        else (if GivesUpHead s i then (geQueueDrop s.inst.geQueue).contents
          else s.inst.geQueue.contents) ++ (s.asked i).toList := by
    intro hl hhead
    rw [hl, enqueue_contents]
    simp only [hhead]
    rfl
  cases i with
  | receiveByte byte =>
    have hno := hi byte rfl
    obtain ⟨hl, hs, -, -, hg⟩ := (receiveByte_calls hno).1
    have hgives : GeQueue.GivesUp s.env { s.inst.geQueue with
        interface := (geRs232ReceiveByte s.inst.geQueue.interface byte).state } ↔
          s.inst.geQueue.GivesUp s.env := by
      unfold GeQueue.GivesUp geRs232ReadyToSend
      dsimp only
      rw [hl, hs, hg]
    have hhead : GivesUpHead s (.receiveByte byte) ↔
        (s.byteRequest byte).isSome ∧ s.inst.geQueue.GivesUp s.env :=
      or_iff_right fun h => hno ⟨.inr h.1, h.2.1⟩
    have hstep : (linkMachine.step s.link (.receiveByte byte)).1 =
        ⟨{ s.inst.geQueue with
          interface := (geRs232ReceiveByte s.inst.geQueue.interface byte).state }, s.env⟩ :=
      congrArg (fun q => Link.mk q s.env) (receiveByte_other hno)
    simp only [Daemon.linkSteps, Machine.run_cons, enqueue_contents, hstep, hgives, hhead]
    rfl
  | process =>
    by_cases hr : s.inst.geQueue.interface.readingMessage = true
    · have hsteps : s.linkSteps .process = [] := if_pos hr
      rw [hsteps]
      simp [Daemon.asked, DaemonStep.request, GivesUpHead, hr, Daemon.link]
    · have hsteps : s.linkSteps .process = [.queueUpdate] := if_neg hr
      rw [hsteps]
      simpa [Daemon.asked, DaemonStep.request, GivesUpHead, hr, linkMachine, Daemon.link] using
        update_contents s.env s.inst.geQueue
  | install | advance | sendReturns =>
    simp [Daemon.linkSteps, Daemon.asked, DaemonStep.request, GivesUpHead, linkMachine, Daemon.link]
  | _ => exact henqueue rfl Iff.rfl

/-! The flag. -/

theorem queueOnly_refreshPending {r : Outcome ConcorddInstance InstanceEvent}
    (h : QueueOnly self r) : r.state.refreshPending = self.refreshPending := by
  obtain ⟨⟨q, hq⟩, -⟩ := h
  rw [hq]

/-- The frame that asks for an image sets the flag, and no other does. A frame that hands
something over does not clear it. -/
theorem handleFrame_refreshPending (env : Env) (self : ConcorddInstance) (n : ℕ) :
    (GeRs232Pta.ofByte (b 0) = .clearAutomationDynamicImage →
      (concorddHandleFrame env self b n).state.refreshPending = true) ∧
    (GeRs232Pta.ofByte (b 0) ≠ .clearAutomationDynamicImage →
      (concorddHandleFrame env self b n).state.refreshPending = true →
        self.refreshPending = true) ∧
    ((frameRequest b).isSome → self.refreshPending = true →
      (concorddHandleFrame env self b n).state.refreshPending = true) := by
  cases hr : frameRequest b with
  | none =>
    refine ⟨?_, fun _ => (handleFrame_leavesQueue env self n hr).2, fun h => (nomatch h)⟩
    intro hc
    rw [frameRequest, hc] at hr
    cases hr
  | some m =>
    unfold concorddHandleFrame
    unfold frameRequest at hr
    cases hc : GeRs232Pta.ofByte (b 0) <;> rw [hc] at hr
    case clearAutomationDynamicImage => exact ⟨fun _ => rfl, fun h => (h rfl).elim, fun _ _ => rfl⟩
    case equipListComplete => exact ⟨fun h => (nomatch h), fun _ => id, fun _ => id⟩
    all_goals cases hr

/-- The flag is set by a refresh alone, and kept by what hands over or gives up. -/
structure MovesFlag (s : Daemon) (i : DaemonStep) : Prop where
  set : s.refreshes i = true → (daemonMachine.step s i).1.inst.refreshPending = true
  back : s.refreshes i = false → (daemonMachine.step s i).1.inst.refreshPending = true →
    s.inst.refreshPending = true
  kept : (s.asked i).isSome ∨ GivesUpHead s i → s.inst.refreshPending = true →
    (daemonMachine.step s i).1.inst.refreshPending = true

theorem movesFlag_same (hno : s.refreshes i = false)
    (h : (daemonMachine.step s i).1.inst.refreshPending = s.inst.refreshPending) :
    MovesFlag s i :=
  ⟨fun hyes => (nomatch hno.symm.trans hyes), fun _ => h ▸ id, fun _ => h ▸ id⟩

theorem movesFlag_step (s : Daemon) (i : DaemonStep) : MovesFlag s i := by
  cases i with
  | receiveByte byte =>
    rcases receiveByte_handled s byte with ⟨hd, hbyte⟩ | ⟨b, n, hd, hbyte⟩
    · apply movesFlag_same
      · simp [Daemon.refreshes, Daemon.handled, hd]
      · exact congrArg (fun r : Daemon × List DaemonEvent => r.1.inst.refreshPending) hbyte
    · have hpending : (daemonMachine.step s (.receiveByte byte)).1.inst.refreshPending = _ :=
        congrArg (fun r : Daemon × List DaemonEvent => r.1.inst.refreshPending) hbyte
      have hasked : s.byteRequest byte = frameRequest b := by rw [Daemon.byteRequest, hd]; rfl
      have hi := (receiveByte_delivers hd).2.1
      obtain ⟨hset, hback, hkeep⟩ := handleFrame_refreshPending (b := b) s.env
        (s.withQueue (geQueueReceiveByte s.env s.inst.geQueue byte).1).inst n
      constructor <;> rw [hpending] <;>
        simp only [Daemon.refreshes, Daemon.handled, hd, Option.any_some, decide_eq_true_eq,
          decide_eq_false_iff_not, Daemon.asked, hasked, GivesUpHead]
      · exact hset
      · exact hback
      · rintro (h | ⟨hnak, h0, -⟩ | ⟨h, -⟩)
        · exact hkeep h
        · exact (hi ⟨.inr hnak, h0⟩).elim
        · exact hkeep h
  | frame b n =>
    obtain ⟨hset, hback, hkeep⟩ := handleFrame_refreshPending (b := b) s.env s.inst n
    constructor <;> simp only [Daemon.refreshes, Daemon.handled, Option.any_some,
      decide_eq_true_eq, decide_eq_false_iff_not, Daemon.asked, GivesUpHead]
    · exact hset
    · exact hback
    · rintro (h | ⟨h, -⟩) <;> exact hkeep h
  | refresh finished =>
    refine ⟨fun _ => rfl, ?_, fun _ _ => rfl⟩
    intro h
    cases h
  | process => exact movesFlag_same rfl (queueOnly_refreshPending (queueOnly_process ..))
  | dynamicDataRefresh => exact movesFlag_same rfl rfl
  | pressKeys => exact movesFlag_same rfl (queueOnly_refreshPending (queueOnly_pressKeys ..))
  | setLight => exact movesFlag_same rfl (queueOnly_refreshPending (queueOnly_setLight ..))
  | setZoneBypass =>
    exact movesFlag_same rfl (queueOnly_refreshPending (queueOnly_setZoneBypass ..))
  | setOutput => exact movesFlag_same rfl (queueOnly_refreshPending (queueOnly_setOutput ..))
  | setArmLevel => exact movesFlag_same rfl (queueOnly_refreshPending (queueOnly_setArmLevel ..))
  | install | advance | sendReturns => exact movesFlag_same rfl rfl

/-! Steps and runs. -/

theorem holdsRequest_append {l' : List Unfinished} :
    HoldsRequest (l ++ l') ↔ HoldsRequest l ∨ HoldsRequest l' := by
  simp [HoldsRequest, or_and_right, exists_or]

theorem refreshes_asked (h : s.refreshes i = true) :
    (s.asked i).isSome ∧ HoldsRequest (s.asked i).toList := by
  have hframe : ∀ b : Buffer, GeRs232Pta.ofByte (b 0) = .clearAutomationDynamicImage →
      (frameRequest b).isSome ∧ HoldsRequest (frameRequest b).toList := by
    intro b hb
    rw [frameRequest, hb]
    exact ⟨rfl, _, List.mem_singleton_self _, .inl rfl⟩
  cases i with
  | refresh finished => exact ⟨rfl, _, List.mem_singleton_self _, .inl rfl⟩
  | frame b n => exact hframe b (of_decide_eq_true h)
  | receiveByte byte =>
    simp only [Daemon.asked, Daemon.byteRequest]
    simp only [Daemon.refreshes, Daemon.handled] at h
    cases hd : deliveredFrame (geRs232ReceiveByte s.inst.geQueue.interface byte).out with
    | none =>
      rw [hd] at h
      cases h
    | some b =>
      rw [hd] at h
      exact hframe b (of_decide_eq_true h)
  | _ => cases h

theorem answer_not_refreshes (hi : Intercepted s.inst.geQueue.interface byte) :
    s.refreshes (.receiveByte byte) = false := by
  by_contra hr
  have hsome := (refreshes_asked (Bool.eq_true_of_not_eq_false hr)).1
  simp [Daemon.asked, (answer_contents hi).1] at hsome

variable {ack : Bool}

/-- Nothing is lost without a refresh that waits for its acknowledgement. -/
theorem tracked_of_settled (hr : s.refreshes i = false)
    (h : ¬ (s.inst.refreshPending = true ∧ ack = false)) :
    RefreshTracked (refreshMachine.step (s, ack) i).1 ∧ ¬ LosesRefresh (s, ack) i := by
  constructor
  · intro hp
    have hp := (movesFlag_step s i).back hr hp
    left
    have hack : ack = true := by simpa [hp] using h
    simp [refreshMachine, hr, hack]
  · rintro ⟨hs | hs, -⟩
    · cases hr.symm.trans hs
    · exact h hs

theorem tracked_refresh_iff (hr : s.refreshes i = true)
    (hi : ∀ byte, i = .receiveByte byte → ¬ Intercepted s.inst.geQueue.interface byte) :
    RefreshTracked (refreshMachine.step (s, ack) i).1 ↔ ¬ LosesRefresh (s, ack) i := by
  obtain ⟨hsome, hholds⟩ := refreshes_asked hr
  have hpending := (movesFlag_step s i).set hr
  have hcontents := step_contents hi
  simp only [RefreshTracked, refreshMachine, hpending, hr, Bool.not_true, Bool.false_and,
    Bool.false_eq_true, false_or, true_imp_iff, hcontents, LosesRefresh, true_or, true_and,
    hsome, holdsRequest_append, hholds, or_true, not_true, and_false, or_false]
  by_cases hfull : s.inst.geQueue.Full
  · simp [hfull, HoldsRequest]
  · simp [hfull, holdsRequest_append, hholds]

/-- An answer takes the request away when it is a refusal. -/
theorem tracked_answer_iff (h : RefreshTracked (s, ack)) (hp : s.inst.refreshPending = true)
    (hack : ack = false) (hi : Intercepted s.inst.geQueue.interface byte) :
    RefreshTracked (refreshMachine.step (s, ack) (.receiveByte byte)).1 ↔
      ¬ LosesRefresh (s, ack) (.receiveByte byte) := by
  subst hack
  obtain ⟨hnone, hcontents⟩ := answer_contents hi
  have hr := answer_not_refreshes hi
  have hkeep : (daemonMachine.step s (.receiveByte byte)).1.inst.refreshPending = true := by
    rcases receiveByte_handled s byte with ⟨-, hb⟩ | ⟨b, n, hd, -⟩
    · exact (congrArg (fun r : Daemon × List DaemonEvent => r.1.inst.refreshPending) hb).trans hp
    · exact ((receiveByte_delivers hd).2.1 hi).elim
  have hholds : HoldsRequest s.inst.geQueue.contents := (h hp).resolve_left Bool.false_ne_true
  have hne : s.inst.geQueue.head ≠ s.inst.geQueue.tail := by
    intro he
    obtain ⟨m, hm, -⟩ := hholds
    rw [contents_eq_nil.mpr he] at hm
    cases hm
  have hhead : IsRefreshRequest (s.inst.geQueue.queue s.inst.geQueue.head).msg ∨
      HoldsRequest (geQueueDrop s.inst.geQueue).contents := by
    simpa [contents_cons hne, HoldsRequest, GeQueue.entry] using hholds
  simp only [RefreshTracked, refreshMachine, hkeep, true_imp_iff, hr, Bool.not_false,
    Bool.true_and, Bool.false_or, acknowledges_iff, hcontents, LosesRefresh, hp, Daemon.asked,
    hnone, Option.toList_none, List.append_nil, Option.isSome_none, GivesUpHead, hi.2,
    Bool.false_eq_true, false_and, or_false, false_or, true_and, and_self]
  rcases hi.1 with rfl | rfl
  · by_cases hg : s.inst.geQueue.interface.gotResponse = true
    · have hend : s.inst.geQueue.Ends geRs232Ack := ⟨hg, .inl rfl⟩
      simpa [hg, hend, show geRs232Ack ≠ geRs232Nak by decide] using hhead
    · have hend : ¬ s.inst.geQueue.Ends geRs232Ack := fun he => hg he.1
      simp [hend, hholds]
  · by_cases hend : s.inst.geQueue.Ends geRs232Nak
    · simp [hend, show geRs232Nak ≠ geRs232Ack by decide]
    · simp [hend, hholds]

/-- Any other step takes the request away on a full ring, or by giving it up. -/
theorem tracked_other_iff (h : RefreshTracked (s, ack)) (hr : s.refreshes i = false)
    (hp : s.inst.refreshPending = true) (hack : ack = false)
    (hi : ∀ byte, i = .receiveByte byte → ¬ Intercepted s.inst.geQueue.interface byte) :
    RefreshTracked (refreshMachine.step (s, ack) i).1 ↔ ¬ LosesRefresh (s, ack) i := by
  subst hack
  have hholds : HoldsRequest s.inst.geQueue.contents := (h hp).resolve_left Bool.false_ne_true
  have hno : s.acknowledges i = false := by
    rw [← Bool.not_eq_true, acknowledges_iff]
    rintro ⟨-, rfl, hl, -⟩
    exact hi _ rfl ⟨.inl rfl, hl⟩
  have hkeep := (movesFlag_step s i).kept
  simp only [RefreshTracked, refreshMachine, hr, hno, Bool.not_false, Bool.true_and,
    Bool.or_false, Bool.false_eq_true, false_or, step_contents hi, LosesRefresh, hp, and_self,
    true_and]
  by_cases hfull : (s.asked i).isSome ∧ s.inst.geQueue.Full
  · simp [hkeep (.inl hfull.1) hp, hfull, HoldsRequest]
  · by_cases hg : GivesUpHead s i
    · simp [hkeep (.inr hg) hp, hfull, hg]
    · simp [hfull, hg, holdsRequest_append, hholds]

theorem tracked_step_iff {s : Daemon × Bool} (h : RefreshTracked s) (i : DaemonStep) :
    RefreshTracked (refreshMachine.step s i).1 ↔ ¬ LosesRefresh s i := by
  obtain ⟨s, ack⟩ := s
  by_cases hi : ∀ byte, i = .receiveByte byte → ¬ Intercepted s.inst.geQueue.interface byte
  · cases hr : s.refreshes i with
    | true => exact tracked_refresh_iff hr hi
    | false =>
      by_cases hp : s.inst.refreshPending = true ∧ ack = false
      · exact tracked_other_iff h hr hp.1 hp.2 hi
      · exact iff_of_true (tracked_of_settled hr hp).1 (tracked_of_settled hr hp).2
  · push Not at hi
    obtain ⟨byte, rfl, hi⟩ := hi
    by_cases hp : s.inst.refreshPending = true ∧ ack = false
    · exact tracked_answer_iff h hp.1 hp.2 hi
    · have hr := answer_not_refreshes hi
      exact iff_of_true (tracked_of_settled hr hp).1 (tracked_of_settled hr hp).2

/-- In every state of a run the flag stands for a queued or an acknowledged request, exactly when
no step of the run loses the last request of a refresh. -/
theorem refresh_tracked_iff (env : Env) (steps : List DaemonStep) :
    refreshMachine.Always RefreshTracked (daemonInit env, false) steps ↔
      refreshMachine.Along (fun s i => ¬ LosesRefresh s i) (daemonInit env, false) steps :=
  Machine.always_iff_of_inv (I := RefreshTracked) (D := fun _ _ => True) (fun _ h => h)
    (fun _ i h _ => tracked_step_iff h i) (fun _ i h _ hp => (tracked_step_iff h i).mpr hp)
    (fun h => (Bool.false_ne_true h).elim) Machine.along_true

/-- The panel refuses the request three times. -/
theorem refused_refresh_pends :
    ¬ refreshMachine.Always RefreshTracked (daemonInit ⟨0, .ok⟩, false)
      [.refresh none, .receiveByte geRs232Nak, .process, .receiveByte geRs232Nak, .process,
        .receiveByte geRs232Nak] := by
  decide +kernel

end Concordd
