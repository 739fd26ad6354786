import Concordd.Instance.Calls
import Concordd.Instance.Requests

/-! The daemon's queue is the link: each step of the daemon is a few steps of it. -/
namespace Concordd

variable {env : Env} {self : ConcorddInstance} {frameBytes : Buffer} {frameLen : ℕ} {s : Daemon}
  {i : DaemonStep} {byte : UInt8}

/-! Frames that hand nothing over leave the queue alone. -/

theorem frameRequest_isSome_iff :
    (frameRequest frameBytes).isSome ↔
      IsPta frameBytes .clearAutomationDynamicImage ∨ IsPta frameBytes .equipListComplete := by
  unfold frameRequest IsPta
  cases GeRs232Pta.ofByte (frameBytes 0) <;> simp

theorem handleFrame_no_link (env : Env) (self : ConcorddInstance) (frameLen : ℕ)
    (h : frameRequest frameBytes = none) (l : LinkEvent) :
    .link l ∉ (concorddHandleFrame env self frameBytes frameLen).out := by
  intro hm
  have hsome := frameRequest_isSome_iff.mpr (handleFrame_calls env self frameBytes frameLen _ hm)
  rw [h] at hsome
  cases hsome

/-- The queue is as it was, and no refresh has begun. -/
theorem handleFrame_leavesQueue (env : Env) (self : ConcorddInstance) (frameLen : ℕ)
    (h : frameRequest frameBytes = none) :
    (concorddHandleFrame env self frameBytes frameLen).state.geQueue = self.geQueue ∧
      ((concorddHandleFrame env self frameBytes frameLen).state.refreshPending = true →
        self.refreshPending = true) := by
  have hno : ¬ (IsPta frameBytes .clearAutomationDynamicImage ∨
      IsPta frameBytes .equipListComplete) := by
    rw [← frameRequest_isSome_iff, h]
    exact Bool.false_ne_true
  by_cases huser : IsPta frameBytes .equipListUserData
  · obtain ⟨-, user, hs⟩ := handleFrame_users env self frameLen huser
    rw [hs]
    exact ⟨rfl, id⟩
  · have hrest := (handleFrame_leavesRest env self frameBytes frameLen
      (fun hc => hno (.inl hc)) (fun hc => hno (.inr hc)) huser).rest
    exact ⟨hrest.queue, hrest.pending⟩

/-! Each step as steps of the link. -/

/-- What the queue and its interface call. -/
def linkEvents (out : List DaemonEvent) : List LinkEvent :=
  out.filterMap fun e => match e with
    | .calls (.link event) => some event
    | _ => none

def Daemon.link (s : Daemon) : Link := ⟨s.inst.geQueue, s.env⟩

def enqueueSteps : Option Unfinished → List LinkStep
  | some m => [.queueMessage m.data m.finished]
  | none => []

def deliveredFrame (events : List LinkEvent) : Option Buffer :=
  events.findSome? fun e => match e with
    | .receivedMessage buffer _ => some buffer
    | _ => none

/-- What the byte makes the instance hand over, by completing a frame. -/
def Daemon.byteRequest (s : Daemon) (byte : UInt8) : Option Unfinished :=
  (deliveredFrame (geRs232ReceiveByte s.inst.geQueue.interface byte).out).bind frameRequest

def Daemon.linkSteps (s : Daemon) : DaemonStep → List LinkStep
  | .receiveByte byte => .receiveByte byte :: enqueueSteps (s.byteRequest byte)
  | .frame frameBytes _ => enqueueSteps (frameRequest frameBytes)
  | .process => if s.inst.geQueue.interface.readingMessage then [] else [.queueUpdate]
  | .install _ => []
  | .advance seconds => [.advance seconds]
  | .sendReturns status => [.sendReturns status]
  | i => enqueueSteps (i.request s.inst)

/-- The link has come as far as the daemon, by the same calls. -/
def Follows (s : Daemon) (steps : List LinkStep) (r : Daemon × List DaemonEvent) : Prop :=
  linkMachine.run s.link steps = r.1.link ∧ linkMachine.trace s.link steps = linkEvents r.2

@[simp] theorem linkEvents_append (out out' : List DaemonEvent) :
    linkEvents (out ++ out') = linkEvents out ++ linkEvents out' := List.filterMap_append ..

@[simp] theorem linkEvents_linkCalls (events : List LinkEvent) :
    linkEvents (linkCalls events) = events := by
  induction events with
  | nil => rfl
  | cons e events ih => exact congrArg (e :: ·) ih

theorem linkEvents_of_no_link {out : List InstanceEvent} (h : ∀ l, .link l ∉ out) :
    linkEvents (out.map .calls) = [] := by
  rw [linkEvents, List.filterMap_eq_nil_iff]
  intro e he
  obtain ⟨a, ha, rfl⟩ := List.mem_map.mp he
  cases a with
  | link l => exact (h l ha).elim
  | _ => rfl

theorem follows_command {r : Outcome ConcorddInstance InstanceEvent} {m : Option Unfinished}
    (hq : self.geQueue = s.inst.geQueue) (h : Asks s.env self r m) :
    Follows s (enqueueSteps m) (s.command i r) := by
  cases m with
  | none =>
    obtain ⟨status, -, -, rfl⟩ := h
    refine ⟨?_, rfl⟩
    simp [enqueueSteps, Daemon.command, concorddReject, Daemon.link, hq]
  | some m =>
    obtain rfl := h
    refine ⟨?_, ?_⟩
    · simp [enqueueSteps, linkMachine, Daemon.link, Daemon.command, concorddQueueMessage, hq]
    · simp only [enqueueSteps, Machine.trace_cons, Machine.trace_nil, List.append_nil,
        Daemon.command, linkEvents_append, concorddQueueMessage]
      have hreturns : ∀ status, linkEvents [.returns i status] = [] := fun _ => rfl
      rw [hreturns, List.append_nil, hq]
      exact (linkEvents_linkCalls _).symm

theorem follows_handle (s : Daemon) (frameBytes : Buffer) (frameLen : ℕ) :
    Follows s (enqueueSteps (frameRequest frameBytes)) (s.handle frameBytes frameLen) := by
  have hask : ∀ {m : Unfinished} {self : ConcorddInstance}
      {r : Outcome ConcorddInstance InstanceEvent}, self.geQueue = s.inst.geQueue →
      r.state.geQueue = (concorddQueueMessage s.env self m.data m.finished).state.geQueue →
      r.out = (concorddQueueMessage s.env self m.data m.finished).out →
      linkMachine.run s.link (enqueueSteps (some m)) = ⟨r.state.geQueue, s.env⟩ ∧
        linkMachine.trace s.link (enqueueSteps (some m)) =
          linkEvents (.handleFrame frameBytes frameLen :: r.out.map .calls) := by
    intro m self r hq hstate hout
    refine ⟨?_, ?_⟩
    · simp [enqueueSteps, linkMachine, Daemon.link, hstate, concorddQueueMessage, hq]
    · rw [hout]
      simp only [enqueueSteps, Machine.trace_cons, Machine.trace_nil, List.append_nil,
        concorddQueueMessage, hq]
      exact (linkEvents_linkCalls _).symm
  cases hm : frameRequest frameBytes with
  | none =>
    obtain ⟨hq, -⟩ := handleFrame_leavesQueue s.env s.inst frameLen hm
    refine ⟨?_, (linkEvents_of_no_link (handleFrame_no_link s.env s.inst frameLen hm)).symm⟩
    simp [enqueueSteps, Daemon.link, Daemon.handle, hq]
  | some m =>
    unfold frameRequest at hm
    unfold Follows Daemon.handle concorddHandleFrame
    cases hc : GeRs232Pta.ofByte (frameBytes 0) <;> rw [hc] at hm
    case clearAutomationDynamicImage =>
      obtain rfl := Option.some.inj hm
      exact hask (r := concorddRefresh s.env s.inst none) rfl rfl rfl
    case equipListComplete =>
      obtain rfl := Option.some.inj hm
      exact hask (r := concorddDynamicDataRefresh s.env s.inst none) rfl rfl rfl
    all_goals cases hm

theorem finishValue_delivers {rs : GeRs232} {value : UInt8} {buffer : Buffer}
    (h : deliveredFrame (geRs232FinishValue rs value).out = some buffer) :
    (geRs232FinishValue rs value).state.readingMessage = false := by
  unfold geRs232FinishValue at h ⊢
  split
  · split <;> rfl
  · next hlen =>
    rw [if_neg hlen] at h
    cases h

/-- The byte that completes a frame ends it, and was read as part of it. -/
theorem receiveByte_delivers {rs : GeRs232} {buffer : Buffer}
    (h : deliveredFrame (geRs232ReceiveByte rs byte).out = some buffer) :
    rs.readingMessage = true ∧ ¬ Intercepted rs byte ∧
      (geRs232ReceiveByte rs byte).state.readingMessage = false := by
  have hi : ¬ Intercepted rs byte := by
    intro hi
    rw [receiveByte_answer hi] at h
    dsimp only at h
    split at h <;> cases h
  have hlf : byte ≠ geRs232StartOfMessage := by
    rintro rfl
    rw [(receiveByte_startOfMessage rs).2] at h
    cases h
  rw [receiveByte_of_not_intercepted hlf hi] at h ⊢
  split at h
  · next hm =>
    refine ⟨hm, hi, ?_⟩
    split at h
    · cases h
    · next hn =>
      rw [if_pos hm, if_neg hn]
      unfold geRs232ReceiveValue at h ⊢
      split
      · next h255 =>
        rw [if_pos h255] at h
        split
        · next hok =>
          rw [if_pos hok] at h
          exact finishValue_delivers h
        · rfl
      · next h255 =>
        rw [if_neg h255] at h
        exact finishValue_delivers h
  · cases h

/-- A byte moves the link alone, or completes the frame that is then handled. -/
theorem receiveByte_handled (s : Daemon) (byte : UInt8) :
    (deliveredFrame (geRs232ReceiveByte s.inst.geQueue.interface byte).out = none ∧
      s.receiveByte byte = (s.withQueue (geQueueReceiveByte s.env s.inst.geQueue byte).1,
        linkCalls (geQueueReceiveByte s.env s.inst.geQueue byte).2)) ∨
    ∃ b n, deliveredFrame (geRs232ReceiveByte s.inst.geQueue.interface byte).out = some b ∧
      s.receiveByte byte =
        (((s.withQueue (geQueueReceiveByte s.env s.inst.geQueue byte).1).handle b n).1,
          linkCalls (geQueueReceiveByte s.env s.inst.geQueue byte).2 ++
            ((s.withQueue (geQueueReceiveByte s.env s.inst.geQueue byte).1).handle b n).2) := by
  by_cases hi : Intercepted s.inst.geQueue.interface byte
  · left
    constructor
    · rw [receiveByte_answer hi]
      dsimp only
      split <;> rfl
    · apply dispatch_of_undelivered
      intro buffer len
      rcases queueReceiveByte_cases s.env s.inst.geQueue byte with
        ⟨-, -, hr⟩ | ⟨-, -, hr⟩ | ⟨hno, -⟩
      · rw [hr]
        simpa using gotResponse_undelivered s.env _ buffer len
      · rw [hr]
        simp
      · exact (hno hi).elim
  · obtain ⟨-, hl⟩ := receiveByte_calls hi
    have hr : geQueueReceiveByte s.env s.inst.geQueue byte =
        ({ s.inst.geQueue with
            interface := (geRs232ReceiveByte s.inst.geQueue.interface byte).state },
          .byteReceived byte :: (geRs232ReceiveByte s.inst.geQueue.interface byte).out) := by
      simp [geQueueReceiveByte, dispatch_of_lineCalls s.env _ hl]
    rcases hl with h | h | ⟨buffer, len, h⟩
    · exact .inl ⟨by rw [h]; rfl, dispatch_of_undelivered (by simp [hr, h])⟩
    · exact .inl ⟨by rw [h]; rfl, dispatch_of_undelivered (by simp [hr, h])⟩
    · -- the frame is handled in the state the byte leaves
      right
      refine ⟨buffer, len.toNat, by rw [h]; rfl, ?_⟩
      have hout : (geQueueReceiveByte s.env s.inst.geQueue byte).2 =
          [.byteReceived byte, .sendBytes [geRs232Ack], .receivedMessage buffer len] := by
        rw [hr, h]
      unfold Daemon.receiveByte
      dsimp only
      rw [hout]
      simp only [Daemon.dispatch, List.append_nil]
      rfl

theorem follows_receiveByte (s : Daemon) (byte : UInt8) :
    Follows s (s.linkSteps (.receiveByte byte)) (s.receiveByte byte) := by
  rcases receiveByte_handled s byte with ⟨hd, hbyte⟩ | ⟨b, n, hd, hbyte⟩
  · have hsteps : s.linkSteps (.receiveByte byte) = [.receiveByte byte] := by
      simp [Daemon.linkSteps, Daemon.byteRequest, hd, enqueueSteps]
    rw [hsteps, hbyte]
    refine ⟨rfl, ?_⟩
    simp [linkMachine, Daemon.link]
  · have hsteps : s.linkSteps (.receiveByte byte) =
        .receiveByte byte :: enqueueSteps (frameRequest b) := by
      simp [Daemon.linkSteps, Daemon.byteRequest, hd]
    obtain ⟨hrun, htrace⟩ := follows_handle
      (s.withQueue (geQueueReceiveByte s.env s.inst.geQueue byte).1) b n
    rw [hsteps, hbyte]
    refine ⟨hrun, ?_⟩
    rw [Machine.trace_cons, linkEvents_append, linkEvents_linkCalls, ← htrace]
    rfl

theorem linkSteps_command {i : DaemonStep} (h : i.IsCommand) (s : Daemon) :
    s.linkSteps i = enqueueSteps (i.request s.inst) := by
  cases i with
  | receiveByte | frame | process | install | advance | sendReturns => exact h.elim
  | _ => rfl

theorem follows_step (s : Daemon) (i : DaemonStep) :
    Follows s (s.linkSteps i) (daemonMachine.step s i) := by
  by_cases hc : i.IsCommand
  · obtain ⟨self, r, hq, hr, hs⟩ := step_asks s hc
    rw [hs, linkSteps_command hc]
    exact follows_command hq hr
  cases i with
  | receiveByte byte => exact follows_receiveByte s byte
  | frame b n => exact follows_handle s b n
  | process =>
    simp only [Daemon.linkSteps, daemonMachine, concorddProcess]
    split
    · exact ⟨rfl, rfl⟩
    · refine ⟨rfl, ?_⟩
      simp only [Machine.trace_cons, Machine.trace_nil, List.append_nil, Daemon.command,
        linkEvents_append]
      exact ((List.append_nil _).trans (linkEvents_linkCalls _)).symm
  | install callbacks => exact ⟨rfl, rfl⟩
  | advance seconds => exact ⟨rfl, rfl⟩
  | sendReturns status => exact ⟨rfl, rfl⟩
  | _ => exact (hc trivial).elim

theorem byteRequest_finished {byte : UInt8} {r : Unfinished} (h : s.byteRequest byte = some r) :
    r.finished = none := by
  rw [Daemon.byteRequest, Option.bind_eq_some_iff] at h
  obtain ⟨b, -, hb⟩ := h
  exact frameRequest_finished hb

end Concordd
