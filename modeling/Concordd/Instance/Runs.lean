import Concordd.Instance.Updates

/-! Runs of the daemon: commands only touch the queue, frames only arrive whole. -/
namespace Concordd

/-- No frame is handled. -/
def NoFrame (out : List DaemonEvent) : Prop := ∀ b n, DaemonEvent.handleFrame b n ∉ out

/-- Calls of the queue and its interface. -/
def linkCalls (events : List LinkEvent) : List DaemonEvent := (events.map .link).map .calls

/-- Calls of the queue and its interface, and the answer if `i` is a command. -/
def Quiet (i : DaemonStep) (out : List DaemonEvent) : Prop :=
  ∃ events, out = linkCalls events ∨ ∃ status, out = linkCalls events ++ [.returns i status]

theorem noFrame_calls (events : List InstanceEvent) : NoFrame (events.map .calls) := by
  simp [NoFrame]

theorem noFrame_linkCalls (events : List LinkEvent) : NoFrame (linkCalls events) :=
  noFrame_calls _

theorem Quiet.noFrame {i : DaemonStep} {out : List DaemonEvent} (h : Quiet i out) :
    NoFrame out := by
  rcases h with ⟨events, rfl | ⟨status, rfl⟩⟩
  · exact noFrame_linkCalls events
  · simp [NoFrame, linkCalls]

theorem quiet_nil (i : DaemonStep) : Quiet i [] := ⟨[], .inl rfl⟩

def Daemon.withQueue (s : Daemon) (q : GeQueue) : Daemon :=
  { s with inst := { s.inst with geQueue := q } }

variable {s : Daemon}

theorem dispatch_of_undelivered {events : List LinkEvent}
    (h : ∀ buffer len, LinkEvent.receivedMessage buffer len ∉ events) :
    s.dispatch events = (s, linkCalls events) := by
  induction events with
  | nil => rfl
  | cons e events ih =>
    have hrest := ih fun buffer len hm => h buffer len (List.mem_cons_of_mem e hm)
    cases e with
    | receivedMessage buffer len => exact (h buffer len List.mem_cons_self).elim
    | _ => simp [Daemon.dispatch, hrest, linkCalls]

theorem gotResponse_undelivered (env : Env) (q : GeQueue) (buffer : Buffer) (len : UInt8) :
    LinkEvent.receivedMessage buffer len ∉ (geQueueGotResponse env q).2 := by
  cases gotResponse_cases env q with
  | inl h => simp [h.2]
  | inr h => simp [h.2.2]

/-- A byte only moves the queue and its interface, or it completes one frame. -/
theorem receiveByte_cases (s : Daemon) (byte : UInt8) :
    (∃ (q : GeQueue) (events : List LinkEvent),
        s.receiveByte byte = (s.withQueue q, linkCalls events)) ∨
      ∃ (q : GeQueue) (buffer : Buffer) (len : UInt8) (events : List LinkEvent),
        s.receiveByte byte = (((s.withQueue q).handle buffer len.toNat).1,
          linkCalls events ++ ((s.withQueue q).handle buffer len.toNat).2) := by
  unfold Daemon.receiveByte
  rcases queueReceiveByte_cases s.env s.inst.geQueue byte with
    ⟨-, -, hr⟩ | ⟨-, -, hr⟩ | ⟨-, j, out, hr, -, hl⟩
  · left
    dsimp only
    rw [hr, dispatch_of_undelivered]
    · exact ⟨_, _, rfl⟩
    · intro buffer len
      simpa using gotResponse_undelivered s.env _ buffer len
  · left
    dsimp only
    rw [hr, dispatch_of_undelivered (by simp)]
    exact ⟨_, _, rfl⟩
  · dsimp only
    rw [hr]
    rcases hl with rfl | rfl | ⟨buffer, len, rfl⟩
    · left
      rw [dispatch_of_undelivered (by simp)]
      exact ⟨_, _, rfl⟩
    · left
      rw [dispatch_of_undelivered (by simp)]
      exact ⟨_, _, rfl⟩
    · right
      refine ⟨{ s.inst.geQueue with interface := j }, buffer, len,
        [.byteReceived byte, .sendBytes [geRs232Ack], .receivedMessage buffer len], ?_⟩
      simp only [Daemon.dispatch, List.append_nil]
      rfl

/-! Commands. -/

/-- The command leaves everything but the queue alone, and only the queue makes calls. -/
def QueueOnly (self : ConcorddInstance) (r : Outcome ConcorddInstance InstanceEvent) : Prop :=
  (∃ q, r.state = { self with geQueue := q }) ∧ ∃ events : List LinkEvent, r.out = events.map .link

theorem queueOnly_reject (self : ConcorddInstance) (status : GeRs232Status) :
    QueueOnly self (concorddReject self status) := ⟨⟨_, rfl⟩, [], rfl⟩

theorem queueOnly_message (env : Env) (self : ConcorddInstance) (data : List UInt8)
    (finished : Option ℕ) : QueueOnly self (concorddQueueMessage env self data finished) :=
  ⟨⟨_, rfl⟩, _, rfl⟩

theorem queueOnly_pressKeys (env : Env) (self : ConcorddInstance) (partition : ℤ)
    (keys : List UInt8) (finished : Option ℕ) :
    QueueOnly self (concorddPressKeys env self partition keys finished) := by
  unfold concorddPressKeys
  split
  · exact queueOnly_message ..
  · exact queueOnly_reject ..

theorem queueOnly_process (env : Env) (self : ConcorddInstance) :
    QueueOnly self (concorddProcess env self) := by
  unfold concorddProcess
  split
  · exact ⟨⟨_, rfl⟩, [], rfl⟩
  · exact ⟨⟨_, rfl⟩, _, rfl⟩

theorem queueOnly_setLight (env : Env) (self : ConcorddInstance) (partition light : ℤ)
    (state : Bool) (finished : Option ℕ) :
    QueueOnly self (concorddSetLight env self partition light state finished) := by
  unfold concorddSetLight
  repeat' split
  all_goals first | with_reducible exact queueOnly_reject .. | exact queueOnly_pressKeys ..

theorem queueOnly_setZoneBypass (env : Env) (self : ConcorddInstance) (zone : ℤ) (bypass : Bool)
    (user : ℤ) (finished : Option ℕ) :
    QueueOnly self (concorddSetZoneBypass env self zone bypass user finished) := by
  unfold concorddSetZoneBypass
  repeat' split
  all_goals first | with_reducible exact queueOnly_reject .. | exact queueOnly_pressKeys ..

theorem queueOnly_setOutput (env : Env) (self : ConcorddInstance) (output : ℤ) (state : Bool)
    (finished : Option ℕ) :
    QueueOnly self (concorddSetOutput env self output state finished) := by
  unfold concorddSetOutput
  repeat' split
  all_goals first | with_reducible exact queueOnly_reject .. | exact queueOnly_pressKeys ..

theorem queueOnly_setArmLevel (env : Env) (self : ConcorddInstance) (partition armLevel : ℤ)
    (finished : Option ℕ) :
    QueueOnly self (concorddSetArmLevel env self partition armLevel finished) := by
  unfold concorddSetArmLevel
  repeat' split
  all_goals first | with_reducible exact queueOnly_reject .. | exact queueOnly_pressKeys ..

/-! Steps. -/

theorem command_step (i : DaemonStep) {self : ConcorddInstance}
    {r : Outcome ConcorddInstance InstanceEvent} (h : QueueOnly self r) :
    ∃ q, (s.command i r).1 = { s with inst := { self with geQueue := q } } ∧
      Quiet i (s.command i r).2 := by
  obtain ⟨⟨q, hq⟩, events, ho⟩ := h
  refine ⟨q, by simp [Daemon.command, hq], events, .inr ⟨r.status, ?_⟩⟩
  simp [Daemon.command, ho, linkCalls]

theorem refresh_step (s : Daemon) (finished : Option ℕ) :
    ∃ q, (daemonMachine.step s (.refresh finished)).1 =
        { s with inst := { concorddDeactivate s.inst with geQueue := q } } ∧
      ∃ events status, (daemonMachine.step s (.refresh finished)).2 =
        linkCalls events ++ [.returns (.refresh finished) status] := by
  let r := geQueueMessage s.env (concorddDeactivate s.inst).geQueue
    [geRs232AtpEquipListRequest] finished
  exact ⟨r.state, rfl, r.out, r.status, rfl⟩

/-- A step other than a refresh leaves the tables alone, or handles one frame. -/
theorem daemon_step_other (s : Daemon) (i : DaemonStep) (h : ∀ finished, i ≠ .refresh finished) :
    (∃ q callbacks env,
        (daemonMachine.step s i).1 = ⟨{ s.inst with geQueue := q, callbacks }, env⟩ ∧
        Quiet i (daemonMachine.step s i).2) ∨
      ∃ q b n events, (daemonMachine.step s i).1 = ((s.withQueue q).handle b n).1 ∧
        (daemonMachine.step s i).2 = linkCalls events ++ ((s.withQueue q).handle b n).2 := by
  have hcommand : ∀ r, QueueOnly s.inst r →
      ∃ q callbacks env, (s.command i r).1 = ⟨{ s.inst with geQueue := q, callbacks }, env⟩ ∧
        Quiet i (s.command i r).2 := by
    intro r hr
    obtain ⟨q, hq, ho⟩ := command_step (s := s) i hr
    exact ⟨q, s.inst.callbacks, s.env, hq, ho⟩
  cases i with
  | receiveByte byte =>
    rcases receiveByte_cases s byte with ⟨q, events, h⟩ | ⟨q, buffer, len, events, h⟩
    · left
      exact ⟨q, s.inst.callbacks, s.env, by simp [daemonMachine, h, Daemon.withQueue], events,
        .inl (by simp [daemonMachine, h])⟩
    · right
      exact ⟨q, buffer, len.toNat, events, by simp [daemonMachine, h], by simp [daemonMachine, h]⟩
  | frame b n => exact .inr ⟨s.inst.geQueue, b, n, [], rfl, rfl⟩
  | refresh finished => exact (h finished rfl).elim
  | process => exact .inl (hcommand _ (queueOnly_process ..))
  | dynamicDataRefresh finished => exact .inl (hcommand _ (queueOnly_message ..))
  | pressKeys => exact .inl (hcommand _ (queueOnly_pressKeys ..))
  | setLight => exact .inl (hcommand _ (queueOnly_setLight ..))
  | setZoneBypass => exact .inl (hcommand _ (queueOnly_setZoneBypass ..))
  | setOutput => exact .inl (hcommand _ (queueOnly_setOutput ..))
  | setArmLevel => exact .inl (hcommand _ (queueOnly_setArmLevel ..))
  | install callbacks => exact .inl ⟨s.inst.geQueue, callbacks, s.env, rfl, quiet_nil _⟩
  | advance seconds => exact .inl ⟨s.inst.geQueue, s.inst.callbacks, _, rfl, quiet_nil _⟩
  | sendReturns status => exact .inl ⟨s.inst.geQueue, s.inst.callbacks, _, rfl, quiet_nil _⟩

/-- A step leaves the tables alone, or deactivates their entries, or handles one frame. -/
theorem daemon_step_cases (s : Daemon) (i : DaemonStep) :
    (∃ q callbacks env,
        (daemonMachine.step s i).1 = ⟨{ s.inst with geQueue := q, callbacks }, env⟩ ∧
        Quiet i (daemonMachine.step s i).2) ∨
      (∃ q, (daemonMachine.step s i).1 =
          { s with inst := { concorddDeactivate s.inst with geQueue := q } } ∧
        Quiet i (daemonMachine.step s i).2) ∨
      ∃ q b n events, (daemonMachine.step s i).1 = ((s.withQueue q).handle b n).1 ∧
        (daemonMachine.step s i).2 = linkCalls events ++ ((s.withQueue q).handle b n).2 := by
  by_cases h : ∃ finished, i = .refresh finished
  · obtain ⟨finished, rfl⟩ := h
    obtain ⟨q, hs, events, status, ho⟩ := refresh_step s finished
    exact .inr (.inl ⟨q, hs, events, .inr ⟨status, ho⟩⟩)
  · rcases daemon_step_other s i (fun finished hi => h ⟨finished, hi⟩) with hquiet | hframe
    · exact .inl hquiet
    · exact .inr (.inr hframe)

/-- Every frame the step handles is as `G` asks, in the state before the step. -/
def FramesMeet (G : Daemon → Buffer → ℕ → Prop) (s : Daemon) (i : DaemonStep) : Prop :=
  ∀ b n, DaemonEvent.handleFrame b n ∈ (daemonMachine.step s i).2 → G s b n

/-- Every text the step stores fits. -/
def FramesFit (s : Daemon) (i : DaemonStep) : Prop := FramesMeet (fun _ b n => CopiesFit b n) s i

/-- What the step stores stays inside its arrays and inside the table of bus devices. -/
def FramesInside (s : Daemon) (i : DaemonStep) : Prop :=
  FramesMeet (fun s b n => FrameInside s.inst b n) s i

theorem FramesInside.fit {i : DaemonStep} (h : FramesInside s i) : FramesFit s i :=
  fun b n hm => (h b n hm).1

theorem framesMeet_of_noFrame {G : Daemon → Buffer → ℕ → Prop} {i : DaemonStep}
    (h : NoFrame (daemonMachine.step s i).2) : FramesMeet G s i :=
  fun b n hm => (h b n hm).elim

theorem framesMeet_handle {G : Daemon → Buffer → ℕ → Prop} {i : DaemonStep} {q : GeQueue}
    {b : Buffer} {n : ℕ} {events : List LinkEvent}
    (ho : (daemonMachine.step s i).2 = linkCalls events ++ ((s.withQueue q).handle b n).2) :
    FramesMeet G s i ↔ G s b n := by
  simp [FramesMeet, ho, linkCalls, Daemon.handle]

theorem framesMeet_iff {G : Daemon → Buffer → ℕ → Prop} {s : Daemon} {i : DaemonStep} :
    (∀ e ∈ (daemonMachine.step s i).2, match e with
      | .handleFrame b n => G s b n
      | _ => True) ↔ FramesMeet G s i := by
  constructor
  · intro h b n hm
    exact h _ hm
  · intro h e hm
    cases e with
    | handleFrame b n => exact h b n hm
    | calls | returns => trivial

instance framesMeetDecidable (G : Daemon → Buffer → ℕ → Prop) [∀ s b n, Decidable (G s b n)]
    (s : Daemon) (i : DaemonStep) : Decidable (FramesMeet G s i) :=
  have : DecidablePred fun e : DaemonEvent => match e with
      | .handleFrame b n => G s b n
      | _ => True
    | .handleFrame b n => inferInstanceAs (Decidable (G s b n))
    | .calls _ | .returns _ _ => inferInstanceAs (Decidable True)
  decidable_of_iff _ framesMeet_iff

instance (s : Daemon) (i : DaemonStep) : Decidable (FramesFit s i) := framesMeetDecidable _ s i

instance (s : Daemon) (i : DaemonStep) : Decidable (FramesInside s i) := framesMeetDecidable _ s i

theorem after_noFrame {τ : Type*} {m : Monitor τ DaemonEvent}
    (hm : ∀ t e, NoFrame [e] → m.next t e = t) {t : τ} {out : List DaemonEvent}
    (h : NoFrame out) : m.after t out = t := by
  induction out with
  | nil => rfl
  | cons e out ih =>
    have he : NoFrame [e] := by
      rintro b n hb
      rw [List.mem_singleton] at hb
      exact h b n (hb ▸ List.mem_cons_self)
    rw [Monitor.after_cons, hm t e he]
    exact ih fun b n hb => h b n (List.mem_cons_of_mem e hb)

/-- The rule for what frames decide: a relation between the tables and a monitor of the frames
that no frame breaks, and that neither the queue nor a refresh touches, is kept by every step. -/
theorem frames_step {τ : Type*} {m : Monitor τ DaemonEvent} {P : Daemon → τ → Prop}
    {G : Daemon → Buffer → ℕ → Prop} (hm : ∀ t e, NoFrame [e] → m.next t e = t)
    (hqueue : ∀ s t q callbacks env, P s t → P ⟨{ s.inst with geQueue := q, callbacks }, env⟩ t)
    (hrefresh : ∀ s t, P s t → P { s with inst := concorddDeactivate s.inst } t)
    (hframe : ∀ s t b n, P s t → (∃ q, G (s.withQueue q) b n) →
      P (s.handle b n).1 (m.next t (.handleFrame b n)))
    {s : Daemon} {t : τ} {i : DaemonStep} (h : P s t) (hg : FramesMeet G s i) :
    P (daemonMachine.step s i).1 (m.after t (daemonMachine.step s i).2) := by
  rcases daemon_step_cases s i with ⟨q, callbacks, env, hs, ho⟩ | ⟨q, hs, ho⟩ |
    ⟨q, b, n, events, hs, ho⟩
  · rw [hs, after_noFrame hm ho.noFrame]
    exact hqueue s t q callbacks env h
  · rw [hs, after_noFrame hm ho.noFrame]
    exact hqueue _ t q _ _ (hrefresh s t h)
  · have hgood : G s b n := hg b n (by rw [ho]; simp [Daemon.handle])
    have hnext := hframe (s.withQueue q) t b n (hqueue s t q _ _ h) ⟨s.inst.geQueue, hgood⟩
    have hafter : m.after t (daemonMachine.step s i).2 = m.next t (.handleFrame b n) := by
      rw [ho, Monitor.after_append, after_noFrame hm (noFrame_linkCalls events)]
      exact after_noFrame hm (noFrame_calls _)
    rw [hs, hafter]
    exact hnext

end Concordd
