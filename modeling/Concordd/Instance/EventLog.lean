import Concordd.Instance.LatestEvents

/-! The event log holds the newest events in order, and only the newest of all is dispatched. -/
namespace Concordd

open History

/-! Steps back in the log, modulo its size. -/

theorem iterate_sub_one (k : UInt8) (i : ℕ) : (fun k => k - 1)^[i] k = k - UInt8.ofNat i := by
  induction i with
  | zero => simp
  | succ i ih =>
    rw [Function.iterate_succ_apply', ih, UInt8.ofNat_add, ← sub_sub]
    rfl

/-- `CONCORDD_EVENT_LOG_MAX` steps make a round. -/
theorem log_circular : Circular (fun k : UInt8 => k + 1) (fun k => k - 1) 256 where
  prev_next k := UInt8.add_sub_cancel k 1
  apart k i hi := by
    rw [iterate_sub_one]
    intro he
    have hz : UInt8.ofNat (i + 1) = 0 := sub_eq_self.mp he
    have hn := congrArg UInt8.toNat hz
    simp at hn
    omega

variable {env : Env} {self : ConcorddInstance} {b : Buffer} {n : ℕ} {h : List ConcorddEvent}
  {s : Daemon} {e : ConcorddEvent}

/-! One frame. -/

theorem besideTables_log : BesideTables fun self => (self.eventLog, self.eventLogLast) where
  partition _ _ _ := rfl
  zone _ _ _ := rfl
  output _ _ _ := rfl
  user _ _ := rfl
  panel _ _ _ _ _ := rfl
  siren _ _ := rfl
  pending _ _ := rfl
  queue _ _ := rfl
  write := write_beside (f := fun self => (self.eventLog, self.eventLogLast))
    fun _ _ _ _ _ _ => rfl

/-- What follows the logging of an event leaves the log alone, the early returns included. -/
theorem handleAlarm_log (env : Env) (self : ConcorddInstance) (partitioni st : UInt8)
    (source : UInt32) (typeG typeS : UInt8) (esd : UInt16) :
    ((concorddHandleAlarm env self partitioni st source typeG typeS esd).state.eventLog,
        (concorddHandleAlarm env self partitioni st source typeG typeS esd).state.eventLogLast) =
      (Function.update self.eventLog (self.eventLogLast + 1)
        (alarmEvent env partitioni st source typeG typeS esd), self.eventLogLast + 1) := by
  unfold concorddHandleAlarm
  dsimp only
  split
  · exact outputReported_keeps (f := fun self => (self.eventLog, self.eventLogLast))
      (fun _ _ => rfl) _ _ _ _
  · split
    · exact outputReported_keeps (f := fun self => (self.eventLog, self.eventLogLast))
        (fun _ _ => rfl) _ _ _ _
    · exact updateLists_keeps (f := fun self => (self.eventLog, self.eventLogLast))
        (fun _ _ => rfl) (fun _ _ _ => rfl) _ _ _ _

theorem handleFrame_log (env : Env) (self : ConcorddInstance) (b : Buffer) (n : ℕ) :
    ((concorddHandleFrame env self b n).state.eventLog,
        (concorddHandleFrame env self b n).state.eventLogLast) =
      (frameEvent env b).elim (self.eventLog, self.eventLogLast) (fun e =>
        (Function.update self.eventLog (self.eventLogLast + 1) e, self.eventLogLast + 1)) := by
  unfold frameEvent
  by_cases h : IsSubcmd b .alarmTrouble
  · rw [if_pos h, handleFrame_of_alarmTrouble h]
    exact handleAlarm_log env self ..
  · rw [if_neg h]
    exact handleFrame_besideDevices besideTables_log (fun _ _ _ => rfl) (fun _ => rfl) env self n h

/-! What is dispatched. -/

/-- An output that was switched on or off. -/
def ConcorddEvent.ReportsOutput (event : ConcorddEvent) : Prop :=
  event.general = .systemEvent ∧ (event.specificType = geRs232SystemEventOutputOn ∨
    event.specificType = geRs232SystemEventOutputOff)

theorem updateLists_undispatched (self : ConcorddInstance) (partitioni : UInt8)
    (general : GeRs232AlarmGeneralType) (typeS : UInt8) (event : ConcorddEvent) :
    .event e ∉ (concorddUpdateLists env self partitioni general typeS event).2 := by
  have hchanged : ∀ (self : ConcorddInstance) (changed : UInt32),
      .event e ∉ concorddInstanceInfoChanged self changed := by
    intro self changed
    unfold concorddInstanceInfoChanged
    split <;> simp
  have hsystem : ∀ general, .event e ∉ (concorddSystemTrouble env self general typeS event).2 := by
    intro general
    unfold concorddSystemTrouble
    dsimp only
    split
    · exact hchanged _ _
    · simp
  cases general with
  | systemTrouble | systemTroubleRestoral => exact hsystem _
  | systemConfigChange =>
    show .event e ∉ (concorddConfigChanged self partitioni typeS).2
    unfold concorddConfigChanged
    split
    · simp
    · split
      · simp
      · exact hchanged _ _
  | _ => simp [concorddUpdateLists]

theorem outputReported_undispatched (self : ConcorddInstance) (partitioni : UInt8)
    (source : UInt32) (esd : UInt16) (state : UInt8) :
    .event e ∉ (concorddOutputReported env self partitioni source esd state).out := by
  unfold concorddOutputReported
  split
  · simp
  · split
    · dsimp only
      split <;> simp
    · simp

/-- The event dispatched is the one just logged. -/
theorem handleAlarm_dispatches {partitioni st : UInt8} {source : UInt32} {typeG typeS : UInt8}
    {esd : UInt16}
    (he : .event e ∈ (concorddHandleAlarm env self partitioni st source typeG typeS esd).out) :
    e = alarmEvent env partitioni st source typeG typeS esd ∧ ¬ e.ReportsOutput := by
  have hlog := handleAlarm_log env self partitioni st source typeG typeS esd
  rw [Prod.mk.injEq] at hlog
  unfold concorddHandleAlarm at he hlog
  dsimp only at he hlog
  split at he
  · exact (outputReported_undispatched _ _ _ _ _ he).elim
  · next hon =>
    split at he
    · exact (outputReported_undispatched _ _ _ _ _ he).elim
    · next hoff =>
      rw [if_neg hon, if_neg hoff] at hlog
      obtain he | he := List.mem_append.mp he
      · exact (updateLists_undispatched _ _ _ _ _ he).elim
      · unfold concorddDispatchEvent at he
        split at he
        · simp only [List.mem_singleton, InstanceEvent.event.injEq] at he
          rw [hlog.2, hlog.1, Function.update_self] at he
          subst he
          exact ⟨rfl, fun ho => ho.2.elim (fun h => hon ⟨ho.1, h⟩) fun h => hoff ⟨ho.1, h⟩⟩
        · cases he

theorem handleFrame_dispatches (he : .event e ∈ (concorddHandleFrame env self b n).out) :
    frameEvent env b = some e ∧ ¬ e.ReportsOutput := by
  have halarm : IsSubcmd b .alarmTrouble := handleFrame_calls env self b n _ he
  rw [handleFrame_of_alarmTrouble halarm] at he
  obtain ⟨rfl, ho⟩ := handleAlarm_dispatches he
  exact ⟨if_pos halarm, ho⟩

/-- What is dispatched in a step is the only event the step reports, and the newest one logged:
`event_func` is called last, so the log is then as the step leaves it. -/
structure DispatchesNewest (s : Daemon) (i : DaemonStep) (e : ConcorddEvent) : Prop where
  reported : stepEvents s i = [e]
  newest : (daemonMachine.step s i).1.inst.eventLog
    (daemonMachine.step s i).1.inst.eventLogLast = e
  notOutput : ¬ e.ReportsOutput

theorem not_event_linkCalls (events : List LinkEvent) :
    .calls (.event e) ∉ linkCalls events := by
  simp [linkCalls]

theorem step_dispatches (s : Daemon) (i : DaemonStep) (e : ConcorddEvent)
    (he : .calls (.event e) ∈ (daemonMachine.step s i).2) : DispatchesNewest s i e := by
  have hquiet : ¬ Quiet i (daemonMachine.step s i).2 := by
    rintro ⟨events, ho | ⟨status, ho⟩⟩
    · exact not_event_linkCalls events (ho ▸ he)
    · rw [ho] at he
      simp [not_event_linkCalls] at he
  rcases daemon_step_cases s i with ⟨q, callbacks, env, -, ho⟩ | ⟨q, -, ho⟩ |
    ⟨q, b, n, events, hs, ho⟩
  · exact (hquiet ho).elim
  · exact (hquiet ho).elim
  · have hout : .event e ∈
        (concorddHandleFrame (s.withQueue q).env (s.withQueue q).inst b n).out := by
      rw [ho, List.mem_append] at he
      have hmem := he.resolve_left (not_event_linkCalls events)
      simpa [Daemon.handle] using hmem
    obtain ⟨hframe, houtput⟩ := handleFrame_dispatches hout
    have hlog := handleFrame_log (s.withQueue q).env (s.withQueue q).inst b n
    rw [hframe, Option.elim_some, Prod.mk.injEq] at hlog
    refine ⟨?_, ?_, houtput⟩
    · rw [stepEvents_frame ho, show frameEvent s.env b = some e from hframe]
      rfl
    · rw [hs]
      unfold Daemon.handle
      dsimp only
      rw [hlog.1, hlog.2, Function.update_self]

/-! Whole runs. -/

/-- The log holds the last 256 events of `h`, the newest at `eventLogLast`, and nothing else. -/
structure LogsEvents (h : List ConcorddEvent) (self : ConcorddInstance) : Prop where
  recent : ∀ i (hi : i < min h.length 256),
    self.eventLog (self.eventLogLast - UInt8.ofNat i) = h[h.length - 1 - i] ∧
      (self.eventLog (self.eventLogLast - UInt8.ofNat i)).valid = true
  unused : h.length < 256 → ∀ k, (∀ i < h.length, k ≠ self.eventLogLast - UInt8.ofNat i) →
    (self.eventLog k).valid = false

/-- The log as a circular log. -/
def CircularLog (h : List ConcorddEvent) (self : ConcorddInstance) : Prop :=
  Logs (fun k => k - 1) 256 (fun event => event.valid = false) h self.eventLog self.eventLogLast

theorem circularLog_frame (hl : CircularLog h self) (env : Env) (b : Buffer) (n : ℕ) :
    CircularLog (h ++ (frameEvent env b).toList) (concorddHandleFrame env self b n).state := by
  have hlog := handleFrame_log env self b n
  rw [Prod.ext_iff] at hlog
  obtain ⟨hslots, hlast⟩ := hlog
  dsimp only at hslots hlast
  unfold CircularLog
  rw [hslots, hlast]
  cases frameEvent env b with
  | none => simpa [CircularLog] using hl
  | some event => exact hl.snoc log_circular event

theorem circularLog_run (env : Env) (steps : List DaemonStep) :
    CircularLog (eventHistory (daemonInit env) steps)
      (daemonMachine.run (daemonInit env) steps).inst := by
  have hstep : ∀ h s i, CircularLog h s.inst →
      CircularLog (h ++ stepEvents s i) (daemonMachine.step s i).1.inst := by
    intro h s i hl
    exact history_step (P := CircularLog) (fun _ _ _ _ hl => hl) (fun _ _ hl => hl)
      (fun _ _ env b n hl => circularLog_frame hl env b n) hl i
  exact history_run (P := CircularLog) (h := []) (s := daemonInit env) hstep
    (logs_empty fun _ => rfl) steps

theorem CircularLog.logsEvents (hl : CircularLog h self) (hvalid : ∀ e ∈ h, e.valid = true) :
    LogsEvents h self := by
  constructor
  · intro i hi
    have hget : h.reverse[i]? = some h[h.length - 1 - i] := by
      rw [List.getElem?_reverse (by omega), List.getElem?_eq_getElem]
    have hslot := hl.recent i (by omega) _ hget
    rw [iterate_sub_one] at hslot
    exact ⟨hslot, hslot ▸ hvalid _ (List.getElem_mem _)⟩
  · intro hlen k hk
    refine hl.unused hlen k fun i hi => ?_
    rw [iterate_sub_one]
    exact hk i hi

/-- After any run the log holds the events of its alarm frames, as many as it has room for; and
whatever the run dispatches is the newest entry of the log at that moment. -/
theorem event_log_recent (env : Env) (steps : List DaemonStep) :
    LogsEvents (eventHistory (daemonInit env) steps)
        (daemonMachine.run (daemonInit env) steps).inst ∧
      daemonMachine.Along (fun s i => ∀ e, .calls (.event e) ∈ (daemonMachine.step s i).2 →
        DispatchesNewest s i e) (daemonInit env) steps := by
  refine ⟨(circularLog_run env steps).logsEvents fun e => valid_of_eventHistory, ?_⟩
  exact Machine.along_of_inv (I := fun _ => True) (fun _ _ _ _ => trivial)
    (fun s i _ _ => step_dispatches s i) trivial Machine.along_true

end Concordd
