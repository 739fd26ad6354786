import Concordd.Instance.Calls
import Concordd.Instance.Effects
import Concordd.Instance.Runs
import Concordd.Library.History

/-! The events that alarm frames report, and the tables of the latest one of each type. -/
namespace Concordd

open History

/-! What a run reports. -/

/-- The event a frame reports when it is handled. -/
def frameEvent (env : Env) (frameBytes : Buffer) : Option ConcorddEvent :=
  if IsSubcmd frameBytes .alarmTrouble then
    some (alarmEvent env (frameBytes 2) (frameBytes 4)
      (word24 (frameBytes 5) (frameBytes 6) (frameBytes 7)) (frameBytes 8) (frameBytes 9)
      (word16 (frameBytes 10) (frameBytes 11)))
  else none

def DaemonEvent.reported (env : Env) : DaemonEvent → Option ConcorddEvent
  | .handleFrame frameBytes _ => frameEvent env frameBytes
  | _ => none

/-- The events of the frames a step handles. -/
def stepEvents (s : Daemon) (i : DaemonStep) : List ConcorddEvent :=
  (daemonMachine.step s i).2.filterMap (DaemonEvent.reported s.env)

/-- The events of the frames a run handles, the oldest first. -/
def eventHistory : Daemon → List DaemonStep → List ConcorddEvent
  | _, [] => []
  | s, i :: is => stepEvents s i ++ eventHistory (daemonMachine.step s i).1 is

variable {env : Env} {self : ConcorddInstance} {b : Buffer} {n : ℕ} {h : List ConcorddEvent}
  {s : Daemon}

theorem valid_of_frameEvent {e : ConcorddEvent} (he : frameEvent env b = some e) :
    e.valid = true := by
  unfold frameEvent at he
  split at he
  · rw [← Option.some.inj he]
    rfl
  · cases he

theorem valid_of_eventHistory {is : List DaemonStep} {e : ConcorddEvent}
    (he : e ∈ eventHistory s is) : e.valid = true := by
  induction is generalizing s with
  | nil => cases he
  | cons i is ih =>
    rcases List.mem_append.mp he with he | he
    · obtain ⟨o, -, ho⟩ := List.mem_filterMap.mp he
      cases o with
      | handleFrame b n => exact valid_of_frameEvent ho
      | calls | returns => cases ho
    · exact ih he

theorem events_noFrame {out : List DaemonEvent} (h : NoFrame out) :
    out.filterMap (DaemonEvent.reported env) = [] := by
  rw [List.filterMap_eq_nil_iff]
  intro o ho
  cases o with
  | handleFrame b n => exact (h b n ho).elim
  | calls | returns => rfl

theorem stepEvents_noFrame {i : DaemonStep} (h : NoFrame (daemonMachine.step s i).2) :
    stepEvents s i = [] := events_noFrame h

theorem stepEvents_frame {i : DaemonStep} {q : GeQueue} {events : List LinkEvent}
    (h : (daemonMachine.step s i).2 = linkCalls events ++ ((s.withQueue q).handle b n).2) :
    stepEvents s i = (frameEvent s.env b).toList := by
  unfold stepEvents
  rw [h, List.filterMap_append, events_noFrame (noFrame_linkCalls events), List.nil_append]
  unfold Daemon.handle
  dsimp only
  rw [List.filterMap_cons, events_noFrame (noFrame_calls _)]
  unfold DaemonEvent.reported
  cases frameEvent (s.withQueue q).env b <;> rfl

/-- The rule for what events decide: a relation between the events so far and the instance that
each frame carries on, and that neither the queue nor a refresh touches. -/
theorem history_step {P : List ConcorddEvent → ConcorddInstance → Prop}
    (hqueue : ∀ h self q callbacks, P h self → P h { self with geQueue := q, callbacks })
    (hrefresh : ∀ h self, P h self → P h (concorddDeactivate self))
    (hframe : ∀ h self env b n, P h self →
      P (h ++ (frameEvent env b).toList) (concorddHandleFrame env self b n).state)
    (hp : P h s.inst) (i : DaemonStep) :
    P (h ++ stepEvents s i) (daemonMachine.step s i).1.inst := by
  rcases daemon_step_cases s i with ⟨q, callbacks, env, hs, ho⟩ | ⟨q, hs, ho⟩ |
    ⟨q, b, n, events, hs, ho⟩
  · rw [stepEvents_noFrame ho.noFrame, List.append_nil, hs]
    exact hqueue h s.inst q callbacks hp
  · rw [stepEvents_noFrame ho.noFrame, List.append_nil, hs]
    exact hqueue h _ q s.inst.callbacks (hrefresh h s.inst hp)
  · rw [stepEvents_frame ho, hs]
    exact hframe h _ s.env b n (hqueue h s.inst q s.inst.callbacks hp)

theorem history_run {P : List ConcorddEvent → ConcorddInstance → Prop}
    (hstep : ∀ h s i, P h s.inst → P (h ++ stepEvents s i) (daemonMachine.step s i).1.inst)
    (hp : P h s.inst) (is : List DaemonStep) :
    P (h ++ eventHistory s is) (daemonMachine.run s is).inst := by
  induction is generalizing s h with
  | nil => simpa [eventHistory] using hp
  | cons i is ih =>
    have hnext := ih (hstep h s i hp)
    rwa [List.append_assoc] at hnext

/-! The tables, and what one event does to them. -/

def ConcorddEvent.general (event : ConcorddEvent) : GeRs232AlarmGeneralType :=
  .ofByte event.generalType

/-! The kinds of events that have a table. -/

def ConcorddEvent.IsAlarm (event : ConcorddEvent) : Prop :=
  event.general = .alarm ∨ event.general = .alarmRestoral ∨ event.general = .alarmCancel

def ConcorddEvent.IsTrouble (event : ConcorddEvent) : Prop :=
  event.general = .fireTrouble ∨ event.general = .nonfireTrouble ∨
    event.general = .fireTroubleRestoral ∨ event.general = .nonfireTroubleRestoral

def ConcorddEvent.IsSystemTrouble (event : ConcorddEvent) : Prop :=
  event.general = .systemTrouble ∨ event.general = .systemTroubleRestoral

/-- The event is about type `t` of partition `p`. -/
def ConcorddEvent.IsAbout (event : ConcorddEvent) (p t : ℕ) : Prop :=
  event.partitionId.toNat = p ∧ event.specificType.toNat = t

instance : DecidablePred ConcorddEvent.IsAlarm := fun _ => inferInstanceAs (Decidable (_ ∨ _))

instance : DecidablePred ConcorddEvent.IsTrouble := fun _ => inferInstanceAs (Decidable (_ ∨ _))

instance : DecidablePred ConcorddEvent.IsSystemTrouble :=
  fun _ => inferInstanceAs (Decidable (_ ∨ _))

instance (event : ConcorddEvent) (p t : ℕ) : Decidable (event.IsAbout p t) :=
  inferInstanceAs (Decidable (_ ∧ _))

/-- What the instance knows of the latest events. -/
structure EventTables where
  alarm : Fin 8 → Fin 40 → ConcorddEvent
  trouble : Fin 8 → Fin 20 → ConcorddEvent
  system : Fin 52 → ConcorddEvent
  acPowerFailure : Bool

def ConcorddInstance.eventTables (self : ConcorddInstance) : EventTables where
  alarm p := (self.partition p).alarmEvents
  trouble p := (self.partition p).troubleEvents
  system := self.troubleEvents
  acPowerFailure := self.acPowerFailure

/-- Each event is written over the one before it of its kind, its partition and its type. -/
def EventTables.record (tables : EventTables) (event : ConcorddEvent) : EventTables where
  alarm p t := if event.IsAlarm ∧ event.IsAbout p t then event else tables.alarm p t
  trouble p t := if event.IsTrouble ∧ event.IsAbout p t then event else tables.trouble p t
  system t :=
    if event.IsSystemTrouble ∧ event.specificType.toNat = t.val then event else tables.system t
  acPowerFailure :=
    if event.IsSystemTrouble ∧ event.specificType = geRs232SystemTroubleSpecificMainAcFail then
      event.general = .systemTrouble
    else tables.acPowerFailure

theorem putEvent_apply {m : ℕ} (table : Fin m → ConcorddEvent) (typeS : UInt8)
    (event : ConcorddEvent) (i : Fin m) :
    putEvent table typeS event i = if typeS.toNat = i.val then event else table i := by
  unfold putEvent
  cases ht : tableIndex m (typeS.toNat : ℤ) with
  | none =>
    rw [tableIndex_eq_none] at ht
    rw [if_neg (by omega)]
  | some j =>
    rw [tableIndex_eq_some] at ht
    dsimp only
    rw [Function.update_apply]
    exact if_congr (by rw [Fin.ext_iff]; omega) rfl rfl

/-- Where a lookup guards the update of a partition, only the partition it names is updated. -/
theorem lookup_tables (self updated : ConcorddInstance) (partitioni : UInt8)
    (f : ConcorddPartition → ConcorddPartition)
    (hu : updated = match concorddGetPartition partitioni.toNat with
      | none => self
      | some p => self.setPartition p (f (self.partition p))) :
    updated.eventTables = { self.eventTables with
      alarm := fun p =>
        if partitioni.toNat = p.val then (f (self.partition p)).alarmEvents
        else (self.partition p).alarmEvents
      trouble := fun p =>
        if partitioni.toNat = p.val then (f (self.partition p)).troubleEvents
        else (self.partition p).troubleEvents } := by
  cases hp : concorddGetPartition (partitioni.toNat : ℤ) with
  | none =>
    have hne : ∀ p : Fin 8, partitioni.toNat ≠ p.val := by
      intro p he
      rw [getPartition_of_eq he] at hp
      cases hp
    rw [hu, hp]
    simp [ConcorddInstance.eventTables, hne]
  | some q =>
    have hiff : ∀ p : Fin 8, p = q ↔ partitioni.toNat = p.val := by
      intro p
      rw [getPartition_eq_some hp, Fin.ext_iff, eq_comm]
    rw [hu, hp]
    simp only [ConcorddInstance.eventTables, setPartition_partition, EventTables.mk.injEq]
    refine ⟨?_, ?_, rfl, rfl⟩
    · funext p
      rw [apply_ite ConcorddPartition.alarmEvents]
      exact if_ctx_congr (hiff p) (fun he => by rw [(hiff p).mpr he]) fun _ => rfl
    · funext p
      rw [apply_ite ConcorddPartition.troubleEvents]
      exact if_ctx_congr (hiff p) (fun he => by rw [(hiff p).mpr he]) fun _ => rfl

variable (self) (event : ConcorddEvent)

theorem putAlarm_tables :
    (concorddPutAlarm self event.partitionId event.specificType event).eventTables =
      { self.eventTables with
        alarm := fun p t => if event.IsAbout p t then event else self.eventTables.alarm p t } := by
  rw [lookup_tables self (concorddPutAlarm self event.partitionId event.specificType event)
    event.partitionId (fun partition => { partition with
      alarmEvents := putEvent partition.alarmEvents event.specificType event }) rfl]
  simp only [ConcorddInstance.eventTables, EventTables.mk.injEq, and_true, ite_self]
  funext p t
  by_cases hp : event.partitionId.toNat = p.val <;>
    simp [hp, putEvent_apply, ConcorddEvent.IsAbout]

theorem putTrouble_tables :
    (concorddPutTrouble self event.partitionId event.specificType event).eventTables =
      { self.eventTables with
        trouble := fun p t =>
          if event.IsAbout p t then event else self.eventTables.trouble p t } := by
  rw [lookup_tables self (concorddPutTrouble self event.partitionId event.specificType event)
    event.partitionId (fun partition => { partition with
      troubleEvents := putEvent partition.troubleEvents event.specificType event }) rfl]
  simp only [ConcorddInstance.eventTables, EventTables.mk.injEq, and_true, ite_self, true_and]
  funext p t
  by_cases hp : event.partitionId.toNat = p.val <;>
    simp [hp, putEvent_apply, ConcorddEvent.IsAbout]

theorem systemTrouble_tables (env : Env) :
    (concorddSystemTrouble env self event.general event.specificType event).1.eventTables =
      { self.eventTables with
        system := fun t =>
          if event.specificType.toNat = t.val then event else self.eventTables.system t
        acPowerFailure :=
          if event.specificType = geRs232SystemTroubleSpecificMainAcFail then
            event.general = .systemTrouble
          else self.acPowerFailure } := by
  unfold concorddSystemTrouble
  dsimp only
  split
  · next hs =>
    simp only [ConcorddInstance.eventTables, EventTables.mk.injEq, true_and, hs, and_true]
    funext t
    rw [putEvent_apply]
  · next hs =>
    simp only [ConcorddInstance.eventTables, EventTables.mk.injEq, true_and, and_true]
    funext t
    rw [putEvent_apply]

theorem configChanged_tables (partitioni typeS : UInt8) :
    (concorddConfigChanged self partitioni typeS).1.eventTables = self.eventTables := by
  by_cases h : 2 < typeS
  · unfold concorddConfigChanged
    split
    · rfl
    · rw [if_pos h]
  · rw [lookup_tables self (concorddConfigChanged self partitioni typeS).1 partitioni
      (fun partition => { partition with programmingMode := typeS = 0 })]
    · simp [ConcorddInstance.eventTables]
    · unfold concorddConfigChanged
      cases concorddGetPartition (partitioni.toNat : ℤ) with
      | none => rfl
      | some p =>
        dsimp only
        rw [if_neg h]

/-- The second `switch` of `concordd_handle_alarm` records the event, if it has a table. -/
theorem updateLists_record (env : Env) :
    (concorddUpdateLists env self event.partitionId event.general event.specificType
      event).1.eventTables = self.eventTables.record event := by
  unfold concorddUpdateLists
  cases hg : event.general with
  | systemTrouble | systemTroubleRestoral =>
    dsimp only
    rw [← hg, systemTrouble_tables]
    simp [EventTables.record, ConcorddEvent.IsAlarm, ConcorddEvent.IsTrouble,
      ConcorddEvent.IsSystemTrouble, hg, ConcorddInstance.eventTables]
  | alarm | alarmRestoral | alarmCancel =>
    dsimp only
    rw [putAlarm_tables]
    simp [EventTables.record, ConcorddEvent.IsAlarm, ConcorddEvent.IsTrouble,
      ConcorddEvent.IsSystemTrouble, hg]
  | fireTrouble | nonfireTrouble | fireTroubleRestoral | nonfireTroubleRestoral =>
    dsimp only
    rw [putTrouble_tables]
    simp [EventTables.record, ConcorddEvent.IsAlarm, ConcorddEvent.IsTrouble,
      ConcorddEvent.IsSystemTrouble, hg]
  | systemConfigChange =>
    dsimp only
    rw [configChanged_tables]
    simp [EventTables.record, ConcorddEvent.IsAlarm, ConcorddEvent.IsTrouble,
      ConcorddEvent.IsSystemTrouble, hg]
  | partitionEvent | systemEvent | other =>
    simp [EventTables.record, ConcorddEvent.IsAlarm, ConcorddEvent.IsTrouble,
      ConcorddEvent.IsSystemTrouble, hg]

/-! What a frame does to the tables. -/

/-- Only alarms and a refresh reach what lies beside the tables and the bus devices. -/
theorem handleFrame_besideDevices {α : Type*} {f : ConcorddInstance → α} (hf : BesideTables f)
    (hdevice : ∀ self busDevice count,
      f { self with busDevice := busDevice, busDeviceCount := count } = f self)
    (hrefresh : ∀ self, f (concorddDeactivate self) = f self) (env : Env) (self : ConcorddInstance)
    (n : ℕ) (halarm : ¬ IsSubcmd b .alarmTrouble) :
    f (concorddHandleFrame env self b n).state = f self := by
  by_cases hdev : IsPta b .equipListSuperbusDevData
  · rw [handleFrame_of_equipListSuperbusDevData hdev]
    unfold concorddHandleEquipListSuperbusDevData
    dsimp only
    split
    · dsimp only
      rw [hf.write]
      exact hdevice self self.busDevice _
    · exact hdevice self _ _
  by_cases hcap : IsPta b .equipListSuperbusCapData
  · rw [handleFrame_of_equipListSuperbusCapData hcap]
    unfold concorddHandleEquipListSuperbusCapData
    dsimp only
    split
    · rfl
    · split
      · exact hdevice self _ self.busDeviceCount
      · dsimp only
        rw [hf.write]
  by_cases hclear : IsPta b .clearAutomationDynamicImage
  · rw [handleFrame_clear hclear]
    exact (hf.queue _ _).trans (hrefresh self)
  · exact handleFrame_beside hf env self n halarm hdev hcap hclear

theorem besideTables_troubles :
    BesideTables fun self => (self.troubleEvents, self.acPowerFailure) where
  partition _ _ _ := rfl
  zone _ _ _ := rfl
  output _ _ _ := rfl
  user _ _ := rfl
  panel _ _ _ _ _ := rfl
  siren _ _ := rfl
  pending _ _ := rfl
  queue _ _ := rfl
  write := write_beside (f := fun self => (self.troubleEvents, self.acPowerFailure))
    fun _ _ _ _ _ _ => rfl

theorem PartitionUpdate.events_eq {p : Fin 8} {old new : ConcorddPartition}
    (h : PartitionUpdate env b n p old new) (halarm : ¬ IsSubcmd b .alarmTrouble) :
    (new.alarmEvents, new.troubleEvents) = (old.alarmEvents, old.troubleEvents) := by
  cases h with
  | alarmTrouble h => exact (halarm h).elim
  | _ => rfl

theorem handleFrame_otherTables (env : Env) (self : ConcorddInstance) (n : ℕ)
    (halarm : ¬ IsSubcmd b .alarmTrouble) :
    (concorddHandleFrame env self b n).state.eventTables = self.eventTables := by
  have hpartition : ∀ p, ((concorddHandleFrame env self b n).state.partition p).alarmEvents =
        (self.partition p).alarmEvents ∧
      ((concorddHandleFrame env self b n).state.partition p).troubleEvents =
        (self.partition p).troubleEvents := by
    intro p
    obtain ⟨entry, hu, hnew⟩ := handleFrame_partition_of_ofBytes
      (f := fun partition => (partition.alarmEvents, partition.troubleEvents)) (fun _ _ => rfl)
      env self b n p
    exact Prod.mk.inj (hnew.trans (hu.events_eq halarm))
  have hsystem := handleFrame_besideDevices besideTables_troubles (fun _ _ _ => rfl)
    (fun _ => rfl) env self n halarm
  rw [Prod.mk.injEq] at hsystem
  simp only [ConcorddInstance.eventTables, EventTables.mk.injEq]
  exact ⟨funext fun p => (hpartition p).1, funext fun p => (hpartition p).2, hsystem⟩

/-- An event that no `switch` but that of the outputs takes has no table. -/
theorem record_systemEvent {tables : EventTables} (h : event.general = .systemEvent) :
    tables.record event = tables := by
  simp [EventTables.record, ConcorddEvent.IsAlarm, ConcorddEvent.IsTrouble,
    ConcorddEvent.IsSystemTrouble, h]

theorem outputReported_eventTables (env : Env) (partitioni : UInt8) (source : UInt32) (esd : UInt16)
    (state : UInt8) :
    (concorddOutputReported env self partitioni source esd state).state.eventTables =
      self.eventTables :=
  outputReported_keeps (f := ConcorddInstance.eventTables) (fun _ _ => rfl) _ _ _ _

theorem handleAlarm_record (env : Env) (partitioni st : UInt8) (source : UInt32)
    (typeG typeS : UInt8) (esd : UInt16) :
    (concorddHandleAlarm env self partitioni st source typeG typeS esd).state.eventTables =
      self.eventTables.record (alarmEvent env partitioni st source typeG typeS esd) := by
  have hlog : ∀ event, (concorddLogEvent self event).eventTables = self.eventTables := fun _ => rfl
  have hevent : GeRs232AlarmGeneralType.ofByte typeG = .systemEvent →
      self.eventTables.record (alarmEvent env partitioni st source typeG typeS esd) =
        self.eventTables := fun h => record_systemEvent _ h
  unfold concorddHandleAlarm
  dsimp only
  split
  · next h => rw [outputReported_eventTables, hlog, hevent h.1]
  · split
    · next h => rw [outputReported_eventTables, hlog, hevent h.1]
    · have hlists := updateLists_record
        (concorddLogEvent self (alarmEvent env partitioni st source typeG typeS esd))
        (alarmEvent env partitioni st source typeG typeS esd) env
      rwa [hlog] at hlists

theorem handleFrame_record (env : Env) (self : ConcorddInstance) (b : Buffer) (n : ℕ) :
    (concorddHandleFrame env self b n).state.eventTables =
      (frameEvent env b).elim self.eventTables self.eventTables.record := by
  unfold frameEvent
  by_cases h : IsSubcmd b .alarmTrouble
  · rw [if_pos h, handleFrame_of_alarmTrouble h]
    exact handleAlarm_record self env ..
  · rw [if_neg h]
    exact handleFrame_otherTables env self n h

/-! Whole runs. -/

/-- The entry is the latest event of its kind, or is not valid for want of one. -/
abbrev ShowsEvent : Option ConcorddEvent → ConcorddEvent → Prop :=
  Shows fun event => event.valid = false

/-- The tables are projections of the events so far. -/
structure LatestEvents (h : List ConcorddEvent) (tables : EventTables) : Prop where
  alarm : ∀ (p : Fin 8) (t : Fin 40),
    ShowsEvent (latest (fun e => e.IsAlarm ∧ e.IsAbout p t) h) (tables.alarm p t)
  trouble : ∀ (p : Fin 8) (t : Fin 20),
    ShowsEvent (latest (fun e => e.IsTrouble ∧ e.IsAbout p t) h) (tables.trouble p t)
  system : ∀ t, ShowsEvent
    (latest (fun e => e.IsSystemTrouble ∧ e.specificType.toNat = t.val) h) (tables.system t)
  acPowerFailure : tables.acPowerFailure = true ↔
    ∃ e, latest (fun e => e.IsSystemTrouble ∧
      e.specificType = geRs232SystemTroubleSpecificMainAcFail) h = some e ∧
        e.general = .systemTrouble

theorem latestEvents_init : LatestEvents [] concorddInit.eventTables where
  alarm _ _ := rfl
  trouble _ _ := rfl
  system _ := rfl
  acPowerFailure := ⟨fun h => (nomatch h), fun ⟨_, h, _⟩ => (nomatch h)⟩

theorem LatestEvents.record {tables : EventTables} (hl : LatestEvents h tables) :
    LatestEvents (h ++ [event]) (tables.record event) where
  alarm p t := (hl.alarm p t).snoc event
  trouble p t := (hl.trouble p t).snoc event
  system t := (hl.system t).snoc event
  acPowerFailure := by
    rw [latest_snoc]
    unfold EventTables.record
    dsimp only
    split
    · simp
    · exact hl.acPowerFailure

theorem latestEvents_frame (hl : LatestEvents h self.eventTables) (env : Env) (b : Buffer)
    (n : ℕ) :
    LatestEvents (h ++ (frameEvent env b).toList)
      (concorddHandleFrame env self b n).state.eventTables := by
  rw [handleFrame_record]
  cases frameEvent env b with
  | none => simpa using hl
  | some event => exact hl.record event

/-- After any run each table holds the latest event of its kind, partition and type, and the power
failure is the latest that was reported. -/
theorem latest_event_tables (env : Env) (steps : List DaemonStep) :
    LatestEvents (eventHistory (daemonInit env) steps)
        (daemonMachine.run (daemonInit env) steps).inst.eventTables ∧
      ∀ e ∈ eventHistory (daemonInit env) steps, e.valid = true := by
  refine ⟨?_, fun e => valid_of_eventHistory⟩
  have hstep : ∀ h s i, LatestEvents h s.inst.eventTables →
      LatestEvents (h ++ stepEvents s i) (daemonMachine.step s i).1.inst.eventTables := by
    intro h s i hl
    exact history_step (P := fun h self => LatestEvents h self.eventTables)
      (fun _ _ _ _ hl => hl) (fun _ _ hl => hl)
      (fun _ self env b n hl => latestEvents_frame self hl env b n) hl i
  exact history_run (P := fun h self => LatestEvents h self.eventTables) (h := [])
    (s := daemonInit env) hstep latestEvents_init steps

end Concordd
