import Concordd.Instance.Effects
import Concordd.Instance.LinkSteps

/-! Automated commands keep off a panel that is being programmed or resynchronised. -/
namespace Concordd

/-- What a frame says about partition `p` being programmed. -/
def programmingReport (p : Fin 8) (frameBytes : Buffer) : Option Bool :=
  if IsSubcmd frameBytes .alarmTrouble ∧
      GeRs232AlarmGeneralType.ofByte (frameBytes 8) = .systemConfigChange ∧
      (frameBytes 2).toNat = p.val ∧ frameBytes 9 ≤ 2 then
    some (frameBytes 9 = 0)
  else none

/-- Whether the last event about programming partition `p` has begun it. -/
def programmingWatch (p : Fin 8) : Monitor Bool DaemonEvent where
  next programming
    | .handleFrame frameBytes _ => (programmingReport p frameBytes).getD programming
    | _ => programming
  Allows _ _ := True

/-- The commands that type keys into partition `p` on behalf of a program. -/
def DaemonStep.TypesInto (self : ConcorddInstance) (p : Fin 8) : DaemonStep → Prop
  | .setLight partition _ _ _ | .setArmLevel partition _ _ => partition = p.val
  | .setZoneBypass zone _ _ _ =>
    ∃ z, concorddGetZone zone = some z ∧ (self.zone z).partitionId.toNat = p.val
  | .setOutput _ _ _ => p = 1
  | _ => False

/-- The commands that a refresh holds back. -/
def DaemonStep.AwaitsRefresh : DaemonStep → Prop
  | .setLight _ _ _ _ | .setZoneBypass _ _ _ _ | .setOutput _ _ _ => True
  | _ => False

/-- The step enqueues a message. -/
def Enqueues (s : Daemon) (i : DaemonStep) : Prop :=
  ∃ data finished status,
    LinkEvent.queueMessage data finished status ∈ linkEvents (daemonMachine.step s i).2

/-- Nothing is typed into a partition that is being programmed, nor while a refresh is pending. -/
def KeepsOff (p : Fin 8) (s : Daemon × Bool) (i : DaemonStep) : Prop :=
  (s.2 = true ∧ i.TypesInto s.1.inst p → ¬ Enqueues s.1 i) ∧
    (s.1.inst.refreshPending = true ∧ i.AwaitsRefresh → ¬ Enqueues s.1 i)

variable {env : Env} {self : ConcorddInstance} {b : Buffer} {n : ℕ} {s : Daemon} {i : DaemonStep}
  {p : Fin 8}

/-! The flag. -/

theorem outputReported_partition (partitioni : UInt8) (source : UInt32) (esd : UInt16)
    (state : UInt8) :
    (concorddOutputReported env self partitioni source esd state).state.partition =
      self.partition := by
  unfold concorddOutputReported
  split
  · rfl
  · split <;> rfl

theorem configChanged_programmingMode (self : ConcorddInstance) (partitioni typeS : UInt8) :
    ((concorddConfigChanged self partitioni typeS).1.partition p).programmingMode =
      if partitioni.toNat = p.val ∧ typeS ≤ 2 then decide (typeS = 0)
      else (self.partition p).programmingMode := by
  unfold concorddConfigChanged
  cases hp : concorddGetPartition partitioni.toNat with
  | none =>
    have hne : partitioni.toNat ≠ p.val := by
      intro he
      rw [getPartition_of_eq he] at hp
      cases hp
    rw [if_neg fun h => hne h.1]
  | some q =>
    have hq := getPartition_eq_some hp
    dsimp only
    by_cases h2 : 2 < typeS
    · rw [if_pos h2, if_neg fun h => UInt8.not_lt.mpr h.2 h2]
    · rw [if_neg h2, setPartition_partition]
      by_cases hpq : p = q
      · subst hpq
        rw [if_pos rfl, if_pos ⟨hq, UInt8.not_lt.mp h2⟩]
      · have hne : partitioni.toNat ≠ p.val := fun he => hpq (Fin.ext (he.symm.trans hq))
        rw [if_neg hpq, if_neg fun h => hne h.1]

/-- Only a change of the configuration touches the flag. -/
theorem updateLists_programmingMode (self : ConcorddInstance) (partitioni typeS : UInt8)
    (general : GeRs232AlarmGeneralType) (event : ConcorddEvent) :
    ((concorddUpdateLists env self partitioni general typeS event).1.partition p).programmingMode =
      if general = .systemConfigChange ∧ partitioni.toNat = p.val ∧ typeS ≤ 2 then
        decide (typeS = 0)
      else (self.partition p).programmingMode := by
  have hsystem : ∀ general,
      (concorddSystemTrouble env self general typeS event).1.partition = self.partition := by
    intro general
    unfold concorddSystemTrouble
    dsimp only
    split <;> rfl
  have halarm : ((concorddPutAlarm self partitioni typeS event).partition p).programmingMode =
      (self.partition p).programmingMode := by
    unfold concorddPutAlarm
    split
    · rfl
    · refine setPartition_keeps self (·.programmingMode) ?_ p
      rfl
  have htrouble : ((concorddPutTrouble self partitioni typeS event).partition p).programmingMode =
      (self.partition p).programmingMode := by
    unfold concorddPutTrouble
    split
    · rfl
    · refine setPartition_keeps self (·.programmingMode) ?_ p
      rfl
  cases general with
  | systemTrouble | systemTroubleRestoral => simp [concorddUpdateLists, hsystem]
  | alarm | alarmRestoral | alarmCancel => simp [concorddUpdateLists, halarm]
  | fireTrouble | nonfireTrouble | fireTroubleRestoral | nonfireTroubleRestoral =>
    simp [concorddUpdateLists, htrouble]
  | systemConfigChange =>
    simp only [concorddUpdateLists, true_and]
    exact configChanged_programmingMode self partitioni typeS
  | partitionEvent | systemEvent | other => simp [concorddUpdateLists]

theorem handleFrame_alarm_programmingMode (h : IsSubcmd b .alarmTrouble) :
    ((concorddHandleFrame env self b n).state.partition p).programmingMode =
      if GeRs232AlarmGeneralType.ofByte (b 8) = .systemConfigChange ∧ (b 2).toNat = p.val ∧
          b 9 ≤ 2 then
        decide (b 9 = 0)
      else (self.partition p).programmingMode := by
  rw [handleFrame_of_alarmTrouble h]
  unfold concorddHandleAlarm
  dsimp only
  generalize alarmEvent env (b 2) _ _ _ _ _ = event
  split
  · next hon => rw [outputReported_partition, hon.1]; rfl
  · split
    · next hoff => rw [outputReported_partition, hoff.1]; rfl
    · exact updateLists_programmingMode (concorddLogEvent self event) (b 2) (b 9) _ event

theorem PartitionUpdate.programmingMode {old new : ConcorddPartition}
    (h : PartitionUpdate env b n p old new) (hno : ¬ IsSubcmd b .alarmTrouble) :
    new.programmingMode = old.programmingMode := by
  cases h with
  | alarmTrouble ha => exact (hno ha).elim
  | _ => rfl

/-- A frame sets the flag to what it says. -/
theorem handleFrame_programmingMode (env : Env) (self : ConcorddInstance) (b : Buffer) (n : ℕ)
    (p : Fin 8) :
    ((concorddHandleFrame env self b n).state.partition p).programmingMode =
      (programmingReport p b).getD (self.partition p).programmingMode := by
  unfold programmingReport
  by_cases h : IsSubcmd b .alarmTrouble
  · rw [handleFrame_alarm_programmingMode h]
    by_cases hr : GeRs232AlarmGeneralType.ofByte (b 8) = .systemConfigChange ∧
        (b 2).toNat = p.val ∧ b 9 ≤ 2
    · rw [if_pos hr, if_pos ⟨h, hr⟩]
      rfl
    · rw [if_neg hr, if_neg fun hall => hr hall.2]
      rfl
  · rw [if_neg fun hall => h hall.1]
    obtain ⟨entry, hu, hnew⟩ := handleFrame_partition_of_ofBytes
      (f := ConcorddPartition.programmingMode) (fun _ _ => rfl) env self b n p
    exact hnew.trans (hu.programmingMode h)

/-! The commands. -/

/-- A command that asks for nothing enqueues nothing. -/
theorem not_enqueues_of_request (hi : i.IsCommand) (h : i.request s.inst = none) :
    ¬ Enqueues s i := by
  rintro ⟨data, finished, status, hm⟩
  rw [← (follows_step s i).2, linkSteps_command hi, h] at hm
  cases hm

theorem not_takesKeys (h : (self.partition p).programmingMode = true) :
    ¬ self.TakesKeys p.val := by
  rintro ⟨q, hq, -, hm⟩
  obtain rfl : p = q := Fin.ext (by exact_mod_cast hq)
  cases h.symm.trans hm

theorem typesInto_request (h : (s.inst.partition p).programmingMode = true)
    (hi : i.TypesInto s.inst p) : i.IsCommand ∧ i.request s.inst = none := by
  have hkeys := not_takesKeys h
  cases i with
  | setLight partition light state finished =>
    obtain rfl := hi
    exact ⟨trivial, if_neg fun hall => hkeys hall.2.1⟩
  | setArmLevel partition armLevel finished =>
    obtain rfl := hi
    refine ⟨trivial, ?_⟩
    simp only [DaemonStep.request, armLevelRequest, hkeys, false_and, if_false]
    split <;> rfl
  | setZoneBypass zone bypass user finished =>
    obtain ⟨z, hz, hp⟩ := hi
    refine ⟨trivial, ?_⟩
    rw [← hp] at hkeys
    simp only [DaemonStep.request, bypassRequest, hz]
    cases bypassCode s.inst user with
    | none => rfl
    | some codeStr => exact if_neg fun hall => hkeys hall.2.2.1
  | setOutput output state finished =>
    obtain rfl := hi
    refine ⟨trivial, ?_⟩
    simp only [DaemonStep.request, outputRequest]
    cases concorddGetOutput output with
    | none => rfl
    | some o => exact if_neg fun hall => Bool.false_ne_true (hall.2.2.2.symm.trans h)
  | _ => exact hi.elim

theorem awaitsRefresh_request (h : s.inst.refreshPending = true) (hi : i.AwaitsRefresh) :
    i.IsCommand ∧ i.request s.inst = none := by
  have hno : s.inst.refreshPending ≠ false := by simp [h]
  cases i with
  | setLight partition light state finished =>
    exact ⟨trivial, if_neg fun hall => hno hall.1⟩
  | setZoneBypass zone bypass user finished =>
    refine ⟨trivial, ?_⟩
    simp only [DaemonStep.request, bypassRequest]
    cases concorddGetZone zone with
    | none => rfl
    | some z =>
      cases bypassCode s.inst user with
      | none => rfl
      | some codeStr => exact if_neg fun hall => hno hall.1
  | setOutput output state finished =>
    refine ⟨trivial, ?_⟩
    simp only [DaemonStep.request, outputRequest]
    cases concorddGetOutput output with
    | none => rfl
    | some o => exact if_neg fun hall => hno hall.1
  | _ => exact hi.elim

/-! Runs. -/

theorem programming_step {programming : Bool}
    (h : (s.inst.partition p).programmingMode = programming) :
    ((daemonMachine.step s i).1.inst.partition p).programmingMode =
      (programmingWatch p).after programming (daemonMachine.step s i).2 := by
  refine frames_step (m := programmingWatch p)
    (P := fun s programming => (s.inst.partition p).programmingMode = programming)
    (G := fun _ _ _ => True) ?_ ?_ ?_ ?_ h fun _ _ _ => trivial
  · intro t e he
    cases e with
    | handleFrame b n => exact (he b n List.mem_cons_self).elim
    | calls | returns => rfl
  · intro s t q callbacks env h
    exact h
  · intro s t h
    exact h
  · intro s t b n h _
    refine (handleFrame_programmingMode s.env s.inst b n p).trans ?_
    rw [h]
    rfl

/-- In every run, no automated command types into a partition from the event that begins its
programming to the one that ends it, nor while a refresh is pending. -/
theorem automated_commands_keep_off (p : Fin 8) (env : Env) (steps : List DaemonStep) :
    ((programmingWatch p).watch daemonMachine).Along (KeepsOff p) (daemonInit env, false)
      steps := by
  apply Machine.along_of_inv (P := fun _ _ => True)
    (I := fun s => (s.1.inst.partition p).programmingMode = s.2)
  · intro s i h _
    exact programming_step h
  · intro s i h _
    constructor
    · rintro ⟨hon, hi⟩
      obtain ⟨hc, hr⟩ := typesInto_request (h.trans hon) hi
      exact not_enqueues_of_request hc hr
    · rintro ⟨hpending, hi⟩
      obtain ⟨hc, hr⟩ := awaitsRefresh_request hpending hi
      exact not_enqueues_of_request hc hr
  · rfl
  · exact Machine.along_true

end Concordd
