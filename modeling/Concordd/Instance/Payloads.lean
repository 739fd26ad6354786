import Concordd.Instance.PartitionMirror

/-! What a callback points at is what the tables hold when the step is over. -/
namespace Concordd

def concorddZoneLastTrippedAtChanged : UInt32 := (1 : UInt32) <<< 18

/-- The call points at an entry of the table, and what it says of a zone, a light or an output is
what their dictionaries tell. -/
def InstanceEvent.Current (self : ConcorddInstance) : InstanceEvent → Prop
  | .partitionInfoChanged i partition _ => self.partition i = partition
  | .zoneInfoChanged i zone changed =>
    self.zone i = zone ∧ zone.active = true ∧ changed &&& concorddZoneLastTrippedAtChanged = 0
  | .lightInfoChanged i lighti light changed =>
    (self.partition i).light lighti = light ∧
      changed = concorddGeneralStateChanged ||| concorddGeneralLastChangedAtChanged
  | .outputInfoChanged i output changed =>
    self.output i = output ∧ output.active = true ∧
      changed = concorddGeneralStateChanged ||| concorddGeneralLastChangedAtChanged |||
        concorddGeneralLastChangedByChanged
  | .event logged => self.eventLog self.eventLogLast = logged
  | _ => True

def CallsCurrent (r : Outcome ConcorddInstance InstanceEvent) : Prop :=
  ∀ e ∈ r.out, e.Current r.state

variable {env : Env} {self : ConcorddInstance} {b : Buffer} {n : ℕ} {e : InstanceEvent}
  {c : Prop} [Decidable c] {out : List InstanceEvent} {p : Fin 8} {z : Fin 96} {changed : UInt32}
  {s : Daemon} {i : DaemonStep} {r : Outcome ConcorddInstance InstanceEvent}

/-! One call. -/

theorem mem_of_mem_ite (h : e ∈ if c then out else []) : c ∧ e ∈ out := by
  split at h
  · next hc => exact ⟨hc, h⟩
  · cases h

theorem callsCurrent_none (h : r.out = []) : CallsCurrent r := by
  intro e he
  rw [h] at he
  cases he

theorem partition_current (h : e ∈ concorddPartitionInfoChanged self p changed) :
    e.Current self := by
  obtain rfl := List.mem_singleton.mp (mem_of_mem_ite h).2
  rfl

theorem zone_current (hactive : (self.zone z).active = true)
    (hflag : changed &&& concorddZoneLastTrippedAtChanged = 0)
    (h : e ∈ concorddZoneInfoChanged self z changed) : e.Current self := by
  obtain rfl := List.mem_singleton.mp (mem_of_mem_ite h).2
  exact ⟨rfl, hactive, hflag⟩

/-! Handlers. -/

theorem outputReported_current (env : Env) (self : ConcorddInstance) (partitioni : UInt8)
    (source : UInt32) (esd : UInt16) (state : UInt8) :
    CallsCurrent (concorddOutputReported env self partitioni source esd state) := by
  unfold concorddOutputReported
  split
  · exact callsCurrent_none rfl
  · split
    · intro e he
      obtain rfl := List.mem_singleton.mp (mem_of_mem_ite he).2
      exact ⟨by rw [setOutput_output, if_pos rfl], rfl, rfl⟩
    · exact callsCurrent_none rfl

/-- The lists of events only make calls about the instance. -/
theorem updateLists_calls (partitioni : UInt8) (general : GeRs232AlarmGeneralType) (typeS : UInt8)
    (event : ConcorddEvent)
    (h : e ∈ (concorddUpdateLists env self partitioni general typeS event).2) :
    ∃ changed, e = .instanceInfoChanged changed := by
  have hinstance : ∀ {self : ConcorddInstance} {changed : UInt32},
      e ∈ concorddInstanceInfoChanged self changed → ∃ changed, e = .instanceInfoChanged changed :=
    fun h => ⟨_, List.mem_singleton.mp (mem_of_mem_ite h).2⟩
  have hsystem : ∀ general, e ∈ (concorddSystemTrouble env self general typeS event).2 →
      ∃ changed, e = .instanceInfoChanged changed := by
    intro general h
    unfold concorddSystemTrouble at h
    dsimp only at h
    split at h
    · exact hinstance h
    · cases h
  have hconfig : e ∈ (concorddConfigChanged self partitioni typeS).2 →
      ∃ changed, e = .instanceInfoChanged changed := by
    intro h
    unfold concorddConfigChanged at h
    split at h
    · cases h
    · split at h
      · cases h
      · exact hinstance h
  cases general with
  | systemTrouble | systemTroubleRestoral => exact hsystem _ h
  | systemConfigChange => exact hconfig h
  | _ => cases h

theorem handleAlarm_current (env : Env) (self : ConcorddInstance) (partitioni st : UInt8)
    (source : UInt32) (typeG typeS : UInt8) (esd : UInt16) :
    CallsCurrent (concorddHandleAlarm env self partitioni st source typeG typeS esd) := by
  unfold concorddHandleAlarm
  dsimp only
  split
  · exact outputReported_current env _ _ _ _ _
  · split
    · exact outputReported_current env _ _ _ _ _
    · intro e he
      rcases List.mem_append.mp he with he | he
      · obtain ⟨changed, rfl⟩ := updateLists_calls _ _ _ _ he
        trivial
      · obtain rfl := List.mem_singleton.mp (mem_of_mem_ite he).2
        rfl

theorem handleSubcmd_current (env : Env) (self : ConcorddInstance) (b : Buffer) (n : ℕ) :
    CallsCurrent (concorddHandleSubcmd env self b n) := by
  unfold concorddHandleSubcmd
  cases GeRs232PtaSubcmd.ofByte (b 1) <;> dsimp only
  case sirenSetup =>
    unfold concorddHandleSirenSetup
    split
    · exact callsCurrent_none rfl
    · exact fun e he => partition_current (mem_of_mem_ite he).2
  case sirenStop =>
    unfold concorddHandleSirenStop
    split
    · exact callsCurrent_none rfl
    · exact fun e he => partition_current he
  case sirenGo =>
    unfold concorddHandleSirenGo
    split
    · exact callsCurrent_none rfl
    · exact fun e he => partition_current (mem_of_mem_ite he).2
  case sirenSync =>
    intro e he
    obtain rfl := List.mem_singleton.mp (mem_of_mem_ite he).2
    trivial
  case touchpadDisplay =>
    unfold concorddHandleTouchpadDisplay
    split
    · exact callsCurrent_none rfl
    · intro e he
      rcases List.mem_cons.mp he with rfl | he
      · trivial
      · split at he
        · cases he
        · exact partition_current he
  case level =>
    unfold concorddHandleLevel
    split
    · exact callsCurrent_none rfl
    · exact fun e he => partition_current he
  case alarmTrouble => exact handleAlarm_current env self _ _ _ _ _ _
  case entryExitDelay =>
    unfold concorddHandleEntryExitDelay
    split
    · exact callsCurrent_none rfl
    · dsimp only
      split <;> exact callsCurrent_none rfl
  case featureState =>
    unfold concorddHandleFeatureState
    split
    · exact callsCurrent_none rfl
    · exact fun e he => partition_current (mem_of_mem_ite he).2
  all_goals exact callsCurrent_none rfl

/-- The first change that is reported is the last one that is made. -/
theorem lightsStateLoop_current (env : Env) (p : Fin 8) (lightState : UInt16)
    (is : List (Fin 10)) (self : ConcorddInstance)
    (h : e ∈ (lightsStateLoop env p lightState self is).2) :
    e.Current (lightsStateLoop env p lightState self is).1 := by
  induction is generalizing self with
  | nil => cases h
  | cons i is ih =>
    simp only [lightsStateLoop] at h ⊢
    split at h
    · next hsame =>
      rw [if_pos hsame]
      exact ih self h
    · next hother =>
      rw [if_neg hother]
      split at h
      · next hreported =>
        rw [if_pos hreported]
        obtain rfl := List.mem_singleton.mp h
        refine ⟨?_, rfl⟩
        rw [setPartition_partition, if_pos rfl]
        exact Function.update_self ..
      · next hsilent =>
        rw [if_neg hsilent]
        exact ih _ h

theorem handleSubcmd2_current (env : Env) (self : ConcorddInstance) (b : Buffer) :
    CallsCurrent (concorddHandleSubcmd2 env self b) := by
  unfold concorddHandleSubcmd2
  cases GeRs232PtaSubcmd2.ofByte (b 1) <;> dsimp only
  case lightsState =>
    unfold concorddHandleLightsState
    split
    · exact callsCurrent_none rfl
    · exact fun e he => lightsStateLoop_current _ _ _ _ _ he
  case userLights =>
    unfold concorddHandleUserLights
    split
    · exact callsCurrent_none rfl
    · split
      · exact callsCurrent_none rfl
      · intro e he
        obtain rfl := List.mem_singleton.mp (mem_of_mem_ite he).2
        refine ⟨?_, rfl⟩
        rw [setPartition_partition, if_pos rfl]
        exact Function.update_self ..
  case keyfob =>
    unfold concorddHandleKeyfob
    split
    · exact callsCurrent_none rfl
    · dsimp only
      split
      · exact fun e he => zone_current (by rw [setZone_zone, if_pos rfl]) (by decide) he
      · exact callsCurrent_none rfl
  case other => exact callsCurrent_none rfl

/-- The flags of status bits lie below the flag for the time of the last trip. -/
theorem statusFlags_lastTripped (bits : UInt8) :
    (bits.toUInt32 <<< 8) &&& concorddZoneLastTrippedAtChanged = 0 :=
  shiftedBits_and bits concorddZoneLastTrippedAtChanged 18 (by decide) rfl

theorem or_and_eq_zero {x y mask : UInt32} (hx : x &&& mask = 0) (hy : y &&& mask = 0) :
    (x ||| y) &&& mask = 0 := by
  apply UInt32.toNat_inj.mp
  have hx := congrArg UInt32.toNat hx
  have hy := congrArg UInt32.toNat hy
  rw [UInt32.toNat_and] at hx hy ⊢
  rw [UInt32.toNat_or, Nat.and_or_distrib_right, hx, hy]
  rfl

theorem dataFlags_lastTripped {k g t : Prop} [Decidable k] [Decidable g] [Decidable t]
    (bits : UInt8) :
    ((if k then concorddGeneralPartitionIdChanged else 0) |||
      (if g then concorddZoneGroupChanged else 0) ||| (if t then concorddZoneTypeChanged else 0) |||
      (bits.toUInt32 <<< 8)) &&& concorddZoneLastTrippedAtChanged = 0 := by
  have hflag : ∀ {c : Prop} [Decidable c] {flag : UInt32},
      flag &&& concorddZoneLastTrippedAtChanged = 0 →
        (if c then flag else 0) &&& concorddZoneLastTrippedAtChanged = 0 := by
    intro c _ flag h
    split
    · exact h
    · exact UInt32.zero_and
  exact or_and_eq_zero (or_and_eq_zero (or_and_eq_zero (hflag (by decide)) (hflag (by decide)))
    (hflag (by decide))) (statusFlags_lastTripped bits)

/-! Frames and steps. -/

theorem handleFrame_current (env : Env) (self : ConcorddInstance) (b : Buffer) (n : ℕ) :
    CallsCurrent (concorddHandleFrame env self b n) := by
  unfold concorddHandleFrame
  cases GeRs232Pta.ofByte (b 0) <;> dsimp only
  case subcmd => exact handleSubcmd_current env self b n
  case subcmd2 => exact handleSubcmd2_current env self b
  case clearAutomationDynamicImage | equipListComplete =>
    intro e he
    obtain ⟨l, -, rfl⟩ := List.mem_map.mp he
    trivial
  case zoneStatus =>
    unfold concorddHandleZoneStatus
    split
    · exact callsCurrent_none rfl
    · exact fun e he => zone_current (by rw [setZone_zone, if_pos rfl])
        (statusFlags_lastTripped _) (mem_of_mem_ite he).2
  case equipListPartitionData =>
    unfold concorddHandleEquipListPartitionData
    split
    · exact callsCurrent_none rfl
    · exact fun e he => partition_current (mem_of_mem_ite he).2
  case equipListZoneData =>
    unfold concorddHandleEquipListZoneData
    split
    · exact callsCurrent_none rfl
    · next z _ =>
      dsimp only
      intro e he
      rcases List.mem_cons.mp he with rfl | he
      · trivial
      · refine zone_current ?_ (dataFlags_lastTripped _) (mem_of_mem_ite he).2
        -- what the name overruns lies behind the zone's flag
        rw [write_zone_active, setZone_zone, if_pos rfl]
        intro w hw
        have := le_of_mem_overrun hw
        omega
  case equipListUserData =>
    unfold concorddHandleEquipListUserData
    split <;> exact callsCurrent_none rfl
  case equipListSuperbusDevData =>
    unfold concorddHandleEquipListSuperbusDevData
    dsimp only
    split
    · intro e he
      obtain rfl := List.mem_singleton.mp he
      trivial
    · exact callsCurrent_none rfl
  case equipListSuperbusCapData =>
    unfold concorddHandleEquipListSuperbusCapData
    dsimp only
    split
    · exact callsCurrent_none rfl
    · split <;> exact callsCurrent_none rfl
  case equipListOutputData =>
    unfold concorddHandleEquipListOutputData
    split
    · exact callsCurrent_none rfl
    · intro e he
      rcases List.mem_cons.mp he with rfl | he
      · trivial
      · obtain rfl := List.mem_singleton.mp he
        trivial
  case equipListLightToSensorData =>
    unfold concorddHandleEquipListLightToSensorData
    split <;> exact callsCurrent_none rfl
  all_goals exact callsCurrent_none rfl

theorem step_current (h : DaemonEvent.calls e ∈ (daemonMachine.step s i).2) :
    e.Current (daemonMachine.step s i).1.inst := by
  have hlink : ∀ {events : List LinkEvent}, DaemonEvent.calls e ∈ linkCalls events →
      ∀ new, e.Current new := by
    intro events hm new
    obtain ⟨e', hm', he'⟩ := List.mem_map.mp hm
    obtain ⟨l, -, rfl⟩ := List.mem_map.mp hm'
    obtain rfl := DaemonEvent.calls.inj he'
    trivial
  have hquiet : Quiet i (daemonMachine.step s i).2 → ∀ new, e.Current new := by
    rintro ⟨events, ho | ⟨status, ho⟩⟩
    · exact hlink (ho ▸ h)
    · rw [ho] at h
      rcases List.mem_append.mp h with h | h
      · exact hlink h
      · cases List.mem_singleton.mp h
  rcases daemon_step_cases s i with ⟨q, callbacks, env, -, ho⟩ | ⟨q, -, ho⟩ |
    ⟨q, b, n, events, hs, ho⟩
  · exact hquiet ho _
  · exact hquiet ho _
  · rw [ho] at h
    rw [hs]
    rcases List.mem_append.mp h with h | h
    · exact hlink h _
    · rcases List.mem_cons.mp h with h | h
      · cases h
      · obtain ⟨e', hm, he'⟩ := List.mem_map.mp h
        obtain rfl := DaemonEvent.calls.inj he'
        exact handleFrame_current _ _ b n _ hm

end Concordd
