import Concordd.Instance.Dispatch

/-! What the frames store that name an entry of a table. -/
namespace Concordd

variable {env : Env} {self : ConcorddInstance} {b : Buffer} {n : ℕ}

/-! Partitions. -/

section Partition

variable {p : Fin 8}

theorem handleFrame_sirenSetup (h : IsSubcmd b .sirenSetup) (hp : (b 2).toNat = p.val) :
    (concorddHandleFrame env self b n).state.partition p = { self.partition p with
        active := true
        sirenRepeat := (b 4).toUInt32
        sirenCadence := word32 (b 5) (b 6) (b 7) (b 8)
        sirenStartedAt := env.now } := by
  rw [handleFrame_of_sirenSetup h]
  unfold concorddHandleSirenSetup
  rw [getPartition_of_eq hp]
  dsimp only
  rw [setPartition_partition, if_pos rfl]

theorem handleFrame_sirenStop (h : IsSubcmd b .sirenStop) {i : Fin 8}
    (hi : (b 2).toNat = i.val) :
    (concorddHandleFrame env self b n).state.partition p =
      if p = i then { self.partition i with sirenCadence := 0 } else self.partition p := by
  rw [handleFrame_of_sirenStop h]
  unfold concorddHandleSirenStop
  rw [getPartition_of_eq hi]
  exact setPartition_partition ..

theorem handleFrame_level (h : IsSubcmd b .level) (hp : (b 2).toNat = p.val) :
    (concorddHandleFrame env self b n).state.partition p = { self.partition p with
        active := true
        armLevel := b 6
        armLevelUser := word16 (b 4) (b 5)
        armLevelTimestamp := env.now
        entryDelayActive := false } := by
  rw [handleFrame_of_level h]
  unfold concorddHandleLevel
  rw [getPartition_of_eq hp]
  dsimp only
  rw [setPartition_partition, if_pos rfl]

theorem handleFrame_entryDelay (h : IsSubcmd b .entryExitDelay)
    (hp : (b 2).toNat = p.val) (h4 : b 4 &&& 0x40 = 0) :
    (concorddHandleFrame env self b n).state.partition p =
      { self.partition p with entryDelayActive := b 4 &&& 0x80 = 0 } := by
  rw [handleFrame_of_entryExitDelay h]
  unfold concorddHandleEntryExitDelay
  rw [getPartition_of_eq hp]
  dsimp only
  rw [if_neg (not_not.mpr h4)]
  dsimp only
  rw [setPartition_partition, if_pos rfl]

theorem handleFrame_featureState (h : IsSubcmd b .featureState) (hp : (b 2).toNat = p.val) :
    (concorddHandleFrame env self b n).state.partition p =
      { self.partition p with featureState := b 4, active := true } := by
  rw [handleFrame_of_featureState h]
  unfold concorddHandleFeatureState
  rw [getPartition_of_eq hp]
  dsimp only
  rw [setPartition_partition, if_pos rfl]

theorem handleFrame_partitionData (h : IsPta b .equipListPartitionData) (hp : (b 1).toNat = p.val) :
    (concorddHandleFrame env self b n).state.partition p =
      { self.partition p with active := true, armLevel := b 3 } := by
  rw [handleFrame_of_equipListPartitionData h]
  unfold concorddHandleEquipListPartitionData
  rw [getPartition_of_eq hp]
  dsimp only
  rw [setPartition_partition, if_pos rfl]

theorem handleFrame_lightToSensorData (h : IsPta b .equipListLightToSensorData)
    (hp : (b 1).toNat = p.val) {i : Fin 10} (hi : i ≠ 0) :
    (((concorddHandleFrame env self b n).state.partition p).light i).zoneId =
      b (Fin.ofNat _ (2 + i.val)) := by
  rw [handleFrame_of_equipListLightToSensorData h]
  unfold concorddHandleEquipListLightToSensorData
  rw [getPartition_of_eq hp]
  dsimp only
  rw [setPartition_partition, if_pos rfl]
  dsimp only
  rw [if_neg hi]

theorem handleFrame_userLights (h : IsSubcmd2 b .userLights)
    (hp : (b 2).toNat = p.val) {l : Fin 10} (hl : (b 8).toNat = l.val) :
    ((concorddHandleFrame env self b n).state.partition p).light l =
      { (self.partition p).light l with
        lightState := b 9 ≠ 0
        lastChangedAt := env.now } := by
  rw [handleFrame_of_userLights h]
  unfold concorddHandleUserLights
  rw [getPartition_of_eq hp]
  dsimp only
  rw [getLight_of_eq hl]
  dsimp only
  rw [setPartition_partition, if_pos rfl]
  exact Function.update_self ..

end Partition

/-- Without a callback for lights the loop goes through all of them. -/
theorem lightsStateLoop_lightState {p : Fin 8} {lightState : UInt16}
    (hf : self.callbacks.lightInfoChangedFunc = false) (is : List (Fin 10)) (i : Fin 10) :
    (((lightsStateLoop env p lightState self is).1.partition p).light i).lightState =
      if i ∈ is then lightState.toNat.testBit i.val
      else ((self.partition p).light i).lightState := by
  induction is generalizing self with
  | nil => simp [lightsStateLoop]
  | cons j is ih =>
    simp only [lightsStateLoop]
    split
    · next hsame =>
      rw [ih hf]
      by_cases hj : i = j
      · subst hj
        simp [hsame]
      · simp [hj]
    · next hdiff =>
      rw [if_neg (by simp [hf]), ih (by exact hf), setPartition_partition, if_pos rfl]
      by_cases hj : i = j
      · subst hj
        simp only [List.mem_cons, true_or, if_true, ConcorddPartition.setLight,
          Function.update_self]
        split
        · rfl
        · revert hdiff
          cases ((self.partition p).light i).lightState <;>
            cases lightState.toNat.testBit i.val <;> simp
      · simp [hj, ConcorddPartition.setLight]

theorem handleFrame_lightsState (h : IsSubcmd2 b .lightsState) {p : Fin 8}
    (hp : (b 2).toNat = p.val) (hf : self.callbacks.lightInfoChangedFunc = false)
    (i : Fin 10) :
    (((concorddHandleFrame env self b n).state.partition p).light i).lightState =
      (word16 (b 5) (b 4)).toNat.testBit i.val := by
  rw [handleFrame_of_lightsState h]
  unfold concorddHandleLightsState
  rw [getPartition_of_eq hp]
  dsimp only
  rw [lightsStateLoop_lightState hf, if_pos (List.mem_finRange i)]

/-! Zones, outputs, users and devices. -/

theorem handleFrame_zoneStatus {z : Fin 96} (h : IsPta b .zoneStatus)
    (hi : (word16 (b 3) (b 4)).toNat = z.val) :
    ((concorddHandleFrame env self b n).state.zone z).zoneState = b 5 := by
  rw [handleFrame_of_zoneStatus h]
  unfold concorddHandleZoneStatus
  rw [getZone_of_eq hi]
  dsimp only
  rw [setZone_zone, if_pos rfl]

theorem handleFrame_zoneData {z : Fin 96} (h : IsPta b .equipListZoneData)
    (hi : (word16 (b 4) (b 5)).toNat = z.val) (hn : n ≤ 24) :
    ((concorddHandleFrame env self b n).state.zone z).zoneState = b 7 := by
  rw [handleFrame_of_equipListZoneData h]
  unfold concorddHandleEquipListZoneData
  rw [getZone_of_eq hi]
  dsimp only
  rw [overrun_eq_nil hn, write_nil, setZone_zone, if_pos rfl]

theorem handleFrame_keyfob {z : Fin 96} (h : IsSubcmd2 b .keyfob)
    (hz : (b 5).toNat = z.val) (h6 : b 6 ≤ 3) :
    ((concorddHandleFrame env self b n).state.zone z).lastKc = b 6 := by
  rw [handleFrame_of_keyfob h]
  unfold concorddHandleKeyfob
  rw [getZone_of_eq hz]
  dsimp only
  rw [if_pos (.inr (.inl h6))]
  dsimp only
  rw [setZone_zone, if_pos rfl]

theorem outputReported_outputState {o : Fin 71} {esd : UInt16} (hi : esd.toNat = o.val)
    (partitioni : UInt8) (source : UInt32) (state : UInt8) :
    ((concorddOutputReported env self partitioni source esd state).state.output o).outputState =
      state := by
  unfold concorddOutputReported
  rw [getOutput_of_eq hi]
  dsimp only
  split
  · dsimp only
    rw [setOutput_output, if_pos rfl]
  · next he => exact not_not.mp he

theorem handleFrame_outputReported {o : Fin 71} {state : UInt8}
    (h : ReportsOutput b o state) :
    ((concorddHandleFrame env self b n).state.output o).outputState = state := by
  obtain ⟨hc, hgeneral, hi, hs⟩ := h
  rw [handleFrame_of_alarmTrouble hc]
  unfold concorddHandleAlarm
  dsimp only
  rcases hs with ⟨hs, rfl⟩ | ⟨hs, rfl⟩
  · rw [if_pos ⟨hgeneral, hs⟩]
    exact outputReported_outputState hi _ _ 1
  · rw [if_neg fun hon => absurd (hs.symm.trans hon.2) (by decide), if_pos ⟨hgeneral, hs⟩]
    exact outputReported_outputState hi _ _ 0

theorem handleFrame_outputData {o : Fin 71} (h : IsPta b .equipListOutputData)
    (hi : (b 2 &&& ~~~ 0x40).toNat = o.val) (hn : n ≤ 25) :
    ((concorddHandleFrame env self b n).state.output o).outputState = b 3 &&& 1 := by
  rw [handleFrame_of_equipListOutputData h]
  unfold concorddHandleEquipListOutputData
  rw [getOutput_of_eq hi]
  dsimp only
  rw [overrun_eq_nil hn, write_nil, setOutput_output, if_pos rfl]

theorem handleFrame_userData {u : Fin 252} (h : IsPta b .equipListUserData)
    (hu : (word16 (b 1) (b 2)).toNat = u.val) :
    ((concorddHandleFrame env self b n).state.user u).codeStr =
      userCode (self.user u).codeStr (b 4) (b 5) := by
  rw [handleFrame_of_equipListUserData h]
  unfold concorddHandleEquipListUserData
  rw [getUser_of_eq hu]
  dsimp only
  rw [setUser_user, if_pos rfl]

theorem handleFrame_superbusDevData (h : IsPta b .equipListSuperbusDevData)
    {d : Fin 32} (hd : self.busDeviceCount.toNat = d.val) :
    ((concorddHandleFrame env self b n).state.busDevice d).deviceStatus = b 6 := by
  have hget : tableIndex 32 self.busDeviceCount.toNat = some d := by
    rw [tableIndex_eq_some]
    exact_mod_cast hd
  rw [handleFrame_of_equipListSuperbusDevData h]
  unfold concorddHandleEquipListSuperbusDevData
  dsimp only
  rw [hget]
  dsimp only
  rw [Function.update_self]

theorem handleFrame_superbusCapData (h : IsPta b .equipListSuperbusCapData)
    {d : Fin 32} (hd : concorddGetDevice self (word24 (b 1) (b 2) (b 3)) = some d.val) :
    (concorddHandleFrame env self b n).state.busDevice d =
      (self.busDevice d).addCap (b 4) (b 5) := by
  rw [handleFrame_of_equipListSuperbusCapData h]
  unfold concorddHandleEquipListSuperbusCapData
  dsimp only
  rw [hd]
  dsimp only
  rw [tableIndex_val, device_val]
  dsimp only
  rw [Function.update_self]

/-! The instance. -/

theorem handleFrame_panelType (h : IsPta b .panelType) :
    (concorddHandleFrame env self b n).state.serialNumber = word32 (b 6) (b 7) (b 8) (b 9) := by
  rw [handleFrame_of_panelType h]
  rfl

theorem outputReported_keeps {α : Type*} {f : ConcorddInstance → α}
    (houtput : ∀ o entry, f (self.setOutput o entry) = f self) (partitioni : UInt8)
    (source : UInt32) (esd : UInt16) (state : UInt8) :
    f (concorddOutputReported env self partitioni source esd state).state = f self := by
  unfold concorddOutputReported
  split
  · rfl
  · split
    · exact houtput _ _
    · rfl

/-- The lists of events of the instance and of a partition are all that an alarm updates. -/
theorem updateLists_keeps {α : Type*} {f : ConcorddInstance → α}
    (hpartition : ∀ p entry, f (self.setPartition p entry) = f self)
    (hsystem : ∀ events failure timestamp, f { self with
      troubleEvents := events
      acPowerFailure := failure
      acPowerFailureChangedTimestamp := timestamp } = f self)
    (partitioni : UInt8) (typeG : GeRs232AlarmGeneralType) (typeS : UInt8) (event : ConcorddEvent) :
    f (concorddUpdateLists env self partitioni typeG typeS event).1 = f self := by
  have htroubles : ∀ general,
      f (concorddSystemTrouble env self general typeS event).1 = f self := by
    intro general
    unfold concorddSystemTrouble
    dsimp only
    split
    · exact hsystem _ _ _
    · exact hsystem _ self.acPowerFailure self.acPowerFailureChangedTimestamp
  have halarm : f (concorddPutAlarm self partitioni typeS event) = f self := by
    unfold concorddPutAlarm
    split
    · rfl
    · exact hpartition _ _
  have htrouble : f (concorddPutTrouble self partitioni typeS event) = f self := by
    unfold concorddPutTrouble
    split
    · rfl
    · exact hpartition _ _
  have hconfig : f (concorddConfigChanged self partitioni typeS).1 = f self := by
    unfold concorddConfigChanged
    split
    · rfl
    · split
      · rfl
      · exact hpartition _ _
  cases typeG with
  | systemTrouble | systemTroubleRestoral => exact htroubles _
  | alarm | alarmRestoral | alarmCancel => exact halarm
  | fireTrouble | nonfireTrouble | fireTroubleRestoral | nonfireTroubleRestoral => exact htrouble
  | systemConfigChange => exact hconfig
  | partitionEvent | systemEvent | other => rfl

/-- Every alarm frame is logged. -/
theorem handleFrame_alarmTrouble (h : IsSubcmd b .alarmTrouble) :
    (concorddHandleFrame env self b n).state.eventLog (self.eventLogLast + 1) =
      alarmEvent env (b 2) (b 4) (word24 (b 5) (b 6) (b 7)) (b 8) (b 9) (word16 (b 10) (b 11)) := by
  rw [handleFrame_of_alarmTrouble h]
  unfold concorddHandleAlarm
  dsimp only
  have hlog : ∀ event, (concorddLogEvent self event).eventLog (self.eventLogLast + 1) = event :=
    fun event => Function.update_self ..
  split
  · rw [outputReported_keeps (f := (·.eventLog)) fun _ _ => rfl, hlog]
  · split
    · rw [outputReported_keeps (f := (·.eventLog)) fun _ _ => rfl, hlog]
    · dsimp only
      rw [updateLists_keeps (f := (·.eventLog)) (fun _ _ => rfl) fun _ _ _ => rfl, hlog]

end Concordd
