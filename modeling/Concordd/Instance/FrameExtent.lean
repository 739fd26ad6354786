import Concordd.Instance.Updates

/-! How many bytes of its buffer a frame's effect depends on. -/
namespace Concordd

/-- Which bytes the sub-commands of `concordd_handle_subcmd` look at: the last one, plus one. -/
def subcmdExtent (frameBytes : Buffer) : ℕ :=
  match GeRs232PtaSubcmd.ofByte (frameBytes 1) with
  | .sirenSetup => if (frameBytes 2).toNat < 8 then 9 else 3
  | .sirenStop => 3
  | .touchpadDisplay => if (frameBytes 2).toNat < 8 then 5 else 3
  | .level => if (frameBytes 2).toNat < 8 then 7 else 3
  | .alarmTrouble => 12
  | .entryExitDelay => if (frameBytes 2).toNat < 8 then 5 else 3
  | .featureState => if (frameBytes 2).toNat < 8 then 5 else 3
  | .sirenGo | .sirenSync | .temperature | .timeAndDate | .other => 2

def subcmd2Extent (frameBytes : Buffer) : ℕ :=
  match GeRs232PtaSubcmd2.ofByte (frameBytes 1) with
  | .lightsState => if (frameBytes 2).toNat < 8 then 6 else 3
  | .userLights =>
    if (frameBytes 2).toNat < 8 then (if (frameBytes 8).toNat < 10 then 10 else 9) else 3
  | .keyfob => if (frameBytes 5).toNat < 96 then 7 else 6
  | .other => 2

/-- The length from which on a frame with these bytes leaves nothing to the bytes after it. A
number out of the table's range ends the look at the frame early, and the first byte of a
two-byte number can do so by itself. -/
def frameExtent (frameBytes : Buffer) : ℕ :=
  match GeRs232Pta.ofByte (frameBytes 0) with
  | .subcmd => subcmdExtent frameBytes
  | .subcmd2 => subcmd2Extent frameBytes
  | .zoneStatus => if frameBytes 3 ≠ 0 then 4 else if (frameBytes 4).toNat < 96 then 6 else 5
  | .equipListPartitionData => if (frameBytes 1).toNat < 8 then 4 else 2
  | .equipListZoneData =>
    if frameBytes 4 ≠ 0 then 5 else if (frameBytes 5).toNat < 96 then 8 else 6
  | .equipListUserData =>
    if frameBytes 1 ≠ 0 then 2 else if (frameBytes 2).toNat < 252 then 6 else 3
  | .equipListSuperbusDevData => 7
  | .equipListSuperbusCapData => if frameBytes 4 = 0x08 ∨ frameBytes 4 = 0x0B then 6 else 5
  | .equipListOutputData => if (frameBytes 2 &&& ~~~ 0x40).toNat < 71 then 9 else 3
  | .equipListLightToSensorData => if (frameBytes 1).toNat < 8 then 12 else 2
  | .panelType => 10
  | .automationEventLost | .clearAutomationDynamicImage | .equipListComplete
  | .equipListScheduleData | .equipListScheduledEventData | .other => 1

/-- Two contents of the receive buffer with the same frame of `n` bytes. -/
def AgreeOn (n : ℕ) (b b' : Buffer) : Prop := ∀ k : Fin 56, k.val < n → b' k = b k

variable {env : Env} {self : ConcorddInstance} {b b' : Buffer} {n : ℕ}

theorem word16_toNat (a b : UInt8) : (word16 a b).toNat = 256 * a.toNat + b.toNat := by
  have ha := a.toNat_lt
  have hb := b.toNat_lt
  simp [word16, UInt16.toNat_add, UInt16.toNat_shiftLeft, Nat.shiftLeft_eq]
  omega

theorem toNat_pos_of_ne_zero {a : UInt8} (h : a ≠ 0) : 0 < a.toNat := by
  rw [Nat.pos_iff_ne_zero]
  intro h0
  exact h (UInt8.toNat_inj.mp h0)

theorem copyFrom_congr {m : ℕ} (dest : Fin m → UInt8) (offset : ℕ) (h : AgreeOn n b b')
    (hn : n ≤ 55) : copyFrom dest b' offset (n - offset) = copyFrom dest b offset (n - offset) := by
  funext i
  unfold copyFrom
  split
  · next hi =>
    apply h
    rw [Fin.val_ofNat, Nat.mod_eq_of_lt (by omega)]
    omega
  · rfl

theorem sameBytes_congr {m : ℕ} (dest : Fin m → UInt8) (offset : ℕ) (h : AgreeOn n b b')
    (hn : n ≤ 55) :
    sameBytes dest b' offset (n - offset) ↔ sameBytes dest b offset (n - offset) := by
  refine forall_congr' fun i => imp_congr_right fun hi => ?_
  rw [h (Fin.ofNat _ (offset + i.val))]
  rw [Fin.val_ofNat, Nat.mod_eq_of_lt (by omega)]
  omega

theorem overrun_congr (full a : ℕ) (h : AgreeOn n b b') :
    overrun b' full n a = overrun b full n a := by
  refine List.map_congr_left fun k hk => ?_
  have hlt : k.val < n := by
    simpa using (List.mem_filter.mp hk).2 |> of_decide_eq_true |>.2
  rw [h k hlt]

/-! Bytes beyond the extent do not matter. -/

theorem handleTouchpadDisplay_congr (h : AgreeOn n b b') (hn : n ≤ 55)
    (he : (if (b 2).toNat < 8 then 5 else 3) ≤ n) :
    concorddHandleTouchpadDisplay self b' n = concorddHandleTouchpadDisplay self b n := by
  unfold concorddHandleTouchpadDisplay
  have h2 : b' 2 = b 2 := h 2 (by split at he <;> omega)
  rw [h2]
  cases concorddGetPartition (b 2).toNat with
  | none => rfl
  | some p =>
    have hcopy := copyFrom_congr (self.partition p).encodedTouchpadText 5 h hn
    have hsame := sameBytes_congr (self.partition p).encodedTouchpadText 5 h hn
    push_cast at hcopy hsame
    simp only [hcopy, hsame, overrun_congr 37 _ h]

theorem handleSubcmd_congr (h : AgreeOn n b b') (hn : n ≤ 55) (he : subcmdExtent b ≤ n) :
    concorddHandleSubcmd env self b' n = concorddHandleSubcmd env self b n := by
  have h1 : b' 1 = b 1 := h 1 (by
    unfold subcmdExtent at he
    split at he <;> (try split at he) <;> omega)
  unfold subcmdExtent at he
  unfold concorddHandleSubcmd
  rw [h1]
  cases hc : GeRs232PtaSubcmd.ofByte (b 1) <;> rw [hc] at he <;> dsimp only at he ⊢
  case sirenSetup =>
    split at he
    · unfold concorddHandleSirenSetup
      rw [h 2 (by omega), h 4 (by omega), h 5 (by omega), h 6 (by omega), h 7 (by omega),
        h 8 (by omega)]
    · next hp =>
      unfold concorddHandleSirenSetup
      rw [h 2 (by omega), getPartition_eq_none hp]
  case sirenStop =>
    unfold concorddHandleSirenStop
    rw [h 2 (by omega)]
  case touchpadDisplay => exact handleTouchpadDisplay_congr h hn he
  case level =>
    split at he
    · unfold concorddHandleLevel
      rw [h 2 (by omega), h 4 (by omega), h 5 (by omega), h 6 (by omega)]
    · next hp =>
      unfold concorddHandleLevel
      rw [h 2 (by omega), getPartition_eq_none hp]
  case alarmTrouble =>
    rw [h 2 (by omega), h 4 (by omega), h 5 (by omega), h 6 (by omega), h 7 (by omega),
      h 8 (by omega), h 9 (by omega), h 10 (by omega), h 11 (by omega)]
  case entryExitDelay =>
    split at he
    · unfold concorddHandleEntryExitDelay
      rw [h 2 (by omega), h 4 (by omega)]
    · next hp =>
      unfold concorddHandleEntryExitDelay
      rw [h 2 (by omega), getPartition_eq_none hp]
  case featureState =>
    split at he
    · unfold concorddHandleFeatureState
      rw [h 2 (by omega), h 4 (by omega)]
    · next hp =>
      unfold concorddHandleFeatureState
      rw [h 2 (by omega), getPartition_eq_none hp]

theorem handleSubcmd2_congr (h : AgreeOn n b b') (he : subcmd2Extent b ≤ n) :
    concorddHandleSubcmd2 env self b' = concorddHandleSubcmd2 env self b := by
  have h1 : b' 1 = b 1 := h 1 (by
    unfold subcmd2Extent at he
    split at he <;> (try split at he) <;> (try split at he) <;> omega)
  unfold subcmd2Extent at he
  unfold concorddHandleSubcmd2
  rw [h1]
  cases hc : GeRs232PtaSubcmd2.ofByte (b 1) <;> rw [hc] at he <;> dsimp only at he ⊢
  case lightsState =>
    split at he
    · unfold concorddHandleLightsState
      rw [h 2 (by omega), h 4 (by omega), h 5 (by omega)]
    · next hp =>
      unfold concorddHandleLightsState
      rw [h 2 (by omega), getPartition_eq_none hp]
  case userLights =>
    split at he
    · split at he
      · unfold concorddHandleUserLights
        rw [h 2 (by omega), h 8 (by omega), h 9 (by omega)]
      · next hl =>
        unfold concorddHandleUserLights
        rw [h 2 (by omega), h 8 (by omega), getLight_eq_none hl]
    · next hp =>
      unfold concorddHandleUserLights
      rw [h 2 (by omega), getPartition_eq_none hp]
  case keyfob =>
    unfold concorddHandleKeyfob
    split at he
    · rw [h 5 (by omega), h 6 (by omega)]
    · next hz => rw [h 5 (by omega), getZone_eq_none hz]

theorem handleZoneStatus_congr (h : AgreeOn n b b')
    (he : (if b 3 ≠ 0 then 4 else if (b 4).toNat < 96 then 6 else 5) ≤ n) :
    concorddHandleZoneStatus env self b' = concorddHandleZoneStatus env self b := by
  have h3 : b' 3 = b 3 := h 3 (by split at he <;> (try split at he) <;> omega)
  unfold concorddHandleZoneStatus
  rw [h3]
  split at he
  · next hz =>
    have hpos := toNat_pos_of_ne_zero hz
    rw [getZone_eq_none (by rw [word16_toNat]; omega),
      getZone_eq_none (by rw [word16_toNat]; omega)]
  · next hz =>
    have h4 : b' 4 = b 4 := h 4 (by split at he <;> omega)
    rw [h4]
    split at he
    · simp only [h 5 (by omega)]
    · rw [getZone_eq_none (by rw [word16_toNat]; omega)]

theorem handleEquipListZoneData_congr (h : AgreeOn n b b') (hn : n ≤ 55)
    (he : (if b 4 ≠ 0 then 5 else if (b 5).toNat < 96 then 8 else 6) ≤ n) :
    concorddHandleEquipListZoneData self b' n = concorddHandleEquipListZoneData self b n := by
  have h4 : b' 4 = b 4 := h 4 (by split at he <;> (try split at he) <;> omega)
  unfold concorddHandleEquipListZoneData
  rw [h4]
  split at he
  · next hz =>
    have hpos := toNat_pos_of_ne_zero hz
    rw [getZone_eq_none (by rw [word16_toNat]; omega),
      getZone_eq_none (by rw [word16_toNat]; omega)]
  · have h5 : b' 5 = b 5 := h 5 (by split at he <;> omega)
    rw [h5]
    split at he
    · cases concorddGetZone (word16 (b 4) (b 5)).toNat with
      | none => rfl
      | some z =>
        have hcopy := copyFrom_congr (self.zone z).encodedName 8 h hn
        push_cast at hcopy
        simp only [h 1 (by omega), h 3 (by omega), h 6 (by omega), h 7 (by omega), hcopy,
          overrun_congr 24 _ h]
    · rw [getZone_eq_none (by rw [word16_toNat]; omega)]

theorem handleEquipListUserData_congr (h : AgreeOn n b b')
    (he : (if b 1 ≠ 0 then 2 else if (b 2).toNat < 252 then 6 else 3) ≤ n) :
    concorddHandleEquipListUserData self b' = concorddHandleEquipListUserData self b := by
  have h1 : b' 1 = b 1 := h 1 (by split at he <;> (try split at he) <;> omega)
  unfold concorddHandleEquipListUserData
  rw [h1]
  split at he
  · next hu =>
    have hpos := toNat_pos_of_ne_zero hu
    rw [getUser_eq_none (by rw [word16_toNat]; omega),
      getUser_eq_none (by rw [word16_toNat]; omega)]
  · have h2 : b' 2 = b 2 := h 2 (by split at he <;> omega)
    rw [h2]
    split at he
    · simp only [h 4 (by omega), h 5 (by omega)]
    · rw [getUser_eq_none (by rw [word16_toNat]; omega)]

theorem handleEquipListPartitionData_congr (h : AgreeOn n b b')
    (he : (if (b 1).toNat < 8 then 4 else 2) ≤ n) :
    concorddHandleEquipListPartitionData self b' = concorddHandleEquipListPartitionData self b := by
  split at he
  · unfold concorddHandleEquipListPartitionData
    rw [h 1 (by omega), h 3 (by omega)]
  · next hp =>
    unfold concorddHandleEquipListPartitionData
    rw [h 1 (by omega), getPartition_eq_none hp]

theorem handleEquipListSuperbusCapData_congr (h : AgreeOn n b b')
    (he : (if b 4 = 0x08 ∨ b 4 = 0x0B then 6 else 5) ≤ n) :
    concorddHandleEquipListSuperbusCapData self b' =
      concorddHandleEquipListSuperbusCapData self b := by
  have h5 : 5 ≤ n := by split at he <;> omega
  unfold concorddHandleEquipListSuperbusCapData
  rw [h 1 (by omega), h 2 (by omega), h 3 (by omega), h 4 (by omega)]
  split at he
  · rw [h 5 (by omega)]
  · next hcap =>
    rw [not_or] at hcap
    have hadd : ∀ device : ConcorddDevice,
        device.addCap (b 4) (b' 5) = device.addCap (b 4) (b 5) := by
      intro device
      simp only [ConcorddDevice.addCap, hcap.1, hcap.2, if_false]
    simp only [hadd]

theorem handleEquipListOutputData_congr (h : AgreeOn n b b') (hn : n ≤ 55)
    (he : (if (b 2 &&& ~~~ 0x40).toNat < 71 then 9 else 3) ≤ n) :
    concorddHandleEquipListOutputData self b' n = concorddHandleEquipListOutputData self b n := by
  have h2 : b' 2 = b 2 := h 2 (by split at he <;> omega)
  unfold concorddHandleEquipListOutputData
  rw [h2]
  split at he
  · cases concorddGetOutput (b 2 &&& ~~~ 0x40).toNat with
    | none => rfl
    | some o =>
      have hid : copyFrom (self.output o).idBytes b' 4 5 =
          copyFrom (self.output o).idBytes b 4 5 := by
        have h9 : AgreeOn 9 b b' := fun k hk => h k (by omega)
        exact copyFrom_congr (self.output o).idBytes 4 h9 (by omega)
      have hcopy := copyFrom_congr (self.output o).encodedName 9 h hn
      push_cast at hcopy
      simp only [h 3 (by omega), hid, hcopy, overrun_congr 25 _ h]
  · next ho => rw [getOutput_eq_none ho]

theorem handleEquipListLightToSensorData_congr (h : AgreeOn n b b')
    (he : (if (b 1).toNat < 8 then 12 else 2) ≤ n) :
    concorddHandleEquipListLightToSensorData self b' =
      concorddHandleEquipListLightToSensorData self b := by
  have h1 : b' 1 = b 1 := h 1 (by split at he <;> omega)
  unfold concorddHandleEquipListLightToSensorData
  rw [h1]
  split at he
  · have hsensor : ∀ i : Fin 10, b' (Fin.ofNat _ (2 + i.val)) = b (Fin.ofNat _ (2 + i.val)) := by
      intro i
      apply h
      rw [Fin.val_ofNat, Nat.mod_eq_of_lt (by omega)]
      omega
    simp only [hsensor]
  · next hp => rw [getPartition_eq_none hp]

/-- A frame that is long enough for the bytes it begins with decides its effect. -/
theorem handleFrame_congr (h : AgreeOn n b b') (hn : n ≤ 55) (he : frameExtent b ≤ n) :
    concorddHandleFrame env self b' n = concorddHandleFrame env self b n := by
  have h0 : b' 0 = b 0 := h 0 (by
    unfold frameExtent subcmdExtent subcmd2Extent at he
    repeat' split at he
    all_goals omega)
  unfold frameExtent at he
  unfold concorddHandleFrame
  rw [h0]
  -- the types without a handler are settled by `dsimp`
  cases hc : GeRs232Pta.ofByte (b 0) <;> rw [hc] at he <;> dsimp only at he ⊢
  case subcmd => exact handleSubcmd_congr h hn he
  case subcmd2 => exact handleSubcmd2_congr h he
  case zoneStatus => exact handleZoneStatus_congr h he
  case equipListPartitionData => exact handleEquipListPartitionData_congr h he
  case equipListZoneData => exact handleEquipListZoneData_congr h hn he
  case equipListUserData => exact handleEquipListUserData_congr h he
  case equipListSuperbusDevData =>
    unfold concorddHandleEquipListSuperbusDevData
    rw [h 3 (by omega), h 4 (by omega), h 5 (by omega), h 6 (by omega)]
  case equipListSuperbusCapData => exact handleEquipListSuperbusCapData_congr h he
  case equipListOutputData => exact handleEquipListOutputData_congr h hn he
  case equipListLightToSensorData => exact handleEquipListLightToSensorData_congr h he
  case panelType =>
    unfold concorddHandlePanelType
    rw [h 1 (by omega), h 2 (by omega), h 3 (by omega), h 4 (by omega), h 5 (by omega),
      h 6 (by omega), h 7 (by omega), h 8 (by omega), h 9 (by omega)]

end Concordd
