import Concordd.Instance.Copies
import Concordd.Instance.Effects
import Concordd.Instance.FrameExtent

/-! The bytes that a frame which is too short leaves to chance. -/
namespace Concordd

/-- Whatever the state and the clock, the bytes after the frame have no part in its effect, and
no copy has a negative length. -/
def FrameDecides (b : Buffer) (n : ℕ) : Prop :=
  ∀ env self b', AgreeOn n b b' →
    concorddHandleFrame env self b' n = concorddHandleFrame env self b n ∧
      ∀ (capacity : ℕ) (len : ℤ),
        .copy capacity len ∈ (concorddHandleFrame env self b' n).out → 0 ≤ len

variable {b b' : Buffer} {n : ℕ}

theorem AgreeOn.trans {b'' : Buffer} (h : AgreeOn n b b') (h' : AgreeOn n b' b'') :
    AgreeOn n b b'' := fun k hk => (h' k hk).trans (h k hk)

theorem FrameDecides.of_agree (h : FrameDecides b n) (ha : AgreeOn n b b') :
    FrameDecides b' n := by
  intro env self b'' ha'
  obtain ⟨heq, hcopy⟩ := h env self b'' (ha.trans ha')
  exact ⟨heq.trans (h env self b' ha).1.symm, hcopy⟩

theorem agreeOn_update {k : Fin 56} (hk : n ≤ k.val) (x : UInt8) :
    AgreeOn n b (Function.update b k x) := by
  intro i hi
  apply Function.update_of_ne
  rintro rfl
  omega

/-- A byte after the frame that shows in the state has a part in the effect. -/
theorem not_decides_of_ne {α : Type*} {k : Fin 56} (hk : n ≤ k.val) {self : ConcorddInstance}
    (obs : ConcorddInstance → α) {x y : UInt8} {u v : α}
    (hx : obs (concorddHandleFrame ⟨0, .ok⟩ self (Function.update b k x) n).state = u)
    (hy : obs (concorddHandleFrame ⟨0, .ok⟩ self (Function.update b k y) n).state = v)
    (hne : u ≠ v) : ¬ FrameDecides b n := by
  intro hd
  rw [(hd _ self _ (agreeOn_update hk x)).1] at hx
  rw [(hd _ self _ (agreeOn_update hk y)).1] at hy
  exact hne (hx.symm.trans hy)

theorem not_decides {α : Type*} (k : Fin 56) (hk : n ≤ k.val) (self : ConcorddInstance)
    (obs : ConcorddInstance → α) {g : UInt8 → α}
    (h : ∀ x, obs (concorddHandleFrame ⟨0, .ok⟩ self (Function.update b k x) n).state = g x)
    (x y : UInt8) (hne : g x ≠ g y) : ¬ FrameDecides b n :=
  not_decides_of_ne hk obs (h x) (h y) hne

theorem not_decides_of_copy {capacity : ℕ} {len : ℤ} (hc : FrameCopies b n capacity len)
    (hlen : len < 0) : ¬ FrameDecides b n := by
  intro h
  have := (h ⟨0, .ok⟩ concorddInit b fun _ _ => rfl).2 capacity len (handleFrame_copies.mpr hc)
  omega

/-! Each frame, if it ends before the last byte its handler looks at. -/

theorem zoneStatus_varies (h : IsPta b .zoneStatus) (h3 : b 3 = 0) (h4 : (b 4).toNat < 96)
    (hn : n ≤ 5) : ¬ FrameDecides b n := by
  have hz : (word16 (b 3) (b 4)).toNat = (⟨(b 4).toNat, h4⟩ : Fin 96).val := by
    rw [word16_toNat, h3]
    simp
  exact not_decides 5 hn concorddInit (fun inst => (inst.zone ⟨(b 4).toNat, h4⟩).zoneState)
    (fun x => handleFrame_zoneStatus h hz) 0 1 (show (0 : UInt8) ≠ 1 by decide)

theorem partitionData_varies (h : IsPta b .equipListPartitionData) (h1 : (b 1).toNat < 8)
    (hn : n ≤ 3) : ¬ FrameDecides b n :=
  not_decides 3 hn concorddInit (fun inst => inst.partition ⟨(b 1).toNat, h1⟩)
    (fun x => handleFrame_partitionData h rfl) 0 1 (by
      intro he
      exact absurd (congrArg ConcorddPartition.armLevel he) (show (0 : UInt8) ≠ 1 by decide))

theorem zoneData_varies (h : IsPta b .equipListZoneData) (h4 : b 4 = 0) (h5 : (b 5).toNat < 96)
    (hn : n ≤ 7) : ¬ FrameDecides b n := by
  have hz : (word16 (b 4) (b 5)).toNat < 96 := by
    rw [word16_toNat, h4]
    simpa using h5
  exact not_decides_of_copy (.inr (.inl ⟨h, hz, rfl, rfl⟩)) (by omega)

theorem outputData_varies (h : IsPta b .equipListOutputData)
    (h2 : (b 2 &&& ~~~ 0x40).toNat < 71) (hn : n ≤ 8) : ¬ FrameDecides b n :=
  not_decides_of_copy (.inr (.inr ⟨h, h2, .inr ⟨rfl, rfl⟩⟩)) (by omega)

theorem touchpadDisplay_varies (h : IsSubcmd b .touchpadDisplay) (h2 : (b 2).toNat < 8)
    (hn : n ≤ 4) : ¬ FrameDecides b n :=
  not_decides_of_copy (.inl ⟨h, h2, rfl, rfl⟩) (by omega)

theorem userData_varies (h : IsPta b .equipListUserData) (h1 : b 1 = 0) (h2 : (b 2).toNat < 252)
    (hn : n ≤ 5) : ¬ FrameDecides b n := by
  have hu : (word16 (b 1) (b 2)).toNat = (⟨(b 2).toNat, h2⟩ : Fin 252).val := by
    rw [word16_toNat, h1]
    simp
  have hcode : ∀ x, ((concorddHandleFrame ⟨0, .ok⟩ concorddInit (Function.update b 5 x)
      n).state.user ⟨(b 2).toNat, h2⟩).codeStr 3 = (x &&& 0xF) + 0x30 := by
    intro x
    rw [handleFrame_userData (b := Function.update b 5 x) h hu]
    rfl
  exact not_decides 5 hn concorddInit (fun inst => (inst.user ⟨(b 2).toNat, h2⟩).codeStr 3) hcode
    0 1 (by decide)

theorem lightToSensorData_varies (h : IsPta b .equipListLightToSensorData)
    (h1 : (b 1).toNat < 8) (hn : n ≤ 11) : ¬ FrameDecides b n := by
  have hsensor : ∀ x, (((concorddHandleFrame ⟨0, .ok⟩ concorddInit (Function.update b 11 x)
      n).state.partition ⟨(b 1).toNat, h1⟩).light 9).zoneId = x := by
    intro x
    rw [handleFrame_lightToSensorData (b := Function.update b 11 x) (p := ⟨(b 1).toNat, h1⟩) h rfl
      (by decide)]
    exact Function.update_self ..
  exact not_decides 11 hn concorddInit
    (fun inst => ((inst.partition ⟨(b 1).toNat, h1⟩).light 9).zoneId) hsensor 0 1 (by decide)

theorem superbusDevData_varies (h : IsPta b .equipListSuperbusDevData) (hn : n ≤ 6) :
    ¬ FrameDecides b n := by
  have hd : concorddInit.busDeviceCount.toNat = (0 : Fin 32).val := rfl
  exact not_decides 6 hn concorddInit (fun inst => (inst.busDevice 0).deviceStatus)
    (fun x => handleFrame_superbusDevData (b := Function.update b 6 x) h hd) 0 1
    (show (0 : UInt8) ≠ 1 by decide)

theorem panelType_varies (h : IsPta b .panelType) (hn : n ≤ 9) : ¬ FrameDecides b n :=
  not_decides 9 hn concorddInit (fun inst => inst.serialNumber)
    (fun x => handleFrame_panelType h) 0 1 (by
      intro he
      simp [word32] at he)

theorem sirenSetup_varies (h : IsSubcmd b .sirenSetup) (h2 : (b 2).toNat < 8) (hn : n ≤ 8) :
    ¬ FrameDecides b n :=
  not_decides 8 hn concorddInit (fun inst => inst.partition ⟨(b 2).toNat, h2⟩)
    (fun x => handleFrame_sirenSetup h rfl) 0 1 (by
      intro he
      have hcadence := congrArg ConcorddPartition.sirenCadence he
      simp [word32] at hcadence)

theorem level_varies (h : IsSubcmd b .level) (h2 : (b 2).toNat < 8) (hn : n ≤ 6) :
    ¬ FrameDecides b n :=
  not_decides 6 hn concorddInit (fun inst => inst.partition ⟨(b 2).toNat, h2⟩)
    (fun x => handleFrame_level h rfl) 0 1 (by
      intro he
      exact absurd (congrArg ConcorddPartition.armLevel he) (show (0 : UInt8) ≠ 1 by decide))

theorem sirenStop_varies (h : IsSubcmd b .sirenStop) (hn : n ≤ 2) : ¬ FrameDecides b n := by
  let sounding := concorddInit.setPartition 0 { sirenCadence := 1 }
  have hstopped : ((concorddHandleFrame ⟨0, .ok⟩ sounding (Function.update b 2 0)
      n).state.partition 0).sirenCadence = 0 := by
    rw [handleFrame_sirenStop (b := Function.update b 2 0) (i := 0) h rfl]
    rfl
  have hother : ((concorddHandleFrame ⟨0, .ok⟩ sounding (Function.update b 2 1)
      n).state.partition 0).sirenCadence = 1 := by
    rw [handleFrame_sirenStop (b := Function.update b 2 1) (i := 1) h rfl]
    rfl
  exact not_decides_of_ne (k := 2) hn (fun inst => (inst.partition 0).sirenCadence) hstopped
    hother (by decide)

theorem alarmTrouble_varies (h : IsSubcmd b .alarmTrouble) (hn : n ≤ 11) : ¬ FrameDecides b n :=
  not_decides 11 hn concorddInit (fun inst => inst.eventLog (concorddInit.eventLogLast + 1))
    (fun x => handleFrame_alarmTrouble h) 0 1 (by
      intro he
      have hextra := congrArg ConcorddEvent.extraData he
      simp [alarmEvent, word16] at hextra)

theorem entryExitDelay_varies (h : IsSubcmd b .entryExitDelay) (h2 : (b 2).toNat < 8)
    (hn : n ≤ 4) : ¬ FrameDecides b n := by
  have hdelay : ∀ x : UInt8, x &&& 0x40 = 0 →
      ((concorddHandleFrame ⟨0, .ok⟩ concorddInit (Function.update b 4 x) n).state.partition
        ⟨(b 2).toNat, h2⟩).entryDelayActive = decide (x &&& 0x80 = 0) := by
    intro x hx
    rw [handleFrame_entryDelay (b := Function.update b 4 x) (p := ⟨(b 2).toNat, h2⟩) h rfl hx]
    rfl
  exact not_decides_of_ne (k := 4) hn
    (fun inst => (inst.partition ⟨(b 2).toNat, h2⟩).entryDelayActive) (hdelay 0 (by decide))
    (hdelay 0x80 (by decide)) (by decide)

theorem featureState_varies (h : IsSubcmd b .featureState) (h2 : (b 2).toNat < 8) (hn : n ≤ 4) :
    ¬ FrameDecides b n :=
  not_decides 4 hn concorddInit (fun inst => inst.partition ⟨(b 2).toNat, h2⟩)
    (fun x => handleFrame_featureState h rfl) 0 1 (by
      intro he
      exact absurd (congrArg ConcorddPartition.featureState he) (show (0 : UInt8) ≠ 1 by decide))

theorem userLights_varies (h : IsSubcmd2 b .userLights) (h2 : (b 2).toNat < 8)
    (h8 : (b 8).toNat < 10) (hn : n ≤ 9) : ¬ FrameDecides b n :=
  not_decides 9 hn concorddInit
    (fun inst => (inst.partition ⟨(b 2).toNat, h2⟩).light ⟨(b 8).toNat, h8⟩)
    (fun x => handleFrame_userLights (b := Function.update b 9 x) h rfl rfl) 0 1 (by
      intro he
      have hstate := congrArg ConcorddLight.lightState he
      exact absurd hstate (show ¬ decide ((0 : UInt8) ≠ 0) = decide ((1 : UInt8) ≠ 0) by decide))

theorem lightsState_varies (h : IsSubcmd2 b .lightsState) (h2 : (b 2).toNat < 8) (hn : n ≤ 5) :
    ¬ FrameDecides b n := by
  have hlight : ∀ x, (((concorddHandleFrame ⟨0, .ok⟩ concorddInit (Function.update b 5 x)
      n).state.partition ⟨(b 2).toNat, h2⟩).light 8).lightState = x.toNat.testBit 0 := by
    intro x
    rw [handleFrame_lightsState (b := Function.update b 5 x) (p := ⟨(b 2).toNat, h2⟩) h rfl rfl]
    change (word16 x (b 4)).toNat.testBit 8 = x.toNat.testBit 0
    rw [word16_toNat]
    exact Nat.testBit_two_pow_mul_add x.toNat (b 4).toNat_lt 8
  exact not_decides 5 hn concorddInit
    (fun inst => ((inst.partition ⟨(b 2).toNat, h2⟩).light 8).lightState) hlight 0 1 (by decide)

theorem keyfob_varies (h : IsSubcmd2 b .keyfob) (h5 : (b 5).toNat < 96) (hn : n ≤ 6) :
    ¬ FrameDecides b n := by
  have hkey : ∀ x : UInt8, x ≤ 3 → ((concorddHandleFrame ⟨0, .ok⟩ concorddInit
      (Function.update b 6 x) n).state.zone ⟨(b 5).toNat, h5⟩).lastKc = x := by
    intro x hx
    exact handleFrame_keyfob (b := Function.update b 6 x) (z := ⟨(b 5).toNat, h5⟩) h rfl hx
  exact not_decides_of_ne (k := 6) hn (fun inst => (inst.zone ⟨(b 5).toNat, h5⟩).lastKc)
    (hkey 0 (by decide)) (hkey 1 (by decide)) (by decide)

/-- An instance with one device. -/
def withDevice (deviceid : UInt32) : ConcorddInstance :=
  { concorddInit with
    busDevice := fun _ => { active := true, deviceId := deviceid }
    busDeviceCount := 1 }

theorem getDevice_withDevice (deviceid : UInt32) :
    concorddGetDevice (withDevice deviceid) deviceid = some (0 : Fin 32).val := by
  have hdevice : (withDevice deviceid).device 0 = { active := true, deviceId := deviceid } :=
    device_val (withDevice deviceid) 0
  have hcount : (withDevice deviceid).busDeviceCount.toNat = 1 := rfl
  simp [concorddGetDevice, hcount, hdevice]

theorem superbusCapData_varies (h : IsPta b .equipListSuperbusCapData) (hn : n ≤ 4) :
    ¬ FrameDecides b n :=
  not_decides 4 hn (withDevice (word24 (b 1) (b 2) (b 3))) (fun inst => inst.busDevice 0)
    (fun x => handleFrame_superbusCapData (b := Function.update b 4 x) h
      (getDevice_withDevice _)) 0 1 (by
      intro he
      have hcaps := congrArg ConcorddDevice.caps he
      exact absurd hcaps (show ¬ (0 : UInt32) ||| ((1 : UInt32) <<< (0 : UInt8).toUInt32) =
        (0 : UInt32) ||| ((1 : UInt32) <<< (1 : UInt8).toUInt32) by decide))

theorem superbusCapData_count_varies (h : IsPta b .equipListSuperbusCapData)
    (h4 : b 4 = 0x08 ∨ b 4 = 0x0B) (hn : n ≤ 5) : ¬ FrameDecides b n := by
  have hget := getDevice_withDevice (word24 (b 1) (b 2) (b 3))
  cases h4 with
  | inl h4 =>
    have hcount : ∀ x, ((concorddHandleFrame ⟨0, .ok⟩ (withDevice (word24 (b 1) (b 2) (b 3)))
        (Function.update b 5 x) n).state.busDevice 0).inputCount = x := by
      intro x
      rw [handleFrame_superbusCapData (b := Function.update b 5 x) h hget]
      exact if_pos h4
    exact not_decides 5 hn _ (fun inst => (inst.busDevice 0).inputCount) hcount 0 1 (by decide)
  | inr h4 =>
    have hcount : ∀ x, ((concorddHandleFrame ⟨0, .ok⟩ (withDevice (word24 (b 1) (b 2) (b 3)))
        (Function.update b 5 x) n).state.busDevice 0).outputCount = x := by
      intro x
      rw [handleFrame_superbusCapData (b := Function.update b 5 x) h hget]
      exact if_pos h4
    exact not_decides 5 hn _ (fun inst => (inst.busDevice 0).outputCount) hcount 0 1 (by decide)

/-! The same with zeros after the frame, which name the first entry of every table. -/

def zeroFill (n : ℕ) (b : Buffer) : Buffer := fun k => if k.val < n then b k else 0

theorem agreeOn_zeroFill : AgreeOn n b (zeroFill n b) := fun _ hk => if_pos hk

theorem zeroFill_eq_zero {k : Fin 56} (h : k.val < n → b k = 0) : zeroFill n b k = 0 := by
  unfold zeroFill
  split
  · next hk => exact h hk
  · rfl

theorem zeroFill_lt {k : Fin 56} {m : ℕ} (hm : 0 < m) (h : k.val < n → (b k).toNat < m) :
    (zeroFill n b k).toNat < m := by
  unfold zeroFill
  split
  · next hk => exact h hk
  · exact hm

theorem isPta_zeroFill {c : GeRs232Pta} (h : IsPta b c) (hn : 1 ≤ n) : IsPta (zeroFill n b) c := by
  unfold IsPta
  rw [agreeOn_zeroFill 0 hn]
  exact h

theorem isSubcmd_zeroFill {c : GeRs232PtaSubcmd} (h : IsSubcmd b c) (hn : 2 ≤ n) :
    IsSubcmd (zeroFill n b) c := by
  refine ⟨isPta_zeroFill h.1 (by omega), ?_⟩
  rw [agreeOn_zeroFill 1 hn]
  exact h.2

theorem isSubcmd2_zeroFill {c : GeRs232PtaSubcmd2} (h : IsSubcmd2 b c) (hn : 2 ≤ n) :
    IsSubcmd2 (zeroFill n b) c := by
  refine ⟨isPta_zeroFill h.1 (by omega), ?_⟩
  rw [agreeOn_zeroFill 1 hn]
  exact h.2

/-- The byte after a frame of one byte may make it an arming level. -/
theorem subcmd_varies (h : IsPta b .subcmd) : ¬ FrameDecides b 1 := by
  intro hd
  have hagree : AgreeOn 1 b (Function.update (zeroFill 1 b) 1 0x01) :=
    agreeOn_zeroFill.trans (agreeOn_update (k := 1) le_rfl 0x01)
  exact level_varies (b := Function.update (zeroFill 1 b) 1 0x01) ⟨h, rfl⟩
    (show (0 : UInt8).toNat < 8 by decide) (by decide) (hd.of_agree hagree)

theorem subcmd2_varies (h : IsPta b .subcmd2) : ¬ FrameDecides b 1 := by
  intro hd
  have hagree : AgreeOn 1 b (Function.update (zeroFill 1 b) 1 0x03) :=
    agreeOn_zeroFill.trans (agreeOn_update (k := 1) le_rfl 0x03)
  exact keyfob_varies (b := Function.update (zeroFill 1 b) 1 0x03) ⟨h, rfl⟩
    (show (0 : UInt8).toNat < 96 by decide) (by decide) (hd.of_agree hagree)

theorem subcmdExtent_le (h : IsPta b .subcmd) (hn : 1 ≤ n) (hd : FrameDecides b n) :
    subcmdExtent b ≤ n := by
  by_contra hlt
  have h2 : 2 ≤ n := by
    by_contra h2
    obtain rfl : n = 1 := by omega
    exact subcmd_varies h hd
  have hz := hd.of_agree agreeOn_zeroFill
  have hp : ∀ long, ¬ (if (b 2).toNat < 8 then long else 3) ≤ n →
      (zeroFill n b 2).toNat < 8 ∧ (n < long ∨ n ≤ 2) := by
    intro long hlong
    constructor
    · apply zeroFill_lt (by decide)
      intro h3
      by_contra hb
      rw [if_neg hb] at hlong
      exact hlong h3
    · split at hlong <;> omega
  unfold subcmdExtent at hlt
  cases hc : GeRs232PtaSubcmd.ofByte (b 1) <;> rw [hc] at hlt <;> dsimp only at hlt
  case sirenSetup =>
    obtain ⟨h8, hlong⟩ := hp 9 hlt
    exact sirenSetup_varies (isSubcmd_zeroFill ⟨h, hc⟩ h2) h8 (by omega) hz
  case sirenStop => exact sirenStop_varies (isSubcmd_zeroFill ⟨h, hc⟩ h2) (by omega) hz
  case touchpadDisplay =>
    obtain ⟨h8, hlong⟩ := hp 5 hlt
    exact touchpadDisplay_varies (isSubcmd_zeroFill ⟨h, hc⟩ h2) h8 (by omega) hz
  case level =>
    obtain ⟨h8, hlong⟩ := hp 7 hlt
    exact level_varies (isSubcmd_zeroFill ⟨h, hc⟩ h2) h8 (by omega) hz
  case alarmTrouble => exact alarmTrouble_varies (isSubcmd_zeroFill ⟨h, hc⟩ h2) (by omega) hz
  case entryExitDelay =>
    obtain ⟨h8, hlong⟩ := hp 5 hlt
    exact entryExitDelay_varies (isSubcmd_zeroFill ⟨h, hc⟩ h2) h8 (by omega) hz
  case featureState =>
    obtain ⟨h8, hlong⟩ := hp 5 hlt
    exact featureState_varies (isSubcmd_zeroFill ⟨h, hc⟩ h2) h8 (by omega) hz
  all_goals exact hlt h2

theorem subcmd2Extent_le (h : IsPta b .subcmd2) (hn : 1 ≤ n) (hd : FrameDecides b n) :
    subcmd2Extent b ≤ n := by
  by_contra hlt
  have h2 : 2 ≤ n := by
    by_contra h2
    obtain rfl : n = 1 := by omega
    exact subcmd2_varies h hd
  have hz := hd.of_agree agreeOn_zeroFill
  unfold subcmd2Extent at hlt
  cases hc : GeRs232PtaSubcmd2.ofByte (b 1) <;> rw [hc] at hlt <;> dsimp only at hlt
  case lightsState =>
    have hp : 2 < n → (b 2).toNat < 8 := by grind
    exact lightsState_varies (isSubcmd2_zeroFill ⟨h, hc⟩ h2) (zeroFill_lt (by decide) hp)
      (by split at hlt <;> omega) hz
  case userLights =>
    have hp : 2 < n → (b 2).toNat < 8 := by grind
    have hl : 8 < n → (b 8).toNat < 10 := by grind
    have h9 : n ≤ 9 := by grind
    exact userLights_varies (isSubcmd2_zeroFill ⟨h, hc⟩ h2) (zeroFill_lt (by decide) hp)
      (zeroFill_lt (by decide) hl) h9 hz
  case keyfob =>
    have hi : 5 < n → (b 5).toNat < 96 := by grind
    exact keyfob_varies (isSubcmd2_zeroFill ⟨h, hc⟩ h2) (zeroFill_lt (by decide) hi)
      (by split at hlt <;> omega) hz
  case other => exact hlt h2

theorem frameExtent_le (hn : 1 ≤ n) (hd : FrameDecides b n) : frameExtent b ≤ n := by
  by_contra hlt
  have hz := hd.of_agree agreeOn_zeroFill
  unfold frameExtent at hlt
  cases hc : GeRs232Pta.ofByte (b 0) <;> rw [hc] at hlt <;> dsimp only at hlt
  case subcmd => exact hlt (subcmdExtent_le hc hn hd)
  case subcmd2 => exact hlt (subcmd2Extent_le hc hn hd)
  case zoneStatus =>
    have h3 : 3 < n → b 3 = 0 := by grind
    have h4 : 4 < n → (b 4).toNat < 96 := by grind
    exact zoneStatus_varies (isPta_zeroFill hc hn) (zeroFill_eq_zero h3)
      (zeroFill_lt (by decide) h4) (by grind) hz
  case equipListPartitionData =>
    have h1 : 1 < n → (b 1).toNat < 8 := by grind
    exact partitionData_varies (isPta_zeroFill hc hn) (zeroFill_lt (by decide) h1) (by grind) hz
  case equipListZoneData =>
    have h4 : 4 < n → b 4 = 0 := by grind
    have h5 : 5 < n → (b 5).toNat < 96 := by grind
    exact zoneData_varies (isPta_zeroFill hc hn) (zeroFill_eq_zero h4)
      (zeroFill_lt (by decide) h5) (by grind) hz
  case equipListUserData =>
    have h1 : 1 < n → b 1 = 0 := by grind
    have h2 : 2 < n → (b 2).toNat < 252 := by grind
    exact userData_varies (isPta_zeroFill hc hn) (zeroFill_eq_zero h1)
      (zeroFill_lt (by decide) h2) (by grind) hz
  case equipListSuperbusDevData => exact superbusDevData_varies (isPta_zeroFill hc hn) (by omega) hz
  case equipListSuperbusCapData =>
    by_cases h5 : n ≤ 4
    · exact superbusCapData_varies (isPta_zeroFill hc hn) h5 hz
    · have h4 : b 4 = 0x08 ∨ b 4 = 0x0B := by grind
      exact superbusCapData_count_varies hc h4 (by grind) hd
  case equipListOutputData =>
    have h2 : (zeroFill n b 2 &&& ~~~ 0x40).toNat < 71 := by
      by_cases h3 : 2 < n
      · rw [agreeOn_zeroFill 2 h3]
        by_contra hb
        rw [if_neg hb] at hlt
        omega
      · rw [zeroFill_eq_zero (fun h => absurd h h3)]
        decide
    exact outputData_varies (isPta_zeroFill hc hn) h2 (by grind) hz
  case equipListLightToSensorData =>
    have h1 : 1 < n → (b 1).toNat < 8 := by grind
    exact lightToSensorData_varies (isPta_zeroFill hc hn) (zeroFill_lt (by decide) h1) (by grind) hz
  case panelType => exact panelType_varies (isPta_zeroFill hc hn) (by omega) hz
  all_goals exact hlt hn

theorem frameCopies_nonneg {capacity : ℕ} {len : ℤ} (h : FrameCopies b n capacity len)
    (he : frameExtent b ≤ n) : 0 ≤ len := by
  unfold frameExtent at he
  rcases h with ⟨⟨hpta, hsub⟩, hp, -, rfl⟩ | ⟨hpta, hz, -, rfl⟩ | ⟨hpta, ho, ⟨-, rfl⟩ | ⟨-, rfl⟩⟩
  · rw [hpta] at he
    unfold subcmdExtent at he
    rw [hsub] at he
    dsimp only at he
    rw [if_pos hp] at he
    omega
  · rw [hpta] at he
    dsimp only at he
    rw [word16_toNat] at hz
    have h4 : b 4 = 0 := by
      by_contra h4
      have := toNat_pos_of_ne_zero h4
      omega
    rw [if_neg (not_not_intro h4), if_pos (by omega)] at he
    omega
  · decide
  · rw [hpta] at he
    dsimp only at he
    rw [if_pos ho] at he
    omega

/-- A frame decides its effect if and only if it has the bytes that its handler looks at. -/
theorem frame_decides_iff (b : Buffer) (n : ℕ) (h1 : 1 ≤ n) (h55 : n ≤ 55) :
    FrameDecides b n ↔ frameExtent b ≤ n := by
  constructor
  · intro hd
    exact frameExtent_le h1 hd
  · intro he env self b' ha
    have heq : concorddHandleFrame env self b' n = concorddHandleFrame env self b n :=
      handleFrame_congr ha h55 he
    refine ⟨heq, fun capacity len hcopy => ?_⟩
    rw [heq] at hcopy
    exact frameCopies_nonneg (handleFrame_copies.mp hcopy) he

/-- `ZONE_STATUS` that reports zone 1 tripped. -/
def zoneStatusFrame : Buffer := fun k =>
  if k = 0 then 0x21 else if k = 4 then 1 else if k = 5 then 1 else 0

theorem frame_decides_zoneStatus : FrameDecides zoneStatusFrame 6 :=
  (frame_decides_iff zoneStatusFrame 6 (by decide) (by decide)).mpr (by decide)

/-- Without its last byte the frame sets the zone to what the buffer holds there. -/
theorem zoneStatus_reads_stale_byte :
    ¬ ∀ (env : Env) (self : ConcorddInstance) (b b' : Buffer) (n : ℕ), 1 ≤ n → n ≤ 55 →
      AgreeOn n b b' →
        concorddHandleFrame env self b' n = concorddHandleFrame env self b n := by
  intro h
  have hsame := h ⟨0, .ok⟩ concorddInit zoneStatusFrame (Function.update zoneStatusFrame 5 0) 5
    (by decide) (by decide) (agreeOn_update (k := 5) le_rfl 0)
  have hstate := congrArg (fun outcome => (outcome.state.zone 1).zoneState) hsame
  revert hstate
  decide

end Concordd
