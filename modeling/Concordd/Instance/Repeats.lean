import Concordd.Instance.Copies
import Concordd.Instance.Effects
import Concordd.Instance.FrameExtent

/-! A frame that carries an image of the panel's state is harmless when it is repeated. -/
namespace Concordd

def InstanceEvent.isCallback : InstanceEvent → Bool
  | .link _ | .copy _ _ | .strayDevice _ _ _ => false
  | _ => true

/-- The frames that carry the whole state of what they name. -/
def IsStateImage (frameBytes : Buffer) : Prop :=
  IsPta frameBytes .zoneStatus ∨ IsPta frameBytes .equipListZoneData ∨
    IsPta frameBytes .equipListPartitionData ∨ IsPta frameBytes .equipListOutputData ∨
    IsPta frameBytes .equipListUserData ∨ IsPta frameBytes .equipListLightToSensorData ∨
    IsPta frameBytes .panelType ∨ IsSubcmd frameBytes .featureState ∨
    IsSubcmd frameBytes .touchpadDisplay

/-- The second outcome leaves the first one's state, and calls nobody. -/
structure Repeats (first second : Outcome ConcorddInstance InstanceEvent) : Prop where
  state : second.state = first.state
  quiet : ∀ e ∈ second.out, e.isCallback = false

variable {env env' : Env} {self : ConcorddInstance} {b : Buffer} {n : ℕ}

theorem repeats_nil (self : ConcorddInstance) (first : Outcome ConcorddInstance InstanceEvent)
    (h : first.state = self) : Repeats first ⟨self, [], .ok⟩ := ⟨h.symm, fun _ he => nomatch he⟩

/-! Entries written twice. -/

theorem setPartition_setPartition (p : Fin 8) (entry entry' : ConcorddPartition) :
    (self.setPartition p entry).setPartition p entry' = self.setPartition p entry' := by
  simp [ConcorddInstance.setPartition]

theorem setZone_setZone (z : Fin 96) (entry entry' : ConcorddZone) :
    (self.setZone z entry).setZone z entry' = self.setZone z entry' := by
  simp [ConcorddInstance.setZone]

theorem setOutput_setOutput (o : Fin 71) (entry entry' : ConcorddOutput) :
    (self.setOutput o entry).setOutput o entry' = self.setOutput o entry' := by
  simp [ConcorddInstance.setOutput]

theorem setUser_setUser (u : Fin 252) (entry entry' : ConcorddUser) :
    (self.setUser u entry).setUser u entry' = self.setUser u entry' := by
  simp [ConcorddInstance.setUser]

theorem copyFrom_copyFrom {m : ℕ} (dest : Fin m → UInt8) (offset : ℕ) (len : ℤ) :
    copyFrom (copyFrom dest b offset len) b offset len = copyFrom dest b offset len := by
  funext k
  unfold copyFrom
  split <;> rfl

theorem sameBytes_copyFrom {m : ℕ} (dest : Fin m → UInt8) (offset : ℕ) (len : ℤ) :
    sameBytes (copyFrom dest b offset len) b offset len := by
  intro k hk
  exact (if_pos hk).symm

theorem userCode_userCode (codeStr : Fin 7 → UInt8) (hi lo : UInt8) :
    userCode (userCode codeStr hi lo) hi lo = userCode codeStr hi lo := by
  funext k
  simp only [userCode]
  split_ifs <;> rfl

/-! Handlers. -/

theorem handleZoneStatus_repeats (env env' : Env) (self : ConcorddInstance) (b : Buffer) :
    Repeats (concorddHandleZoneStatus env self b)
      (concorddHandleZoneStatus env' (concorddHandleZoneStatus env self b).state b) := by
  unfold concorddHandleZoneStatus
  cases concorddGetZone (word16 (b 3) (b 4)).toNat with
  | none => exact repeats_nil self _ rfl
  | some z =>
    dsimp only
    constructor
    · simp only [setZone_zone, if_true, UInt8.xor_self, setZone_setZone]
      simp
    · simp

theorem handleEquipListZoneData_repeats (self : ConcorddInstance)
    (hfit : (word16 (b 4) (b 5)).toNat < 96 → 8 ≤ n ∧ n ≤ 24) :
    Repeats (concorddHandleEquipListZoneData self b n)
      (concorddHandleEquipListZoneData (concorddHandleEquipListZoneData self b n).state b n) := by
  unfold concorddHandleEquipListZoneData
  cases hz : concorddGetZone (word16 (b 4) (b 5)).toNat with
  | none => exact repeats_nil self _ rfl
  | some z =>
    obtain ⟨-, h24⟩ := hfit (by rw [getZone_eq_some hz]; exact z.isLt)
    dsimp only
    rw [overrun_eq_nil h24]
    constructor
    · simp only [write_nil, setZone_zone, if_true, setZone_setZone, copyFrom_copyFrom]
    · simp [InstanceEvent.isCallback]

theorem handleEquipListPartitionData_repeats (self : ConcorddInstance) (b : Buffer) :
    Repeats (concorddHandleEquipListPartitionData self b)
      (concorddHandleEquipListPartitionData (concorddHandleEquipListPartitionData self b).state
        b) := by
  unfold concorddHandleEquipListPartitionData
  cases concorddGetPartition (b 1).toNat with
  | none => exact repeats_nil self _ rfl
  | some p =>
    dsimp only
    constructor
    · simp only [setPartition_partition, if_true, setPartition_setPartition]
    · simp

theorem handleEquipListOutputData_repeats (self : ConcorddInstance)
    (hfit : (b 2 &&& ~~~ 0x40).toNat < 71 → 9 ≤ n ∧ n ≤ 25) :
    Repeats (concorddHandleEquipListOutputData self b n)
      (concorddHandleEquipListOutputData (concorddHandleEquipListOutputData self b n).state b
        n) := by
  unfold concorddHandleEquipListOutputData
  cases ho : concorddGetOutput (b 2 &&& ~~~ 0x40).toNat with
  | none => exact repeats_nil self _ rfl
  | some o =>
    obtain ⟨-, h25⟩ := hfit (by rw [getOutput_eq_some ho]; exact o.isLt)
    dsimp only
    rw [overrun_eq_nil h25]
    constructor
    · simp only [write_nil, setOutput_output, if_true, setOutput_setOutput, copyFrom_copyFrom]
    · simp [InstanceEvent.isCallback]

theorem handleEquipListUserData_repeats (self : ConcorddInstance) (b : Buffer) :
    Repeats (concorddHandleEquipListUserData self b)
      (concorddHandleEquipListUserData (concorddHandleEquipListUserData self b).state b) := by
  unfold concorddHandleEquipListUserData
  cases concorddGetUser (word16 (b 1) (b 2)).toNat with
  | none => exact repeats_nil self _ rfl
  | some u =>
    dsimp only
    constructor
    · simp only [setUser_user, if_true, setUser_setUser, userCode_userCode]
    · simp

theorem handleEquipListLightToSensorData_repeats (self : ConcorddInstance) (b : Buffer) :
    Repeats (concorddHandleEquipListLightToSensorData self b)
      (concorddHandleEquipListLightToSensorData
        (concorddHandleEquipListLightToSensorData self b).state b) := by
  unfold concorddHandleEquipListLightToSensorData
  cases concorddGetPartition (b 1).toNat with
  | none => exact repeats_nil self _ rfl
  | some p =>
    dsimp only
    constructor
    · simp only [setPartition_partition, if_true, setPartition_setPartition]
      congr 2
      funext i
      split <;> rfl
    · simp

theorem handleFeatureState_repeats (self : ConcorddInstance) (b : Buffer) :
    Repeats (concorddHandleFeatureState self b)
      (concorddHandleFeatureState (concorddHandleFeatureState self b).state b) := by
  unfold concorddHandleFeatureState
  cases concorddGetPartition (b 2).toNat with
  | none => exact repeats_nil self _ rfl
  | some p =>
    dsimp only
    constructor
    · simp only [setPartition_partition, if_true, setPartition_setPartition]
    · simp

/-- A text that fits is recognised by its length and its bytes. -/
theorem handleTouchpadDisplay_repeats (self : ConcorddInstance)
    (hfit : (b 2).toNat < 8 → 5 ≤ n ∧ n ≤ 37) :
    Repeats (concorddHandleTouchpadDisplay self b n)
      (concorddHandleTouchpadDisplay (concorddHandleTouchpadDisplay self b n).state b n) := by
  unfold concorddHandleTouchpadDisplay
  cases hp : concorddGetPartition (b 2).toNat with
  | none => exact repeats_nil self _ rfl
  | some p =>
    obtain ⟨h5, h37⟩ := hfit (by rw [getPartition_eq_some hp]; exact p.isLt)
    have hlen : (n : ℤ) - 5 = (UInt8.ofInt (n - 5)).toNat := by
      rw [UInt8.ofInt, UInt8.toNat_ofNat']
      omega
    dsimp only
    simp only [overrun_eq_nil h37, write_nil, List.not_mem_nil, false_imp_iff, implies_true,
      and_true]
    constructor
    · simp only [setPartition_partition, if_true, setPartition_setPartition, copyFrom_copyFrom]
    · simp only [setPartition_partition, if_true, sameBytes_copyFrom, and_true, if_pos hlen]
      simp [InstanceEvent.isCallback]

/-! Frames. -/

/-- Handled again, at whatever time, an image of the state changes nothing and calls nobody. -/
theorem state_image_repeats (env env' : Env) (self : ConcorddInstance) (b : Buffer) (n : ℕ)
    (h : IsStateImage b) (_hheader : frameExtent b ≤ n) (hfit : CopiesFit b n) :
    Repeats (concorddHandleFrame env self b n)
      (concorddHandleFrame env' (concorddHandleFrame env self b n).state b n) := by
  rcases h with h | h | h | h | h | h | h | h | h
  · rw [handleFrame_of_zoneStatus h, handleFrame_of_zoneStatus h]
    exact handleZoneStatus_repeats env env' self b
  · rw [handleFrame_of_equipListZoneData h, handleFrame_of_equipListZoneData h]
    exact handleEquipListZoneData_repeats self (hfit.2.1 h)
  · rw [handleFrame_of_equipListPartitionData h, handleFrame_of_equipListPartitionData h]
    exact handleEquipListPartitionData_repeats self b
  · rw [handleFrame_of_equipListOutputData h, handleFrame_of_equipListOutputData h]
    exact handleEquipListOutputData_repeats self (hfit.2.2 h)
  · rw [handleFrame_of_equipListUserData h, handleFrame_of_equipListUserData h]
    exact handleEquipListUserData_repeats self b
  · rw [handleFrame_of_equipListLightToSensorData h, handleFrame_of_equipListLightToSensorData h]
    exact handleEquipListLightToSensorData_repeats self b
  · rw [handleFrame_of_panelType h, handleFrame_of_panelType h]
    exact repeats_nil _ _ rfl
  · rw [handleFrame_of_featureState h, handleFrame_of_featureState h]
    exact handleFeatureState_repeats self b
  · rw [handleFrame_of_touchpadDisplay h, handleFrame_of_touchpadDisplay h]
    exact handleTouchpadDisplay_repeats self (hfit.1 h)

/-- `TOUCHPAD_DISPLAY` for partition 1, with a text of two characters. -/
def twoLetterFrame : Buffer := fun k =>
  if k = 0 then 0x22 else if k = 1 then 0x09 else if k = 2 then 1 else if k = 4 then 1
  else if k = 5 then 0x0A else if k = 6 then 0x0B else 0

theorem state_image_repeats_text :
    Repeats (concorddHandleFrame ⟨1, .ok⟩ concorddInit twoLetterFrame 7)
      (concorddHandleFrame ⟨5, .ok⟩
        (concorddHandleFrame ⟨1, .ok⟩ concorddInit twoLetterFrame 7).state twoLetterFrame 7) :=
  state_image_repeats ⟨1, .ok⟩ ⟨5, .ok⟩ concorddInit twoLetterFrame 7
    (.inr (.inr (.inr (.inr (.inr (.inr (.inr (.inr ⟨rfl, rfl⟩)))))))) (by decide)
    ⟨fun _ _ => by decide, fun h => absurd h (by decide), fun h => absurd h (by decide)⟩

end Concordd
