import Concordd.Instance.Calls
import Concordd.Instance.Devices
import Concordd.Instance.Effects
import Concordd.Instance.FrameExtent

/-! A frame changes only the objects it names, unless it lists or finds a bus device past the end
of their table. -/
namespace Concordd

/-- The frame carries the number of partition `p`, in one of two places. -/
def NamesPartition (frameBytes : Buffer) (p : Fin 8) : Prop :=
  ((IsSubcmd frameBytes .sirenSetup ∨ IsSubcmd frameBytes .sirenStop ∨
      IsSubcmd frameBytes .touchpadDisplay ∨ IsSubcmd frameBytes .level ∨
      IsSubcmd frameBytes .alarmTrouble ∨ IsSubcmd frameBytes .entryExitDelay ∨
      IsSubcmd frameBytes .featureState ∨ IsSubcmd2 frameBytes .lightsState ∨
      IsSubcmd2 frameBytes .userLights) ∧ (frameBytes 2).toNat = p.val) ∨
    ((IsPta frameBytes .equipListPartitionData ∨
      IsPta frameBytes .equipListLightToSensorData) ∧ (frameBytes 1).toNat = p.val)

/-- Light `l` of the partition that the frame names: the light it has the number of, any of those
it has a bit for, or one of the nine it has a sensor for. -/
def NamesLight (frameBytes : Buffer) (l : Fin 10) : Prop :=
  (IsSubcmd2 frameBytes .userLights ∧ (frameBytes 8).toNat = l.val) ∨
    IsSubcmd2 frameBytes .lightsState ∨
    (IsPta frameBytes .equipListLightToSensorData ∧ l ≠ 0)

/-- The frame carries the number of zone `z`, of one byte in a key fob's. -/
def NamesZone (frameBytes : Buffer) (z : Fin 96) : Prop :=
  (IsPta frameBytes .zoneStatus ∧ (word16 (frameBytes 3) (frameBytes 4)).toNat = z.val) ∨
    (IsPta frameBytes .equipListZoneData ∧
      (word16 (frameBytes 4) (frameBytes 5)).toNat = z.val) ∨
    (IsSubcmd2 frameBytes .keyfob ∧ (frameBytes 5).toNat = z.val)

/-- The frame carries the number of output `o`: in the list without bit 0x40, in an event as its
extra data. -/
def NamesOutput (frameBytes : Buffer) (o : Fin 71) : Prop :=
  (IsPta frameBytes .equipListOutputData ∧ (frameBytes 2 &&& ~~~ 0x40).toNat = o.val) ∨
    ∃ state, ReportsOutput frameBytes o state

def NamesUser (frameBytes : Buffer) (u : Fin 252) : Prop :=
  IsPta frameBytes .equipListUserData ∧ (word16 (frameBytes 1) (frameBytes 2)).toNat = u.val

/-- Whatever the frame does not name is as it was. -/
structure Isolated (frameBytes : Buffer) (old new : ConcorddInstance) : Prop where
  partition : ∀ p, ¬ NamesPartition frameBytes p → new.partition p = old.partition p
  light : ∀ p l, ¬ NamesLight frameBytes l →
    (new.partition p).light l = (old.partition p).light l
  zone : ∀ z, ¬ NamesZone frameBytes z → new.zone z = old.zone z
  output : ∀ o, ¬ NamesOutput frameBytes o → new.output o = old.output o
  user : ∀ u, ¬ NamesUser frameBytes u → new.user u = old.user u

/-- What the frame writes to a bus device past the end of their table. -/
def deviceOverrun (self : ConcorddInstance) (frameBytes : Buffer) : List (ℕ × UInt8) :=
  match GeRs232Pta.ofByte (frameBytes 0) with
  | .equipListSuperbusDevData =>
    if self.busDeviceCount.toNat < 32 then []
    else deviceWrites self.busDeviceCount.toNat
      { active := true
        deviceId := word24 (frameBytes 3) (frameBytes 4) (frameBytes 5)
        deviceStatus := frameBytes 6 } [0, 4, 5, 6, 7, 8]
  | .equipListSuperbusCapData =>
    match concorddGetDevice self (word24 (frameBytes 1) (frameBytes 2) (frameBytes 3)) with
    | none => []
    | some i =>
      if i < 32 then []
      else deviceWrites i ((self.device i).addCap (frameBytes 4) (frameBytes 5))
        (capOffsets (frameBytes 4))
  | _ => []

variable {env : Env} {self new : ConcorddInstance} {b : Buffer} {n : ℕ} {w : ℕ × UInt8}

/-! Entries. -/

theorem PartitionUpdate.isolated {p : Fin 8} {old new : ConcorddPartition}
    (h : PartitionUpdate env b n p old new) (hclear : ¬ IsPta b .clearAutomationDynamicImage)
    (hno : ¬ NamesPartition b p) : new = old := by
  unfold NamesPartition at hno
  cases h with
  | keep => rfl
  | sirenSetup h hi | sirenStop h hi | touchpadDisplay h hi | level h hi | delays h hi
  | featureState h hi | alarmTrouble h hi | partitionData h hi | sensors h hi =>
    simp only [h, hi, true_or, or_true, and_self, not_true] at hno
  | lights h hi =>
    rcases h with h | h <;> simp only [h, hi, true_or, or_true, and_self, not_true] at hno
  | deactivated h => exact (hclear h).elim

theorem ZoneUpdate.isolated {z : Fin 96} {old new : ConcorddZone}
    (h : ZoneUpdate env b n z old new) (hclear : ¬ IsPta b .clearAutomationDynamicImage)
    (hno : ¬ NamesZone b z) : new = old := by
  cases h with
  | keep => rfl
  | status h hi => exact (hno (.inl ⟨h, hi⟩)).elim
  | data h hi => exact (hno (.inr (.inl ⟨h, hi⟩))).elim
  | keyfob h hi => exact (hno (.inr (.inr ⟨h, hi⟩))).elim
  | deactivated h => exact (hclear h).elim

theorem OutputUpdate.isolated {o : Fin 71} {old new : ConcorddOutput}
    (h : OutputUpdate env b n o old new) (hclear : ¬ IsPta b .clearAutomationDynamicImage)
    (hno : ¬ NamesOutput b o) : new = old := by
  cases h with
  | keep => rfl
  | reported state h => exact (hno (.inr ⟨state, h⟩)).elim
  | data h hi => exact (hno (.inl ⟨h, hi⟩)).elim
  | deactivated h => exact (hclear h).elim

theorem UserUpdate.isolated {u : Fin 252} {old new : ConcorddUser} (h : UserUpdate b u old new)
    (hno : ¬ NamesUser b u) : new = old := by
  cases h with
  | keep => rfl
  | data h hi => exact (hno ⟨h, hi⟩).elim

/-! Lights. -/

theorem handleFrame_userLights_light (h : IsSubcmd2 b .userLights) {p : Fin 8} {l : Fin 10}
    (hl : (b 8).toNat ≠ l.val) :
    ((concorddHandleFrame env self b n).state.partition p).light l =
      (self.partition p).light l := by
  rw [handleFrame_of_userLights h]
  unfold concorddHandleUserLights
  split
  · rfl
  · split
    · rfl
    · next k hk =>
      apply setPartition_keeps self (·.light l)
      apply Function.update_of_ne
      rintro rfl
      exact hl (getLight_eq_some hk)

theorem handleFrame_lightToSensor_light (h : IsPta b .equipListLightToSensorData) {p : Fin 8} :
    ((concorddHandleFrame env self b n).state.partition p).light 0 =
      (self.partition p).light 0 := by
  rw [handleFrame_of_equipListLightToSensorData h]
  unfold concorddHandleEquipListLightToSensorData
  split
  · rfl
  · refine setPartition_keeps self (·.light 0) ?_ p
    rfl

theorem PartitionUpdate.light_eq {p : Fin 8} {old new : ConcorddPartition}
    (h : PartitionUpdate env b n p old new) (hlights : ¬ IsSubcmd2 b .lightsState)
    (huser : ¬ IsSubcmd2 b .userLights) (hsensors : ¬ IsPta b .equipListLightToSensorData) :
    new.light = old.light := by
  cases h with
  | lights h =>
    rcases h with h | h
    · exact (hlights h).elim
    · exact (huser h).elim
  | sensors h => exact (hsensors h).elim
  | _ => rfl

theorem handleFrame_light (env : Env) (self : ConcorddInstance) (hfit : CopiesFit b n) (p : Fin 8)
    {l : Fin 10} (h : ¬ NamesLight b l) :
    ((concorddHandleFrame env self b n).state.partition p).light l =
      (self.partition p).light l := by
  have hlights : ¬ IsSubcmd2 b .lightsState := fun h' => h (.inr (.inl h'))
  by_cases huser : IsSubcmd2 b .userLights
  · exact handleFrame_userLights_light huser fun hl => h (.inl ⟨huser, hl⟩)
  by_cases hsensors : IsPta b .equipListLightToSensorData
  · by_cases hl : l = 0
    · rw [hl]
      exact handleFrame_lightToSensor_light hsensors
    · exact (h (.inr (.inr ⟨hsensors, hl⟩))).elim
  · rw [(handleFrame_partition env self hfit p).light_eq hlights huser hsensors]

/-! Bus devices past the end of their table. -/

/-- Where the frame does not reach past the table, the rest of what it does is an update. Where it
does, the rest leaves the tables as they are. -/
theorem handleFrame_deviceOverrun (env : Env) (self : ConcorddInstance) (hfit : CopiesFit b n) :
    ∃ inside, TablesUpdate env b n self inside ∧
      (concorddHandleFrame env self b n).state = inside.write (deviceOverrun self b) ∧
      (deviceOverrun self b ≠ [] → SameTables self inside) := by
  by_cases hdev : IsPta b .equipListSuperbusDevData
  · rw [handleFrame_of_equipListSuperbusDevData hdev]
    unfold concorddHandleEquipListSuperbusDevData deviceOverrun
    rw [hdev]
    dsimp only
    cases ht : tableIndex 32 self.busDeviceCount.toNat with
    | none =>
      have hcount := tableIndex_eq_none.mp ht
      rw [if_neg (by omega)]
      have hsame : SameTables self { self with busDeviceCount := self.busDeviceCount + 1 } :=
        ⟨rfl, rfl, rfl, rfl⟩
      exact ⟨_, .keep hsame, rfl, fun _ => hsame⟩
    | some d =>
      have hcount := tableIndex_eq_some.mp ht
      have hlt := d.isLt
      rw [if_pos (by omega)]
      refine ⟨_, ?_, rfl, fun h => (h rfl).elim⟩
      exact .keep ⟨rfl, rfl, rfl, rfl⟩
  by_cases hcap : IsPta b .equipListSuperbusCapData
  · rw [handleFrame_of_equipListSuperbusCapData hcap]
    unfold concorddHandleEquipListSuperbusCapData deviceOverrun
    rw [hcap]
    dsimp only
    cases concorddGetDevice self (word24 (b 1) (b 2) (b 3)) with
    | none => exact ⟨self, .none, rfl, fun h => (h rfl).elim⟩
    | some i =>
      dsimp only
      cases ht : tableIndex 32 i with
      | none =>
        have hi := tableIndex_eq_none.mp ht
        rw [if_neg (by omega)]
        exact ⟨self, .none, rfl, fun _ => .refl self⟩
      | some d =>
        have hi := tableIndex_eq_some.mp ht
        have hlt := d.isLt
        rw [if_pos (by omega)]
        refine ⟨_, ?_, rfl, fun h => (h rfl).elim⟩
        exact .keep ⟨rfl, rfl, rfl, rfl⟩
  · have hin : FrameInside self b n := ⟨hfit, fun h => (hdev h).elim, fun h => (hcap h).elim⟩
    have hnone : deviceOverrun self b = [] := by
      unfold deviceOverrun
      split
      · next h => exact (hdev h).elim
      · next h => exact (hcap h).elim
      · rfl
    rw [hnone]
    exact ⟨_, handleFrame_inside env hin, rfl, fun h => (h rfl).elim⟩

/-- A frame that reaches past the table names no object. -/
theorem deviceOverrun_frame (h : w ∈ deviceOverrun self b) :
    IsPta b .equipListSuperbusDevData ∨ IsPta b .equipListSuperbusCapData := by
  unfold deviceOverrun at h
  split at h
  · next hc => exact .inl hc
  · next hc => exact .inr hc
  · exact absurd h List.not_mem_nil

theorem not_names_of_device
    (h : IsPta b .equipListSuperbusDevData ∨ IsPta b .equipListSuperbusCapData) :
    (∀ o, ¬ NamesOutput b o) ∧ ∀ u, ¬ NamesUser b u := by
  have hno : ¬ IsPta b .equipListOutputData ∧ ¬ IsPta b .subcmd ∧
      ¬ IsPta b .equipListUserData := by
    unfold IsPta at h ⊢
    rcases h with h | h <;> simp [h]
  constructor
  · rintro o (⟨hc, -⟩ | ⟨state, hc, -⟩)
    · exact hno.1 hc
    · exact hno.2.1 hc.1
  · exact fun u hu => hno.2.2 hu.1

theorem deviceOverrun_cases (self : ConcorddInstance) (b : Buffer) :
    deviceOverrun self b = [] ∨ ∃ i device offsets, 32 ≤ i ∧
      deviceOverrun self b = deviceWrites i device offsets := by
  unfold deviceOverrun
  split
  · split
    · exact .inl rfl
    · next h => exact .inr ⟨_, _, _, Nat.le_of_not_lt h, rfl⟩
  · split
    · exact .inl rfl
    · split
      · exact .inl rfl
      · next h => exact .inr ⟨_, _, _, Nat.le_of_not_lt h, rfl⟩
  · exact .inl rfl

theorem deviceOverrun_past (h : w ∈ deviceOverrun self b) : outputAddress 0 ≤ w.1 := by
  rcases deviceOverrun_cases self b with hnil | ⟨i, device, offsets, hi, hw⟩
  · exact absurd (hnil ▸ h) List.not_mem_nil
  · have := deviceAddress_le_of_mem (hw ▸ h)
    unfold deviceAddress at this
    unfold outputAddress
    omega

/-- Outputs and users stay as they are exactly if each byte written there was there already. -/
theorem deviceOverrun_kept_iff :
    ((∀ o, (self.write (deviceOverrun self b)).output o = self.output o) ∧
        ∀ u, (self.write (deviceOverrun self b)).user u = self.user u) ↔
      ∀ w ∈ deviceOverrun self b, self.write [w] = self := by
  constructor
  · rintro ⟨ho, hu⟩ w hw
    have hpast := deviceOverrun_past hw
    rcases deviceOverrun_cases self b with hnil | ⟨i, device, offsets, -, hwrites⟩
    · exact absurd (hnil ▸ hw) List.not_mem_nil
    rw [hwrites] at ho hu hw
    obtain ⟨k, hk, rfl⟩ := List.mem_map.mp hw
    apply write_eq_self
    · simpa using hpast
    · intro o
      rw [write_output_iff]
      intro j hj
      exact stored_deviceWrite (outputByte_byte (self.output o) j) hk
        (write_output_iff o |>.mp (ho o) j hj)
    · intro u
      rw [write_user_iff]
      intro j hj
      exact stored_deviceWrite (userByte_byte (self.user u) j) hk
        (write_user_iff u |>.mp (hu u) j hj)
  · intro h
    constructor
    · intro o
      rw [write_output_iff]
      intro j hj
      refine stored_of_each (outputByte_byte (self.output o) j) fun w hw => ?_
      exact write_output_iff o |>.mp (congrArg (·.output o) (h w hw)) j hj
    · intro u
      rw [write_user_iff]
      intro j hj
      refine stored_of_each (userByte_byte (self.user u) j) fun w hw => ?_
      exact write_user_iff u |>.mp (congrArg (·.user u) (h w hw)) j hj

/-! Frames. -/

theorem TablesUpdate.isolated (h : TablesUpdate env b n self new)
    (hclear : ¬ IsPta b .clearAutomationDynamicImage)
    (hlight : ∀ p l, ¬ NamesLight b l → (new.partition p).light l = (self.partition p).light l) :
    Isolated b self new where
  partition p hno := (h.partition_update p).isolated hclear hno
  light := hlight
  zone z hno := (h.zone_update z).isolated hclear hno
  output o hno := (h.output_update o).isolated hclear hno
  user u hno := (h.user_update u).isolated hno

theorem SameTables.write (h : SameTables self new) (writes : List (ℕ × UInt8)) :
    SameTables (self.write writes) (new.write writes) := by
  cases writes with
  | nil => exact h
  | cons w ws =>
    unfold ConcorddInstance.write
    rw [h.partition, h.zone, h.output, h.user]
    exact ⟨rfl, rfl, rfl, rfl⟩

/-- With its header complete and its text in bounds, a frame other than the one that asks for a new
image changes no object but those it names, exactly if every byte it writes to a bus device past
the end of their table was there already. -/
theorem frames_isolated_iff (env : Env) (self : ConcorddInstance) (b : Buffer) (n : ℕ)
    (hclear : ¬ IsPta b .clearAutomationDynamicImage) (_hheader : frameExtent b ≤ n)
    (hfit : CopiesFit b n) :
    Isolated b self (concorddHandleFrame env self b n).state ↔
      ∀ w ∈ deviceOverrun self b, self.write [w] = self := by
  obtain ⟨inside, hu, hnew, hsame⟩ := handleFrame_deviceOverrun env self hfit
  have hlight := fun p l => handleFrame_light env self hfit p (l := l)
  by_cases hnil : deviceOverrun self b = []
  · rw [hnew, hnil, write_nil] at hlight ⊢
    exact iff_of_true (hu.isolated hclear hlight) fun w hw => absurd hw List.not_mem_nil
  have hstate := (hsame hnil).write (deviceOverrun self b)
  rw [← deviceOverrun_kept_iff]
  constructor
  · intro h
    obtain ⟨w, hw⟩ := List.exists_mem_of_ne_nil _ hnil
    obtain ⟨hno, hno'⟩ := not_names_of_device (deviceOverrun_frame hw)
    rw [hnew] at h
    constructor
    · exact fun o => (congrFun hstate.output o).symm.trans (h.output o (hno o))
    · exact fun u => (congrFun hstate.user u).symm.trans (h.user u (hno' u))
  · rintro ⟨ho, huser⟩
    have heq : self.write (deviceOverrun self b) = self :=
      write_eq_self (fun w hw => deviceOverrun_past hw) ho huser
    rw [heq] at hstate
    rw [hnew] at hlight ⊢
    have hupdate : TablesUpdate env b n self (inside.write (deviceOverrun self b)) := .keep hstate
    exact hupdate.isolated hclear hlight

/-- `USER_LIGHTS` for light 3 of partition 1. -/
def userLightsFrame : Buffer := fun k =>
  if k = 0 then 0x23 else if k = 1 then 0x02 else if k = 2 then 1 else if k = 8 then 3
  else if k = 9 then 1 else 0

theorem frames_isolated_userLights :
    Isolated userLightsFrame concorddInit
      (concorddHandleFrame ⟨1, .ok⟩ concorddInit userLightsFrame 10).state :=
  (frames_isolated_iff ⟨1, .ok⟩ concorddInit userLightsFrame 10 (by decide) (by decide)
    (by decide)).mpr (by
      intro w hw
      have hnone : deviceOverrun concorddInit userLightsFrame = [] := rfl
      rw [hnone] at hw
      exact absurd hw List.not_mem_nil)

/-- The thirty-third device listed after one start makes output 0 active. -/
theorem listed_device_reaches_output :
    ¬ ∀ (env : Env) (steps : List DaemonStep) (b : Buffer) (n : ℕ), 1 ≤ n → n ≤ 55 →
      ¬ IsPta b .clearAutomationDynamicImage → frameExtent b ≤ n → CopiesFit b n →
        Isolated b (daemonMachine.run (daemonInit env) steps).inst
          ((daemonMachine.run (daemonInit env) steps).handle b n).1.inst := by
  intro h
  have hisolated := h ⟨1, .ok⟩ (List.replicate 32 (.frame deviceFrame 7)) deviceFrame 7
    (by decide) (by decide) (by decide) (by decide) (by decide)
  have hdevice : IsPta deviceFrame .equipListSuperbusDevData := rfl
  have hactive := congrArg ConcorddOutput.active
    (hisolated.output 0 ((not_names_of_device (.inl hdevice)).1 0))
  revert hactive
  decide +kernel

end Concordd
