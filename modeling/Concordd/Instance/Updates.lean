import Concordd.Instance.Machine

/-! Everything a frame can do to the tables of partitions, zones, outputs and users. -/
namespace Concordd

def IsPta (frameBytes : Buffer) (c : GeRs232Pta) : Prop := GeRs232Pta.ofByte (frameBytes 0) = c

def IsSubcmd (frameBytes : Buffer) (c : GeRs232PtaSubcmd) : Prop :=
  IsPta frameBytes .subcmd ∧ GeRs232PtaSubcmd.ofByte (frameBytes 1) = c

def IsSubcmd2 (frameBytes : Buffer) (c : GeRs232PtaSubcmd2) : Prop :=
  IsPta frameBytes .subcmd2 ∧ GeRs232PtaSubcmd2.ofByte (frameBytes 1) = c

instance (frameBytes : Buffer) (c : GeRs232Pta) : Decidable (IsPta frameBytes c) :=
  inferInstanceAs (Decidable (_ = _))

instance (frameBytes : Buffer) (c : GeRs232PtaSubcmd) : Decidable (IsSubcmd frameBytes c) :=
  inferInstanceAs (Decidable (_ ∧ _))

instance (frameBytes : Buffer) (c : GeRs232PtaSubcmd2) : Decidable (IsSubcmd2 frameBytes c) :=
  inferInstanceAs (Decidable (_ ∧ _))

/-- The ways a frame can change partition `i`. The frames that name a partition name `i`. -/
inductive PartitionUpdate (env : Env) (frameBytes : Buffer) (frameLen : ℕ) (i : Fin 8)
    (old : ConcorddPartition) : ConcorddPartition → Prop
  | keep : PartitionUpdate env frameBytes frameLen i old old
  | sirenSetup (h : IsSubcmd frameBytes .sirenSetup) (hi : (frameBytes 2).toNat = i.val) :
      PartitionUpdate env frameBytes frameLen i old { old with
        active := true
        sirenRepeat := (frameBytes 4).toUInt32
        sirenCadence := word32 (frameBytes 5) (frameBytes 6) (frameBytes 7) (frameBytes 8)
        sirenStartedAt := env.now }
  | sirenStop (h : IsSubcmd frameBytes .sirenStop) (hi : (frameBytes 2).toNat = i.val) :
      PartitionUpdate env frameBytes frameLen i old { old with sirenCadence := 0 }
  | touchpadDisplay (h : IsSubcmd frameBytes .touchpadDisplay)
      (hi : (frameBytes 2).toNat = i.val) :
      PartitionUpdate env frameBytes frameLen i old { old with
        active := true
        encodedTouchpadTextLen := UInt8.ofInt (frameLen - 5)
        encodedTouchpadText := copyFrom old.encodedTouchpadText frameBytes 5 (frameLen - 5) }
  | level (h : IsSubcmd frameBytes .level) (hi : (frameBytes 2).toNat = i.val) :
      PartitionUpdate env frameBytes frameLen i old { old with
        active := true
        armLevel := frameBytes 6
        armLevelUser := word16 (frameBytes 4) (frameBytes 5)
        armLevelTimestamp := env.now
        entryDelayActive := false }
  | delays (h : IsSubcmd frameBytes .entryExitDelay) (hi : (frameBytes 2).toNat = i.val)
      (entry exit : Bool) :
      PartitionUpdate env frameBytes frameLen i old { old with
        entryDelayActive := entry
        exitDelayActive := exit }
  | featureState (h : IsSubcmd frameBytes .featureState) (hi : (frameBytes 2).toNat = i.val) :
      PartitionUpdate env frameBytes frameLen i old { old with
        featureState := frameBytes 4
        active := true }
  | alarmTrouble (h : IsSubcmd frameBytes .alarmTrouble) (hi : (frameBytes 2).toNat = i.val)
      (alarm : Fin 40 → ConcorddEvent) (trouble : Fin 20 → ConcorddEvent) (programming : Bool) :
      PartitionUpdate env frameBytes frameLen i old { old with
        alarmEvents := alarm
        troubleEvents := trouble
        programmingMode := programming }
  | lights (h : IsSubcmd2 frameBytes .lightsState ∨ IsSubcmd2 frameBytes .userLights)
      (hi : (frameBytes 2).toNat = i.val) (light : Fin 10 → ConcorddLight) :
      PartitionUpdate env frameBytes frameLen i old { old with light := light }
  | deactivated (h : IsPta frameBytes .clearAutomationDynamicImage) :
      PartitionUpdate env frameBytes frameLen i old { old with
        active := false, entryDelayActive := false, exitDelayActive := false }
  | partitionData (h : IsPta frameBytes .equipListPartitionData)
      (hi : (frameBytes 1).toNat = i.val) :
      PartitionUpdate env frameBytes frameLen i old { old with
        active := true
        armLevel := frameBytes 3 }
  | sensors (h : IsPta frameBytes .equipListLightToSensorData)
      (hi : (frameBytes 1).toNat = i.val) (light : Fin 10 → ConcorddLight) :
      PartitionUpdate env frameBytes frameLen i old { old with active := true, light := light }

/-- The ways a frame can change zone `i`. -/
inductive ZoneUpdate (env : Env) (frameBytes : Buffer) (frameLen : ℕ) (i : Fin 96)
    (old : ConcorddZone) : ConcorddZone → Prop
  | keep : ZoneUpdate env frameBytes frameLen i old old
  | keyfob (h : IsSubcmd2 frameBytes .keyfob) (hi : (frameBytes 5).toNat = i.val) :
      ZoneUpdate env frameBytes frameLen i old { old with
        lastKc := frameBytes 6
        lastKcChangedAt := env.now
        lastChangedAt := env.now
        active := true }
  | status (h : IsPta frameBytes .zoneStatus)
      (hi : (word16 (frameBytes 3) (frameBytes 4)).toNat = i.val) (tripped changed : ℤ) :
      ZoneUpdate env frameBytes frameLen i old { old with
        zoneState := frameBytes 5
        lastTrippedAt := tripped
        lastChangedAt := changed
        active := true }
  | data (h : IsPta frameBytes .equipListZoneData)
      (hi : (word16 (frameBytes 4) (frameBytes 5)).toNat = i.val) :
      ZoneUpdate env frameBytes frameLen i old { old with
        active := true
        partitionId := frameBytes 1
        group := frameBytes 3
        type := frameBytes 6
        zoneState := frameBytes 7
        encodedNameLen := UInt8.ofInt (frameLen - 8)
        encodedName := copyFrom old.encodedName frameBytes 8 (frameLen - 8) }
  | deactivated (h : IsPta frameBytes .clearAutomationDynamicImage) :
      ZoneUpdate env frameBytes frameLen i old { old with active := false }

/-- The state an output event reports for output `i`. -/
def ReportsOutput (frameBytes : Buffer) (i : Fin 71) (state : UInt8) : Prop :=
  IsSubcmd frameBytes .alarmTrouble ∧
    GeRs232AlarmGeneralType.ofByte (frameBytes 8) = .systemEvent ∧
    (word16 (frameBytes 10) (frameBytes 11)).toNat = i.val ∧
    (frameBytes 9 = geRs232SystemEventOutputOn ∧ state = 1 ∨
      frameBytes 9 = geRs232SystemEventOutputOff ∧ state = 0)

/-- The ways a frame can change output `i`. -/
inductive OutputUpdate (env : Env) (frameBytes : Buffer) (frameLen : ℕ) (i : Fin 71)
    (old : ConcorddOutput) : ConcorddOutput → Prop
  | keep : OutputUpdate env frameBytes frameLen i old old
  | reported (state : UInt8) (h : ReportsOutput frameBytes i state) (source : UInt32) :
      OutputUpdate env frameBytes frameLen i old { old with
        active := true
        outputState := state
        partitionId := frameBytes 2
        lastChangedAt := env.now
        lastChangedBy := source }
  | data (h : IsPta frameBytes .equipListOutputData)
      (hi : (frameBytes 2 &&& ~~~ 0x40).toNat = i.val) :
      OutputUpdate env frameBytes frameLen i old { old with
        active := true
        outputState := frameBytes 3 &&& 1
        pulse := frameBytes 3 &&& 2 ≠ 0
        idBytes := copyFrom old.idBytes frameBytes 4 5
        encodedNameLen := UInt8.ofInt (frameLen - 9)
        encodedName := copyFrom old.encodedName frameBytes 9 (frameLen - 9) }
  | deactivated (h : IsPta frameBytes .clearAutomationDynamicImage) :
      OutputUpdate env frameBytes frameLen i old { old with active := false }

/-- The ways a frame can change user `i`. -/
inductive UserUpdate (frameBytes : Buffer) (i : Fin 252) (old : ConcorddUser) :
    ConcorddUser → Prop
  | keep : UserUpdate frameBytes i old old
  | data (h : IsPta frameBytes .equipListUserData)
      (hi : (word16 (frameBytes 1) (frameBytes 2)).toNat = i.val) :
      UserUpdate frameBytes i old { old with
        active := true
        codeStr := userCode old.codeStr (frameBytes 4) (frameBytes 5) }

/-- The tables are the same, whatever became of the rest. -/
structure SameTables (old new : ConcorddInstance) : Prop where
  partition : new.partition = old.partition
  zone : new.zone = old.zone
  output : new.output = old.output
  user : new.user = old.user

/-- What a frame can do to the four tables as long as it stays inside them: change one entry, or
deactivate the entries of three. -/
inductive TablesUpdate (env : Env) (frameBytes : Buffer) (frameLen : ℕ) (self : ConcorddInstance) :
    ConcorddInstance → Prop
  | keep {new : ConcorddInstance} (h : SameTables self new) :
      TablesUpdate env frameBytes frameLen self new
  | partition {new : ConcorddInstance} {p : Fin 8} {entry : ConcorddPartition}
      (hu : PartitionUpdate env frameBytes frameLen p (self.partition p) entry)
      (h : SameTables (self.setPartition p entry) new) :
      TablesUpdate env frameBytes frameLen self new
  | zone {new : ConcorddInstance} {z : Fin 96} {entry : ConcorddZone}
      (hu : ZoneUpdate env frameBytes frameLen z (self.zone z) entry)
      (h : SameTables (self.setZone z entry) new) :
      TablesUpdate env frameBytes frameLen self new
  | output {new : ConcorddInstance} {o : Fin 71} {entry : ConcorddOutput}
      (hu : OutputUpdate env frameBytes frameLen o (self.output o) entry)
      (h : SameTables (self.setOutput o entry) new) :
      TablesUpdate env frameBytes frameLen self new
  | user {new : ConcorddInstance} {u : Fin 252} {entry : ConcorddUser}
      (hu : UserUpdate frameBytes u (self.user u) entry)
      (h : SameTables (self.setUser u entry) new) :
      TablesUpdate env frameBytes frameLen self new
  | deactivated {new : ConcorddInstance} (hc : IsPta frameBytes .clearAutomationDynamicImage)
      (h : SameTables (concorddDeactivate self) new) :
      TablesUpdate env frameBytes frameLen self new

/-! Frames that stay inside the arrays and tables they write to. -/

/-- A text the frame stores, if it does store one, fits. -/
def CopiesFit (frameBytes : Buffer) (frameLen : ℕ) : Prop :=
  (IsSubcmd frameBytes .touchpadDisplay → (frameBytes 2).toNat < 8 → 5 ≤ frameLen ∧ frameLen ≤ 37) ∧
    (IsPta frameBytes .equipListZoneData → (word16 (frameBytes 4) (frameBytes 5)).toNat < 96 →
      8 ≤ frameLen ∧ frameLen ≤ 24) ∧
    (IsPta frameBytes .equipListOutputData → (frameBytes 2 &&& ~~~ 0x40).toNat < 71 →
      9 ≤ frameLen ∧ frameLen ≤ 25)

/-- The device that the frame lists or finds, if any, is in the table. -/
def DeviceInside (self : ConcorddInstance) (frameBytes : Buffer) : Prop :=
  (IsPta frameBytes .equipListSuperbusDevData → self.busDeviceCount.toNat < 32) ∧
    (IsPta frameBytes .equipListSuperbusCapData → ∀ i ∈
      concorddGetDevice self (word24 (frameBytes 1) (frameBytes 2) (frameBytes 3)), i < 32)

def FrameInside (self : ConcorddInstance) (frameBytes : Buffer) (frameLen : ℕ) : Prop :=
  CopiesFit frameBytes frameLen ∧ DeviceInside self frameBytes

/-- The address of a field of a device past the end of the table. -/
def PastDevices (a : ℕ) : Prop :=
  ∃ i k, 32 ≤ i ∧ (k = 0 ∨ 4 ≤ k ∧ k < 9 ∨ 12 ≤ k ∧ k < 18) ∧ a = deviceAddress i + k

/-- What the frame leaves of the tables: an update, and then whatever it has written past the end
of an array or of the table of bus devices. That is nothing if it stays inside, and only devices
go past the end if its copies fit. -/
def LeavesTables (env : Env) (frameBytes : Buffer) (frameLen : ℕ) (self new : ConcorddInstance) :
    Prop :=
  ∃ inside writes, TablesUpdate env frameBytes frameLen self inside ∧ new = inside.write writes ∧
    (CopiesFit frameBytes frameLen → ∀ w ∈ writes, PastDevices w.1) ∧
    (FrameInside self frameBytes frameLen → writes = [])

variable {env : Env} {frameBytes : Buffer} {frameLen : ℕ} {self other new : ConcorddInstance}

instance : Decidable (CopiesFit frameBytes frameLen) := inferInstanceAs (Decidable (_ ∧ _ ∧ _))

instance : Decidable (DeviceInside self frameBytes) := inferInstanceAs (Decidable (_ ∧ _))

instance : Decidable (FrameInside self frameBytes frameLen) := inferInstanceAs (Decidable (_ ∧ _))

theorem SameTables.refl (self : ConcorddInstance) : SameTables self self := ⟨rfl, rfl, rfl, rfl⟩

theorem SameTables.trans (h : SameTables self other) (h' : SameTables other new) :
    SameTables self new :=
  ⟨h'.partition.trans h.partition, h'.zone.trans h.zone, h'.output.trans h.output,
    h'.user.trans h.user⟩

theorem SameTables.setPartition (h : SameTables self other) (p : Fin 8)
    (entry : ConcorddPartition) :
    SameTables (self.setPartition p entry) (other.setPartition p entry) := by
  refine ⟨?_, h.zone, h.output, h.user⟩
  unfold ConcorddInstance.setPartition
  rw [h.partition]

theorem SameTables.setZone (h : SameTables self other) (z : Fin 96) (entry : ConcorddZone) :
    SameTables (self.setZone z entry) (other.setZone z entry) := by
  refine ⟨h.partition, ?_, h.output, h.user⟩
  unfold ConcorddInstance.setZone
  rw [h.zone]

theorem SameTables.setOutput (h : SameTables self other) (o : Fin 71) (entry : ConcorddOutput) :
    SameTables (self.setOutput o entry) (other.setOutput o entry) := by
  refine ⟨h.partition, h.zone, ?_, h.user⟩
  unfold ConcorddInstance.setOutput
  rw [h.output]

theorem SameTables.setUser (h : SameTables self other) (u : Fin 252) (entry : ConcorddUser) :
    SameTables (self.setUser u entry) (other.setUser u entry) := by
  refine ⟨h.partition, h.zone, h.output, ?_⟩
  unfold ConcorddInstance.setUser
  rw [h.user]

theorem SameTables.deactivate (h : SameTables self other) :
    SameTables (concorddDeactivate self) (concorddDeactivate other) := by
  unfold concorddDeactivate
  rw [h.partition, h.zone, h.output]
  exact ⟨rfl, rfl, rfl, h.user⟩

theorem TablesUpdate.none : TablesUpdate env frameBytes frameLen self self := .keep (.refl self)

theorem TablesUpdate.of_same (h : SameTables self other)
    (hu : TablesUpdate env frameBytes frameLen other new) :
    TablesUpdate env frameBytes frameLen self new := by
  cases hu with
  | keep h' => exact .keep (h.trans h')
  | partition hu h' =>
    rw [h.partition] at hu
    exact .partition hu ((h.setPartition _ _).trans h')
  | zone hu h' =>
    rw [h.zone] at hu
    exact .zone hu ((h.setZone _ _).trans h')
  | output hu h' =>
    rw [h.output] at hu
    exact .output hu ((h.setOutput _ _).trans h')
  | user hu h' =>
    rw [h.user] at hu
    exact .user hu ((h.setUser _ _).trans h')
  | deactivated hc h' => exact .deactivated hc (h.deactivate.trans h')

theorem LeavesTables.of_update (h : TablesUpdate env frameBytes frameLen self new) :
    LeavesTables env frameBytes frameLen self new :=
  ⟨new, [], h, rfl, fun _ _ hw => absurd hw List.not_mem_nil, fun _ => rfl⟩

/-- A copy that fits leaves nothing past its array. -/
theorem LeavesTables.of_overrun {inside : ConcorddInstance} {full a : ℕ}
    (h : TablesUpdate env frameBytes frameLen self inside)
    (hfit : CopiesFit frameBytes frameLen → frameLen ≤ full) :
    LeavesTables env frameBytes frameLen self
      (inside.write (overrun frameBytes full frameLen a)) := by
  refine ⟨inside, _, h, rfl, fun hf => ?_, fun hin => overrun_eq_nil (hfit hin.1) a⟩
  rw [overrun_eq_nil (hfit hf)]
  exact fun w hw => absurd hw List.not_mem_nil

theorem LeavesTables.of_stray {inside : ConcorddInstance} {i : ℕ} {device : ConcorddDevice}
    {offsets : List ℕ} (h : TablesUpdate env frameBytes frameLen self inside) (hi : 32 ≤ i)
    (hoffsets : ∀ k ∈ offsets, k = 0 ∨ 4 ≤ k ∧ k < 9 ∨ 12 ≤ k ∧ k < 18)
    (hno : ¬ DeviceInside self frameBytes) :
    LeavesTables env frameBytes frameLen self (inside.write (deviceWrites i device offsets)) := by
  refine ⟨inside, _, h, rfl, fun _ w hw => ?_, fun hin => (hno hin.2).elim⟩
  obtain ⟨k, hk, rfl⟩ := List.mem_map.mp hw
  exact ⟨i, k, hi, hoffsets k hk, rfl⟩

theorem PastDevices.le {a : ℕ} (h : PastDevices a) : outputAddress 0 ≤ a := by
  obtain ⟨i, k, hi, -, rfl⟩ := h
  unfold outputAddress deviceAddress
  omega

theorem mem_capOffsets {cap : UInt8} {k : ℕ} (h : k ∈ capOffsets cap) : 12 ≤ k ∧ k < 18 := by
  unfold capOffsets at h
  split_ifs at h <;> simp at h <;> omega

/-! Alarms and troubles. -/

theorem outputReported_tables (self : ConcorddInstance) {source : UInt32} {state : UInt8}
    (h : ∀ o : Fin 71, (word16 (frameBytes 10) (frameBytes 11)).toNat = o.val →
      ReportsOutput frameBytes o state) :
    TablesUpdate env frameBytes frameLen self (concorddOutputReported env self (frameBytes 2)
      source (word16 (frameBytes 10) (frameBytes 11)) state).state := by
  unfold concorddOutputReported
  split
  · exact .none
  · next o ho =>
    split
    · exact .output (.reported state (h o (getOutput_eq_some ho)) source) (.refl _)
    · exact .none

theorem updateLists_tables (self : ConcorddInstance) (h : IsSubcmd frameBytes .alarmTrouble)
    (typeG : GeRs232AlarmGeneralType) (typeS : UInt8) (event : ConcorddEvent) :
    TablesUpdate env frameBytes frameLen self
      (concorddUpdateLists env self (frameBytes 2) typeG typeS event).1 := by
  have hsystem : ∀ general, TablesUpdate env frameBytes frameLen self
      (concorddSystemTrouble env self general typeS event).1 := by
    intro general
    unfold concorddSystemTrouble
    dsimp only
    split <;> exact .keep ⟨rfl, rfl, rfl, rfl⟩
  have halarm : TablesUpdate env frameBytes frameLen self
      (concorddPutAlarm self (frameBytes 2) typeS event) := by
    unfold concorddPutAlarm
    split
    · exact .none
    · next p hp => exact .partition (.alarmTrouble h (getPartition_eq_some hp) _ _ _) (.refl _)
  have htrouble : TablesUpdate env frameBytes frameLen self
      (concorddPutTrouble self (frameBytes 2) typeS event) := by
    unfold concorddPutTrouble
    split
    · exact .none
    · next p hp => exact .partition (.alarmTrouble h (getPartition_eq_some hp) _ _ _) (.refl _)
  have hconfig : TablesUpdate env frameBytes frameLen self
      (concorddConfigChanged self (frameBytes 2) typeS).1 := by
    unfold concorddConfigChanged
    split
    · exact .none
    · next p hp =>
      split
      · exact .none
      · exact .partition (.alarmTrouble h (getPartition_eq_some hp) _ _ _) (.refl _)
  cases typeG with
  | systemTrouble | systemTroubleRestoral => exact hsystem _
  | alarm | alarmRestoral | alarmCancel => exact halarm
  | fireTrouble | nonfireTrouble | fireTroubleRestoral | nonfireTroubleRestoral => exact htrouble
  | systemConfigChange => exact hconfig
  | partitionEvent | systemEvent | other => exact .none

theorem handleAlarm_tables (h : IsSubcmd frameBytes .alarmTrouble) :
    TablesUpdate env frameBytes frameLen self (concorddHandleAlarm env self (frameBytes 2)
      (frameBytes 4) (word24 (frameBytes 5) (frameBytes 6) (frameBytes 7)) (frameBytes 8)
      (frameBytes 9) (word16 (frameBytes 10) (frameBytes 11))).state := by
  unfold concorddHandleAlarm
  dsimp only
  generalize alarmEvent env (frameBytes 2) _ _ _ _ _ = event
  -- logging the event leaves the tables alone
  have hlog : SameTables self (concorddLogEvent self event) := ⟨rfl, rfl, rfl, rfl⟩
  refine TablesUpdate.of_same hlog ?_
  split
  · next hon => exact outputReported_tables _ fun o ho => ⟨h, hon.1, ho, .inl ⟨hon.2, rfl⟩⟩
  · split
    · next hoff => exact outputReported_tables _ fun o ho => ⟨h, hoff.1, ho, .inr ⟨hoff.2, rfl⟩⟩
    · exact updateLists_tables _ h _ _ _

/-! Sub-commands. -/

theorem handleTouchpadDisplay_tables (h : IsSubcmd frameBytes .touchpadDisplay) :
    LeavesTables env frameBytes frameLen self
      (concorddHandleTouchpadDisplay self frameBytes frameLen).state := by
  unfold concorddHandleTouchpadDisplay
  split
  · exact .of_update .none
  · next p hp =>
    have hi := getPartition_eq_some hp
    refine .of_overrun (.partition (.touchpadDisplay h hi) (.refl _)) fun hf => ?_
    exact (hf.1 h (by omega)).2

theorem handleSubcmd_tables (h : IsPta frameBytes .subcmd)
    (ht : GeRs232PtaSubcmd.ofByte (frameBytes 1) ≠ .touchpadDisplay) :
    TablesUpdate env frameBytes frameLen self
      (concorddHandleSubcmd env self frameBytes frameLen).state := by
  unfold concorddHandleSubcmd
  cases hc : GeRs232PtaSubcmd.ofByte (frameBytes 1) with
  | sirenSetup =>
    dsimp only
    unfold concorddHandleSirenSetup
    split
    · exact .none
    · next p hp =>
      exact .partition (.sirenSetup ⟨h, hc⟩ (getPartition_eq_some hp)) ⟨rfl, rfl, rfl, rfl⟩
  | sirenStop =>
    dsimp only
    unfold concorddHandleSirenStop
    split
    · exact .none
    · next p hp => exact .partition (.sirenStop ⟨h, hc⟩ (getPartition_eq_some hp)) (.refl _)
  | sirenGo =>
    dsimp only
    unfold concorddHandleSirenGo
    split <;> exact .none
  | touchpadDisplay => exact (ht hc).elim
  | level =>
    dsimp only
    unfold concorddHandleLevel
    split
    · exact .none
    · next p hp => exact .partition (.level ⟨h, hc⟩ (getPartition_eq_some hp)) (.refl _)
  | alarmTrouble => exact handleAlarm_tables ⟨h, hc⟩
  | entryExitDelay =>
    dsimp only
    unfold concorddHandleEntryExitDelay
    split
    · exact .none
    · next p hp =>
      have hi := getPartition_eq_some hp
      dsimp only
      split
      · exact .partition (.delays ⟨h, hc⟩ hi _ _) (.refl _)
      · exact .partition (.delays ⟨h, hc⟩ hi _ _) (.refl _)
  | featureState =>
    dsimp only
    unfold concorddHandleFeatureState
    split
    · exact .none
    · next p hp => exact .partition (.featureState ⟨h, hc⟩ (getPartition_eq_some hp)) (.refl _)
  | timeAndDate => exact .keep ⟨rfl, rfl, rfl, rfl⟩
  | sirenSync | temperature | other => exact .none

theorem lightsStateLoop_tables (env : Env) (p : Fin 8) (lightState : UInt16) (is : List (Fin 10))
    (self : ConcorddInstance) :
    ∃ light, SameTables (self.setPartition p { self.partition p with light := light })
      (lightsStateLoop env p lightState self is).1 := by
  induction is generalizing self with
  | nil => exact ⟨(self.partition p).light, Function.update_eq_self .. |>.symm, rfl, rfl, rfl⟩
  | cons i is ih =>
    simp only [lightsStateLoop]
    generalize hc : { (self.partition p).light i with
      lightState := !((self.partition p).light i).lightState, lastChangedAt := env.now } = changed
    split
    · exact ih self
    · split
      · exact ⟨_, .refl _⟩
      · obtain ⟨light, hlight⟩ := ih (self.setPartition p ((self.partition p).setLight i changed))
        refine ⟨light, .trans ?_ hlight⟩
        refine ⟨?_, rfl, rfl, rfl⟩
        -- the second update of the partition overwrites the first
        simp only [ConcorddInstance.setPartition, Function.update_self, Function.update_idem]
        rfl

theorem handleSubcmd2_tables (h : IsPta frameBytes .subcmd2) :
    TablesUpdate env frameBytes frameLen self
      (concorddHandleSubcmd2 env self frameBytes).state := by
  unfold concorddHandleSubcmd2
  cases hc : GeRs232PtaSubcmd2.ofByte (frameBytes 1) with
  | lightsState =>
    dsimp only
    unfold concorddHandleLightsState
    split
    · exact .none
    · next p hp =>
      obtain ⟨light, hlight⟩ := lightsStateLoop_tables env p
        (word16 (frameBytes 5) (frameBytes 4)) (List.finRange 10) self
      exact .partition (.lights (.inl ⟨h, hc⟩) (getPartition_eq_some hp) light) hlight
  | userLights =>
    dsimp only
    unfold concorddHandleUserLights
    split
    · exact .none
    · next p hp =>
      split
      · exact .none
      · exact .partition (.lights (.inr ⟨h, hc⟩) (getPartition_eq_some hp) _) (.refl _)
  | keyfob =>
    dsimp only
    unfold concorddHandleKeyfob
    split
    · exact .none
    · next z hz =>
      split
      · exact .zone (.keyfob ⟨h, hc⟩ (getZone_eq_some hz)) (.refl _)
      · exact .none
  | other => exact .none

/-! The lists of zones, outputs and bus devices. -/

theorem handleEquipListZoneData_tables (h : IsPta frameBytes .equipListZoneData) :
    LeavesTables env frameBytes frameLen self
      (concorddHandleEquipListZoneData self frameBytes frameLen).state := by
  unfold concorddHandleEquipListZoneData
  split
  · exact .of_update .none
  · next z hz =>
    have hi := getZone_eq_some hz
    refine .of_overrun (.zone (.data h hi) (.refl _)) fun hf => ?_
    exact (hf.2.1 h (by omega)).2

theorem handleEquipListOutputData_tables (h : IsPta frameBytes .equipListOutputData) :
    LeavesTables env frameBytes frameLen self
      (concorddHandleEquipListOutputData self frameBytes frameLen).state := by
  unfold concorddHandleEquipListOutputData
  split
  · exact .of_update .none
  · next o ho =>
    have hi := getOutput_eq_some ho
    refine .of_overrun (.output (.data h hi) (.refl _)) fun hf => ?_
    exact (hf.2.2 h (by omega)).2

theorem handleEquipListSuperbusDevData_tables (h : IsPta frameBytes .equipListSuperbusDevData) :
    LeavesTables env frameBytes frameLen self
      (concorddHandleEquipListSuperbusDevData self frameBytes).state := by
  unfold concorddHandleEquipListSuperbusDevData
  dsimp only
  split
  · next hnone =>
    dsimp only
    have hcount : 32 ≤ self.busDeviceCount.toNat := by
      have := tableIndex_eq_none.mp hnone
      omega
    refine .of_stray (.keep ⟨rfl, rfl, rfl, rfl⟩) hcount (by decide) fun hin => ?_
    have := hin.1 h
    omega
  · exact .of_update (.keep ⟨rfl, rfl, rfl, rfl⟩)

theorem handleEquipListSuperbusCapData_tables (h : IsPta frameBytes .equipListSuperbusCapData) :
    LeavesTables env frameBytes frameLen self
      (concorddHandleEquipListSuperbusCapData self frameBytes).state := by
  unfold concorddHandleEquipListSuperbusCapData
  dsimp only
  split
  · exact .of_update .none
  · next i hi =>
    split
    · exact .of_update (.keep ⟨rfl, rfl, rfl, rfl⟩)
    · next hnone =>
      dsimp only
      have hpast : 32 ≤ i := by
        have := tableIndex_eq_none.mp hnone
        omega
      refine .of_stray .none hpast (fun k hk => .inr (.inr (mem_capOffsets hk))) fun hin => ?_
      have := hin.2 h i hi
      omega

/-! Whole frames. -/

theorem handleFrame_tables (env : Env) (self : ConcorddInstance) (frameBytes : Buffer)
    (frameLen : ℕ) :
    LeavesTables env frameBytes frameLen self
      (concorddHandleFrame env self frameBytes frameLen).state := by
  unfold concorddHandleFrame
  cases hc : GeRs232Pta.ofByte (frameBytes 0) with
  | subcmd =>
    dsimp only
    by_cases ht : GeRs232PtaSubcmd.ofByte (frameBytes 1) = .touchpadDisplay
    · unfold concorddHandleSubcmd
      rw [ht]
      exact handleTouchpadDisplay_tables ⟨hc, ht⟩
    · exact .of_update (handleSubcmd_tables hc ht)
  | subcmd2 => exact .of_update (handleSubcmd2_tables hc)
  | clearAutomationDynamicImage => exact .of_update (.deactivated hc ⟨rfl, rfl, rfl, rfl⟩)
  | equipListComplete => exact .of_update (.keep ⟨rfl, rfl, rfl, rfl⟩)
  | zoneStatus =>
    dsimp only
    unfold concorddHandleZoneStatus
    split
    · exact .of_update .none
    · next z hz => exact .of_update (.zone (.status hc (getZone_eq_some hz) _ _) (.refl _))
  | equipListPartitionData =>
    dsimp only
    unfold concorddHandleEquipListPartitionData
    split
    · exact .of_update .none
    · next p hp =>
      exact .of_update (.partition (.partitionData hc (getPartition_eq_some hp)) (.refl _))
  | equipListZoneData => exact handleEquipListZoneData_tables hc
  | equipListUserData =>
    dsimp only
    unfold concorddHandleEquipListUserData
    split
    · exact .of_update .none
    · next u hu => exact .of_update (.user (.data hc (getUser_eq_some hu)) (.refl _))
  | equipListSuperbusDevData => exact handleEquipListSuperbusDevData_tables hc
  | equipListSuperbusCapData => exact handleEquipListSuperbusCapData_tables hc
  | equipListOutputData => exact handleEquipListOutputData_tables hc
  | equipListLightToSensorData =>
    dsimp only
    unfold concorddHandleEquipListLightToSensorData
    split
    · exact .of_update .none
    · next p hp =>
      exact .of_update (.partition (.sensors hc (getPartition_eq_some hp) _) (.refl _))
  | panelType => exact .of_update (.keep ⟨rfl, rfl, rfl, rfl⟩)
  | automationEventLost | equipListScheduleData | equipListScheduledEventData | other =>
    exact .of_update .none

/-! Entries. -/

theorem TablesUpdate.partition_update (h : TablesUpdate env frameBytes frameLen self new)
    (i : Fin 8) :
    PartitionUpdate env frameBytes frameLen i (self.partition i) (new.partition i) := by
  cases h with
  | partition hu h =>
    rw [h.partition, setPartition_partition]
    split
    · next he =>
      subst he
      exact hu
    · exact .keep
  | deactivated hc h =>
    rw [h.partition]
    exact .deactivated hc
  | keep h | zone _ h | output _ h | user _ h =>
    rw [h.partition]
    exact .keep

theorem TablesUpdate.zone_update (h : TablesUpdate env frameBytes frameLen self new)
    (i : Fin 96) : ZoneUpdate env frameBytes frameLen i (self.zone i) (new.zone i) := by
  cases h with
  | zone hu h =>
    rw [h.zone, setZone_zone]
    split
    · next he =>
      subst he
      exact hu
    · exact .keep
  | deactivated hc h =>
    rw [h.zone]
    exact .deactivated hc
  | keep h | partition _ h | output _ h | user _ h =>
    rw [h.zone]
    exact .keep

theorem TablesUpdate.output_update (h : TablesUpdate env frameBytes frameLen self new)
    (i : Fin 71) : OutputUpdate env frameBytes frameLen i (self.output i) (new.output i) := by
  cases h with
  | output hu h =>
    rw [h.output, setOutput_output]
    split
    · next he =>
      subst he
      exact hu
    · exact .keep
  | deactivated hc h =>
    rw [h.output]
    exact .deactivated hc
  | keep h | partition _ h | zone _ h | user _ h =>
    rw [h.output]
    exact .keep

theorem TablesUpdate.user_update (h : TablesUpdate env frameBytes frameLen self new)
    (i : Fin 252) : UserUpdate frameBytes i (self.user i) (new.user i) := by
  cases h with
  | user hu h =>
    rw [h.user, setUser_user]
    split
    · next he =>
      subst he
      exact hu
    · exact .keep
  | keep h | partition _ h | zone _ h | output _ h | deactivated _ h =>
    rw [h.user]
    exact .keep

/-- What a frame can do to a partition, if its copies fit. -/
theorem handleFrame_partition (env : Env) (self : ConcorddInstance)
    (hf : CopiesFit frameBytes frameLen) (i : Fin 8) :
    PartitionUpdate env frameBytes frameLen i (self.partition i)
      ((concorddHandleFrame env self frameBytes frameLen).state.partition i) := by
  obtain ⟨inside, writes, hu, hnew, hpast, -⟩ := handleFrame_tables env self frameBytes frameLen
  have hzones : ∀ w ∈ writes, zoneAddress 0 ≤ w.1 := fun w hw => by
    have := (hpast hf w hw).le
    unfold outputAddress at this
    unfold zoneAddress
    omega
  rw [hnew, write_partition hzones]
  exact hu.partition_update i

/-- What a frame can do to a zone, if its copies fit. -/
theorem handleFrame_zone (env : Env) (self : ConcorddInstance)
    (hf : CopiesFit frameBytes frameLen) (i : Fin 96) :
    ZoneUpdate env frameBytes frameLen i (self.zone i)
      ((concorddHandleFrame env self frameBytes frameLen).state.zone i) := by
  obtain ⟨inside, writes, hu, hnew, hpast, -⟩ := handleFrame_tables env self frameBytes frameLen
  have hdevices : ∀ w ∈ writes, deviceAddress 0 ≤ w.1 := fun w hw => by
    have := (hpast hf w hw).le
    unfold outputAddress at this
    unfold deviceAddress
    omega
  rw [hnew, write_zone hdevices]
  exact hu.zone_update i

/-- Whether an output is on is out of reach of the devices past the end of their table. -/
theorem handleFrame_outputState (env : Env) (self : ConcorddInstance)
    (hf : CopiesFit frameBytes frameLen) (i : Fin 71) :
    ∃ entry, OutputUpdate env frameBytes frameLen i (self.output i) entry ∧
      ((concorddHandleFrame env self frameBytes frameLen).state.output i).outputState =
        entry.outputState := by
  obtain ⟨inside, writes, hu, hnew, hpast, -⟩ := handleFrame_tables env self frameBytes frameLen
  refine ⟨inside.output i, hu.output_update i, ?_⟩
  rw [hnew, write_outputState]
  refine stored_of_ne fun w hw => ?_
  obtain ⟨d, k, -, hk, hw⟩ := hpast hf w hw
  unfold deviceAddress at hw
  unfold outputAddress
  omega

/-- A frame that stays inside does nothing but an update. -/
theorem handleFrame_inside (env : Env) (hin : FrameInside self frameBytes frameLen) :
    TablesUpdate env frameBytes frameLen self
      (concorddHandleFrame env self frameBytes frameLen).state := by
  obtain ⟨inside, writes, hu, hnew, -, hnone⟩ := handleFrame_tables env self frameBytes frameLen
  rw [hnew, hnone hin]
  exact hu

/-- What a copy past its array may touch in a partition are only the fields before the lights and
those after the text. So far as `f` does not depend on these, an update is all that happens. -/
theorem handleFrame_partition_of_ofBytes {α : Type*} {f : ConcorddPartition → α}
    (hf : ∀ partition g, f (partition.ofBytes g) = f partition) (env : Env)
    (self : ConcorddInstance) (frameBytes : Buffer) (frameLen : ℕ) (i : Fin 8) :
    ∃ entry, PartitionUpdate env frameBytes frameLen i (self.partition i) entry ∧
      f ((concorddHandleFrame env self frameBytes frameLen).state.partition i) = f entry := by
  obtain ⟨inside, writes, hu, hnew, -, -⟩ := handleFrame_tables env self frameBytes frameLen
  refine ⟨inside.partition i, hu.partition_update i, ?_⟩
  rw [hnew, write_partition_of_ofBytes hf]

end Concordd
