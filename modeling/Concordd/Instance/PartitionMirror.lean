import Concordd.Instance.Notifications
import Concordd.Instance.Programming

/-! A client that follows the callbacks for a partition: it misses programming mode alone. -/
namespace Concordd

/-- `GE_RS232_FEATURE_STATE_*`, each with its `CONCORDD_PARTITION_*_CHANGED` flag eight places
higher. -/
def featureStateMask : UInt8 := 0x3F

/-- The fields of a partition that a client can follow. -/
structure PartitionInfo where
  armLevel : UInt8
  armLevelUser : UInt16
  features : UInt8
  programmingMode : Bool
  touchpadText : List UInt8
  deriving DecidableEq

def ConcorddPartition.touchpadText (partition : ConcorddPartition) : List UInt8 :=
  (List.ofFn partition.encodedTouchpadText).take partition.encodedTouchpadTextLen.toNat

def ConcorddPartition.info (partition : ConcorddPartition) : PartitionInfo where
  armLevel := partition.armLevel
  armLevelUser := partition.armLevelUser
  features := partition.featureState &&& featureStateMask
  programmingMode := partition.programmingMode
  touchpadText := partition.touchpadText

/-- The fields whose flag is set are copied. -/
def PartitionInfo.copy (held : PartitionInfo) (partition : ConcorddPartition) (changed : UInt32) :
    PartitionInfo where
  armLevel :=
    if changed &&& concorddPartitionArmLevelChanged ≠ 0 then partition.armLevel else held.armLevel
  armLevelUser :=
    if changed &&& concorddPartitionArmLevelChanged ≠ 0 then partition.armLevelUser
    else held.armLevelUser
  features :=
    copyBits (changedBits changed &&& featureStateMask) held.features partition.featureState
  programmingMode :=
    if changed &&& concorddPartitionProgrammingModeChanged ≠ 0 then partition.programmingMode
    else held.programmingMode
  touchpadText :=
    if changed &&& concorddPartitionTouchpadTextChanged ≠ 0 then partition.touchpadText
    else held.touchpadText

/-- A client of partition `p`. -/
def partitionHear (p : Fin 8) (held : PartitionInfo) : InstanceEvent → PartitionInfo
  | .partitionInfoChanged i partition changed =>
    if i = p then held.copy partition changed else held
  | _ => held

/-- A frame that begins or ends the programming of partition `p`. Its callback is the instance's,
not the partition's. -/
def TurnsProgramming (p : Fin 8) (self : ConcorddInstance) (frameBytes : Buffer) : Prop :=
  ∃ programming ∈ programmingReport p frameBytes,
    programming ≠ (self.partition p).programmingMode

instance (p : Fin 8) (self : ConcorddInstance) (frameBytes : Buffer) :
    Decidable (TurnsProgramming p self frameBytes) := inferInstanceAs (Decidable (∃ _, _))

/-- The client holds what the partition has stored. -/
def PartitionMirrored (p : Fin 8) (s : Daemon × PartitionInfo) : Prop :=
  s.2 = (s.1.inst.partition p).info

instance (p : Fin 8) (s : Daemon × PartitionInfo) : Decidable (PartitionMirrored p s) :=
  inferInstanceAs (Decidable (_ = _))

variable {env : Env} {self : ConcorddInstance} {b : Buffer} {n : ℕ} {p q : Fin 8} {s : Daemon}
  {i : DaemonStep} {held : PartitionInfo} {entry old new : ConcorddPartition} {changed : UInt32}

/-! One callback. -/

theorem setPartition_hear (hf : self.callbacks.partitionInfoChangedFunc = true)
    (hcopy : (self.partition q).info.copy entry changed = entry.info) :
    (concorddPartitionInfoChanged (self.setPartition q entry) q changed).foldl (partitionHear p)
        (self.partition p).info = ((self.setPartition q entry).partition p).info := by
  have hf : (self.setPartition q entry).callbacks.partitionInfoChangedFunc = true := hf
  rw [concorddPartitionInfoChanged, if_pos hf, List.foldl_cons, List.foldl_nil]
  simp only [partitionHear, setPartition_partition, if_true]
  by_cases hq : q = p
  · subst hq
    rw [if_pos rfl, if_pos rfl]
    exact hcopy
  · rw [if_neg hq, if_neg (Ne.symm hq)]

/-- A change of the siren is none of the client's. -/
theorem copy_siren (held : PartitionInfo) (partition : ConcorddPartition)
    (h : changed ∈ [concorddPartitionSirenCadenceChanged, concorddPartitionSirenRepeatChanged |||
      concorddPartitionSirenCadenceChanged ||| concorddPartitionSirenStartedAtChanged]) :
    held.copy partition changed = held := by
  have hflags : changed &&& concorddPartitionArmLevelChanged = 0 ∧
      changed &&& concorddPartitionProgrammingModeChanged = 0 ∧
      changed &&& concorddPartitionTouchpadTextChanged = 0 ∧
      changedBits changed &&& featureStateMask = 0 := by
    rcases List.mem_cons.mp h with rfl | h
    · decide
    · obtain rfl := List.mem_singleton.mp h
      decide
  obtain ⟨harm, hprogramming, htext, hbits⟩ := hflags
  simp [PartitionInfo.copy, harm, hprogramming, htext, hbits, copyBits_none]

theorem siren_hear
    (h : changed ∈ [concorddPartitionSirenCadenceChanged, concorddPartitionSirenRepeatChanged |||
      concorddPartitionSirenCadenceChanged ||| concorddPartitionSirenStartedAtChanged]) :
    (concorddPartitionInfoChanged self q changed).foldl (partitionHear p) held = held := by
  rw [concorddPartitionInfoChanged]
  split
  · simp only [List.foldl_cons, List.foldl_nil, partitionHear, copy_siren held _ h, ite_self]
  · rfl

theorem copy_armLevel (partition : ConcorddPartition)
    (hfeature : entry.featureState = partition.featureState)
    (hprogramming : entry.programmingMode = partition.programmingMode)
    (htext : entry.touchpadText = partition.touchpadText) :
    partition.info.copy entry concorddPartitionArmLevelChanged = entry.info := by
  simp [PartitionInfo.copy, ConcorddPartition.info, hfeature, hprogramming, htext,
    show concorddPartitionArmLevelChanged ≠ 0 by decide,
    show concorddPartitionArmLevelChanged &&& concorddPartitionProgrammingModeChanged = 0 by decide,
    show concorddPartitionArmLevelChanged &&& concorddPartitionTouchpadTextChanged = 0 by decide,
    show changedBits concorddPartitionArmLevelChanged = 0 by decide, copyBits_none]

/-- The flags of status bits take the second byte, and the flags above it are others. -/
theorem shiftedBits_and (bits : UInt8) (flag : UInt32) (k : ℕ) (hk : 16 ≤ k)
    (hflag : flag.toNat = 2 ^ k) : (bits.toUInt32 <<< 8) &&& flag = 0 := by
  have hlt : (bits.toUInt32 <<< 8).toNat < 2 ^ k := by
    have hbits := bits.toNat_lt
    have hpow : 2 ^ 16 ≤ 2 ^ k := Nat.pow_le_pow_right two_pos hk
    simp only [UInt32.toNat_shiftLeft, UInt8.toNat_toUInt32, Nat.shiftLeft_eq]
    have hmod := Nat.mod_le (bits.toNat * 2 ^ (UInt32.toNat 8 % 32)) (2 ^ 32)
    have hshift : bits.toNat * 2 ^ (UInt32.toNat 8 % 32) < 2 ^ 16 := by
      rw [show UInt32.toNat 8 % 32 = 8 from rfl]
      omega
    omega
  apply UInt32.toNat_inj.mp
  rw [UInt32.toNat_and, hflag, Nat.and_two_pow, Nat.testBit_lt_two_pow hlt]
  simp

theorem copy_features (partition : ConcorddPartition) (features : UInt8) (active : Bool) :
    partition.info.copy { partition with featureState := features, active := active }
        ((partition.featureState ^^^ features).toUInt32 <<< 8) =
      ConcorddPartition.info { partition with featureState := features, active := active } := by
  have harm := shiftedBits_and (partition.featureState ^^^ features)
    concorddPartitionArmLevelChanged 16 le_rfl rfl
  have htext := shiftedBits_and (partition.featureState ^^^ features)
    concorddPartitionTouchpadTextChanged 17 (by decide) rfl
  have hprogramming := shiftedBits_and (partition.featureState ^^^ features)
    concorddPartitionProgrammingModeChanged 24 (by decide) rfl
  simp only [PartitionInfo.copy, harm, htext, hprogramming, ne_eq, not_true, if_false,
    changedBits_shift]
  simp only [ConcorddPartition.info, copyBits_changed]
  rfl

theorem ofInt_toNat (len : UInt8) : UInt8.ofInt len.toNat = len := by
  have hlt := len.toNat_lt
  have hmod : ((len.toNat : ℤ) % 256).toNat = len.toNat := by omega
  simp [UInt8.ofInt, hmod]

theorem copyFrom_of_sameBytes {m : ℕ} {dest : Fin m → UInt8} {offset : ℕ} {len : ℤ}
    (h : sameBytes dest b offset len) : copyFrom dest b offset len = dest := by
  funext k
  unfold copyFrom
  split
  · next hk => exact h k hk
  · rfl

/-! Frames. -/

theorem handleFrame_touchpad_hear (h : IsSubcmd b .touchpadDisplay)
    (hf : self.callbacks.partitionInfoChangedFunc = true) (hfit : CopiesFit b n) :
    (concorddHandleFrame env self b n).out.foldl (partitionHear p) (self.partition p).info =
      ((concorddHandleFrame env self b n).state.partition p).info := by
  rw [handleFrame_of_touchpadDisplay h]
  unfold concorddHandleTouchpadDisplay
  split
  · rfl
  · next q hq =>
    have hn := hfit.1 h (by rw [getPartition_eq_some hq]; exact q.isLt)
    dsimp only
    rw [List.foldl_cons, overrun_eq_nil hn.2, write_nil]
    split
    · next hsame =>
      refine (setPartition_keeps self (·.info) ?_ p).symm
      obtain ⟨hlen, hbytes, -⟩ := hsame
      have hcopy := copyFrom_of_sameBytes hbytes
      have hlen' : UInt8.ofInt (n - 5) = (self.partition q).encodedTouchpadTextLen := by
        rw [hlen, ofInt_toNat]
      simp [ConcorddPartition.info, ConcorddPartition.touchpadText, hcopy, hlen']
    · refine setPartition_hear hf ?_
      simp [PartitionInfo.copy, ConcorddPartition.info,
        show concorddPartitionTouchpadTextChanged ≠ 0 by decide,
        show concorddPartitionTouchpadTextChanged &&& concorddPartitionArmLevelChanged = 0 by
          decide,
        show concorddPartitionTouchpadTextChanged &&& concorddPartitionProgrammingModeChanged = 0 by
          decide,
        show changedBits concorddPartitionTouchpadTextChanged = 0 by decide, copyBits_none]

theorem handleFrame_level_hear (h : IsSubcmd b .level)
    (hf : self.callbacks.partitionInfoChangedFunc = true) :
    (concorddHandleFrame env self b n).out.foldl (partitionHear p) (self.partition p).info =
      ((concorddHandleFrame env self b n).state.partition p).info := by
  rw [handleFrame_of_level h]
  unfold concorddHandleLevel
  split
  · rfl
  · exact setPartition_hear hf (copy_armLevel _ rfl rfl rfl)

theorem handleFrame_partitionData_hear (h : IsPta b .equipListPartitionData)
    (hf : self.callbacks.partitionInfoChangedFunc = true) :
    (concorddHandleFrame env self b n).out.foldl (partitionHear p) (self.partition p).info =
      ((concorddHandleFrame env self b n).state.partition p).info := by
  rw [handleFrame_of_equipListPartitionData h]
  unfold concorddHandleEquipListPartitionData
  split
  · rfl
  · dsimp only
    split
    · exact setPartition_hear hf (copy_armLevel _ rfl rfl rfl)
    · next hsame =>
      refine (setPartition_keeps self (·.info) ?_ p).symm
      simp only [ConcorddPartition.info, ← not_not.mp hsame]
      rfl

theorem handleFrame_featureState_hear (h : IsSubcmd b .featureState)
    (hf : self.callbacks.partitionInfoChangedFunc = true) :
    (concorddHandleFrame env self b n).out.foldl (partitionHear p) (self.partition p).info =
      ((concorddHandleFrame env self b n).state.partition p).info := by
  rw [handleFrame_of_featureState h]
  unfold concorddHandleFeatureState
  split
  · rfl
  · dsimp only
    split
    · exact setPartition_hear hf (copy_features _ _ _)
    · next hsame =>
      refine (setPartition_keeps self (·.info) ?_ p).symm
      simp only [ConcorddPartition.info, UInt8.xor_eq_zero_iff.mp (not_not.mp hsame)]
      rfl

/-- The other frames call nothing that a client of a partition copies from. -/
theorem handleFrame_other_hear_partition (htouchpad : ¬ IsSubcmd b .touchpadDisplay)
    (hlevel : ¬ IsSubcmd b .level) (hfeature : ¬ IsSubcmd b .featureState)
    (hdata : ¬ IsPta b .equipListPartitionData) :
    (concorddHandleFrame env self b n).out.foldl (partitionHear p) held = held := by
  by_cases hsetup : IsSubcmd b .sirenSetup
  · rw [handleFrame_of_sirenSetup hsetup]
    unfold concorddHandleSirenSetup
    split
    · rfl
    · dsimp only
      split
      · exact siren_hear (.tail _ (.head _))
      · rfl
  by_cases hstop : IsSubcmd b .sirenStop
  · rw [handleFrame_of_sirenStop hstop]
    unfold concorddHandleSirenStop
    split
    · rfl
    · exact siren_hear (.head _)
  by_cases hgo : IsSubcmd b .sirenGo
  · rw [handleFrame_of_sirenGo hgo]
    unfold concorddHandleSirenGo
    split
    · rfl
    · dsimp only
      split
      · exact siren_hear (.tail _ (.head _))
      · rfl
  · apply foldl_hear_eq
    intro e he t
    have hcall := handleFrame_calls env self b n e he
    cases e with
    | partitionInfoChanged q partition changed =>
      rcases hcall with h | h | h | h | h | h | h
      · exact (hdata h).elim
      · exact (hsetup h).elim
      · exact (hstop h).elim
      · exact (hgo h).elim
      · exact (htouchpad h).elim
      · exact (hlevel h).elim
      · exact (hfeature h).elim
    | _ => rfl

theorem PartitionUpdate.info_eq (h : PartitionUpdate env b n p old new)
    (htouchpad : ¬ IsSubcmd b .touchpadDisplay) (hlevel : ¬ IsSubcmd b .level)
    (hfeature : ¬ IsSubcmd b .featureState) (hdata : ¬ IsPta b .equipListPartitionData) :
    new.info = { old.info with programmingMode := new.programmingMode } := by
  cases h with
  | touchpadDisplay hc => exact (htouchpad hc).elim
  | level hc => exact (hlevel hc).elim
  | featureState hc => exact (hfeature hc).elim
  | partitionData hc => exact (hdata hc).elim
  | _ => rfl

/-- The client misses what the other frames do to programming mode. -/
theorem handleFrame_other_mirror (hfit : CopiesFit b n) (htouchpad : ¬ IsSubcmd b .touchpadDisplay)
    (hlevel : ¬ IsSubcmd b .level) (hfeature : ¬ IsSubcmd b .featureState)
    (hdata : ¬ IsPta b .equipListPartitionData) :
    (concorddHandleFrame env self b n).out.foldl (partitionHear p) (self.partition p).info =
      ((concorddHandleFrame env self b n).state.partition p).info ↔
        ¬ TurnsProgramming p self b := by
  rw [handleFrame_other_hear_partition htouchpad hlevel hfeature hdata,
    (handleFrame_partition env self hfit p).info_eq htouchpad hlevel hfeature hdata,
    handleFrame_programmingMode]
  simp only [TurnsProgramming]
  cases hr : programmingReport p b with
  | none => simp [ConcorddPartition.info]
  | some programming => simp [ConcorddPartition.info, eq_comm]

theorem not_turnsProgramming (h : ¬ IsSubcmd b .alarmTrouble) : ¬ TurnsProgramming p self b := by
  rintro ⟨programming, hp, -⟩
  rw [programmingReport, if_neg fun hall => h hall.1] at hp
  cases hp

theorem partition_mirrors (p : Fin 8) :
    Mirrors (partitionHear p) (fun self => (self.partition p).info) (·.partitionInfoChangedFunc)
      (fun _ b n => CopiesFit b n) (TurnsProgramming p) where
  link _ _ := rfl
  rest _ _ _ := rfl
  deactivate _ := rfl
  queue _ _ _ := Iff.rfl
  guard _ _ _ _ := id
  frame env self b n hf hfit := by
    have halarm : ∀ {c}, IsSubcmd b c → c ≠ .alarmTrouble → ¬ TurnsProgramming p self b :=
      fun h hc => not_turnsProgramming fun h' => hc (h.2.symm.trans h'.2)
    by_cases htouchpad : IsSubcmd b .touchpadDisplay
    · exact iff_of_true (handleFrame_touchpad_hear htouchpad hf hfit)
        (halarm htouchpad (by decide))
    by_cases hlevel : IsSubcmd b .level
    · exact iff_of_true (handleFrame_level_hear hlevel hf) (halarm hlevel (by decide))
    by_cases hfeature : IsSubcmd b .featureState
    · exact iff_of_true (handleFrame_featureState_hear hfeature hf) (halarm hfeature (by decide))
    by_cases hdata : IsPta b .equipListPartitionData
    · refine iff_of_true (handleFrame_partitionData_hear hdata hf) (not_turnsProgramming ?_)
      intro h
      cases hdata.symm.trans h.1
    · exact handleFrame_other_mirror hfit htouchpad hlevel hfeature hdata

/-! Runs. -/

/-- No frame of the step turns the programming of partition `p` on or off. -/
def KeepsProgramming (p : Fin 8) : Daemon → DaemonStep → Prop :=
  FramesMeet fun s b _ => ¬ TurnsProgramming p s.inst b

instance (p : Fin 8) (s : Daemon) (i : DaemonStep) : Decidable (KeepsProgramming p s i) :=
  inferInstanceAs (Decidable (FramesMeet _ s i))

/-- From any state on, and as long as every text fits, a client that starts from what the partition
has stored holds it after every step, exactly if no frame turns its programming on or off. -/
theorem partition_mirrored_iff (p : Fin 8) (s : Daemon) (steps : List DaemonStep)
    (hf : s.inst.callbacks.partitionInfoChangedFunc = true)
    (hk : daemonMachine.Along (fun _ i => i.Keeps (·.partitionInfoChangedFunc)) s steps)
    (hfit : daemonMachine.Along FramesFit s steps) :
    ((listener (partitionHear p)).watch daemonMachine).Always (PartitionMirrored p)
        (s, (s.inst.partition p).info) steps ↔
      daemonMachine.Along (KeepsProgramming p) s steps := by
  rw [← Monitor.watch_along (m := listener (partitionHear p)) (t := (s.inst.partition p).info)]
  refine Machine.always_iff_of_inv
    (I := fun s => PartitionMirrored p s ∧ s.1.inst.callbacks.partitionInfoChangedFunc = true)
    (fun s h => h.1) (fun s i h hd => (partition_mirrors p).step_iff h.1 h.2 hd.2) ?_ ⟨rfl, hf⟩
    (Monitor.watch_along.mpr (Machine.along_and.mpr ⟨hk, hfit⟩))
  rintro s i ⟨ht, hf⟩ ⟨hk, hfit⟩ hp
  exact ⟨((partition_mirrors p).step_iff ht hf hfit).mpr hp, step_callbacks _ hf hk⟩

/-- A client is told of the changes of the partitions. -/
def watchedPartition : Daemon :=
  daemonMachine.run (daemonInit ⟨1, .ok⟩) [.install { partitionInfoChangedFunc := true }]

/-- `LEVEL` for partition 1, with level 2. -/
def levelFrame : Buffer := fun k =>
  if k = 0 then 0x22 else if k = 1 then 0x01 else if k = 2 then 1 else if k = 6 then 2 else 0

/-- `ALARM_TROUBLE` for partition 1, the event that begins its programming. -/
def programmingFrame : Buffer := fun k =>
  if k = 0 then 0x22 else if k = 1 then 0x02 else if k = 2 then 1 else if k = 8 then 17 else 0

theorem partition_mirrored_level :
    ((listener (partitionHear 1)).watch daemonMachine).Always (PartitionMirrored 1)
      (watchedPartition, (watchedPartition.inst.partition 1).info) [.frame levelFrame 7] :=
  (partition_mirrored_iff 1 watchedPartition _ rfl (by exact ⟨trivial, trivial⟩)
    (by decide +kernel)).mpr (by decide +kernel)

theorem programming_missed :
    ¬ ((listener (partitionHear 1)).watch daemonMachine).Always (PartitionMirrored 1)
      (watchedPartition, (watchedPartition.inst.partition 1).info)
      [.frame programmingFrame 12] := by
  decide +kernel

end Concordd
