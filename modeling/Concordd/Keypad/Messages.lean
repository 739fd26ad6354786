import Concordd.Keypad.Emulator
import Concordd.Instance.PartitionMirror

/-! What the signals of a step make of what the keypad emulator keeps. -/
namespace Concordd

/-- The touchpad, with the fields whose flag is set taken from the partition. -/
def Touchpad.copy (before : UInt8) (touchpad : Touchpad) (partition : ConcorddPartition)
    (changed : UInt32) : Touchpad where
  touchpadText :=
    if changed &&& concorddPartitionTouchpadTextChanged ≠ 0 then
      (partition.touchpad before).touchpadText
    else touchpad.touchpadText
  touchpadArmlevel :=
    if changed &&& concorddPartitionArmLevelChanged ≠ 0 then
      (partition.touchpad before).touchpadArmlevel
    else touchpad.touchpadArmlevel
  touchpadSirenRepeat :=
    if changed &&& concorddPartitionSirenRepeatChanged ≠ 0 then
      (partition.touchpad before).touchpadSirenRepeat
    else touchpad.touchpadSirenRepeat
  touchpadSirenCadence :=
    if changed &&& concorddPartitionSirenCadenceChanged ≠ 0 then
      (partition.touchpad before).touchpadSirenCadence
    else touchpad.touchpadSirenCadence

/-- The five flags of a zone are those of its status bits. -/
structure ZoneData.Shows (data : ZoneData) (bits : UInt8) : Prop where
  isTripped : data.isTripped = decide (bits &&& geRs232ZoneStatusTripped ≠ 0)
  isFault : data.isFault = decide (bits &&& geRs232ZoneStatusFault ≠ 0)
  isAlarm : data.isAlarm = decide (bits &&& geRs232ZoneStatusAlarm ≠ 0)
  isTrouble : data.isTrouble = decide (bits &&& geRs232ZoneStatusTrouble ≠ 0)
  isBypassed : data.isBypassed = decide (bits &&& geRs232ZoneStatusBypassed ≠ 0)

/-- The entry of `gZoneData` for a zone of the table. -/
def zoneEntry (z : Fin 96) : Fin 100 := Fin.castLE (by decide) z

/-- What the emulator shows of a partition and of the zones, if nothing is overrun. -/
structure Emulator.Follows (emulator : Emulator) (touchpad : Touchpad) (bits : Fin 96 → UInt8) :
    Prop where
  touchpad : emulator.touchpad = touchpad
  zones : ∀ z, z ≠ 0 → (emulator.zoneData (zoneEntry z)).Shows (bits z)

/-- A client of partition `p`, as the emulator is if no text is too long. -/
def touchpadHear (before : UInt8) (p : Fin 8) (touchpad : Touchpad) : InstanceEvent → Touchpad
  | .partitionInfoChanged i partition changed =>
    if i = p then touchpad.copy before partition changed else touchpad
  | _ => touchpad

/-- A call that makes the emulator copy a text that does not fit. -/
def Overruns (before : UInt8) (p : Fin 8) : InstanceEvent → Prop
  | .partitionInfoChanged i partition changed =>
    i = p ∧ changed &&& concorddPartitionTouchpadTextChanged ≠ 0 ∧ ¬ FitsTouchpad before partition
  | _ => False

variable {before : UInt8} {p i : Fin 8} {now : ℤ} {partition : ConcorddPartition}
  {zone : ConcorddZone} {self : Emulator} {touchpad : Touchpad} {data : ZoneData} {held : UInt8}
  {changed : UInt32} {entry : UInt32 × DbusKey × DbusValue} {inst : ConcorddInstance}
  {entries : List (UInt32 × DbusKey × DbusValue)} {bits : Fin 96 → UInt8} {e : InstanceEvent}

/-! The messages of a call. -/

@[simp] theorem handleMessages_none (messages : List DbusSignal) :
    handleMessages p now none messages = none := by
  induction messages with
  | nil => rfl
  | cons message messages ih => exact ih

@[simp] theorem handleMessages_nil (self : Option Emulator) : handleMessages p now self [] = self :=
  rfl

theorem handleMessages_append (self : Option Emulator) (messages rest : List DbusSignal) :
    handleMessages p now self (messages ++ rest) =
      handleMessages p now (handleMessages p now self messages) rest := List.foldl_append ..

theorem handleMessages_single (self : Emulator) (message : DbusSignal) :
    handleMessages p now (some self) [message] = dbusInfoChangedHandler p now self message := rfl

theorem touchpad_copy_none : touchpad.copy before partition 0 = touchpad := by
  simp [Touchpad.copy]

/-- What a change of the partition makes the touchpad. -/
theorem partition_handled :
    handleMessages p now (some self)
        (concorddDbusPartitionInfoChangedFunc before i partition changed) =
      if i = p then
        if changed &&& concorddPartitionTouchpadTextChanged ≠ 0 ∧ ¬ FitsTouchpad before partition
        then none
        else some { self with touchpad := self.touchpad.copy before partition changed }
      else some self := by
  unfold concorddDbusPartitionInfoChangedFunc changedSignal
  by_cases hchanged : changed = 0
  · subst hchanged
    rw [if_pos rfl, handleMessages_nil, touchpad_copy_none]
    simp
  have hencoded : DbusValue.ofEncoded before partition.encodedTouchpadText
      partition.encodedTouchpadTextLen = .string (partition.touchpadAscii before) := rfl
  rw [if_neg hchanged, handleMessages_single, handler_partition]
  congr 1
  simp only [update_cons, hencoded, Touchpad.entry, strcpy_touchpadText, strcpy_sirenCadence,
    DbusValue.ofByte, DbusValue.ofWide, ofInt_bmod, ofInt_byte, DbusValue.ofUser, DbusValue.ofBits,
    ite_self, Option.bind_some, Option.map_some]
  have hend : ∀ t, touchpadDisplayUpdate t (changedDict changed []) = some t := fun _ => rfl
  by_cases htext : changed &&& concorddPartitionTouchpadTextChanged = 0
  · by_cases hrepeat : changed &&& concorddPartitionSirenRepeatChanged = 0 <;>
      by_cases hcadence : changed &&& concorddPartitionSirenCadenceChanged = 0 <;>
      by_cases hlevel : changed &&& concorddPartitionArmLevelChanged = 0 <;>
      simp [htext, hrepeat, hcadence, hlevel, hend, Touchpad.copy, ConcorddPartition.touchpad]
  by_cases hfits : FitsTouchpad before partition
  · by_cases hrepeat : changed &&& concorddPartitionSirenRepeatChanged = 0 <;>
      by_cases hcadence : changed &&& concorddPartitionSirenCadenceChanged = 0 <;>
      by_cases hlevel : changed &&& concorddPartitionArmLevelChanged = 0 <;>
      simp [htext, hfits, hrepeat, hcadence, hlevel, hend, Touchpad.copy,
        ConcorddPartition.touchpad]
  · simp [htext, hfits]

/-! The flags of a zone. -/

theorem and_bit_ne {x f : UInt8} {k : ℕ} (hf : f.toNat = 2 ^ k) :
    x &&& f ≠ 0 ↔ x.toNat.testBit k = true := by
  have hpow : 2 ^ k ≠ 0 := by positivity
  rw [Ne, ← UInt8.toNat_inj, UInt8.toNat_and, hf, Nat.and_two_pow]
  cases x.toNat.testBit k <;> simp

/-- The flag of a status bit is the same bit of the second byte. -/
theorem and_bitChanged {f : UInt8} {k : ℕ} (hf : f.toNat = 2 ^ k) :
    changed &&& bitChanged f ≠ 0 ↔ (changedBits changed).toNat.testBit k = true := by
  have hlt := f.toNat_lt
  have hk : k < 8 := (Nat.pow_lt_pow_iff_right one_lt_two).mp (hf ▸ hlt)
  have hflag : (bitChanged f).toNat = 2 ^ (k + 8) := by
    simp [bitChanged, Nat.shiftLeft_eq, hf, pow_add]
    omega
  have hpow : 2 ^ (k + 8) ≠ 0 := by positivity
  have hbit : (changedBits changed).toNat.testBit k = changed.toNat.testBit (k + 8) := by
    have hbyte : (changedBits changed).toNat = changed.toNat >>> 8 % 2 ^ 8 := by simp [changedBits]
    rw [hbyte, Nat.testBit_mod_two_pow, Nat.testBit_shiftRight, decide_eq_true hk, Bool.true_and,
      add_comm]
  rw [Ne, ← UInt32.toNat_inj, UInt32.toNat_and, hflag, Nat.and_two_pow, hbit]
  cases changed.toNat.testBit (k + 8) <;> simp

theorem copyBits_bit (mask held stored : UInt8) {f : UInt8} {k : ℕ} (hf : f.toNat = 2 ^ k) :
    copyBits mask held stored &&& f ≠ 0 ↔
      if mask.toNat.testBit k then stored &&& f ≠ 0 else held &&& f ≠ 0 := by
  have hlt := f.toNat_lt
  have hk : k < 8 := (Nat.pow_lt_pow_iff_right one_lt_two).mp (hf ▸ hlt)
  have hnot : (~~~mask).toNat.testBit k = !mask.toNat.testBit k := by
    rw [← UInt8.toNat_toBitVec, UInt8.toBitVec_not, BitVec.testBit_toNat, BitVec.getLsbD_not,
      decide_eq_true hk, Bool.true_and, ← BitVec.testBit_toNat]
    rfl
  rw [and_bit_ne hf, and_bit_ne hf, and_bit_ne hf, copyBits, UInt8.toNat_or, UInt8.toNat_and,
    UInt8.toNat_and, Nat.testBit_or, Nat.testBit_and, Nat.testBit_and, hnot]
  cases mask.toNat.testBit k <;> simp

/-- What a message says of a status bit. -/
theorem flag_copied {f stored : UInt8} {b : Bool} {k : ℕ} (hf : f.toNat = 2 ^ k)
    (hmask : zoneStatusMask.toNat.testBit k = true) (hb : b = decide (held &&& f ≠ 0)) :
    (if changed &&& bitChanged f ≠ 0 then decide (stored &&& f = f) else b) =
      decide (copyBits (changedBits changed &&& zoneStatusMask) held stored &&& f ≠ 0) := by
  have hbits := copyBits_bit (changedBits changed &&& zoneStatusMask) held stored hf
  have hall := DbusValue.boolean.inj (ofAllBits_eq stored f k hf)
  rw [UInt8.toNat_and, Nat.testBit_and, hmask, Bool.and_true] at hbits
  by_cases hset : (changedBits changed).toNat.testBit k = true
  · rw [if_pos ((and_bitChanged hf).mpr hset), hall]
    rw [if_pos hset] at hbits
    exact (decide_eq_decide.mpr hbits).symm
  · rw [if_neg ((and_bitChanged hf).not.mpr hset), hb]
    rw [if_neg hset] at hbits
    exact (decide_eq_decide.mpr hbits).symm

theorem foldl_changed_cons : (changedDict changed (entry :: entries)).foldl ZoneData.entry data =
    (changedDict changed entries).foldl ZoneData.entry
      (if changed &&& entry.1 ≠ 0 then data.entry entry.2 else data) := by
  unfold changedDict
  rw [List.filterMap_cons]
  by_cases h : changed &&& entry.1 ≠ 0
  · simp [h]
  · simp [h]

theorem updateZone_entry {z : Fin 96} (hz : z ≠ 0) (dict : DbusDict) :
    updateZone now self z.val dict =
      { self with
        zoneData := Function.update self.zoneData (zoneEntry z)
          ((self.zoneData (zoneEntry z)).update now dict) } := by
  have hrange : ¬ ((z.val : ℤ) < 1 ∨ 96 < (z.val : ℤ)) := by
    have hpos := Fin.pos_iff_ne_zero.mpr hz
    omega
  have hentry : Fin.ofNat 100 z.val = zoneEntry z := by
    apply Fin.ext
    have hlt := z.isLt
    simp only [zoneEntry, Fin.ofNat, Fin.val_castLE]
    omega
  rw [updateZone, if_neg hrange]
  dsimp only
  rw [Int.toNat_natCast, hentry]

/-- What a change of the zone makes its entry. -/
theorem zone_handled (before : UInt8) (p : Fin 8) (now : ℤ) (zone : ConcorddZone)
    (changed : UInt32) (z : Fin 96) (h : (self.zoneData (zoneEntry z)).Shows held) (hz : z ≠ 0) :
    ∃ data : ZoneData, data.Shows
        (copyBits (changedBits changed &&& zoneStatusMask) held zone.zoneState) ∧
      handleMessages p now (some self) (concorddDbusZoneInfoChangedFunc before z zone changed) =
        some { self with zoneData := Function.update self.zoneData (zoneEntry z) data } := by
  unfold concorddDbusZoneInfoChangedFunc changedSignal
  by_cases hchanged : changed = 0
  · subst hchanged
    refine ⟨self.zoneData (zoneEntry z), ?_, ?_⟩
    · rw [show changedBits 0 &&& zoneStatusMask = 0 from rfl, copyBits_none]
      exact h
    · rw [if_pos rfl, handleMessages_nil, Function.update_eq_self]
  · rw [if_neg hchanged, handleMessages_single, handler_zone, updateZone_entry hz]
    refine ⟨_, ?_, rfl⟩
    simp only [ZoneData.update, foldl_changed_cons, ZoneData.entry, DbusValue.ofByte,
      DbusValue.ofWide, DbusValue.ofAllBits, DbusValue.ofEncoded, ite_self]
    have hend : ∀ d, (changedDict changed []).foldl ZoneData.entry d = d := fun _ => rfl
    rw [hend]
    constructor
    · simp only [apply_ite ZoneData.isTripped, ite_self]
      exact flag_copied (k := 0) rfl (by decide) h.isTripped
    · simp only [apply_ite ZoneData.isFault, ite_self]
      exact flag_copied (k := 1) rfl (by decide) h.isFault
    · simp only [apply_ite ZoneData.isAlarm, ite_self]
      exact flag_copied (k := 2) rfl (by decide) h.isAlarm
    · simp only [apply_ite ZoneData.isTrouble, ite_self]
      exact flag_copied (k := 3) rfl (by decide) h.isTrouble
    · simp only [apply_ite ZoneData.isBypassed, ite_self]
      exact flag_copied (k := 4) rfl (by decide) h.isBypassed

/-- The first entry of `gZoneData` is not used. -/
theorem zone_zero_handled : handleMessages p now (some self)
    (concorddDbusZoneInfoChangedFunc before 0 zone changed) = some self := by
  unfold concorddDbusZoneInfoChangedFunc changedSignal
  split
  · rfl
  · rw [handleMessages_single, handler_zone]
    rfl

theorem zoneEntry_injective : Function.Injective zoneEntry := Fin.castLE_injective (by decide)

/-! One call, and all calls of a step. -/

theorem other_handled {o : DbusObject} (ho : o.Printable) (hpartition : o ≠ .partition p.val)
    (hzone : strhasprefix o.path concorddDbusPathZone = false) :
    handleMessages p now (some self) (changedSignal o changed entries) = some self := by
  unfold changedSignal
  split
  · rfl
  · exact (handleMessages_single _ _).trans (handler_other ho hpartition hzone _ _)

/-- The name of a signal is looked at first. -/
theorem member_handled {signal : DbusSignal} (h : signal.member ≠ .changed) :
    handleMessages p now (some self) [signal] = some self :=
  (handleMessages_single _ _).trans (if_pos h)

theorem call_followed (now : ℤ) (inst : ConcorddInstance) (h : self.Follows touchpad bits)
    (he : ¬ Overruns before p e) :
    ∃ self', handleMessages p now (some self) (dbusSignals before inst e) = some self' ∧
      self'.Follows (touchpadHear before p touchpad e) fun z => zoneHear z (bits z) e := by
  cases e with
  | partitionInfoChanged i partition changed =>
    simp only [dbusSignals, partition_handled, touchpadHear]
    by_cases hi : i = p
    · rw [if_pos hi, if_pos hi, if_neg fun hover => he ⟨hi, hover⟩]
      refine ⟨_, rfl, ?_, h.zones⟩
      rw [h.touchpad]
    · rw [if_neg hi, if_neg hi]
      exact ⟨self, rfl, h⟩
  | zoneInfoChanged y zone changed =>
    simp only [dbusSignals]
    by_cases hy : y = 0
    · subst hy
      refine ⟨self, zone_zero_handled, h.touchpad, ?_⟩
      intro z hz
      simp only [zoneHear]
      rw [if_neg (Ne.symm hz)]
      exact h.zones z hz
    · obtain ⟨data, hdata, hhandled⟩ := zone_handled before p now zone changed y
        (h.zones y hy) hy
      refine ⟨_, hhandled, h.touchpad, ?_⟩
      intro z hz
      simp only [zoneHear]
      by_cases hyz : y = z
      · subst hyz
        rw [if_pos rfl, Function.update_self]
        exact hdata
      · rw [if_neg hyz, Function.update_of_ne fun heq => hyz (zoneEntry_injective heq).symm]
        exact h.zones z hz
  | instanceInfoChanged changed =>
    exact ⟨self, other_handled (o := .system) trivial (nomatch ·) system_kinds.zone, h⟩
  | lightInfoChanged i j light changed =>
    exact ⟨self, other_handled (o := .light i.val j.val)
      ⟨isInt_fin i (by decide), isInt_fin j (by decide)⟩ (nomatch ·) (light_kinds _ _).zone, h⟩
  | outputInfoChanged i output changed =>
    exact ⟨self, other_handled (o := .output i.val) (isInt_fin i (by decide)) (nomatch ·)
      (output_kinds _).zone, h⟩
  | sirenSync => exact ⟨self, member_handled (by decide), h⟩
  | event event => exact ⟨self, member_handled (eventSignal_member event), h⟩
  | link | copy | strayDevice => exact ⟨self, rfl, h⟩

theorem call_overrun (he : Overruns before p e) :
    handleMessages p now (some self) (dbusSignals before inst e) = none := by
  cases e with
  | partitionInfoChanged i partition changed =>
    obtain ⟨hi, hover⟩ := he
    simp only [dbusSignals, partition_handled]
    rw [if_pos hi, if_pos hover]
  | _ => exact he.elim

theorem calls_followed (h : self.Follows touchpad bits) {out : List InstanceEvent}
    (hout : ∀ e ∈ out, ¬ Overruns before p e) :
    ∃ self', handleMessages p now (some self) (out.flatMap (dbusSignals before inst)) = some self' ∧
      self'.Follows (out.foldl (touchpadHear before p) touchpad)
        fun z => out.foldl (zoneHear z) (bits z) := by
  induction out generalizing self touchpad bits with
  | nil => exact ⟨self, rfl, h⟩
  | cons e out ih =>
    obtain ⟨self', hself', hfollows⟩ := call_followed now inst h
      (hout e List.mem_cons_self)
    rw [List.flatMap_cons, handleMessages_append, hself']
    exact ih hfollows fun e he => hout e (List.mem_cons_of_mem _ he)

theorem calls_overrun (h : self.Follows touchpad bits) {out : List InstanceEvent}
    (hout : ∃ e ∈ out, Overruns before p e) :
    handleMessages p now (some self) (out.flatMap (dbusSignals before inst)) = none := by
  induction out generalizing self touchpad bits with
  | nil => simp at hout
  | cons e out ih =>
    rw [List.flatMap_cons, handleMessages_append]
    by_cases he : Overruns before p e
    · rw [call_overrun he, handleMessages_none]
    · obtain ⟨self', hself', hfollows⟩ := call_followed now inst h he
      rw [hself']
      refine ih hfollows ?_
      obtain ⟨e', hmem, he'⟩ := hout
      rcases List.mem_cons.mp hmem with rfl | hmem
      · exact (he he').elim
      · exact ⟨e', hmem, he'⟩

end Concordd
