import Concordd.Dbus.Signals

/-! The keypad emulator: what it keeps of a partition and of the zones. -/
namespace Concordd

open Ascii

/-- `touchpad_text`, `touchpad_armlevel`, `touchpad_sirenRepeat` and `touchpad_sirenCadence`. No
text stands for one that is made of bytes past an array. -/
structure Touchpad where
  touchpadText : Option (List UInt8) := some []
  touchpadArmlevel : UInt32 := 0
  touchpadSirenRepeat : UInt32 := 0
  touchpadSirenCadence : List UInt8 := []
  deriving DecidableEq

/-- `struct zone_data_s`. -/
structure ZoneData where
  name : Option (List UInt8) := some []
  partitionId : ℤ := 0
  isTripped : Bool := false
  isFault : Bool := false
  isAlarm : Bool := false
  isTrouble : Bool := false
  isBypassed : Bool := false
  lastChangedAt : ℤ := 0
  deriving DecidableEq

/-- The globals of the emulator; `gZoneData` has 100 entries. -/
structure Emulator where
  touchpad : Touchpad := {}
  zoneData : Fin 100 → ZoneData := fun _ => {}
  deriving DecidableEq

/-- `strcpy` into an array of `size` bytes. Nothing is known of the program once it has written
past the end, or copied bytes that nobody knows. -/
def strcpy (size : ℕ) (src : Option (List UInt8)) : Option (List UInt8) :=
  src.filter fun str => str.length < size

/-! Dictionaries. -/

/-- The body of the loop in `touchpad_display_update`. -/
def Touchpad.entry (touchpad : Touchpad) : DbusKey × DbusValue → Option Touchpad
  | (.touchpadText, .string str) =>
    (strcpy 200 str).map fun text => { touchpad with touchpadText := some text }
  | (.armLevel, .int32 i) => some { touchpad with touchpadArmlevel := UInt32.ofInt i }
  | (.sirenRepeat, .int32 i) => some { touchpad with touchpadSirenRepeat := UInt32.ofInt i }
  | (.sirenCadence, .string str) =>
    (strcpy 33 str).map fun text => { touchpad with touchpadSirenCadence := text }
  | _ => some touchpad

def touchpadDisplayUpdate : Touchpad → DbusDict → Option Touchpad
  | touchpad, [] => some touchpad
  | touchpad, entry :: dict => (touchpad.entry entry).bind fun t => touchpadDisplayUpdate t dict

/-- The body of the loop in `update_zone`. -/
def ZoneData.entry (zone : ZoneData) : DbusKey × DbusValue → ZoneData
  | (.partitionId, .int32 i) => { zone with partitionId := i }
  | (.lastChangedAt, .int32 i) => { zone with lastChangedAt := i }
  | (.name, .string str) => { zone with name := str.map (List.take 199) }
  | (.isTripped, .boolean b) => { zone with isTripped := b }
  | (.isBypassed, .boolean b) => { zone with isBypassed := b }
  | (.isTrouble, .boolean b) => { zone with isTrouble := b }
  | (.isAlarm, .boolean b) => { zone with isAlarm := b }
  | (.isFault, .boolean b) => { zone with isFault := b }
  | _ => zone

def ZoneData.update (now : ℤ) (zone : ZoneData) (dict : DbusDict) : ZoneData :=
  dict.foldl ZoneData.entry { zone with lastChangedAt := now }

def updateZone (now : ℤ) (self : Emulator) (zoneId : ℤ) (dict : DbusDict) : Emulator :=
  if zoneId < 1 ∨ 96 < zoneId then self
  else
    let i := Fin.ofNat 100 zoneId.toNat
    { self with zoneData := Function.update self.zoneData i ((self.zoneData i).update now dict) }

/-! What is asked at the start, and what is heard after that. -/

/-- One turn of the loop in `refresh_zones`. A zone that does not answer is left as it is. -/
def refreshZone (before : UInt8) (inst : ConcorddInstance) (now : ℤ) (self : Emulator)
    (zoneId : ℕ) : Emulator :=
  match dbusGetInfo before inst (DbusObject.zone zoneId).path with
  | some dict => updateZone now self zoneId dict
  | none => self

def refreshZones (before : UInt8) (inst : ConcorddInstance) (now : ℤ) (self : Emulator) :
    Emulator :=
  (List.range' 1 96).foldl (refreshZone before inst now) self

/-- `refresh_touchpad`. -/
def refreshTouchpad (before : UInt8) (inst : ConcorddInstance) (gPartitionIndex : ℤ)
    (self : Emulator) : Option Emulator :=
  match dbusGetInfo before inst (DbusObject.partition gPartitionIndex).path with
  | some dict =>
    (touchpadDisplayUpdate self.touchpad dict).map fun touchpad => { self with touchpad }
  | none => some self

/-- `basename` of a path that is not all slashes. -/
def basename (path : List UInt8) : List UInt8 :=
  (path.rdropWhile fun c => c == 0x2F).rtakeWhile fun c => c != 0x2F

/-- `dbus_info_changed_handler`. -/
def dbusInfoChangedHandler (gPartitionIndex now : ℤ) (self : Emulator) (message : DbusSignal) :
    Option Emulator :=
  if message.member ≠ .changed then some self
  else if message.path = snprintf 100 (DbusObject.partition gPartitionIndex).path then
    (touchpadDisplayUpdate self.touchpad message.dict).map fun touchpad => { self with touchpad }
  else if strhasprefix message.path concorddDbusPathZone then
    some (updateZone now self (strtol10 (basename message.path)) message.dict)
  else some self

/-- The emulator as it enters its loop. -/
def emulatorInit (before : UInt8) (p : Fin 8) (s : Daemon) : Option Emulator :=
  refreshTouchpad before s.inst p (refreshZones before s.inst s.env.now {})

/-- The messages of a step, one after the other. -/
def handleMessages (gPartitionIndex now : ℤ) (self : Option Emulator) (messages : List DbusSignal) :
    Option Emulator :=
  messages.foldl
    (fun self message => self.bind fun e => dbusInfoChangedHandler gPartitionIndex now e message)
    self

/-- The daemon and an emulator that hears its signals. -/
def emulatorMachine (before : UInt8) (p : Fin 8) :
    Machine (Daemon × Option Emulator) DaemonStep DaemonEvent where
  step s i :=
    let r := daemonMachine.step s.1 i
    ((r.1, handleMessages p r.1.env.now s.2 (stepSignals before s.1 i)), r.2)

/-! What a partition has for the emulator to show. -/

/-- The text of the touchpad, unless it is made of bytes past an array. -/
def ConcorddPartition.touchpadAscii (before : UInt8) (partition : ConcorddPartition) :
    Option (List UInt8) :=
  if partition.encodedTouchpadTextLen.toNat ≤ 32 then
    textOf (geTextToAsciiOneLine before
      ((List.ofFn partition.encodedTouchpadText).take partition.encodedTouchpadTextLen.toNat))
  else none

def ConcorddPartition.touchpad (before : UInt8) (partition : ConcorddPartition) : Touchpad where
  touchpadText := partition.touchpadAscii before
  touchpadArmlevel := partition.armLevel.toUInt32
  touchpadSirenRepeat := partition.sirenRepeat
  touchpadSirenCadence := sirenCadenceText partition.sirenCadence

/-- The text of the partition fits `touchpad_text`. -/
def FitsTouchpad (before : UInt8) (partition : ConcorddPartition) : Prop :=
  ∃ text ∈ partition.touchpadAscii before, text.length < 200

instance (before : UInt8) (partition : ConcorddPartition) :
    Decidable (FitsTouchpad before partition) :=
  inferInstanceAs (Decidable (∃ _ ∈ _, _))

variable {before : UInt8} {p i : Fin 8} {now : ℤ} {partition : ConcorddPartition}
  {self : Emulator} {touchpad : Touchpad} {changed : UInt32} {dict : DbusDict}
  {entry : UInt32 × DbusKey × DbusValue} {entries : List (UInt32 × DbusKey × DbusValue)}
  {o : DbusObject}

/-! Dictionaries. -/

theorem strcpy_touchpadText : (strcpy 200 (partition.touchpadAscii before)).map (fun text =>
    { touchpad with touchpadText := some text }) =
      if FitsTouchpad before partition then
        some { touchpad with touchpadText := partition.touchpadAscii before }
      else none := by
  by_cases hfits : FitsTouchpad before partition
  · obtain ⟨text, htext, hlen⟩ := id hfits
    rw [if_pos hfits, Option.mem_def.mp htext]
    simp [strcpy, hlen]
  · rw [if_neg hfits, Option.map_eq_none_iff, strcpy, Option.filter_eq_none_iff]
    intro text htext hlen
    exact hfits ⟨text, htext, of_decide_eq_true hlen⟩

theorem strcpy_sirenCadence (cadence : UInt32) :
    strcpy 33 (some (sirenCadenceText cadence)) = some (sirenCadenceText cadence) := by
  simp [strcpy, sirenCadenceText]

/-- A number of 32 bits survives the way through a signed one. -/
theorem ofInt_bmod (n : UInt32) : UInt32.ofInt ((n.toNat : ℤ).bmod (2 ^ 32)) = n := by
  apply UInt32.toNat_inj.mp
  have hlt := n.toNat_lt
  have hbmod := @Int.bmod_emod n.toNat 4294967296
  have hmod : ((n.toNat : ℤ).bmod 4294967296) % 4294967296 = n.toNat := by omega
  simp [UInt32.ofInt, hmod]

theorem ofInt_byte (byte : UInt8) : UInt32.ofInt byte.toNat = byte.toUInt32 := by
  apply UInt32.toNat_inj.mp
  have hlt := byte.toNat_lt
  have hmod : (byte.toNat : ℤ) % 4294967296 = byte.toNat := by omega
  simp [UInt32.ofInt, hmod]

theorem update_cons : touchpadDisplayUpdate touchpad (changedDict changed (entry :: entries)) =
    (if changed &&& entry.1 ≠ 0 then touchpad.entry entry.2 else some touchpad).bind fun t =>
      touchpadDisplayUpdate t (changedDict changed entries) := by
  unfold changedDict
  rw [List.filterMap_cons]
  by_cases h : changed &&& entry.1 ≠ 0
  · simp [h, touchpadDisplayUpdate]
  · simp [h]

theorem update_info (hfits : FitsTouchpad before partition) :
    touchpadDisplayUpdate touchpad (partitionInfo before partition) =
      some (partition.touchpad before) := by
  have hencoded : DbusValue.ofEncoded before partition.encodedTouchpadText
      partition.encodedTouchpadTextLen = .string (partition.touchpadAscii before) := rfl
  simp only [partitionInfo, hencoded, touchpadDisplayUpdate, Touchpad.entry, strcpy_touchpadText,
    if_pos hfits, strcpy_sirenCadence, DbusValue.ofByte, DbusValue.ofWide, ofInt_bmod, ofInt_byte,
    Option.map_some, Option.bind_some]
  rfl

/-! Messages. -/

theorem basename_append {pre s : List UInt8} (hne : s ≠ []) (hs : 0x2F ∉ s) :
    basename (pre ++ 0x2F :: s) = s := by
  have hkeep : (pre ++ 0x2F :: s).rdropWhile (fun c => c == 0x2F) = pre ++ 0x2F :: s := by
    rw [List.rdropWhile_eq_self_iff]
    intro hl
    rw [List.getLast_append_of_ne_nil _ (List.cons_ne_nil _ _), List.getLast_cons hne, beq_iff_eq]
    intro hlast
    exact hs (hlast ▸ List.getLast_mem hne)
  have hdigits : ∀ c ∈ s.reverse, (c != 0x2F) = true := by
    intro c hc
    rw [bne_iff_ne]
    rintro rfl
    exact hs (List.mem_reverse.mp hc)
  rw [basename, hkeep, List.rtakeWhile, List.reverse_append, List.reverse_cons, List.append_assoc,
    List.singleton_append, List.takeWhile_append_of_pos hdigits,
    List.takeWhile_cons_of_neg (by decide), List.append_nil, List.reverse_reverse]

theorem basename_zone (z : ℤ) : basename (DbusObject.zone z).path = decimalInt z := by
  obtain ⟨c, digits, hdigits, -⟩ := exists_decimalInt z
  have hpath : (DbusObject.zone z).path =
      concorddDbusPathRoot ++ cLiteral "/zone" ++ 0x2F :: decimalInt z := rfl
  rw [hpath]
  exact basename_append (by rw [hdigits]; exact List.cons_ne_nil _ _) (slash_notMem_decimalInt z)

theorem touchpadPath_fits (p : Fin 8) : snprintf 100 (DbusObject.partition p.val).path =
    (DbusObject.partition p.val).path := by
  apply snprintf_of_lt
  fin_cases p <;> decide

/-- Only the partition itself has its path. -/
theorem eq_partition_of_path (ho : o.Printable)
    (h : o.path = (DbusObject.partition p.val).path) : o = .partition p.val := by
  have hk := partition_kinds p.val
  rw [← h] at hk
  cases o with
  | system => exact absurd (system_kinds.partition.symm.trans hk.partition) (by decide)
  | output i => exact absurd ((output_kinds i).partition.symm.trans hk.partition) (by decide)
  | zone i => exact absurd ((zone_kinds i).partition.symm.trans hk.partition) (by decide)
  | partition i =>
    have hindex := congrArg concorddPartitionIndexFromDbusPath h
    rw [partition_partitionIndex ho, partition_partitionIndex (isInt_fin p (by decide))] at hindex
    rw [hindex]
  | light i l =>
    have hlight := light_isLight i l
    rw [h, partition_isLight] at hlight
    cases hlight

theorem handler_partition (dict : DbusDict) : dbusInfoChangedHandler p now self
    ⟨snprintf 120 (DbusObject.partition i.val).path, .changed, dict⟩ =
      if i = p then
        (touchpadDisplayUpdate self.touchpad dict).map fun touchpad => { self with touchpad }
      else some self := by
  have hi : IsInt (i.val : ℤ) := isInt_fin i (by decide)
  have hpath : (DbusObject.partition i.val).path = (DbusObject.partition p.val).path ↔ i = p := by
    constructor
    · intro h
      have heq := eq_partition_of_path (o := .partition i.val) hi h
      simpa [Fin.ext_iff] using heq
    · rintro rfl
      rfl
  simp [dbusInfoChangedHandler, path_fits (.partition i.val) hi, touchpadPath_fits, hpath,
    (partition_kinds i.val).zone]

theorem handler_zone (z : Fin 96) (dict : DbusDict) : dbusInfoChangedHandler p now self
    ⟨snprintf 120 (DbusObject.zone z.val).path, .changed, dict⟩ =
      some (updateZone now self z.val dict) := by
  have hz : IsInt (z.val : ℤ) := isInt_fin z (by decide)
  have hne : (DbusObject.zone z.val).path ≠ (DbusObject.partition p.val).path :=
    fun h => nomatch eq_partition_of_path (o := .zone z.val) hz h
  have hread := strtol10_decimalInt [] hz (by simp)
  rw [List.append_nil] at hread
  simp [dbusInfoChangedHandler, path_fits (.zone z.val) hz, touchpadPath_fits, hne,
    (zone_kinds z.val).zone, basename_zone, hread]

/-- Messages about other objects are left to other handlers. -/
theorem handler_other (ho : o.Printable) (hpartition : o ≠ .partition p.val)
    (hzone : strhasprefix o.path concorddDbusPathZone = false) (member : DbusMember)
    (dict : DbusDict) :
    dbusInfoChangedHandler p now self ⟨snprintf 120 o.path, member, dict⟩ = some self := by
  have hne : o.path ≠ (DbusObject.partition p.val).path :=
    fun h => hpartition (eq_partition_of_path ho h)
  simp [dbusInfoChangedHandler, path_fits o ho, touchpadPath_fits, hne, hzone]

end Concordd
