import Concordd.Library.LittleEndian
import Concordd.Instance.Store

/-! The tables of the instance as they lie in memory, for the writes that miss their own field:
a copy that overruns its array, or a device past the end of its table. Offsets are those of a
64-bit little-endian machine with a `time_t` of eight bytes. -/
namespace Concordd

open LittleEndian

/-- A `bool` in memory. C gives no meaning to a byte above one; here it reads as true. -/
def boolByte (b : Bool) : UInt8 := if b then 1 else 0

/-! One entry of each table: the byte at an offset, and the entry after its bytes have become `f`.
Of a partition, only what a touchpad text can reach: the fields before the lights, and those after
the text. -/

def ConcorddPartition.byte (partition : ConcorddPartition) (k : ℕ) : UInt8 :=
  if k = 0 then boolByte partition.active
  else if k = 1 then partition.armLevel
  else if k < 4 then LittleEndian.byte partition.armLevelUser.toNat (k - 2)
  else if h : 4 ≤ k ∧ k < 8 then partition.padding ⟨k - 4, by omega⟩
  else if k < 16 then byteInt partition.armLevelTimestamp (k - 8)
  else if k = 1675 then partition.encodedTouchpadTextLen
  else if h : 1676 ≤ k ∧ k < 1680 then partition.tailPadding ⟨k - 1676, by omega⟩
  else 0

def ConcorddPartition.ofBytes (partition : ConcorddPartition) (f : ℕ → UInt8) :
    ConcorddPartition :=
  { partition with
    active := f 0 ≠ 0
    armLevel := f 1
    armLevelUser := UInt16.ofNat (number (fun i => f (2 + i)) 2)
    padding := fun i => f (4 + i.val)
    armLevelTimestamp := replaceInt partition.armLevelTimestamp fun i => f (8 + i)
    encodedTouchpadTextLen := f 1675
    tailPadding := fun i => f (1676 + i.val) }

def ConcorddZone.byte (zone : ConcorddZone) (k : ℕ) : UInt8 :=
  if k = 0 then boolByte zone.active
  else if k = 1 then zone.partitionId
  else if k = 2 then zone.type
  else if k = 3 then zone.group
  else if k = 4 then zone.zoneState
  else if k = 5 then zone.lastKc
  else if h : 6 ≤ k ∧ k < 8 then zone.padding ⟨k - 6, by omega⟩
  else if k < 16 then byteInt zone.lastKcChangedAt (k - 8)
  else if k < 24 then byteInt zone.lastTrippedAt (k - 16)
  else if k < 32 then byteInt zone.lastChangedAt (k - 24)
  else if h : 32 ≤ k ∧ k < 48 then zone.encodedName ⟨k - 32, by omega⟩
  else if k = 48 then zone.encodedNameLen
  else 0

def ConcorddZone.ofBytes (zone : ConcorddZone) (f : ℕ → UInt8) : ConcorddZone where
  active := f 0 ≠ 0
  partitionId := f 1
  type := f 2
  group := f 3
  zoneState := f 4
  lastKc := f 5
  padding := fun i => f (6 + i.val)
  lastKcChangedAt := replaceInt zone.lastKcChangedAt fun i => f (8 + i)
  lastTrippedAt := replaceInt zone.lastTrippedAt fun i => f (16 + i)
  lastChangedAt := replaceInt zone.lastChangedAt fun i => f (24 + i)
  encodedName := fun i => f (32 + i.val)
  encodedNameLen := f 48

def ConcorddDevice.byte (device : ConcorddDevice) (k : ℕ) : UInt8 :=
  if k = 0 then boolByte device.active
  else if 4 ≤ k ∧ k < 8 then LittleEndian.byte device.deviceId.toNat (k - 4)
  else if k = 8 then device.deviceStatus
  else if 12 ≤ k ∧ k < 16 then LittleEndian.byte device.caps.toNat (k - 12)
  else if k = 16 then device.inputCount
  else if k = 17 then device.outputCount
  else 0

def ConcorddDevice.ofBytes (f : ℕ → UInt8) : ConcorddDevice where
  active := f 0 ≠ 0
  deviceId := UInt32.ofNat (number (fun i => f (4 + i)) 4)
  deviceStatus := f 8
  caps := UInt32.ofNat (number (fun i => f (12 + i)) 4)
  inputCount := f 16
  outputCount := f 17

def ConcorddOutput.byte (output : ConcorddOutput) (k : ℕ) : UInt8 :=
  if k = 0 then boolByte output.active
  else if k = 1 then output.partitionId
  else if k = 2 then output.outputState
  else if k = 3 then boolByte output.pulse
  else if k < 8 then LittleEndian.byte output.lastChangedBy.toNat (k - 4)
  else if k < 16 then byteInt output.lastChangedAt (k - 8)
  else if h : 16 ≤ k ∧ k < 21 then output.idBytes ⟨k - 16, by omega⟩
  else if h : 21 ≤ k ∧ k < 37 then output.encodedName ⟨k - 21, by omega⟩
  else if k = 37 then output.encodedNameLen
  else 0

def ConcorddOutput.ofBytes (output : ConcorddOutput) (f : ℕ → UInt8) : ConcorddOutput where
  active := f 0 ≠ 0
  partitionId := f 1
  outputState := f 2
  pulse := f 3 ≠ 0
  lastChangedBy := UInt32.ofNat (number (fun i => f (4 + i)) 4)
  lastChangedAt := replaceInt output.lastChangedAt fun i => f (8 + i)
  idBytes := fun i => f (16 + i.val)
  encodedName := fun i => f (21 + i.val)
  encodedNameLen := f 37

def ConcorddUser.byte (user : ConcorddUser) (k : ℕ) : UInt8 :=
  if k = 0 then boolByte user.active
  else if k = 1 then user.partitionId
  else if h : 2 ≤ k ∧ k < 9 then user.codeStr ⟨k - 2, by omega⟩
  else 0

def ConcorddUser.ofBytes (f : ℕ → UInt8) : ConcorddUser where
  active := f 0 ≠ 0
  partitionId := f 1
  codeStr := fun i => f (2 + i.val)

/-! The tables one after the other. -/

def partitionAddress (p : ℕ) : ℕ := 1680 * p

def zoneAddress (z : ℕ) : ℕ := 13440 + 56 * z

def deviceAddress (d : ℕ) : ℕ := 18816 + 20 * d

def outputAddress (o : ℕ) : ℕ := 19456 + 40 * o

def userAddress (u : ℕ) : ℕ := 22296 + 9 * u

/-- The byte at an offset from a table whose entries have `size` bytes. -/
def tableByte {α : Type} {n : ℕ} (table : Fin (n + 1) → α) (byte : α → ℕ → UInt8) (size k : ℕ) :
    UInt8 :=
  byte (table (Fin.ofNat (n + 1) (k / size))) (k % size)

def ConcorddInstance.byte (self : ConcorddInstance) (a : ℕ) : UInt8 :=
  if a < zoneAddress 0 then tableByte self.partition ConcorddPartition.byte 1680 a
  else if a < deviceAddress 0 then
    tableByte self.zone ConcorddZone.byte 56 (a - zoneAddress 0)
  else if a < outputAddress 0 then
    tableByte self.busDevice ConcorddDevice.byte 20 (a - deviceAddress 0)
  else if a < userAddress 0 then
    tableByte self.output ConcorddOutput.byte 40 (a - outputAddress 0)
  else tableByte self.user ConcorddUser.byte 9 (a - userAddress 0)

/-- The byte at an address after some writes. -/
def stored (writes : List (ℕ × UInt8)) (a : ℕ) (old : UInt8) : UInt8 :=
  (writes.lookup a).getD old

/-- Bytes written to memory, each at an address of its own. -/
def ConcorddInstance.write (self : ConcorddInstance) : List (ℕ × UInt8) → ConcorddInstance
  | [] => self
  | writes@(_ :: _) => { self with
      partition := fun p => (self.partition p).ofBytes fun k =>
        stored writes (partitionAddress p + k) ((self.partition p).byte k)
      zone := fun z => (self.zone z).ofBytes fun k =>
        stored writes (zoneAddress z + k) ((self.zone z).byte k)
      busDevice := fun d => .ofBytes fun k =>
        stored writes (deviceAddress d + k) ((self.busDevice d).byte k)
      output := fun o => (self.output o).ofBytes fun k =>
        stored writes (outputAddress o + k) ((self.output o).byte k)
      user := fun u => .ofBytes fun k =>
        stored writes (userAddress u + k) ((self.user u).byte k) }

/-- `bus_device[i]`, which past the end of its table is whatever lies there. -/
def ConcorddInstance.device (self : ConcorddInstance) (i : ℕ) : ConcorddDevice :=
  match tableIndex 32 i with
  | some d => self.busDevice d
  | none => .ofBytes fun k => self.byte (deviceAddress i + k)

def concorddGetDevice (self : ConcorddInstance) (deviceid : UInt32) : Option ℕ :=
  (List.range self.busDeviceCount.toNat).find? fun i =>
    (self.device i).active && (self.device i).deviceId == deviceid

/-- The bytes of `bus_device[i]` at some offsets, as `device` has them. -/
def deviceWrites (i : ℕ) (device : ConcorddDevice) (offsets : List ℕ) : List (ℕ × UInt8) :=
  offsets.map fun k => (deviceAddress i + k, device.byte k)

/-- What `memcpy` writes past an array that ends at address `a`, where byte `full` of the frame is
the first one that has no room in it and the copy goes up to byte `upTo`. -/
def overrun (frameBytes : Buffer) (full upTo a : ℕ) : List (ℕ × UInt8) :=
  ((List.finRange geRs232MaxMessageSize).filter fun k => full ≤ k.val ∧ k.val < upTo).map
    fun k => (a + (k.val - full), frameBytes k)

/-! What is written back as it was read changes nothing. -/

variable {self : ConcorddInstance} {writes : List (ℕ × UInt8)} {f : ℕ → UInt8}

theorem boolByte_ne_zero (b : Bool) : decide (boolByte b ≠ 0) = b := by
  cases b <;> rfl

theorem boolByte_inj {b c : Bool} (h : boolByte b = boolByte c) : b = c := by
  rw [← boolByte_ne_zero b, ← boolByte_ne_zero c, h]

theorem ofNat_number_word16 {x : UInt16} (h : ∀ i < 2, f i = LittleEndian.byte x.toNat i) :
    UInt16.ofNat (number f 2) = x := by
  rw [number_of_byte x.toNat_lt h, UInt16.ofNat_toNat]

theorem ofNat_number_word32 {x : UInt32} (h : ∀ i < 4, f i = LittleEndian.byte x.toNat i) :
    UInt32.ofNat (number f 4) = x := by
  rw [number_of_byte x.toNat_lt h, UInt32.ofNat_toNat]

theorem ConcorddPartition.ofBytes_byte {partition : ConcorddPartition}
    (h : ∀ k < 1680, f k = partition.byte k) : partition.ofBytes f = partition := by
  have hactive : decide (f 0 ≠ 0) = partition.active := by
    rw [h 0 (by decide)]
    exact boolByte_ne_zero partition.active
  have huser : UInt16.ofNat (number (fun i => f (2 + i)) 2) = partition.armLevelUser := by
    refine ofNat_number_word16 fun i hi => ?_
    rw [h (2 + i) (by omega)]
    simp (disch := omega) only [ConcorddPartition.byte, if_pos, if_neg, Nat.add_sub_cancel_left]
  have hpadding : (fun i : Fin 4 => f (4 + i.val)) = partition.padding := by
    funext i
    rw [h (4 + i.val) (by omega)]
    simp (disch := omega) only [ConcorddPartition.byte, if_neg, dif_pos, Nat.add_sub_cancel_left]
  have htime : replaceInt partition.armLevelTimestamp (fun i => f (8 + i)) =
      partition.armLevelTimestamp := by
    refine replaceInt_of_byteInt fun i hi => ?_
    rw [h (8 + i) (by omega)]
    simp (disch := omega) only [ConcorddPartition.byte, if_pos, if_neg, dif_neg,
      Nat.add_sub_cancel_left]
  have htail : (fun i : Fin 4 => f (1676 + i.val)) = partition.tailPadding := by
    funext i
    rw [h (1676 + i.val) (by omega)]
    simp (disch := omega) only [ConcorddPartition.byte, if_neg, dif_pos, dif_neg,
      Nat.add_sub_cancel_left]
  have hlevel : f 1 = partition.armLevel := h 1 (by decide)
  have hlen : f 1675 = partition.encodedTouchpadTextLen := h 1675 (by decide)
  unfold ConcorddPartition.ofBytes
  rw [hactive, hlevel, huser, hpadding, htime, hlen, htail]

theorem ConcorddZone.ofBytes_byte {zone : ConcorddZone} (h : ∀ k < 56, f k = zone.byte k) :
    zone.ofBytes f = zone := by
  have hactive : decide (f 0 ≠ 0) = zone.active := by
    rw [h 0 (by decide)]
    exact boolByte_ne_zero zone.active
  have hpadding : (fun i : Fin 2 => f (6 + i.val)) = zone.padding := by
    funext i
    rw [h (6 + i.val) (by omega)]
    simp (disch := omega) only [ConcorddZone.byte, if_neg, dif_pos, Nat.add_sub_cancel_left]
  have hkc : replaceInt zone.lastKcChangedAt (fun i => f (8 + i)) = zone.lastKcChangedAt := by
    refine replaceInt_of_byteInt fun i hi => ?_
    rw [h (8 + i) (by omega)]
    simp (disch := omega) only [ConcorddZone.byte, if_pos, if_neg, dif_neg,
      Nat.add_sub_cancel_left]
  have htripped : replaceInt zone.lastTrippedAt (fun i => f (16 + i)) = zone.lastTrippedAt := by
    refine replaceInt_of_byteInt fun i hi => ?_
    rw [h (16 + i) (by omega)]
    simp (disch := omega) only [ConcorddZone.byte, if_pos, if_neg, dif_neg,
      Nat.add_sub_cancel_left]
  have hchanged : replaceInt zone.lastChangedAt (fun i => f (24 + i)) = zone.lastChangedAt := by
    refine replaceInt_of_byteInt fun i hi => ?_
    rw [h (24 + i) (by omega)]
    simp (disch := omega) only [ConcorddZone.byte, if_pos, if_neg, dif_neg,
      Nat.add_sub_cancel_left]
  have hname : (fun i : Fin 16 => f (32 + i.val)) = zone.encodedName := by
    funext i
    rw [h (32 + i.val) (by omega)]
    simp (disch := omega) only [ConcorddZone.byte, if_neg, dif_pos, dif_neg,
      Nat.add_sub_cancel_left]
  have hpartition : f 1 = zone.partitionId := h 1 (by decide)
  have htype : f 2 = zone.type := h 2 (by decide)
  have hgroup : f 3 = zone.group := h 3 (by decide)
  have hstate : f 4 = zone.zoneState := h 4 (by decide)
  have hlast : f 5 = zone.lastKc := h 5 (by decide)
  have hlen : f 48 = zone.encodedNameLen := h 48 (by decide)
  unfold ConcorddZone.ofBytes
  rw [hactive, hpartition, htype, hgroup, hstate, hlast, hpadding, hkc, htripped, hchanged, hname,
    hlen]

theorem ConcorddDevice.ofBytes_byte {device : ConcorddDevice}
    (h : ∀ k < 20, f k = device.byte k) : ConcorddDevice.ofBytes f = device := by
  have hactive : decide (f 0 ≠ 0) = device.active := by
    rw [h 0 (by decide)]
    exact boolByte_ne_zero device.active
  have hid : UInt32.ofNat (number (fun i => f (4 + i)) 4) = device.deviceId := by
    refine ofNat_number_word32 fun i hi => ?_
    rw [h (4 + i) (by omega)]
    simp (disch := omega) only [ConcorddDevice.byte, if_pos, if_neg, Nat.add_sub_cancel_left]
  have hcaps : UInt32.ofNat (number (fun i => f (12 + i)) 4) = device.caps := by
    refine ofNat_number_word32 fun i hi => ?_
    rw [h (12 + i) (by omega)]
    simp (disch := omega) only [ConcorddDevice.byte, if_pos, if_neg, Nat.add_sub_cancel_left]
  have hstatus : f 8 = device.deviceStatus := h 8 (by decide)
  have hinput : f 16 = device.inputCount := h 16 (by decide)
  have houtput : f 17 = device.outputCount := h 17 (by decide)
  unfold ConcorddDevice.ofBytes
  rw [hactive, hid, hstatus, hcaps, hinput, houtput]

/-! What a byte of an output or of a user reads as after it has been written. -/

/-- A `bool` reads as one or zero, and what aligns the fields of an output is never read. -/
def outputByte (k : ℕ) (b : UInt8) : UInt8 :=
  if k = 0 ∨ k = 3 then boolByte (b ≠ 0) else if k < 38 then b else 0

def userByte (k : ℕ) (b : UInt8) : UInt8 := if k = 0 then boolByte (b ≠ 0) else b

theorem outputByte_byte (output : ConcorddOutput) (k : ℕ) :
    outputByte k (output.byte k) = output.byte k := by
  unfold outputByte
  split_ifs with hbool hk
  · rcases hbool with rfl | rfl
    · exact congrArg boolByte (boolByte_ne_zero output.active)
    · exact congrArg boolByte (boolByte_ne_zero output.pulse)
  · rfl
  · simp (disch := omega) only [ConcorddOutput.byte, if_neg, dif_neg]

theorem userByte_byte (user : ConcorddUser) (k : ℕ) : userByte k (user.byte k) = user.byte k := by
  unfold userByte
  split_ifs with hbool
  · subst hbool
    exact congrArg boolByte (boolByte_ne_zero user.active)
  · rfl

theorem byte_word32 (f : ℕ → UInt8) {i : ℕ} (h : i < 4) :
    LittleEndian.byte (UInt32.ofNat (number f 4)).toNat i = f i := by
  have hlt : number f 4 < 2 ^ 32 := number_lt f 4
  rw [UInt32.toNat_ofNat', Nat.mod_eq_of_lt hlt, byte_number h]

theorem ConcorddOutput.byte_ofBytes (output : ConcorddOutput) (f : ℕ → UInt8) (k : ℕ) :
    (output.ofBytes f).byte k = outputByte k (f k) := by
  have hsub : ∀ m ≤ k, f (m + (k - m)) = f k := by
    intro m hm
    rw [Nat.add_sub_cancel' hm]
  unfold ConcorddOutput.byte ConcorddOutput.ofBytes outputByte
  dsimp only
  -- one case for each field, in the order of the offsets
  split_ifs
  all_goals try omega
  · subst k; rfl
  · subst k; rfl
  · subst k; rfl
  · subst k; rfl
  · rw [byte_word32 _ (by omega), hsub 4 (by omega)]
  · rw [byteInt_replaceInt _ _ (by omega), hsub 8 (by omega)]
  · exact hsub 16 (by omega)
  · exact hsub 21 (by omega)
  · subst k; rfl
  · rfl

theorem ConcorddOutput.ofBytes_byte {output : ConcorddOutput}
    (h : ∀ k < 40, outputByte k (f k) = output.byte k) : output.ofBytes f = output := by
  have hbyte : ∀ k < 38, k ≠ 0 → k ≠ 3 → f k = output.byte k := by
    intro k hk h0 h3
    rw [← h k (by omega), outputByte, if_neg (by omega), if_pos hk]
  have hactive : decide (f 0 ≠ 0) = output.active := boolByte_inj (h 0 (by decide))
  have hpulse : decide (f 3 ≠ 0) = output.pulse := boolByte_inj (h 3 (by decide))
  have hby : UInt32.ofNat (number (fun i => f (4 + i)) 4) = output.lastChangedBy := by
    refine ofNat_number_word32 fun i hi => ?_
    rw [hbyte (4 + i) (by omega) (by omega) (by omega)]
    simp (disch := omega) only [ConcorddOutput.byte, if_pos, if_neg, Nat.add_sub_cancel_left]
  have hat : replaceInt output.lastChangedAt (fun i => f (8 + i)) = output.lastChangedAt := by
    refine replaceInt_of_byteInt fun i hi => ?_
    rw [hbyte (8 + i) (by omega) (by omega) (by omega)]
    simp (disch := omega) only [ConcorddOutput.byte, if_pos, if_neg, Nat.add_sub_cancel_left]
  have hid : (fun i : Fin 5 => f (16 + i.val)) = output.idBytes := by
    funext i
    rw [hbyte (16 + i.val) (by omega) (by omega) (by omega)]
    simp (disch := omega) only [ConcorddOutput.byte, if_neg, dif_pos, Nat.add_sub_cancel_left]
  have hname : (fun i : Fin 16 => f (21 + i.val)) = output.encodedName := by
    funext i
    rw [hbyte (21 + i.val) (by omega) (by omega) (by omega)]
    simp (disch := omega) only [ConcorddOutput.byte, if_neg, dif_pos, dif_neg,
      Nat.add_sub_cancel_left]
  have hpartition : f 1 = output.partitionId := hbyte 1 (by decide) (by decide) (by decide)
  have hstate : f 2 = output.outputState := hbyte 2 (by decide) (by decide) (by decide)
  have hlen : f 37 = output.encodedNameLen := hbyte 37 (by decide) (by decide) (by decide)
  unfold ConcorddOutput.ofBytes
  rw [hactive, hpartition, hstate, hpulse, hby, hat, hid, hname, hlen]

theorem ConcorddUser.byte_ofBytes (f : ℕ → UInt8) {k : ℕ} (hk : k < 9) :
    (ConcorddUser.ofBytes f).byte k = userByte k (f k) := by
  unfold ConcorddUser.byte ConcorddUser.ofBytes userByte
  dsimp only
  split_ifs
  all_goals try omega
  · subst k; rfl
  · subst k; rfl
  · rw [Nat.add_sub_cancel' (by omega)]

theorem ConcorddUser.ofBytes_byte {user : ConcorddUser}
    (h : ∀ k < 9, userByte k (f k) = user.byte k) : ConcorddUser.ofBytes f = user := by
  have hbyte : ∀ k < 9, k ≠ 0 → f k = user.byte k := by
    intro k hk h0
    rw [← h k hk, userByte, if_neg h0]
  have hactive : decide (f 0 ≠ 0) = user.active := boolByte_inj (h 0 (by decide))
  have hcode : (fun i : Fin 7 => f (2 + i.val)) = user.codeStr := by
    funext i
    rw [hbyte (2 + i.val) (by omega) (by omega)]
    simp (disch := omega) only [ConcorddUser.byte, if_neg, dif_pos, Nat.add_sub_cancel_left]
  have hpartition : f 1 = user.partitionId := hbyte 1 (by decide) (by decide)
  unfold ConcorddUser.ofBytes
  rw [hactive, hpartition, hcode]

theorem tableIndex_val {n : ℕ} (i : Fin n) : tableIndex n i.val = some i :=
  tableIndex_eq_some.mpr rfl

theorem device_val (self : ConcorddInstance) (d : Fin 32) :
    self.device d.val = self.busDevice d := by
  unfold ConcorddInstance.device
  rw [tableIndex_val]

/-! Writes. -/

@[simp] theorem write_nil (self : ConcorddInstance) : self.write [] = self := rfl

theorem stored_of_ne {a : ℕ} {old : UInt8} (h : ∀ w ∈ writes, w.1 ≠ a) :
    stored writes a old = old := by
  have hnone : writes.lookup a = none := by
    rw [List.lookup_eq_none_iff]
    intro w hw
    simpa using (h w hw).symm
  rw [stored, hnone, Option.getD_none]

/-- Writes to other addresses than those of the partitions leave these as they are. -/
theorem write_partition (h : ∀ w ∈ writes, zoneAddress 0 ≤ w.1) (p : Fin 8) :
    (self.write writes).partition p = self.partition p := by
  cases writes with
  | nil => rfl
  | cons w ws =>
    refine ConcorddPartition.ofBytes_byte fun k hk => stored_of_ne fun w' hw' => ?_
    have := h w' hw'
    unfold partitionAddress
    unfold zoneAddress at this
    omega

theorem write_partition_of_ofBytes {α : Type*} {f : ConcorddPartition → α}
    (hf : ∀ partition g, f (partition.ofBytes g) = f partition) (self : ConcorddInstance)
    (writes : List (ℕ × UInt8)) (p : Fin 8) :
    f ((self.write writes).partition p) = f (self.partition p) := by
  cases writes with
  | nil => rfl
  | cons w ws =>
    exact hf (self.partition p) fun k =>
      stored (w :: ws) (partitionAddress p + k) ((self.partition p).byte k)

theorem write_zone (h : ∀ w ∈ writes, deviceAddress 0 ≤ w.1) (z : Fin 96) :
    (self.write writes).zone z = self.zone z := by
  cases writes with
  | nil => rfl
  | cons w ws =>
    refine ConcorddZone.ofBytes_byte fun k hk => stored_of_ne fun w' hw' => ?_
    have := h w' hw'
    unfold zoneAddress
    unfold deviceAddress at this
    omega

theorem write_zone_active {z : Fin 96} (h : ∀ w ∈ writes, zoneAddress z < w.1) :
    ((self.write writes).zone z).active = (self.zone z).active := by
  cases writes with
  | nil => rfl
  | cons w ws =>
    have hflag : stored (w :: ws) (zoneAddress z + 0) ((self.zone z).byte 0) =
        (self.zone z).byte 0 := stored_of_ne fun w' hw' => (h w' hw').ne'
    change decide (stored (w :: ws) (zoneAddress z + 0) ((self.zone z).byte 0) ≠ 0) = _
    rw [hflag]
    exact boolByte_ne_zero (self.zone z).active

theorem write_busDevice (h : ∀ w ∈ writes, outputAddress 0 ≤ w.1) (d : Fin 32) :
    (self.write writes).busDevice d = self.busDevice d := by
  cases writes with
  | nil => rfl
  | cons w ws =>
    refine ConcorddDevice.ofBytes_byte fun k hk => stored_of_ne fun w' hw' => ?_
    have := h w' hw'
    unfold deviceAddress
    unfold outputAddress at this
    omega

theorem write_nameLen (self : ConcorddInstance) (writes : List (ℕ × UInt8)) (o : Fin 71) :
    ((self.write writes).output o).encodedNameLen =
      stored writes (outputAddress o + 37) (self.output o).encodedNameLen := by
  cases writes with
  | nil => rfl
  | cons w ws => rfl

theorem write_outputState (self : ConcorddInstance) (writes : List (ℕ × UInt8)) (o : Fin 71) :
    ((self.write writes).output o).outputState =
      stored writes (outputAddress o + 2) (self.output o).outputState := by
  cases writes with
  | nil => rfl
  | cons w ws => rfl

theorem stored_deviceWrites (i : ℕ) (device : ConcorddDevice) (offsets : List ℕ) (k : ℕ)
    (old : UInt8) :
    stored (deviceWrites i device offsets) (deviceAddress i + k) old =
      if k ∈ offsets then device.byte k else old := by
  induction offsets with
  | nil => rfl
  | cons j offsets ih =>
    unfold stored deviceWrites at ih ⊢
    rw [List.map_cons, List.lookup_cons]
    by_cases hk : k = j
    · subst hk
      simp
    · have hne : (deviceAddress i + k == deviceAddress i + j) = false := by simp [hk]
      rw [hne]
      simpa [hk] using ih

/-- A byte that some writes leave as it is: each of those to its address leaves it so. -/
theorem stored_of_each {read : UInt8 → UInt8} {a : ℕ} {old : UInt8} (hold : read old = old)
    (h : ∀ w ∈ writes, read (stored [w] a old) = old) : read (stored writes a old) = old := by
  unfold stored
  cases hx : writes.lookup a with
  | none => exact hold
  | some x =>
    obtain ⟨before, after, rfl, -⟩ := List.lookup_eq_some_iff.mp hx
    have hw := h (a, x) (by simp)
    simpa [stored] using hw

theorem stored_deviceWrite {read : UInt8 → UInt8} {i k a : ℕ} {device : ConcorddDevice}
    {offsets : List ℕ} {old : UInt8} (hold : read old = old) (hk : k ∈ offsets)
    (h : read (stored (deviceWrites i device offsets) a old) = old) :
    read (stored [(deviceAddress i + k, device.byte k)] a old) = old := by
  by_cases ha : a = deviceAddress i + k
  · subst ha
    rw [stored_deviceWrites, if_pos hk] at h
    simpa [stored] using h
  · rw [stored_of_ne (by simpa using Ne.symm ha)]
    exact hold

theorem write_output_iff (o : Fin 71) :
    (self.write writes).output o = self.output o ↔ ∀ k < 40,
      outputByte k (stored writes (outputAddress o + k) ((self.output o).byte k)) =
        (self.output o).byte k := by
  cases writes with
  | nil => exact iff_of_true rfl fun k _ => outputByte_byte (self.output o) k
  | cons w ws =>
    constructor
    · intro h k _
      rw [← ConcorddOutput.byte_ofBytes (self.output o) (fun k =>
        stored (w :: ws) (outputAddress o + k) ((self.output o).byte k))]
      exact congrArg (ConcorddOutput.byte · k) h
    · exact ConcorddOutput.ofBytes_byte

theorem write_user_iff (u : Fin 252) :
    (self.write writes).user u = self.user u ↔ ∀ k < 9,
      userByte k (stored writes (userAddress u + k) ((self.user u).byte k)) =
        (self.user u).byte k := by
  cases writes with
  | nil => exact iff_of_true rfl fun k _ => userByte_byte (self.user u) k
  | cons w ws =>
    constructor
    · intro h k hk
      rw [← ConcorddUser.byte_ofBytes (fun k =>
        stored (w :: ws) (userAddress u + k) ((self.user u).byte k)) hk]
      exact congrArg (ConcorddUser.byte · k) h
    · exact ConcorddUser.ofBytes_byte

/-- Writes to outputs and users that change neither change nothing. -/
theorem write_eq_self (hpast : ∀ w ∈ writes, outputAddress 0 ≤ w.1)
    (ho : ∀ o, (self.write writes).output o = self.output o)
    (hu : ∀ u, (self.write writes).user u = self.user u) : self.write writes = self := by
  cases writes with
  | nil => rfl
  | cons w ws =>
    have hle : zoneAddress 0 ≤ outputAddress 0 ∧ deviceAddress 0 ≤ outputAddress 0 := by decide
    have hp : (self.write (w :: ws)).partition = self.partition :=
      funext (write_partition fun w hw => hle.1.trans (hpast w hw))
    have hz : (self.write (w :: ws)).zone = self.zone :=
      funext (write_zone fun w hw => hle.2.trans (hpast w hw))
    have hd : (self.write (w :: ws)).busDevice = self.busDevice :=
      funext (write_busDevice hpast)
    change { self with
      partition := (self.write (w :: ws)).partition
      zone := (self.write (w :: ws)).zone
      busDevice := (self.write (w :: ws)).busDevice
      output := (self.write (w :: ws)).output
      user := (self.write (w :: ws)).user } = self
    rw [hp, hz, hd, funext ho, funext hu]

/-- Everything behind the tables is out of reach. -/
theorem write_beside {α : Type*} {f : ConcorddInstance → α}
    (hf : ∀ self partition zone busDevice output user, f { self with
      partition := partition, zone := zone, busDevice := busDevice, output := output
      user := user } = f self) (self : ConcorddInstance) (writes : List (ℕ × UInt8)) :
    f (self.write writes) = f self := by
  cases writes with
  | nil => rfl
  | cons w ws => exact hf self _ _ _ _ _

theorem overrun_eq_nil {b : Buffer} {full upTo : ℕ} (h : upTo ≤ full) (a : ℕ) :
    overrun b full upTo a = [] := by
  rw [overrun, List.filter_eq_nil_iff.mpr, List.map_nil]
  intro k _
  simp
  omega

theorem le_of_mem_overrun {b : Buffer} {full upTo a : ℕ} {w : ℕ × UInt8}
    (h : w ∈ overrun b full upTo a) : a ≤ w.1 := by
  obtain ⟨k, -, rfl⟩ := List.mem_map.mp h
  exact Nat.le_add_right a _

theorem deviceAddress_le_of_mem {i : ℕ} {device : ConcorddDevice} {offsets : List ℕ}
    {w : ℕ × UInt8} (h : w ∈ deviceWrites i device offsets) : deviceAddress i ≤ w.1 := by
  obtain ⟨k, -, rfl⟩ := List.mem_map.mp h
  exact Nat.le_add_right _ k

end Concordd
