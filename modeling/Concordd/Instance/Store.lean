import Concordd.Queue.Model

/-! The instance: its tables, its callbacks and the lookups into them. -/
namespace Concordd

/-! `CONCORDD_*_CHANGED` flags. -/

def concorddGeneralPartitionIdChanged : UInt32 := (1 : UInt32) <<< 0
def concorddGeneralLastChangedByChanged : UInt32 := (1 : UInt32) <<< 2
def concorddGeneralLastChangedAtChanged : UInt32 := (1 : UInt32) <<< 3
def concorddGeneralStateChanged : UInt32 := (1 : UInt32) <<< 4
def concorddZoneTypeChanged : UInt32 := (1 : UInt32) <<< 16
def concorddZoneGroupChanged : UInt32 := (1 : UInt32) <<< 17
def concorddZoneLastKcChanged : UInt32 := (1 : UInt32) <<< 19
def concorddZoneLastKcChangedAtChanged : UInt32 := (1 : UInt32) <<< 20
def concorddPartitionArmLevelChanged : UInt32 := (1 : UInt32) <<< 16
def concorddPartitionTouchpadTextChanged : UInt32 := (1 : UInt32) <<< 17
def concorddPartitionSirenRepeatChanged : UInt32 := (1 : UInt32) <<< 18
def concorddPartitionSirenCadenceChanged : UInt32 := (1 : UInt32) <<< 19
def concorddPartitionSirenStartedAtChanged : UInt32 := (1 : UInt32) <<< 23
def concorddPartitionProgrammingModeChanged : UInt32 := (1 : UInt32) <<< 24
def concorddInstanceAcPowerFailureChanged : UInt32 := (1 : UInt32) <<< 12

def geRs232ZoneStatusTripped : UInt8 := 1
def geRs232ZoneStatusBypassed : UInt8 := 16

/-! The tables. Each default is what `concordd_init` leaves in zeroed memory. The bytes that align
the fields are kept as `padding` where a comparison can read them back. -/

instance neZeroCodeStr : NeZero 7 := ⟨by decide⟩

instance neZeroLight : NeZero 10 := ⟨by decide⟩

structure ConcorddLight where
  lightState : Bool := false
  zoneId : UInt8 := 0
  lastChangedBy : UInt32 := 0
  lastChangedAt : ℤ := 0
  deriving DecidableEq

structure ConcorddZone where
  active : Bool := false
  partitionId : UInt8 := 0
  type : UInt8 := 0
  group : UInt8 := 0
  zoneState : UInt8 := 0
  lastKc : UInt8 := 0
  padding : Fin 2 → UInt8 := fun _ => 0
  lastKcChangedAt : ℤ := 0
  lastTrippedAt : ℤ := 0
  lastChangedAt : ℤ := 0
  encodedName : Fin 16 → UInt8 := fun _ => 0
  encodedNameLen : UInt8 := 0
  deriving DecidableEq

structure ConcorddDevice where
  active : Bool := false
  deviceId : UInt32 := 0
  deviceStatus : UInt8 := 0
  caps : UInt32 := 0
  inputCount : UInt8 := 0
  outputCount : UInt8 := 0
  deriving DecidableEq

structure ConcorddEvent where
  valid : Bool := false
  status : UInt8 := 0
  partitionId : UInt8 := 0
  sourceType : UInt8 := 0
  zoneId : UInt16 := 0
  deviceId : UInt32 := 0
  generalType : UInt8 := 0
  specificType : UInt8 := 0
  extraData : UInt16 := 0
  timestamp : ℤ := 0
  deriving DecidableEq

structure ConcorddOutput where
  active : Bool := false
  partitionId : UInt8 := 0
  outputState : UInt8 := 0
  pulse : Bool := false
  lastChangedBy : UInt32 := 0
  lastChangedAt : ℤ := 0
  idBytes : Fin 5 → UInt8 := fun _ => 0
  encodedName : Fin 16 → UInt8 := fun _ => 0
  encodedNameLen : UInt8 := 0
  deriving DecidableEq

structure ConcorddUser where
  active : Bool := false
  partitionId : UInt8 := 0
  codeStr : Fin 7 → UInt8 := fun _ => 0
  deriving DecidableEq

structure ConcorddPartition where
  active : Bool := false
  armLevel : UInt8 := 0
  armLevelUser : UInt16 := 0
  padding : Fin 4 → UInt8 := fun _ => 0
  armLevelTimestamp : ℤ := 0
  light : Fin 10 → ConcorddLight := fun _ => {}
  featureState : UInt8 := 0
  programmingMode : Bool := false
  entryDelayActive : Bool := false
  exitDelayActive : Bool := false
  alarmEvents : Fin 40 → ConcorddEvent := fun _ => {}
  troubleEvents : Fin 20 → ConcorddEvent := fun _ => {}
  sirenRepeat : UInt32 := 0
  sirenCadence : UInt32 := 0
  sirenStartedAt : ℤ := 0
  encodedTouchpadText : Fin 32 → UInt8 := fun _ => 0
  encodedTouchpadTextLen : UInt8 := 0
  tailPadding : Fin 4 → UInt8 := fun _ => 0
  deriving DecidableEq

/-- Which of the function pointers at the end of `struct concordd_instance_s` are set. -/
structure Callbacks where
  instanceInfoChangedFunc : Bool := false
  partitionInfoChangedFunc : Bool := false
  sirenSyncFunc : Bool := false
  zoneInfoChangedFunc : Bool := false
  lightInfoChangedFunc : Bool := false
  outputInfoChangedFunc : Bool := false
  eventFunc : Bool := false
  deriving DecidableEq

/-- `struct concordd_instance_s`; `eventLog` has `CONCORDD_EVENT_LOG_MAX`, 256, slots. -/
structure ConcorddInstance where
  partition : Fin 8 → ConcorddPartition := fun _ => {}
  zone : Fin 96 → ConcorddZone := fun _ => {}
  busDevice : Fin 32 → ConcorddDevice := fun _ => {}
  output : Fin 71 → ConcorddOutput := fun _ => {}
  user : Fin 252 → ConcorddUser := fun _ => {}
  panelType : UInt8 := 0
  hwRev : UInt16 := 0
  swRev : UInt16 := 0
  serialNumber : UInt32 := 0
  busDeviceCount : UInt8 := 0
  refreshPending : Bool := false
  acPowerFailure : Bool := false
  acPowerFailureChangedTimestamp : ℤ := 0
  sirenGoPartitionId : UInt8 := 0
  troubleEvents : Fin 52 → ConcorddEvent := fun _ => {}
  eventLog : UInt8 → ConcorddEvent := fun _ => {}
  eventLogLast : UInt8 := 0
  geQueue : GeQueue
  callbacks : Callbacks := {}

def concorddInit : ConcorddInstance := { geQueue := geQueueInit geRs232Init }

/-- Calls made through the function pointers of the instance, each with what it points at.
`copy` marks a `memcpy` into an array of `capacity` bytes, and `strayDevice` a device listed
past the end of its table. -/
inductive InstanceEvent
  | link (event : LinkEvent)
  | instanceInfoChanged (changed : UInt32)
  | partitionInfoChanged (i : Fin 8) (partition : ConcorddPartition) (changed : UInt32)
  | sirenSync
  | zoneInfoChanged (i : Fin 96) (zone : ConcorddZone) (changed : UInt32)
  | lightInfoChanged (i : Fin 8) (lighti : Fin 10) (light : ConcorddLight) (changed : UInt32)
  | outputInfoChanged (i : Fin 71) (output : ConcorddOutput) (changed : UInt32)
  | event (event : ConcorddEvent)
  | copy (capacity : ℕ) (len : ℤ)
  | strayDevice (index : UInt8) (deviceId : UInt32) (status : UInt8)

/-! Lookups. -/

/-- The bounds check of the `concordd_get_*` functions: an index into the table, or `NULL`. -/
def tableIndex (n : ℕ) (i : ℤ) : Option (Fin n) :=
  if h : 0 ≤ i ∧ i < n then some ⟨i.toNat, by omega⟩ else none

def concorddGetPartition (i : ℤ) : Option (Fin 8) := tableIndex 8 i

def concorddGetZone (i : ℤ) : Option (Fin 96) := tableIndex 96 i

def concorddGetUser (i : ℤ) : Option (Fin 252) := tableIndex 252 i

def concorddGetOutput (i : ℤ) : Option (Fin 71) := tableIndex 71 i

def concorddPartitionGetLight (i : ℤ) : Option (Fin 10) := tableIndex 10 i

def ConcorddInstance.setPartition (self : ConcorddInstance) (i : Fin 8)
    (partition : ConcorddPartition) : ConcorddInstance :=
  { self with partition := Function.update self.partition i partition }

def ConcorddInstance.setZone (self : ConcorddInstance) (i : Fin 96) (zone : ConcorddZone) :
    ConcorddInstance :=
  { self with zone := Function.update self.zone i zone }

def ConcorddInstance.setOutput (self : ConcorddInstance) (i : Fin 71) (output : ConcorddOutput) :
    ConcorddInstance :=
  { self with output := Function.update self.output i output }

def ConcorddInstance.setUser (self : ConcorddInstance) (i : Fin 252) (user : ConcorddUser) :
    ConcorddInstance :=
  { self with user := Function.update self.user i user }

def ConcorddPartition.setLight (self : ConcorddPartition) (i : Fin 10) (light : ConcorddLight) :
    ConcorddPartition :=
  { self with light := Function.update self.light i light }

/-! Notifications, made only where a callback is installed. -/

def concorddInstanceInfoChanged (self : ConcorddInstance) (changed : UInt32) :
    List InstanceEvent :=
  if self.callbacks.instanceInfoChangedFunc then [.instanceInfoChanged changed] else []

def concorddPartitionInfoChanged (self : ConcorddInstance) (i : Fin 8) (changed : UInt32) :
    List InstanceEvent :=
  if self.callbacks.partitionInfoChangedFunc then
    [.partitionInfoChanged i (self.partition i) changed]
  else []

def concorddZoneInfoChanged (self : ConcorddInstance) (i : Fin 96) (changed : UInt32) :
    List InstanceEvent :=
  if self.callbacks.zoneInfoChangedFunc then [.zoneInfoChanged i (self.zone i) changed] else []

/-! What the lookups and the updates do. -/

@[simp] theorem tableIndex_eq_some {n : ℕ} {k : ℤ} {i : Fin n} :
    tableIndex n k = some i ↔ k = i.val := by
  unfold tableIndex
  constructor
  · intro h
    split at h
    · next hk =>
      obtain rfl := Option.some.inj h
      simp only
      omega
    · cases h
  · rintro rfl
    simp

@[simp] theorem tableIndex_eq_none {n : ℕ} {k : ℤ} : tableIndex n k = none ↔ k < 0 ∨ n ≤ k := by
  unfold tableIndex
  split
  · simp
    omega
  · simp
    omega

theorem getPartition_of_eq {k : ℕ} {p : Fin 8} (h : k = p.val) :
    concorddGetPartition k = some p := by
  unfold concorddGetPartition
  rw [tableIndex_eq_some]
  exact_mod_cast h

theorem getPartition_eq_some {k : ℕ} {i : Fin 8} (h : concorddGetPartition k = some i) :
    k = i.val := by
  unfold concorddGetPartition at h
  rw [tableIndex_eq_some] at h
  exact_mod_cast h

theorem getPartition_eq_none {k : ℕ} (h : ¬ k < 8) : concorddGetPartition k = none := by
  unfold concorddGetPartition
  rw [tableIndex_eq_none]
  omega

theorem getZone_of_eq {k : ℕ} {z : Fin 96} (h : k = z.val) : concorddGetZone k = some z := by
  unfold concorddGetZone
  rw [tableIndex_eq_some]
  exact_mod_cast h

theorem getZone_eq_some {k : ℕ} {i : Fin 96} (h : concorddGetZone k = some i) : k = i.val := by
  unfold concorddGetZone at h
  rw [tableIndex_eq_some] at h
  exact_mod_cast h

theorem getZone_eq_none {k : ℕ} (h : ¬ k < 96) : concorddGetZone k = none := by
  unfold concorddGetZone
  rw [tableIndex_eq_none]
  omega

theorem getUser_of_eq {k : ℕ} {u : Fin 252} (h : k = u.val) : concorddGetUser k = some u := by
  unfold concorddGetUser
  rw [tableIndex_eq_some]
  exact_mod_cast h

theorem getUser_eq_some {k : ℕ} {i : Fin 252} (h : concorddGetUser k = some i) : k = i.val := by
  unfold concorddGetUser at h
  rw [tableIndex_eq_some] at h
  exact_mod_cast h

theorem getUser_eq_none {k : ℕ} (h : ¬ k < 252) : concorddGetUser k = none := by
  unfold concorddGetUser
  rw [tableIndex_eq_none]
  omega

theorem getOutput_of_eq {k : ℕ} {o : Fin 71} (h : k = o.val) : concorddGetOutput k = some o := by
  unfold concorddGetOutput
  rw [tableIndex_eq_some]
  exact_mod_cast h

theorem getOutput_eq_some {k : ℕ} {i : Fin 71} (h : concorddGetOutput k = some i) : k = i.val := by
  unfold concorddGetOutput at h
  rw [tableIndex_eq_some] at h
  exact_mod_cast h

theorem getOutput_eq_none {k : ℕ} (h : ¬ k < 71) : concorddGetOutput k = none := by
  unfold concorddGetOutput
  rw [tableIndex_eq_none]
  omega

theorem getLight_of_eq {k : ℕ} {l : Fin 10} (h : k = l.val) :
    concorddPartitionGetLight k = some l := by
  unfold concorddPartitionGetLight
  rw [tableIndex_eq_some]
  exact_mod_cast h

theorem getLight_eq_some {k : ℕ} {i : Fin 10} (h : concorddPartitionGetLight k = some i) :
    k = i.val := by
  unfold concorddPartitionGetLight at h
  rw [tableIndex_eq_some] at h
  exact_mod_cast h

theorem getLight_eq_none {k : ℕ} (h : ¬ k < 10) : concorddPartitionGetLight k = none := by
  unfold concorddPartitionGetLight
  rw [tableIndex_eq_none]
  omega

variable (self : ConcorddInstance)

@[simp] theorem setPartition_partition (p i : Fin 8) (partition : ConcorddPartition) :
    (self.setPartition p partition).partition i = if i = p then partition else self.partition i :=
  Function.update_apply ..

/-- What an entry keeps of the old one, the table keeps. -/
theorem setPartition_keeps {α : Type} (f : ConcorddPartition → α) {q : Fin 8}
    {partition : ConcorddPartition} (h : f partition = f (self.partition q)) (p : Fin 8) :
    f ((self.setPartition q partition).partition p) = f (self.partition p) := by
  rw [setPartition_partition]
  split
  · next hp => rw [h, hp]
  · rfl

@[simp] theorem setZone_zone (z i : Fin 96) (zone : ConcorddZone) :
    (self.setZone z zone).zone i = if i = z then zone else self.zone i :=
  Function.update_apply ..

@[simp] theorem setOutput_output (o i : Fin 71) (output : ConcorddOutput) :
    (self.setOutput o output).output i = if i = o then output else self.output i :=
  Function.update_apply ..

@[simp] theorem setUser_user (u i : Fin 252) (user : ConcorddUser) :
    (self.setUser u user).user i = if i = u then user else self.user i :=
  Function.update_apply ..

end Concordd
