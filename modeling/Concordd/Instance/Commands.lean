import Concordd.Instance.Keys
import Concordd.Instance.Store

/-! What clients and the main loop ask of the instance. -/
namespace Concordd

def geRs232AtpEquipListRequest : UInt8 := 0x02

def geRs232AtpDynamicDataRefresh : UInt8 := 0x20

def geRs232UserSystem : ℤ := 246

variable (env : Env) (self : ConcorddInstance)

/-- `ge_queue_message` on the instance's queue. -/
def concorddQueueMessage (data : List UInt8) (finished : Option ℕ) :
    Outcome ConcorddInstance InstanceEvent :=
  let r := geQueueMessage env self.geQueue data finished
  ⟨{ self with geQueue := r.state }, r.out.map .link, r.status⟩

def concorddReject (status : GeRs232Status) : Outcome ConcorddInstance InstanceEvent :=
  ⟨self, [], status⟩

def concorddProcess : Outcome ConcorddInstance InstanceEvent :=
  if self.geQueue.interface.readingMessage then ⟨self, [], .ok⟩
  else
    let r := geQueueUpdate env self.geQueue
    ⟨{ self with geQueue := r.state }, r.out.map .link, .ok⟩

/-- The tables as `concordd_equipment_refresh` leaves them. -/
def concorddDeactivate : ConcorddInstance :=
  { self with
    refreshPending := true
    busDeviceCount := 0
    zone := fun i => { self.zone i with active := false }
    partition := fun i =>
      { self.partition i with active := false, entryDelayActive := false, exitDelayActive := false }
    output := fun i => { self.output i with active := false }
    busDevice := fun i => { self.busDevice i with active := false } }

def concorddEquipmentRefresh (finished : Option ℕ) : Outcome ConcorddInstance InstanceEvent :=
  concorddQueueMessage env (concorddDeactivate self) [geRs232AtpEquipListRequest] finished

def concorddDynamicDataRefresh (finished : Option ℕ) : Outcome ConcorddInstance InstanceEvent :=
  concorddQueueMessage env self [geRs232AtpDynamicDataRefresh] finished

def concorddRefresh (finished : Option ℕ) : Outcome ConcorddInstance InstanceEvent :=
  concorddEquipmentRefresh env self finished

def concorddPressKeys (partition : ℤ) (keys : List UInt8) (finished : Option ℕ) :
    Outcome ConcorddInstance InstanceEvent :=
  match pressKeysMessage partition keys with
  | .ok msg => concorddQueueMessage env self msg finished
  | .error status => concorddReject self status

/-- `"[11]"` or `"[10]"` and the light's digit. -/
def setLightKeys (lighti : ℤ) (state : Bool) : List UInt8 :=
  [0x5B, 0x31, if state then 0x30 else 0x31, 0x5D, UInt8.ofInt (0x30 + lighti)]

def concorddSetLight (partitioni lighti : ℤ) (state : Bool) (finished : Option ℕ) :
    Outcome ConcorddInstance InstanceEvent :=
  if self.refreshPending then concorddReject self .wait
  else
    match concorddGetPartition partitioni with
    | none => concorddReject self .invalidArgument
    | some p =>
      if ¬ (self.partition p).active then concorddReject self .invalidArgument
      else if (self.partition p).programmingMode then concorddReject self .error
      else if lighti < 0 ∨ 9 < lighti then concorddReject self .invalidArgument
      else concorddPressKeys env self partitioni (setLightKeys lighti state) finished

/-- The characters of an array up to the first zero. -/
def cString {n : ℕ} (s : Fin n → UInt8) : List UInt8 := (List.ofFn s).takeWhile (· ≠ 0)

/-- `snprintf(cmd, 15, "#%s%02d", code_str, zonei)` for a zone of the table. -/
def zoneBypassKeys (codeStr : Fin 7 → UInt8) (zonei : Fin 96) : List UInt8 :=
  (0x23 :: (cString codeStr ++
    [0x30 + UInt8.ofNat (zonei.val / 10), 0x30 + UInt8.ofNat (zonei.val % 10)])).take 14

def concorddSetZoneBypass (zonei : ℤ) (bypass : Bool) (useri : ℤ) (finished : Option ℕ) :
    Outcome ConcorddInstance InstanceEvent :=
  if self.refreshPending then concorddReject self .wait
  else
    match concorddGetZone zonei with
    | none => concorddReject self .invalidArgument
    | some z =>
      if ¬ (self.zone z).active then concorddReject self .invalidArgument
      else
        match concorddGetPartition (self.zone z).partitionId.toNat with
        | none => concorddReject self .invalidArgument
        | some p =>
          if ¬ (self.partition p).active then concorddReject self .invalidArgument
          else if (self.partition p).programmingMode then concorddReject self .error
          else if ((self.zone z).zoneState &&& geRs232ZoneStatusBypassed
              == geRs232ZoneStatusBypassed) = bypass then
            concorddReject self .already
          else
            match concorddGetUser (if useri = -1 then geRs232UserSystem else useri) with
            | none => concorddReject self .invalidArgument
            | some u =>
              if ¬ (self.user u).active then concorddReject self .invalidArgument
              else if (self.user u).codeStr 0 = 0 then concorddReject self .error
              else
                concorddPressKeys env self (self.zone z).partitionId.toNat
                  (zoneBypassKeys (self.user u).codeStr z) finished

/-- `"77"` and one character for the output. -/
def setOutputKeys (outputi : ℤ) : List UInt8 := [0x37, 0x37, UInt8.ofInt (0x30 + outputi)]

def concorddSetOutput (outputi : ℤ) (state : Bool) (finished : Option ℕ) :
    Outcome ConcorddInstance InstanceEvent :=
  if self.refreshPending then concorddReject self .wait
  else
    match concorddGetOutput outputi with
    | none => concorddReject self .invalidArgument
    | some o =>
      if (self.output o).active = false then concorddReject self .invalidArgument
      else if (self.output o).outputState = (if state then 1 else 0) then
        concorddReject self .already
      else if (self.partition 1).programmingMode then concorddReject self .error
      else concorddPressKeys env self 1 (setOutputKeys outputi) finished

/-- The key string of an arm level, if there is one. -/
def armLevelKeys (armLevel : ℤ) : Option (List UInt8) :=
  if armLevel = 1 then some [0x5B, 0x32, 0x30, 0x5D]
  else if armLevel = 2 then some [0x5B, 0x32, 0x38, 0x5D]
  else if armLevel = 3 then some [0x5B, 0x32, 0x37, 0x5D]
  else none

/-- The test `concordd_set_arm_level` makes. -/
def ConcorddPartition.sirenIsOn (partition : ConcorddPartition) : Prop :=
  partition.sirenRepeat = 0 ∧ partition.sirenStartedAt ≠ 0

instance (partition : ConcorddPartition) : Decidable partition.sirenIsOn :=
  inferInstanceAs (Decidable (_ ∧ _))

def concorddSetArmLevel (partitioni armLevel : ℤ) (finished : Option ℕ) :
    Outcome ConcorddInstance InstanceEvent :=
  match concorddGetPartition partitioni with
  | none => concorddReject self .invalidArgument
  | some p =>
    if ¬ (self.partition p).active then concorddReject self .invalidArgument
    else if (self.partition p).sirenIsOn ∧ armLevel ≠ 1 then concorddReject self .forbidden
    else if ((self.partition p).armLevel.toNat : ℤ) ≠ armLevel ∨ (self.partition p).sirenIsOn ∨
        ((self.partition p).entryDelayActive ∧ armLevel = 1) then
      if (self.partition p).programmingMode then concorddReject self .error
      else
        match armLevelKeys armLevel with
        | some keys => concorddPressKeys env self partitioni keys finished
        | none => concorddReject self .invalidArgument
    else concorddReject self .already

/-! What the commands answer. -/

variable {env self}

theorem pressKeys_cases (env : Env) (self : ConcorddInstance) (partition : ℤ) (keys : List UInt8)
    (finished : Option ℕ) :
    (∃ msg, pressKeysMessage partition keys = .ok msg ∧
        concorddPressKeys env self partition keys finished =
          concorddQueueMessage env self msg finished) ∨
      pressKeysMessage partition keys = .error .error ∧
        concorddPressKeys env self partition keys finished = concorddReject self .error := by
  unfold concorddPressKeys
  cases hm : pressKeysMessage partition keys with
  | ok msg => exact .inl ⟨msg, rfl, rfl⟩
  | error status =>
    obtain rfl := pressKeysLoop_error hm
    exact .inr ⟨rfl, rfl⟩

theorem queueMessage_status (env : Env) (self : ConcorddInstance) (data : List UInt8)
    (finished : Option ℕ) :
    (concorddQueueMessage env self data finished).status = .ok ∨
      (concorddQueueMessage env self data finished).status = .queueFull := by
  simp only [concorddQueueMessage, geQueueMessage]
  split
  · exact .inr rfl
  · exact .inl rfl

theorem pressKeys_status (env : Env) (self : ConcorddInstance) (partition : ℤ) (keys : List UInt8)
    (finished : Option ℕ) :
    (concorddPressKeys env self partition keys finished).status ≠ .forbidden := by
  intro h
  rcases pressKeys_cases env self partition keys finished with ⟨msg, -, hr⟩ | ⟨-, hr⟩
  · rw [hr] at h
    rcases queueMessage_status env self msg finished with hs | hs <;>
      rw [hs] at h <;> cases h
  · rw [hr] at h
    cases h

theorem setArmLevel_forbidden (env : Env) {p : Fin 8}
    (hactive : (self.partition p).active = true) {armLevel : ℤ} (hlevel : armLevel ≠ 1)
    (finished : Option ℕ) :
    (concorddSetArmLevel env self p armLevel finished).status = .forbidden ↔
      (self.partition p).sirenIsOn := by
  have hp : concorddGetPartition p = some p := tableIndex_eq_some.mpr rfl
  simp only [concorddSetArmLevel, hp, hactive, not_true_eq_false, if_false]
  by_cases hs : (self.partition p).sirenIsOn
  · simp [hs, hlevel, concorddReject]
  · simp only [hs, hlevel, and_false, false_and, if_false, or_false, iff_false]
    split
    · split
      · simp [concorddReject]
      · split
        · exact pressKeys_status env self _ _ finished
        · simp [concorddReject]
    · simp [concorddReject]

end Concordd
