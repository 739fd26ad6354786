import Concordd.Instance.Commands
import Concordd.Instance.Memory

/-! What each frame of the panel does to the instance. -/
namespace Concordd

/-! `GE_RS232_PTA_*` codes, and `other` for the ones `concordd_handle_frame` has no case for. -/

inductive GeRs232Pta
  | panelType | automationEventLost | equipListZoneData | equipListPartitionData
  | equipListSuperbusDevData | equipListSuperbusCapData | equipListOutputData | equipListComplete
  | equipListUserData | equipListScheduleData | equipListScheduledEventData
  | equipListLightToSensorData | clearAutomationDynamicImage | zoneStatus | subcmd | subcmd2
  | other
  deriving DecidableEq

def GeRs232Pta.ofByte : UInt8 → GeRs232Pta
  | 0x01 => .panelType
  | 0x02 => .automationEventLost
  | 0x03 => .equipListZoneData
  | 0x04 => .equipListPartitionData
  | 0x05 => .equipListSuperbusDevData
  | 0x06 => .equipListSuperbusCapData
  | 0x07 => .equipListOutputData
  | 0x08 => .equipListComplete
  | 0x09 => .equipListUserData
  | 0x0A => .equipListScheduleData
  | 0x0B => .equipListScheduledEventData
  | 0x0C => .equipListLightToSensorData
  | 0x20 => .clearAutomationDynamicImage
  | 0x21 => .zoneStatus
  | 0x22 => .subcmd
  | 0x23 => .subcmd2
  | _ => .other

inductive GeRs232PtaSubcmd
  | level | alarmTrouble | entryExitDelay | sirenSetup | sirenSync | sirenGo | touchpadDisplay
  | sirenStop | featureState | temperature | timeAndDate | other
  deriving DecidableEq

def GeRs232PtaSubcmd.ofByte : UInt8 → GeRs232PtaSubcmd
  | 0x01 => .level
  | 0x02 => .alarmTrouble
  | 0x03 => .entryExitDelay
  | 0x04 => .sirenSetup
  | 0x05 => .sirenSync
  | 0x06 => .sirenGo
  | 0x09 => .touchpadDisplay
  | 0x0B => .sirenStop
  | 0x0C => .featureState
  | 0x0D => .temperature
  | 0x0E => .timeAndDate
  | _ => .other

inductive GeRs232PtaSubcmd2
  | lightsState | userLights | keyfob | other
  deriving DecidableEq

def GeRs232PtaSubcmd2.ofByte : UInt8 → GeRs232PtaSubcmd2
  | 0x01 => .lightsState
  | 0x02 => .userLights
  | 0x03 => .keyfob
  | _ => .other

/-- `GE_RS232_ALARM_GENERAL_TYPE_*`, as far as `concordd_handle_alarm` tells them apart. -/
inductive GeRs232AlarmGeneralType
  | alarm | alarmCancel | alarmRestoral | fireTrouble | fireTroubleRestoral | nonfireTrouble
  | nonfireTroubleRestoral | partitionEvent | systemTrouble | systemTroubleRestoral
  | systemConfigChange | systemEvent | other
  deriving DecidableEq

def GeRs232AlarmGeneralType.ofByte : UInt8 → GeRs232AlarmGeneralType
  | 1 => .alarm
  | 2 => .alarmCancel
  | 3 => .alarmRestoral
  | 4 => .fireTrouble
  | 5 => .fireTroubleRestoral
  | 6 => .nonfireTrouble
  | 7 => .nonfireTroubleRestoral
  | 13 => .partitionEvent
  | 15 => .systemTrouble
  | 16 => .systemTroubleRestoral
  | 17 => .systemConfigChange
  | 18 => .systemEvent
  | _ => .other

def geRs232AlarmSourceTypeBusDevice : UInt8 := 0

def geRs232SystemTroubleSpecificMainAcFail : UInt8 := 5

def geRs232SystemEventOutputOn : UInt8 := 5

def geRs232SystemEventOutputOff : UInt8 := 6

/-! Numbers in a frame, most significant byte first. -/

def word16 (a b : UInt8) : UInt16 := (a.toUInt16 <<< 8) + b.toUInt16

def word24 (a b c : UInt8) : UInt32 := (a.toUInt32 <<< 16) + (b.toUInt32 <<< 8) + c.toUInt32

def word32 (a b c d : UInt8) : UInt32 :=
  (a.toUInt32 <<< 24) + (b.toUInt32 <<< 16) + (c.toUInt32 <<< 8) + d.toUInt32

/-- `memcpy(dest, frame_bytes+offset, len)`, as far as the array reaches; `overrun` is the rest. -/
def copyFrom {n : ℕ} (dest : Fin n → UInt8) (frameBytes : Buffer) (offset : ℕ) (len : ℤ) :
    Fin n → UInt8 :=
  fun i => if (i.val : ℤ) < len then frameBytes (Fin.ofNat _ (offset + i.val)) else dest i

/-- `memcmp(frame_bytes+offset, dest, len) == 0`, as far as the array reaches. -/
def sameBytes {n : ℕ} (dest : Fin n → UInt8) (frameBytes : Buffer) (offset : ℕ) (len : ℤ) : Prop :=
  ∀ i : Fin n, (i.val : ℤ) < len → frameBytes (Fin.ofNat _ (offset + i.val)) = dest i

instance {n : ℕ} (dest : Fin n → UInt8) (frameBytes : Buffer) (offset : ℕ) (len : ℤ) :
    Decidable (sameBytes dest frameBytes offset len) :=
  inferInstanceAs (Decidable (∀ _, _))

/-- An entry of one of the tables of latest events, where the type has one. -/
def putEvent {n : ℕ} (table : Fin n → ConcorddEvent) (typeS : UInt8) (event : ConcorddEvent) :
    Fin n → ConcorddEvent :=
  match tableIndex n typeS.toNat with
  | some i => Function.update table i event
  | none => table

variable (env : Env) (self : ConcorddInstance)

def alarmStatus : GeRs232AlarmGeneralType → UInt8
  | .alarm | .fireTrouble | .nonfireTrouble | .systemTrouble => 1
  | .alarmCancel => 2
  | .alarmRestoral | .fireTroubleRestoral | .nonfireTroubleRestoral | .systemTroubleRestoral => 3
  | _ => 0

/-- The event `concordd_handle_alarm` builds. -/
def alarmEvent (partitioni st : UInt8) (source : UInt32) (typeG typeS : UInt8) (esd : UInt16) :
    ConcorddEvent where
  valid := true
  status := alarmStatus (.ofByte typeG)
  partitionId := partitioni
  sourceType := st
  zoneId := if st = geRs232AlarmSourceTypeBusDevice then 0xFFFF else source.toUInt16
  deviceId := if st = geRs232AlarmSourceTypeBusDevice then source else 0xFFFFFFFF
  generalType := typeG
  specificType := typeS
  extraData := esd
  timestamp := env.now

def concorddLogEvent (event : ConcorddEvent) : ConcorddInstance :=
  { self with
    eventLogLast := self.eventLogLast + 1
    eventLog := Function.update self.eventLog (self.eventLogLast + 1) event }

/-- The end of `concordd_handle_alarm`. -/
def concorddDispatchEvent : List InstanceEvent :=
  if self.callbacks.eventFunc then [.event (self.eventLog self.eventLogLast)] else []

/-- `GE_RS232_SYSTEM_EVENT_OUTPUT_ON` with 1, `GE_RS232_SYSTEM_EVENT_OUTPUT_OFF` with 0. -/
def concorddOutputReported (partitioni : UInt8) (source : UInt32) (esd : UInt16) (state : UInt8) :
    Outcome ConcorddInstance InstanceEvent :=
  match concorddGetOutput esd.toNat with
  | none => ⟨self, [], .ok⟩
  | some o =>
    if (self.output o).outputState ≠ state then
      let output := { self.output o with
        active := true
        outputState := state
        partitionId := partitioni
        lastChangedAt := env.now
        lastChangedBy := source }
      ⟨self.setOutput o output,
        if self.callbacks.outputInfoChangedFunc then
          [.outputInfoChanged o output (concorddGeneralStateChanged |||
            concorddGeneralLastChangedAtChanged ||| concorddGeneralLastChangedByChanged)]
        else [], .ok⟩
    else ⟨self, [], .ok⟩

/-- `GE_RS232_ALARM_GENERAL_TYPE_SYSTEM_CONFIG_CHANGE`: type 0 begins programming mode, 1 and 2
end it. -/
def concorddConfigChanged (partitioni typeS : UInt8) : ConcorddInstance × List InstanceEvent :=
  match concorddGetPartition partitioni.toNat with
  | none => (self, [])
  | some p =>
    if 2 < typeS then (self, [])
    else
      (self.setPartition p { self.partition p with programmingMode := typeS = 0 },
        concorddInstanceInfoChanged self concorddPartitionProgrammingModeChanged)

/-- `GE_RS232_ALARM_GENERAL_TYPE_SYSTEM_TROUBLE` and its restoral. -/
def concorddSystemTrouble (typeG : GeRs232AlarmGeneralType) (typeS : UInt8)
    (event : ConcorddEvent) : ConcorddInstance × List InstanceEvent :=
  let self := { self with troubleEvents := putEvent self.troubleEvents typeS event }
  if typeS = geRs232SystemTroubleSpecificMainAcFail then
    let self := { self with
      acPowerFailure := typeG = .systemTrouble
      acPowerFailureChangedTimestamp := env.now }
    (self, concorddInstanceInfoChanged self concorddInstanceAcPowerFailureChanged)
  else (self, [])

/-- The event as the latest one of its type in the partition's alarms. -/
def concorddPutAlarm (partitioni typeS : UInt8) (event : ConcorddEvent) : ConcorddInstance :=
  match concorddGetPartition partitioni.toNat with
  | none => self
  | some p => self.setPartition p { self.partition p with
      alarmEvents := putEvent (self.partition p).alarmEvents typeS event }

/-- The event as the latest one of its type in the partition's troubles. -/
def concorddPutTrouble (partitioni typeS : UInt8) (event : ConcorddEvent) : ConcorddInstance :=
  match concorddGetPartition partitioni.toNat with
  | none => self
  | some p => self.setPartition p { self.partition p with
      troubleEvents := putEvent (self.partition p).troubleEvents typeS event }

/-- The second `switch` of `concordd_handle_alarm`, apart from the output events. -/
def concorddUpdateLists (partitioni : UInt8) (typeG : GeRs232AlarmGeneralType) (typeS : UInt8)
    (event : ConcorddEvent) : ConcorddInstance × List InstanceEvent :=
  match typeG with
  | .systemTrouble | .systemTroubleRestoral => concorddSystemTrouble env self typeG typeS event
  | .alarm | .alarmRestoral | .alarmCancel => (concorddPutAlarm self partitioni typeS event, [])
  | .fireTrouble | .nonfireTrouble | .fireTroubleRestoral | .nonfireTroubleRestoral =>
    (concorddPutTrouble self partitioni typeS event, [])
  | .systemConfigChange => concorddConfigChanged self partitioni typeS
  | .partitionEvent | .systemEvent | .other => (self, [])

/-- `concordd_handle_alarm`. An output event is logged but not dispatched. -/
def concorddHandleAlarm (partitioni st : UInt8) (source : UInt32) (typeG typeS : UInt8)
    (esd : UInt16) : Outcome ConcorddInstance InstanceEvent :=
  let event := alarmEvent env partitioni st source typeG typeS esd
  let self := concorddLogEvent self event
  let general := GeRs232AlarmGeneralType.ofByte typeG
  if general = .systemEvent ∧ typeS = geRs232SystemEventOutputOn then
    concorddOutputReported env self partitioni source esd 1
  else if general = .systemEvent ∧ typeS = geRs232SystemEventOutputOff then
    concorddOutputReported env self partitioni source esd 0
  else
    let updated := concorddUpdateLists env self partitioni general typeS event
    ⟨updated.1, updated.2 ++ concorddDispatchEvent updated.1, .ok⟩

/-! `concordd_handle_subcmd2`. -/

/-- The loop over the lights of a `LIGHTS_STATE` frame. The first change that is reported ends
it. -/
def lightsStateLoop (p : Fin 8) (lightState : UInt16) :
    ConcorddInstance → List (Fin 10) → ConcorddInstance × List InstanceEvent
  | self, [] => (self, [])
  | self, i :: rest =>
    let light := (self.partition p).light i
    if light.lightState = lightState.toNat.testBit i.val then lightsStateLoop p lightState self rest
    else
      let changed := { light with lightState := !light.lightState, lastChangedAt := env.now }
      let self' := self.setPartition p ((self.partition p).setLight i changed)
      if ¬ self.refreshPending ∧ light.lastChangedAt ≠ 0 ∧ self.callbacks.lightInfoChangedFunc then
        (self', [.lightInfoChanged p i changed
          (concorddGeneralStateChanged ||| concorddGeneralLastChangedAtChanged)])
      else lightsStateLoop p lightState self' rest

def concorddHandleLightsState (frameBytes : Buffer) : Outcome ConcorddInstance InstanceEvent :=
  match concorddGetPartition (frameBytes 2).toNat with
  | none => ⟨self, [], .ok⟩
  | some p =>
    let r := lightsStateLoop env p (word16 (frameBytes 5) (frameBytes 4)) self (List.finRange 10)
    ⟨r.1, r.2, .ok⟩

def concorddHandleUserLights (frameBytes : Buffer) : Outcome ConcorddInstance InstanceEvent :=
  match concorddGetPartition (frameBytes 2).toNat with
  | none => ⟨self, [], .ok⟩
  | some p =>
    match concorddPartitionGetLight (frameBytes 8).toNat with
    | none => ⟨self, [], .ok⟩
    | some l =>
      let light := { (self.partition p).light l with
        lightState := frameBytes 9 ≠ 0
        lastChangedAt := env.now }
      ⟨self.setPartition p ((self.partition p).setLight l light),
        if self.callbacks.lightInfoChangedFunc then
          [.lightInfoChanged p l light
            (concorddGeneralStateChanged ||| concorddGeneralLastChangedAtChanged)]
        else [], .ok⟩

def concorddHandleKeyfob (frameBytes : Buffer) : Outcome ConcorddInstance InstanceEvent :=
  match concorddGetZone (frameBytes 5).toNat with
  | none => ⟨self, [], .ok⟩
  | some z =>
    if (self.zone z).lastKc ≠ frameBytes 6 ∨ frameBytes 6 ≤ 3 ∨
        env.now ≠ (self.zone z).lastKcChangedAt then
      let self := self.setZone z { self.zone z with
        lastKc := frameBytes 6
        lastKcChangedAt := env.now
        lastChangedAt := env.now
        active := true }
      ⟨self, concorddZoneInfoChanged self z
        (concorddZoneLastKcChanged ||| concorddZoneLastKcChangedAtChanged), .ok⟩
    else ⟨self, [], .ok⟩

def concorddHandleSubcmd2 (frameBytes : Buffer) : Outcome ConcorddInstance InstanceEvent :=
  match GeRs232PtaSubcmd2.ofByte (frameBytes 1) with
  | .lightsState => concorddHandleLightsState env self frameBytes
  | .userLights => concorddHandleUserLights env self frameBytes
  | .keyfob => concorddHandleKeyfob env self frameBytes
  | .other => ⟨self, [], .ok⟩

/-! `concordd_handle_subcmd`. -/

def concorddHandleSirenSetup (frameBytes : Buffer) : Outcome ConcorddInstance InstanceEvent :=
  match concorddGetPartition (frameBytes 2).toNat with
  | none => ⟨self, [], .ok⟩
  | some p =>
    let self := { self.setPartition p { self.partition p with
        active := true
        sirenRepeat := (frameBytes 4).toUInt32
        sirenCadence := word32 (frameBytes 5) (frameBytes 6) (frameBytes 7) (frameBytes 8)
        sirenStartedAt := env.now } with
      sirenGoPartitionId := frameBytes 2 }
    ⟨self,
      if frameBytes 4 = 0 then
        concorddPartitionInfoChanged self p (concorddPartitionSirenRepeatChanged |||
          concorddPartitionSirenCadenceChanged ||| concorddPartitionSirenStartedAtChanged)
      else [], .ok⟩

def concorddHandleSirenStop (frameBytes : Buffer) : Outcome ConcorddInstance InstanceEvent :=
  match concorddGetPartition (frameBytes 2).toNat with
  | none => ⟨self, [], .ok⟩
  | some p =>
    let self := self.setPartition p { self.partition p with sirenCadence := 0 }
    ⟨self, concorddPartitionInfoChanged self p concorddPartitionSirenCadenceChanged, .ok⟩

def concorddHandleSirenGo : Outcome ConcorddInstance InstanceEvent :=
  match concorddGetPartition self.sirenGoPartitionId.toNat with
  | none => ⟨self, [], .ok⟩
  | some p =>
    ⟨self,
      if (self.partition p).sirenCadence ≠ 0 then
        concorddPartitionInfoChanged self p (concorddPartitionSirenRepeatChanged |||
          concorddPartitionSirenCadenceChanged ||| concorddPartitionSirenStartedAtChanged)
      else [], .ok⟩

def concorddHandleTouchpadDisplay (frameBytes : Buffer) (frameLen : ℕ) :
    Outcome ConcorddInstance InstanceEvent :=
  match concorddGetPartition (frameBytes 2).toNat with
  | none => ⟨self, [], .ok⟩
  | some p =>
    let len : ℤ := frameLen - 5
    let partition := self.partition p
    let past := overrun frameBytes 37 frameLen (partitionAddress p + 1675)
    let unchanged := len = partition.encodedTouchpadTextLen.toNat ∧
      sameBytes partition.encodedTouchpadText frameBytes 5 len ∧ ∀ w ∈ past, self.byte w.1 = w.2
    let self := self.setPartition p { partition with
      active := true
      encodedTouchpadTextLen := UInt8.ofInt len
      encodedTouchpadText := copyFrom partition.encodedTouchpadText frameBytes 5 len }
    let self := self.write past
    ⟨self, .copy 32 len ::
      if unchanged then []
      else concorddPartitionInfoChanged self p concorddPartitionTouchpadTextChanged, .ok⟩

def concorddHandleLevel (frameBytes : Buffer) : Outcome ConcorddInstance InstanceEvent :=
  match concorddGetPartition (frameBytes 2).toNat with
  | none => ⟨self, [], .ok⟩
  | some p =>
    let self := self.setPartition p { self.partition p with
      active := true
      armLevel := frameBytes 6
      armLevelUser := word16 (frameBytes 4) (frameBytes 5)
      armLevelTimestamp := env.now
      entryDelayActive := false }
    ⟨self, concorddPartitionInfoChanged self p concorddPartitionArmLevelChanged, .ok⟩

def concorddHandleEntryExitDelay (frameBytes : Buffer) : Outcome ConcorddInstance InstanceEvent :=
  match concorddGetPartition (frameBytes 2).toNat with
  | none => ⟨self, [], .ok⟩
  | some p =>
    let newValue : Bool := frameBytes 4 &&& 0x80 = 0
    if frameBytes 4 &&& 0x40 ≠ 0 then
      ⟨self.setPartition p { self.partition p with exitDelayActive := newValue }, [], .ok⟩
    else
      ⟨self.setPartition p { self.partition p with entryDelayActive := newValue }, [], .ok⟩

def concorddHandleFeatureState (frameBytes : Buffer) : Outcome ConcorddInstance InstanceEvent :=
  match concorddGetPartition (frameBytes 2).toNat with
  | none => ⟨self, [], .ok⟩
  | some p =>
    let changedFeatures := (self.partition p).featureState ^^^ frameBytes 4
    let self := self.setPartition p { self.partition p with
      featureState := frameBytes 4
      active := true }
    ⟨self,
      if changedFeatures ≠ 0 then
        concorddPartitionInfoChanged self p (changedFeatures.toUInt32 <<< 8)
      else [], .ok⟩

def concorddHandleSubcmd (frameBytes : Buffer) (frameLen : ℕ) :
    Outcome ConcorddInstance InstanceEvent :=
  match GeRs232PtaSubcmd.ofByte (frameBytes 1) with
  | .sirenSetup => concorddHandleSirenSetup env self frameBytes
  | .sirenStop => concorddHandleSirenStop self frameBytes
  | .sirenGo => concorddHandleSirenGo self
  | .sirenSync => ⟨self, if self.callbacks.sirenSyncFunc then [.sirenSync] else [], .ok⟩
  | .touchpadDisplay => concorddHandleTouchpadDisplay self frameBytes frameLen
  | .level => concorddHandleLevel env self frameBytes
  | .alarmTrouble =>
    concorddHandleAlarm env self (frameBytes 2) (frameBytes 4)
      (word24 (frameBytes 5) (frameBytes 6) (frameBytes 7)) (frameBytes 8) (frameBytes 9)
      (word16 (frameBytes 10) (frameBytes 11))
  | .entryExitDelay => concorddHandleEntryExitDelay self frameBytes
  | .featureState => concorddHandleFeatureState self frameBytes
  | .temperature => ⟨self, [], .ok⟩
  | .timeAndDate => ⟨{ self with refreshPending := false }, [], .ok⟩
  | .other => ⟨self, [], .ok⟩

/-! Zones and the equipment list. -/

def concorddHandleZoneStatus (frameBytes : Buffer) : Outcome ConcorddInstance InstanceEvent :=
  match concorddGetZone (word16 (frameBytes 3) (frameBytes 4)).toNat with
  | none => ⟨self, [], .ok⟩
  | some z =>
    let zone := self.zone z
    let state := frameBytes 5
    let changedState := zone.zoneState ^^^ state
    let tripped := state &&& geRs232ZoneStatusTripped ≠ 0 ∧
      changedState &&& geRs232ZoneStatusTripped ≠ 0
    let notify := changedState ≠ 0 ∧ zone.active
    let self := self.setZone z { zone with
      zoneState := state
      lastTrippedAt := if tripped then env.now else zone.lastTrippedAt
      lastChangedAt := if notify then env.now else zone.lastChangedAt
      active := true }
    ⟨self, if notify then concorddZoneInfoChanged self z (changedState.toUInt32 <<< 8) else [], .ok⟩

def concorddHandleEquipListPartitionData (frameBytes : Buffer) :
    Outcome ConcorddInstance InstanceEvent :=
  match concorddGetPartition (frameBytes 1).toNat with
  | none => ⟨self, [], .ok⟩
  | some p =>
    let changed := (self.partition p).armLevel ≠ frameBytes 3
    let self := self.setPartition p { self.partition p with
      active := true
      armLevel := frameBytes 3 }
    ⟨self, if changed then concorddPartitionInfoChanged self p concorddPartitionArmLevelChanged
      else [], .ok⟩

/-- A device beyond the table of 32 is written over the outputs and users behind it: its flag at
offset 0, its number at 4 and its status at 8. -/
def concorddHandleEquipListSuperbusDevData (frameBytes : Buffer) :
    Outcome ConcorddInstance InstanceEvent :=
  let deviceid := word24 (frameBytes 3) (frameBytes 4) (frameBytes 5)
  let i := self.busDeviceCount
  let self := { self with busDeviceCount := self.busDeviceCount + 1 }
  match tableIndex 32 i.toNat with
  | none =>
    let device : ConcorddDevice :=
      { active := true, deviceId := deviceid, deviceStatus := frameBytes 6 }
    ⟨self.write (deviceWrites i.toNat device [0, 4, 5, 6, 7, 8]),
      [.strayDevice i deviceid (frameBytes 6)], .ok⟩
  | some d =>
    ⟨{ self with busDevice := Function.update self.busDevice d { self.busDevice d with
        active := true
        deviceId := deviceid
        deviceStatus := frameBytes 6 } }, [], .ok⟩

/-- A capability, with a count for 0x08 and 0x0B. -/
def ConcorddDevice.addCap (device : ConcorddDevice) (cap data : UInt8) : ConcorddDevice :=
  { device with
    caps := device.caps ||| ((1 : UInt32) <<< cap.toUInt32)
    inputCount := if cap = 0x08 then data else device.inputCount
    outputCount := if cap = 0x0B then data else device.outputCount }

/-- Where in the device `addCap` writes. -/
def capOffsets (cap : UInt8) : List ℕ :=
  [12, 13, 14, 15] ++ if cap = 0x08 then [16] else if cap = 0x0B then [17] else []

def concorddHandleEquipListSuperbusCapData (frameBytes : Buffer) :
    Outcome ConcorddInstance InstanceEvent :=
  let deviceid := word24 (frameBytes 1) (frameBytes 2) (frameBytes 3)
  match concorddGetDevice self deviceid with
  | none => ⟨self, [], .ok⟩
  | some i =>
    let device := (self.device i).addCap (frameBytes 4) (frameBytes 5)
    match tableIndex 32 i with
    | some d => ⟨{ self with busDevice := Function.update self.busDevice d device }, [], .ok⟩
    | none => ⟨self.write (deviceWrites i device (capOffsets (frameBytes 4))), [], .ok⟩

def concorddHandleEquipListOutputData (frameBytes : Buffer) (frameLen : ℕ) :
    Outcome ConcorddInstance InstanceEvent :=
  match concorddGetOutput (frameBytes 2 &&& ~~~ 0x40).toNat with
  | none => ⟨self, [], .ok⟩
  | some o =>
    let len : ℤ := frameLen - 9
    let output := self.output o
    let self := self.setOutput o { output with
      active := true
      outputState := frameBytes 3 &&& 1
      pulse := frameBytes 3 &&& 2 ≠ 0
      idBytes := copyFrom output.idBytes frameBytes 4 5
      encodedNameLen := UInt8.ofInt len
      encodedName := copyFrom output.encodedName frameBytes 9 len }
    ⟨self.write (overrun frameBytes 25 frameLen (outputAddress o + 37)),
      [.copy 5 5, .copy 16 len], .ok⟩

/-- Lights 1 to 9 of the partition. -/
def concorddHandleEquipListLightToSensorData (frameBytes : Buffer) :
    Outcome ConcorddInstance InstanceEvent :=
  match concorddGetPartition (frameBytes 1).toNat with
  | none => ⟨self, [], .ok⟩
  | some p =>
    let partition := self.partition p
    ⟨self.setPartition p { partition with
        active := true
        light := fun i =>
          if i = 0 then partition.light i
          else { partition.light i with zoneId := frameBytes (Fin.ofNat _ (2 + i.val)) } }, [], .ok⟩

def concorddHandleEquipListZoneData (frameBytes : Buffer) (frameLen : ℕ) :
    Outcome ConcorddInstance InstanceEvent :=
  match concorddGetZone (word16 (frameBytes 4) (frameBytes 5)).toNat with
  | none => ⟨self, [], .ok⟩
  | some z =>
    let zone := self.zone z
    let len : ℤ := frameLen - 8
    let changes : UInt32 :=
      (if zone.partitionId ≠ frameBytes 1 then concorddGeneralPartitionIdChanged else 0) |||
      (if zone.group ≠ frameBytes 3 then concorddZoneGroupChanged else 0) |||
      (if zone.type ≠ frameBytes 6 then concorddZoneTypeChanged else 0) |||
      ((zone.zoneState ^^^ frameBytes 7).toUInt32 <<< 8)
    let self := self.setZone z { zone with
      active := true
      partitionId := frameBytes 1
      group := frameBytes 3
      type := frameBytes 6
      zoneState := frameBytes 7
      encodedNameLen := UInt8.ofInt len
      encodedName := copyFrom zone.encodedName frameBytes 8 len }
    let self := self.write (overrun frameBytes 24 frameLen (zoneAddress z + 48))
    ⟨self, .copy 16 len ::
      if changes ≠ 0 ∧ zone.active then concorddZoneInfoChanged self z changes else [], .ok⟩

/-- The four digits of a user's code. A code of four zeros is invalid and made empty. -/
def userCode (codeStr : Fin 7 → UInt8) (hi lo : UInt8) : Fin 7 → UInt8 :=
  fun i =>
    if i = 0 then (if hi = 0 ∧ lo = 0 then 0 else (hi >>> 4) + 0x30)
    else if i = 1 then (hi &&& 0xF) + 0x30
    else if i = 2 then (lo >>> 4) + 0x30
    else if i = 3 then (lo &&& 0xF) + 0x30
    else if i = 4 then 0
    else codeStr i

def concorddHandleEquipListUserData (frameBytes : Buffer) :
    Outcome ConcorddInstance InstanceEvent :=
  match concorddGetUser (word16 (frameBytes 1) (frameBytes 2)).toNat with
  | none => ⟨self, [], .ok⟩
  | some u =>
    ⟨self.setUser u { self.user u with
        active := true
        codeStr := userCode (self.user u).codeStr (frameBytes 4) (frameBytes 5) }, [], .ok⟩

def concorddHandlePanelType (frameBytes : Buffer) : Outcome ConcorddInstance InstanceEvent :=
  ⟨{ self with
      panelType := frameBytes 1
      hwRev := word16 (frameBytes 2) (frameBytes 3)
      swRev := word16 (frameBytes 4) (frameBytes 5)
      serialNumber := word32 (frameBytes 6) (frameBytes 7) (frameBytes 8) (frameBytes 9) }, [], .ok⟩

def concorddHandleFrame (frameBytes : Buffer) (frameLen : ℕ) :
    Outcome ConcorddInstance InstanceEvent :=
  match GeRs232Pta.ofByte (frameBytes 0) with
  | .subcmd => concorddHandleSubcmd env self frameBytes frameLen
  | .subcmd2 => concorddHandleSubcmd2 env self frameBytes
  | .automationEventLost => ⟨self, [], .ok⟩
  | .clearAutomationDynamicImage => concorddRefresh env self none
  | .equipListComplete =>
    let r := concorddDynamicDataRefresh env self none
    ⟨r.state, r.out, .ok⟩
  | .zoneStatus => concorddHandleZoneStatus env self frameBytes
  | .equipListPartitionData => concorddHandleEquipListPartitionData self frameBytes
  | .equipListZoneData => concorddHandleEquipListZoneData self frameBytes frameLen
  | .equipListUserData => concorddHandleEquipListUserData self frameBytes
  | .equipListSuperbusDevData => concorddHandleEquipListSuperbusDevData self frameBytes
  | .equipListSuperbusCapData => concorddHandleEquipListSuperbusCapData self frameBytes
  | .equipListOutputData => concorddHandleEquipListOutputData self frameBytes frameLen
  | .equipListScheduleData | .equipListScheduledEventData => ⟨self, [], .ok⟩
  | .equipListLightToSensorData => concorddHandleEquipListLightToSensorData self frameBytes
  | .panelType => concorddHandlePanelType self frameBytes
  | .other => ⟨self, [], .ok⟩

end Concordd
