import Concordd.Dbus.Paths
import Concordd.Text.Names
import Concordd.Text.Trimming
import Concordd.Instance.ZoneMirror
import Concordd.Instance.LightMirror

/-! The dictionaries of the D-Bus server: what it answers, and what its signals say. -/
namespace Concordd

open Ascii

/-- `CONCORDD_DBUS_INFO_*` and `CONCORDD_DBUS_EXCEPTION_*`, each under the text it stands for. -/
inductive DbusKey
  | className | panelType | hwRevision | swRevision | serialNumber | programmingMode
  | acPowerFailure | acPowerFailureChangedTimestamp | partitionId | armLevel | armLevelUser
  | touchpadText | sirenRepeat | sirenCadence | sirenStartedAt | chime | energySaver | noDelay
  | latchKey | silentArm | quickArm | zoneId | name | group | type | isTripped | isBypassed
  | isTrouble | isAlarm | isFault | lastKcChangedAt | lastKc | value | outputId | pulse | lightId
  | lastChangedBy | lastChangedAt | lastTrippedAt | sourceType | unitId | status | generalType
  | specificType | extraData | description | category
  deriving DecidableEq

/-- A variant of a dictionary. No string stands for one that is made of bytes past an array. -/
inductive DbusValue
  | string (str : Option (List UInt8))
  | int32 (i : ℤ)
  | boolean (b : Bool)
  deriving DecidableEq

/-- What `append_dict_entry` has appended. -/
abbrev DbusDict := List (DbusKey × DbusValue)

/-- `DBUS_TYPE_INT32` of a wider number. -/
def DbusValue.ofWide (n : ℤ) : DbusValue := .int32 (n.bmod (2 ^ 32))

def DbusValue.ofByte (byte : UInt8) : DbusValue := .int32 byte.toNat

/-- `ge_text_to_ascii_one_line` of an encoded text, with the byte before its static buffer. -/
def DbusValue.ofEncoded (before : UInt8) {n : ℕ} (encoded : Fin n → UInt8) (len : UInt8) :
    DbusValue :=
  .string <|
    if len.toNat ≤ n then textOf (geTextToAsciiOneLine before ((List.ofFn encoded).take len.toNat))
    else none

def DbusValue.ofUser (user : ℤ) : DbusValue := .string (some (geUserToCstr user))

/-- `!!(bits & mask)`. -/
def DbusValue.ofBits (bits mask : UInt8) : DbusValue := .boolean (bits &&& mask ≠ 0)

/-- `(bits & mask) == mask`. -/
def DbusValue.ofAllBits (bits mask : UInt8) : DbusValue := .boolean (bits &&& mask = mask)

/-- The entries whose flag is set. -/
def changedDict (changed : UInt32) (entries : List (UInt32 × DbusKey × DbusValue)) : DbusDict :=
  entries.filterMap fun entry => if changed &&& entry.1 ≠ 0 then some entry.2 else none

def geRs232FeatureStateChime : UInt8 := 1

def geRs232FeatureStateEnergySaver : UInt8 := 2

def geRs232FeatureStateNoDelay : UInt8 := 4

def geRs232FeatureStateLatchkey : UInt8 := 8

def geRs232FeatureStateSilentArming : UInt8 := 16

def geRs232FeatureStateQuickArm : UInt8 := 32

def concorddGeneralEncodedNameChanged : UInt32 := (1 : UInt32) <<< 1

def concorddInstancePanelTypeChanged : UInt32 := (1 : UInt32) <<< 8

def concorddInstanceHwRevChanged : UInt32 := (1 : UInt32) <<< 9

def concorddInstanceSwRevChanged : UInt32 := (1 : UInt32) <<< 10

def concorddInstanceSerialNumberChanged : UInt32 := (1 : UInt32) <<< 11

/-- The flag of a status bit or of a feature. -/
def bitChanged (mask : UInt8) : UInt32 := mask.toUInt32 <<< 8

/-- The 32 places of the cadence, from its highest bit on. -/
def sirenCadenceText (cadence : UInt32) : List UInt8 :=
  (List.range 32).map fun i : ℕ => if cadence.toNat.testBit (31 - i) then 0x31 else 0x30

/-! The dictionaries of `get_info`. -/

variable (before : UInt8)

def partitionInfo (partition : ConcorddPartition) : DbusDict :=
  [(.className, .string (some (text "partition"))),
    (.touchpadText,
      .ofEncoded before partition.encodedTouchpadText partition.encodedTouchpadTextLen),
    (.armLevel, .ofByte partition.armLevel),
    (.sirenRepeat, .ofWide partition.sirenRepeat.toNat),
    (.programmingMode, .boolean partition.programmingMode),
    (.sirenCadence, .string (some (sirenCadenceText partition.sirenCadence))),
    (.sirenStartedAt, .ofWide partition.sirenStartedAt),
    (.armLevelUser, .ofUser partition.armLevelUser.toNat),
    (.chime, .ofBits partition.featureState geRs232FeatureStateChime),
    (.energySaver, .ofBits partition.featureState geRs232FeatureStateEnergySaver),
    (.noDelay, .ofBits partition.featureState geRs232FeatureStateNoDelay),
    (.latchKey, .ofBits partition.featureState geRs232FeatureStateLatchkey),
    (.silentArm, .ofBits partition.featureState geRs232FeatureStateSilentArming),
    (.quickArm, .ofBits partition.featureState geRs232FeatureStateQuickArm)]

def systemInfo (self : ConcorddInstance) : DbusDict :=
  [(.panelType, .ofByte self.panelType),
    (.hwRevision, .int32 self.hwRev.toNat),
    (.swRevision, .int32 self.swRev.toNat),
    (.serialNumber, .ofWide self.serialNumber.toNat),
    (.acPowerFailure, .boolean self.acPowerFailure),
    (.acPowerFailureChangedTimestamp, .ofWide self.acPowerFailureChangedTimestamp)]

def outputInfo (i : ℤ) (output : ConcorddOutput) : DbusDict :=
  [(.className, .string (some (text "output"))), (.outputId, .int32 i)] ++
    (if 0 < output.encodedNameLen then
      [(.name, .ofEncoded before output.encodedName output.encodedNameLen)]
    else []) ++
    [(.partitionId, .ofByte output.partitionId),
      (.value, .boolean (output.outputState ≠ 0)),
      (.pulse, .boolean output.pulse),
      (.lastChangedBy, .ofUser ((output.lastChangedBy.toNat : ℤ).bmod (2 ^ 32))),
      (.lastChangedAt, .ofWide output.lastChangedAt)]

def lightInfo (i lighti : ℤ) (light : ConcorddLight) : DbusDict :=
  [(.className, .string (some (text "light"))),
    (.lightId, .int32 lighti),
    (.partitionId, .int32 i),
    (.zoneId, .ofByte light.zoneId),
    (.value, .boolean light.lightState),
    (.lastChangedAt, .ofWide light.lastChangedAt)]

def zoneInfo (i : ℤ) (zone : ConcorddZone) : DbusDict :=
  [(.className, .string (some (text "zone"))),
    (.zoneId, .int32 i),
    (.name, .ofEncoded before zone.encodedName zone.encodedNameLen),
    (.partitionId, .ofByte zone.partitionId),
    (.type, .ofByte zone.type)] ++
    (if zone.lastChangedAt ≠ 0 then [(.lastChangedAt, .ofWide zone.lastChangedAt)] else []) ++
    (if zone.lastTrippedAt ≠ 0 then [(.lastTrippedAt, .ofWide zone.lastTrippedAt)] else []) ++
    [(.group, .ofByte zone.group),
      (.isTripped, .ofBits zone.zoneState geRs232ZoneStatusTripped),
      (.isBypassed, .ofBits zone.zoneState geRs232ZoneStatusBypassed),
      (.isTrouble, .ofBits zone.zoneState geRs232ZoneStatusTrouble),
      (.isAlarm, .ofBits zone.zoneState geRs232ZoneStatusAlarm),
      (.isFault, .ofBits zone.zoneState geRs232ZoneStatusFault),
      (.lastKc, .ofByte zone.lastKc),
      (.lastKcChangedAt, .ofWide zone.lastKcChangedAt)]

variable (self : ConcorddInstance) (path : List UInt8)

/-! The handlers of `get_info`. No dictionary stands for `DBUS_HANDLER_RESULT_NOT_YET_HANDLED`. -/

def concorddDbusHandlePartitionGetInfo : Option DbusDict :=
  (concorddGetPartition (concorddPartitionIndexFromDbusPath path)).map fun p =>
    partitionInfo before (self.partition p)

def concorddDbusHandleOutputGetInfo : Option DbusDict :=
  (concorddOutputFromDbusPath path).bind fun o =>
    if (self.output o).active then
      some (outputInfo before (concorddOutputIndexFromDbusPath path) (self.output o))
    else none

def concorddDbusHandleLightGetInfo : Option DbusDict :=
  (concorddLightFromDbusPath path).map fun (p, l) =>
    lightInfo (concorddPartitionIndexFromDbusPath path) (concorddLightIndexFromDbusPath path)
      ((self.partition p).light l)

def concorddDbusHandleZoneGetInfo : Option DbusDict :=
  (concorddGetZone (concorddZoneIndexFromDbusPath path)).bind fun z =>
    if (self.zone z).active then
      some (zoneInfo before (concorddZoneIndexFromDbusPath path) (self.zone z))
    else none

/-- `CONCORDD_DBUS_CMD_GET_INFO` in `dbus_message_handler`. -/
def dbusGetInfo : Option DbusDict :=
  if strhasprefix path concorddDbusPathOutput then concorddDbusHandleOutputGetInfo before self path
  else if strhasprefix path concorddDbusPathZone then concorddDbusHandleZoneGetInfo before self path
  else if concorddDbusPathIsLight path then concorddDbusHandleLightGetInfo self path
  else if concorddDbusPathIsPartition path then concorddDbusHandlePartitionGetInfo before self path
  else if path = concorddDbusPathRoot then some (systemInfo self)
  else none

/-! Signals. -/

/-- `CONCORDD_DBUS_SIGNAL_*`, as far as they are sent. -/
inductive DbusMember
  | changed | sirenSync | alarm | trouble | event
  deriving DecidableEq

structure DbusSignal where
  path : List UInt8
  member : DbusMember
  dict : DbusDict
  deriving DecidableEq

/-- A `changed` signal, unless nothing has changed. -/
def changedSignal (object : DbusObject) (changed : UInt32)
    (entries : List (UInt32 × DbusKey × DbusValue)) : List DbusSignal :=
  if changed = 0 then []
  else [⟨snprintf 120 object.path, .changed, changedDict changed entries⟩]

def concorddDbusSystemInfoChangedFunc (changed : UInt32) : List DbusSignal :=
  changedSignal .system changed
    [(concorddInstancePanelTypeChanged, .panelType, .ofByte self.panelType),
      (concorddInstanceHwRevChanged, .hwRevision, .int32 self.hwRev.toNat),
      (concorddInstanceSwRevChanged, .swRevision, .int32 self.swRev.toNat),
      (concorddInstanceSerialNumberChanged, .serialNumber, .ofWide self.serialNumber.toNat),
      (concorddInstanceAcPowerFailureChanged, .acPowerFailure, .boolean self.acPowerFailure)]

def concorddDbusPartitionInfoChangedFunc (i : Fin 8) (partition : ConcorddPartition)
    (changed : UInt32) : List DbusSignal :=
  changedSignal (.partition i.val) changed
    [(concorddPartitionTouchpadTextChanged, .touchpadText,
        .ofEncoded before partition.encodedTouchpadText partition.encodedTouchpadTextLen),
      (concorddPartitionSirenRepeatChanged, .sirenRepeat, .ofWide partition.sirenRepeat.toNat),
      (concorddPartitionProgrammingModeChanged, .programmingMode,
        .boolean partition.programmingMode),
      (concorddPartitionSirenCadenceChanged, .sirenCadence,
        .string (some (sirenCadenceText partition.sirenCadence))),
      (concorddPartitionSirenStartedAtChanged, .sirenStartedAt, .ofWide partition.sirenStartedAt),
      (concorddPartitionArmLevelChanged, .armLevel, .ofByte partition.armLevel),
      (concorddPartitionArmLevelChanged, .armLevelUser, .ofUser partition.armLevelUser.toNat),
      (bitChanged geRs232FeatureStateChime, .chime,
        .ofBits partition.featureState geRs232FeatureStateChime),
      (bitChanged geRs232FeatureStateEnergySaver, .energySaver,
        .ofBits partition.featureState geRs232FeatureStateEnergySaver),
      (bitChanged geRs232FeatureStateNoDelay, .noDelay,
        .ofBits partition.featureState geRs232FeatureStateNoDelay),
      (bitChanged geRs232FeatureStateLatchkey, .latchKey,
        .ofBits partition.featureState geRs232FeatureStateLatchkey),
      (bitChanged geRs232FeatureStateSilentArming, .silentArm,
        .ofBits partition.featureState geRs232FeatureStateSilentArming),
      (bitChanged geRs232FeatureStateQuickArm, .quickArm,
        .ofBits partition.featureState geRs232FeatureStateQuickArm)]

/-- The flag for the time of the last trip sends that time under the key of the last change. -/
def concorddDbusZoneInfoChangedFunc (i : Fin 96) (zone : ConcorddZone) (changed : UInt32) :
    List DbusSignal :=
  changedSignal (.zone i.val) changed
    [(concorddZoneLastTrippedAtChanged, .lastChangedAt, .ofWide zone.lastTrippedAt),
      (concorddGeneralEncodedNameChanged, .name,
        .ofEncoded before zone.encodedName zone.encodedNameLen),
      (concorddGeneralPartitionIdChanged, .partitionId, .ofByte zone.partitionId),
      (concorddZoneTypeChanged, .type, .ofByte zone.type),
      (concorddZoneGroupChanged, .group, .ofByte zone.group),
      (bitChanged geRs232ZoneStatusTripped, .isTripped,
        .ofAllBits zone.zoneState geRs232ZoneStatusTripped),
      (concorddZoneLastKcChanged, .lastKc, .ofByte zone.lastKc),
      (concorddZoneLastKcChangedAtChanged, .lastKcChangedAt, .ofWide zone.lastKcChangedAt),
      (bitChanged geRs232ZoneStatusFault, .isFault,
        .ofAllBits zone.zoneState geRs232ZoneStatusFault),
      (bitChanged geRs232ZoneStatusAlarm, .isAlarm,
        .ofAllBits zone.zoneState geRs232ZoneStatusAlarm),
      (bitChanged geRs232ZoneStatusTrouble, .isTrouble,
        .ofAllBits zone.zoneState geRs232ZoneStatusTrouble),
      (bitChanged geRs232ZoneStatusBypassed, .isBypassed,
        .ofAllBits zone.zoneState geRs232ZoneStatusBypassed)]

def concorddDbusLightInfoChangedFunc (i : Fin 8) (lighti : Fin 10) (light : ConcorddLight)
    (changed : UInt32) : List DbusSignal :=
  changedSignal (.light i.val lighti.val) changed
    [(concorddGeneralStateChanged, .value, .boolean light.lightState),
      (concorddLightZoneIdChanged, .zoneId, .ofByte light.zoneId),
      (concorddGeneralLastChangedAtChanged, .lastChangedAt, .ofWide light.lastChangedAt),
      (concorddGeneralLastChangedByChanged, .lastChangedBy, .ofWide light.lastChangedBy.toNat)]

def concorddDbusOutputInfoChangedFunc (i : Fin 71) (output : ConcorddOutput) (changed : UInt32) :
    List DbusSignal :=
  changedSignal (.output i.val) changed
    [(concorddGeneralStateChanged, .value, .boolean (output.outputState ≠ 0)),
      (concorddGeneralLastChangedAtChanged, .lastChangedAt, .ofWide output.lastChangedAt),
      (concorddGeneralLastChangedByChanged, .lastChangedBy, .ofWide output.lastChangedBy.toNat),
      (concorddGeneralEncodedNameChanged, .name,
        .ofEncoded before output.encodedName output.encodedNameLen),
      (concorddGeneralPartitionIdChanged, .partitionId, .ofByte output.partitionId)]

end Concordd
