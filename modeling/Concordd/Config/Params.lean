import Concordd.Config.NextArg
import Concordd.Dbus.Server

/-! The daemon's settings, and the configuration file they are read from. -/
namespace Concordd

/-! ### `read_config` -/

/-- `config_param_set_func`, over the state it changes: what it returns, unless it reads through a
null pointer. -/
abbrev ConfigParamSetFunc (σ : Type*) :=
  σ → Option (List UInt8) → Option (List UInt8) → Option (ℤ × σ)

/-- The pointers passed to the setter, as the strings they point to. -/
structure ParamCall where
  key : Option (List UInt8)
  value : Option (List UInt8)
  deriving DecidableEq

/-- The lines `fgetln` returns one after the other. -/
def fileLines : List UInt8 → List (List UInt8)
  | [] => []
  | c :: cs =>
    if c = 0x0A then [c] :: fileLines cs
    else
      match fileLines cs with
      | [] => [[c]]
      | line :: lines => (c :: line) :: lines

/-- The variables of `read_config`, the buffer of `fgetln` and the calls made so far. There is no
`ret` once the setter has crashed. -/
structure ReadConfig (σ : Type*) where
  ret : Option ℤ
  context : σ
  linep : List UInt8
  calls : List ParamCall

/-- `ret = setter(context, key, value);` -/
def ReadConfig.set {σ : Type*} (setter : ConfigParamSetFunc σ) (s : ReadConfig σ)
    (call : ParamCall) : ReadConfig σ :=
  match setter s.context call.key call.value with
  | none => { s with ret := none, calls := s.calls ++ [call] }
  | some (ret, context) =>
    { s with ret := some ret, context := context, calls := s.calls ++ [call] }

/-- The buffer with a new line in it, over what is left of longer ones. -/
def ReadConfig.fgetln {σ : Type*} (s : ReadConfig σ) (line : List UInt8) : List UInt8 :=
  line ++ 0 :: s.linep.drop (line.length + 1)

/-- The body of the loop. -/
def ReadConfig.line {σ : Type*} (setter : ConfigParamSetFunc σ) (s : ReadConfig σ)
    (line : List UInt8) : ReadConfig σ :=
  let key := getNextArg (s.fgetln line) 0
  let value := getNextArg key.mem key.rest
  let s := { s with linep := value.mem }
  if key.ret.isNone then s
  else s.set setter ⟨key.ret.map (stringAt value.mem), value.ret.map (stringAt value.mem)⟩

/-- `while (!feof(file) && (line = fgetln(file, &line_len)) && !ret) { … }`. The line read behind a
call that failed is dropped. -/
def readConfigLoop {σ : Type*} (setter : ConfigParamSetFunc σ) :
    List (List UInt8) → ReadConfig σ → ReadConfig σ
  | [], s => s
  | line :: lines, s =>
    if s.ret = some 0 then readConfigLoop setter lines (s.line setter line) else s

/-- `read_config`, of a file that may not open. -/
def readConfig {σ : Type*} (setter : ConfigParamSetFunc σ) (file : Option (List UInt8))
    (context : σ) : ReadConfig σ :=
  match file with
  | none => ⟨some (-1), context, [], []⟩
  | some content => readConfigLoop setter (fileLines content) ⟨some 0, context, [], []⟩

/-! ### `set_config_param` -/

/-- The settings that hold a string. -/
inductive StringSetting where
  | privDropToUser | chroot | socketPath
  | partitionAlarmCommand | partitionTroubleCommand | partitionEventCommand
  | systemTroubleCommand | systemEventCommand | lightChangedCommand | outputChangedCommand
  | zoneChangedCommand | acPowerFailureCommand | acPowerRestoredCommand
  deriving DecidableEq

/-- Their keys. -/
def StringSetting.keys : List (List UInt8 × StringSetting) := [
  (cLiteral "PrivDropToUser", .privDropToUser),
  (cLiteral "Chroot", .chroot),
  (cLiteral "SocketPath", .socketPath),
  (cLiteral "PartitionAlarmCommand", .partitionAlarmCommand),
  (cLiteral "PartitionTroubleCommand", .partitionTroubleCommand),
  (cLiteral "PartitionEventCommand", .partitionEventCommand),
  (cLiteral "SystemTroubleCommand", .systemTroubleCommand),
  (cLiteral "SystemEventCommand", .systemEventCommand),
  (cLiteral "LightChangedCommand", .lightChangedCommand),
  (cLiteral "OutputChangedCommand", .outputChangedCommand),
  (cLiteral "ZoneChangedCommand", .zoneChangedCommand),
  (cLiteral "AcPowerFailureCommand", .acPowerFailureCommand),
  (cLiteral "AcPowerRestoredCommand", .acPowerRestoredCommand)]

/-- The globals `set_config_param` writes. -/
structure Settings where
  gSocketWrapperBaud : ℤ
  strings : StringSetting → Option (List UInt8)
  gPIDFilename : Option (List UInt8)

/-- `strcaseequal`. -/
def strcaseequal (x y : List UInt8) : Bool :=
  let lower := fun c : UInt8 => if 0x41 ≤ c && c ≤ 0x5A then c + 0x20 else c
  x.map lower == y.map lower

/-- `set_config_param`, where it is built with `HAVE_PWD_H`. Whether a file can be created is up to
`creates`; what goes to the log, and the mask the C library keeps for it, are left out. -/
def setConfigParam (creates : List UInt8 → Bool) : ConfigParamSetFunc Settings
  | s, key, value => do
    let key ← key
    if strcaseequal key (cLiteral "SocketBaud") then
      let value ← value
      let baud := strtol10 value
      -- too low a rate is not set, and no error either
      if 9600 ≤ baud then some (0, { s with gSocketWrapperBaud := baud }) else some (0, s)
    else if strcaseequal key (cLiteral "SyslogMask") then
      let _ ← value
      some (0, s)
    else if strcaseequal key (cLiteral "PIDFile") then
      if s.gPIDFilename.isSome then some (-1, s)
      else
        let value ← value
        some (if creates value then 0 else -1, { s with gPIDFilename := some value })
    else
      match StringSetting.keys.find? fun k => strcaseequal key k.1 with
      | none => some (-1, s)
      | some (_, setting) =>
        let value ← value
        let string := if value = [] then none else some value
        some (0, { s with strings := Function.update s.strings setting string })

/-- Without a value the setter refuses the parameter at best. -/
theorem setConfigParam_without_value {creates : List UInt8 → Bool} {settings : Settings}
    {key : List UInt8} {result : ℤ × Settings}
    (h : setConfigParam creates settings (some key) none = some result) :
    result = (-1, settings) := by
  unfold setConfigParam at h
  simp only [Option.bind_eq_bind, Option.bind_some, Option.bind_none] at h
  split_ifs at h
  · exact (Option.some.inj h).symm
  · split at h
    · exact (Option.some.inj h).symm
    · cases h

end Concordd
