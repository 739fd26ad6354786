import Concordd.Instance.LinkSteps

/-! The D-Bus server: method calls, the commands they become, and the helpers that answer them. -/
namespace Concordd

/-- The characters of a C string literal. -/
def cLiteral (s : String) : List UInt8 := s.toList.map fun c => UInt8.ofNat c.toNat

def concorddDbusPathRoot : List UInt8 := cLiteral "/net/voria/concordd"

def concorddDbusPathPartition : List UInt8 := concorddDbusPathRoot ++ cLiteral "/partition/"

def concorddDbusPathZone : List UInt8 := concorddDbusPathRoot ++ cLiteral "/zone/"

def concorddDbusPathOutput : List UInt8 := concorddDbusPathRoot ++ cLiteral "/output/"

/-! Object paths. -/

def strhasprefix (str pre : List UInt8) : Bool := pre.isPrefixOf str

/-- The part of the string from the first occurrence of `needle` on. -/
def strstr (needle : List UInt8) : List UInt8 → Option (List UInt8)
  | [] => if needle = [] then some [] else none
  | c :: str => if strhasprefix (c :: str) needle then some (c :: str) else strstr needle str

def isDigit (c : UInt8) : Bool := 0x30 ≤ c ∧ c ≤ 0x39

/-- `strtol` in base 10, with a 64-bit `long`, as an `int`. -/
def strtol10 (s : List UInt8) : ℤ :=
  let str := s.dropWhile isSpace
  let sign := strtolSign str
  let digits := (str.drop sign.1).takeWhile isDigit
  let value := sign.2 * (digits.foldl (fun acc c => 10 * acc + (c - 0x30).toNat) 0 : ℕ)
  (max (-2 ^ 63) (min (2 ^ 63 - 1) value)).bmod (2 ^ 32)

/-- The number after the prefix, and -1 for a path without it. -/
def indexFromDbusPath (pre path : List UInt8) : ℤ :=
  if strhasprefix path pre then strtol10 (path.drop pre.length) else -1

def concorddPartitionIndexFromDbusPath (path : List UInt8) : ℤ :=
  indexFromDbusPath concorddDbusPathPartition path

def concorddZoneIndexFromDbusPath (path : List UInt8) : ℤ :=
  indexFromDbusPath concorddDbusPathZone path

def concorddOutputIndexFromDbusPath (path : List UInt8) : ℤ :=
  indexFromDbusPath concorddDbusPathOutput path

def concorddOutputFromDbusPath (path : List UInt8) : Option (Fin 71) :=
  if 0 ≤ concorddOutputIndexFromDbusPath path then
    concorddGetOutput (concorddOutputIndexFromDbusPath path)
  else none

def concorddDbusPathIsPartition (path : List UInt8) : Bool :=
  strhasprefix path concorddDbusPathPartition

def concorddDbusPathIsLight (path : List UInt8) : Bool :=
  concorddDbusPathIsPartition path && (strstr (cLiteral "/light/") path).isSome

def concorddLightIndexFromDbusPath (path : List UInt8) : ℤ :=
  if concorddDbusPathIsPartition path then
    match strstr (cLiteral "/light/") path with
    | some rest => strtol10 (rest.drop (cLiteral "/light/").length)
    | none => -1
  else -1

def concorddLightFromDbusPath (path : List UInt8) : Option (Fin 8 × Fin 10) :=
  let p := concorddPartitionIndexFromDbusPath path
  let l := concorddLightIndexFromDbusPath path
  if 0 ≤ p ∧ 0 ≤ l then
    match concorddGetPartition p, concorddPartitionGetLight l with
    | some p, some l => some (p, l)
    | _, _ => none
  else none

/-! Method calls. -/

/-- The methods that send something to the panel, with the arguments `dbus_message_get_args`
finds. -/
inductive DbusMethod
  | setArmLevel (armLevel : ℤ)
  | setValue (state : Bool)
  | setBypassed (state : Bool) (user : ℤ)
  | refresh
  | pressKeys (keys : List UInt8)

/-- The command a handler gives, with its helper as the callback. No command stands for
`DBUS_HANDLER_RESULT_NOT_YET_HANDLED`, which is decided before the helper is made. -/
def dbusMessageHandler (path : List UInt8) (method : DbusMethod) (helper : ℕ) :
    Option DaemonStep :=
  match method with
  | .setArmLevel armLevel =>
    let partition := concorddPartitionIndexFromDbusPath path
    if concorddDbusPathIsPartition path ∧ 0 ≤ partition then
      some (.setArmLevel partition armLevel (some helper))
    else none
  | .setValue state =>
    if strhasprefix path concorddDbusPathOutput then
      let output := concorddOutputIndexFromDbusPath path
      if output < 0 ∨ concorddOutputFromDbusPath path = none then none
      else some (.setOutput output state (some helper))
    else if concorddDbusPathIsLight path then
      let light := concorddLightIndexFromDbusPath path
      if light < 0 ∨ concorddLightFromDbusPath path = none then none
      else some (.setLight (concorddPartitionIndexFromDbusPath path) light state (some helper))
    else none
  | .setBypassed state user =>
    let zone := concorddZoneIndexFromDbusPath path
    if strhasprefix path concorddDbusPathZone ∧ 0 ≤ zone then
      some (.setZoneBypass zone state user (some helper))
    else none
  | .refresh => if path = concorddDbusPathRoot then some (.refresh (some helper)) else none
  | .pressKeys keys =>
    let partition := concorddPartitionIndexFromDbusPath path
    if concorddDbusPathIsPartition path ∧ 0 ≤ partition then
      some (.pressKeys partition keys (some helper))
    else none

/-- The status a handler answers a failed command with. -/
def DbusMethod.answer (method : DbusMethod) (status : GeRs232Status) : GeRs232Status :=
  match method with
  | .refresh | .pressKeys _ => status
  | .setArmLevel _ | .setValue _ | .setBypassed _ _ => if status = .already then .ok else status

/-! The server and the main loop as a machine. -/

/-- `nextHelper` is the helper `concordd_dbus_callback_helper_new` makes next. -/
structure DbusServer where
  daemon : Daemon
  nextHelper : ℕ

/-- Method calls, and what `main` does otherwise: its only command is the refresh it begins
with. -/
inductive DbusStep
  | methodCall (path : List UInt8) (method : DbusMethod)
  | receiveByte (byte : UInt8)
  | process
  | refresh
  | advance (seconds : ℕ)
  | sendReturns (status : GeRs232Status)

/-- `helperNew` and `helper` mark the handler's calls of `concordd_dbus_callback_helper_new` and
`concordd_dbus_callback_helper`. -/
inductive DbusEvent
  | daemon (event : DaemonEvent)
  | helperNew (helper : ℕ)
  | helper (helper : ℕ) (status : GeRs232Status)

def DaemonEvent.returned : DaemonEvent → Option GeRs232Status
  | .returns _ status => some status
  | _ => none

/-- The status of the command in what it shows. -/
def returnedStatus (out : List DaemonEvent) : GeRs232Status :=
  (out.findSome? DaemonEvent.returned).getD .ok

def DbusServer.main (s : DbusServer) (i : DaemonStep) : DbusServer × List DbusEvent :=
  let r := daemonMachine.step s.daemon i
  ({ s with daemon := r.1 }, r.2.map .daemon)

def DbusServer.methodCall (s : DbusServer) (path : List UInt8) (method : DbusMethod) :
    DbusServer × List DbusEvent :=
  match dbusMessageHandler path method s.nextHelper with
  | none => (s, [])
  | some command =>
    let r := daemonMachine.step s.daemon command
    let status := returnedStatus r.2
    (⟨r.1, s.nextHelper + 1⟩, .helperNew s.nextHelper :: (r.2.map .daemon ++
      if status.toInt < 0 then [.helper s.nextHelper (method.answer status)] else []))

def dbusMachine : Machine DbusServer DbusStep DbusEvent where
  step s
    | .methodCall path method => s.methodCall path method
    | .receiveByte byte => s.main (.receiveByte byte)
    | .process => s.main .process
    | .refresh => s.main (.refresh none)
    | .advance seconds => s.main (.advance seconds)
    | .sendReturns status => s.main (.sendReturns status)

def dbusInit (env : Env) : DbusServer := ⟨daemonInit env, 0⟩

end Concordd
