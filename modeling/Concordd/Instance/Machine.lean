import Concordd.Instance.Handlers

/-! The instance as the main loop drives it: received bytes, commands, and time. -/
namespace Concordd

/-- The instance and what lies outside it. -/
structure Daemon where
  inst : ConcorddInstance
  env : Env

/-- `frame` hands a frame to `concordd_handle_frame` directly, as `received_message` does. -/
inductive DaemonStep
  | receiveByte (byte : UInt8)
  | frame (frameBytes : Buffer) (frameLen : ℕ)
  | process
  | refresh (finished : Option ℕ)
  | dynamicDataRefresh (finished : Option ℕ)
  | pressKeys (partition : ℤ) (keys : List UInt8) (finished : Option ℕ)
  | setLight (partition light : ℤ) (state : Bool) (finished : Option ℕ)
  | setZoneBypass (zone : ℤ) (bypass : Bool) (user : ℤ) (finished : Option ℕ)
  | setOutput (output : ℤ) (state : Bool) (finished : Option ℕ)
  | setArmLevel (partition armLevel : ℤ) (finished : Option ℕ)
  | install (callbacks : Callbacks)
  | advance (seconds : ℕ)
  | sendReturns (status : GeRs232Status)

/-- What a run shows: the calls the instance makes, the frames it handles and the status of each
command. -/
inductive DaemonEvent
  | calls (event : InstanceEvent)
  | handleFrame (frameBytes : Buffer) (frameLen : ℕ)
  | returns (command : DaemonStep) (status : GeRs232Status)

/-- `concordd_handle_frame`, marked in the trace. -/
def Daemon.handle (s : Daemon) (frameBytes : Buffer) (frameLen : ℕ) : Daemon × List DaemonEvent :=
  let r := concorddHandleFrame s.env s.inst frameBytes frameLen
  ({ s with inst := r.state }, .handleFrame frameBytes frameLen :: r.out.map .calls)

/-- The queue's part of `ge_rs232_receive_byte`, then `received_message` for a complete frame. -/
def Daemon.dispatch (s : Daemon) : List LinkEvent → Daemon × List DaemonEvent
  | [] => (s, [])
  | .receivedMessage buffer len :: events =>
    let handled := s.handle buffer len.toNat
    let rest := handled.1.dispatch events
    (rest.1, .calls (.link (.receivedMessage buffer len)) :: (handled.2 ++ rest.2))
  | event :: events =>
    let rest := s.dispatch events
    (rest.1, .calls (.link event) :: rest.2)

def Daemon.receiveByte (s : Daemon) (byte : UInt8) : Daemon × List DaemonEvent :=
  let r := geQueueReceiveByte s.env s.inst.geQueue byte
  { s with inst := { s.inst with geQueue := r.1 } }.dispatch r.2

/-- A command, with the status it returns. -/
def Daemon.command (s : Daemon) (i : DaemonStep) (r : Outcome ConcorddInstance InstanceEvent) :
    Daemon × List DaemonEvent :=
  ({ s with inst := r.state }, r.out.map .calls ++ [.returns i r.status])

def daemonMachine : Machine Daemon DaemonStep DaemonEvent where
  step s i := match i with
    | .receiveByte byte => s.receiveByte byte
    | .frame frameBytes frameLen => s.handle frameBytes frameLen
    | .process => s.command i (concorddProcess s.env s.inst)
    | .refresh finished => s.command i (concorddRefresh s.env s.inst finished)
    | .dynamicDataRefresh finished =>
      s.command i (concorddDynamicDataRefresh s.env s.inst finished)
    | .pressKeys partition keys finished =>
      s.command i (concorddPressKeys s.env s.inst partition keys finished)
    | .setLight partition light state finished =>
      s.command i (concorddSetLight s.env s.inst partition light state finished)
    | .setZoneBypass zone bypass user finished =>
      s.command i (concorddSetZoneBypass s.env s.inst zone bypass user finished)
    | .setOutput output state finished =>
      s.command i (concorddSetOutput s.env s.inst output state finished)
    | .setArmLevel partition armLevel finished =>
      s.command i (concorddSetArmLevel s.env s.inst partition armLevel finished)
    | .install callbacks => ({ s with inst := { s.inst with callbacks } }, [])
    | .advance seconds => ({ s with env := { s.env with now := s.env.now + seconds } }, [])
    | .sendReturns status => ({ s with env := { s.env with sendRet := status } }, [])

/-- The daemon after `concordd_init`, at any time. -/
def daemonInit (env : Env) : Daemon := ⟨concorddInit, env⟩

end Concordd
