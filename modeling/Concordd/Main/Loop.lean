import Concordd.Library.Expansion
import Concordd.Dbus.Server
import Concordd.Instance.MainLoop

/-! The loop of `main`: what each turn waits for, and what it then does. -/
namespace Concordd

/-- What a signal handler leaves in `gRet`, where it sets it. -/
inductive Signal
  | sigint | sigterm | sighup | sigchld
  deriving DecidableEq

def exitFailure : ℤ := 1

def errorcodeQuit : ℤ := -2

def errorcodeUnknown : ℤ := exitFailure

def errorcodeErrno : ℤ := exitFailure

def Signal.gRet : Signal → Option ℤ
  | .sigint | .sighup => some exitFailure
  | .sigterm => some errorcodeQuit
  | .sigchld => none

/-- What `select` ends with. In `ready`, `received` is what `read` gives, where the descriptor is
readable: an error is `none`, the end of the file the empty list. `call` is the method call
that the dispatch then finds. -/
inductive Selected
  | interrupted (signal : Signal)
  | failed
  | ready (seconds : ℕ) (received : Option (Option (List UInt8)))
      (call : Option (List UInt8 × DbusMethod))

/-- One turn of the loop, as it comes from outside. `sends` is what `send_bytes_func` returns in
each of the steps the turn then takes. -/
structure Turn where
  dispatchDataRemains : Bool := false
  messagesToSend : Bool := false
  selected : Selected
  sends : ℕ → GeRs232Status := fun _ => .ok

/-- What `main` keeps between two turns; `left` says that it has left the loop by `break` or
`goto bail`. -/
structure MainLoop where
  server : DbusServer
  zeroCmsInARowCount : ℕ := 0
  gRet : ℤ := 0
  left : Bool := false

inductive LogLevel
  | info | warning | crit
  deriving DecidableEq

/-- The lines logged for a thrashing loop, the calls of `select`, and what the server shows. -/
inductive MainEvent
  | thrashing (level : LogLevel)
  | select (tvSec tvUsec : ℤ) (writable : Bool)
  | dbus (event : DbusEvent)

variable (m : MainLoop) (t : Turn)

def MainLoop.Running : Prop := m.gRet = 0 ∧ m.left = false

instance : Decidable m.Running := inferInstanceAs (Decidable (_ ∧ _))

abbrev MainLoop.inst : ConcorddInstance := m.server.daemon.inst

/-- The descriptor of the panel is watched for writing too. -/
def MainLoop.watchesWritable : Bool :=
  if geQueueIsEmpty m.inst.geQueue || m.inst.geQueue.interface.readingMessage then false
  else decide (geRs232ReadyToSend m.server.daemon.env m.inst.geQueue.interface ≠ .wait)

/-- `cms_timeout` after `concordd_dbus_server_update_fd_set`, and not negative. -/
def MainLoop.cmsTimeout : ℤ :=
  let cms := if t.dispatchDataRemains || t.messagesToSend then 0 else concorddGetTimeoutCms m.inst
  if cms < 0 then 0 else cms

/-- The line logged when there have been so many turns in a row without a timeout. -/
def thrashLevel (count : ℕ) : Option LogLevel :=
  if count = 20 then some .info
  else if count = 200 then some .warning
  else if count = 1000 then some .crit
  else none

/-- The part that counts turns without a timeout, up to the call of `select`. -/
def MainLoop.wait : MainLoop × List MainEvent :=
  let cms := m.cmsTimeout t
  let count := if cms = 0 then m.zeroCmsInARowCount + 1 else 0
  let cms := if 200 < count then 10 else cms
  ({ m with
      zeroCmsInARowCount := count
      gRet := if count = 1000 then errorcodeUnknown else m.gRet },
    (thrashLevel count).toList.map .thrashing ++
      [.select (cms / 1000) (cms % 1000 * 1000) m.watchesWritable])

/-- What the rest of the turn asks of the server: bytes that are not zero, one dispatch, and
`concordd_process`. A failed `read` leaves the loop before the last two. -/
def Selected.dbusSteps : Selected → List DbusStep
  | .ready seconds received call =>
    .advance seconds :: match received with
    | some none => []
    | some (some bytes) =>
      (bytes.filter (· ≠ 0)).map .receiveByte ++
        (call.toList.map fun c => .methodCall c.1 c.2) ++ [.process]
    | none => (call.toList.map fun c => .methodCall c.1 c.2) ++ [.process]
  | _ => []

/-- Steps of the server, each with what `send_bytes_func` returns in it. -/
def answeredSteps (sends : ℕ → GeRs232Status) : List DbusStep → List DbusStep
  | [] => []
  | i :: is => .sendReturns (sends 0) :: i :: answeredSteps (fun k => sends (k + 1)) is

def Turn.dbusSteps (t : Turn) : List DbusStep := answeredSteps t.sends t.selected.dbusSteps

/-- The turn ends the loop at once. -/
def Selected.leaves : Selected → Bool
  | .failed | .ready _ (some none) _ => true
  | _ => false

def Selected.gRet (gRet : ℤ) : Selected → ℤ
  | .interrupted signal => signal.gRet.getD gRet
  | .failed => errorcodeErrno
  | .ready _ _ _ => gRet

/-- One turn. `concordd_process` never fails, so nothing leaves the loop after it. -/
def MainLoop.turn : MainLoop × List MainEvent :=
  if m.Running then
    let waited := m.wait t
    let steps := t.dbusSteps
    ({ waited.1 with
        server := dbusMachine.run m.server steps
        gRet := t.selected.gRet waited.1.gRet
        left := t.selected.leaves },
      waited.2 ++ (dbusMachine.trace m.server steps).map .dbus)
  else (m, [])

def mainMachine : Machine MainLoop Turn MainEvent where
  step := MainLoop.turn

/-- The state in which `main` enters its loop: the refresh is begun before the callbacks are
set. -/
def mainInit (env : Env) : MainLoop :=
  let refreshed := (dbusMachine.step (dbusInit env) .refresh).1
  { server := { refreshed with
      daemon := { refreshed.daemon with
        inst := { refreshed.daemon.inst with
          callbacks := ⟨true, true, true, true, true, true, true⟩ } } } }

/-! The server, the daemon and the link under the loop. -/

def DaemonEvent.linkEvent : DaemonEvent → Option LinkEvent
  | .calls (.link event) => some event
  | _ => none

def DbusEvent.daemonEvent : DbusEvent → Option DaemonEvent
  | .daemon event => some event
  | _ => none

def MainEvent.dbusEvent : MainEvent → Option DbusEvent
  | .dbus event => some event
  | _ => none

theorem linkEvents_eq_filterMap (out : List DaemonEvent) :
    linkEvents out = out.filterMap DaemonEvent.linkEvent := by
  apply List.filterMap_congr
  intro e _
  cases e with
  | calls event => cases event <;> rfl
  | _ => rfl

def daemonLink : Expansion daemonMachine linkMachine where
  abs := Daemon.link
  steps := Daemon.linkSteps
  seen := DaemonEvent.linkEvent
  run_step s i := (follows_step s i).1
  trace_step s i := (follows_step s i).2.trans (linkEvents_eq_filterMap _)

/-- The daemon's steps in a step of the server. -/
def DbusServer.daemonSteps (s : DbusServer) : DbusStep → List DaemonStep
  | .methodCall path method => (dbusMessageHandler path method s.nextHelper).toList
  | .receiveByte byte => [.receiveByte byte]
  | .process => [.process]
  | .refresh => [.refresh none]
  | .advance seconds => [.advance seconds]
  | .sendReturns status => [.sendReturns status]

theorem filterMap_daemonEvent (out : List DaemonEvent) :
    (out.map DbusEvent.daemon).filterMap DbusEvent.daemonEvent = out := by
  rw [List.filterMap_map]
  exact List.filterMap_some

theorem daemonSteps_run (s : DbusServer) (i : DbusStep) :
    daemonMachine.run s.daemon (s.daemonSteps i) = (dbusMachine.step s i).1.daemon := by
  cases i with
  | methodCall path method =>
    simp only [DbusServer.daemonSteps, dbusMachine, DbusServer.methodCall]
    cases dbusMessageHandler path method s.nextHelper <;> rfl
  | _ => rfl

theorem daemonSteps_trace (s : DbusServer) (i : DbusStep) :
    daemonMachine.trace s.daemon (s.daemonSteps i) =
      (dbusMachine.step s i).2.filterMap DbusEvent.daemonEvent := by
  cases i with
  | methodCall path method =>
    simp only [DbusServer.daemonSteps, dbusMachine, DbusServer.methodCall]
    cases dbusMessageHandler path method s.nextHelper with
    | none => rfl
    | some command =>
      dsimp only [Option.toList]
      rw [List.filterMap_cons_none rfl, List.filterMap_append, filterMap_daemonEvent,
        Machine.trace_cons, Machine.trace_nil]
      congr 1
      split <;> rfl
  | _ =>
    simp only [DbusServer.daemonSteps, dbusMachine, DbusServer.main, filterMap_daemonEvent,
      Machine.trace_cons, Machine.trace_nil, List.append_nil]

def serverDaemon : Expansion dbusMachine daemonMachine where
  abs := DbusServer.daemon
  steps := DbusServer.daemonSteps
  seen := DbusEvent.daemonEvent
  run_step := daemonSteps_run
  trace_step := daemonSteps_trace

/-- The server's steps in a turn: none once the loop has ended. -/
def MainLoop.dbusSteps : List DbusStep := if m.Running then t.dbusSteps else []

variable {m t}

theorem filterMap_dbusEvent (out : List DbusEvent) :
    (out.map MainEvent.dbus).filterMap MainEvent.dbusEvent = out := by
  rw [List.filterMap_map]
  exact List.filterMap_some

theorem wait_quiet (m : MainLoop) (t : Turn) :
    (m.wait t).2.filterMap MainEvent.dbusEvent = [] := by
  rw [List.filterMap_eq_nil_iff]
  intro e he
  rcases List.mem_append.mp he with he | he
  · obtain ⟨level, -, rfl⟩ := List.mem_map.mp he
    rfl
  · rw [List.mem_singleton.mp he]
    rfl

theorem mainSteps_run (m : MainLoop) (t : Turn) :
    dbusMachine.run m.server (m.dbusSteps t) = (mainMachine.step m t).1.server := by
  simp only [MainLoop.dbusSteps, mainMachine, MainLoop.turn]
  split <;> rfl

theorem mainSteps_trace (m : MainLoop) (t : Turn) :
    dbusMachine.trace m.server (m.dbusSteps t) =
      (mainMachine.step m t).2.filterMap MainEvent.dbusEvent := by
  simp only [MainLoop.dbusSteps, mainMachine, MainLoop.turn]
  split
  · rw [List.filterMap_append, wait_quiet, filterMap_dbusEvent, List.nil_append]
  · rfl

def mainServer : Expansion mainMachine dbusMachine where
  abs := MainLoop.server
  steps := MainLoop.dbusSteps
  seen := MainEvent.dbusEvent
  run_step := mainSteps_run
  trace_step := mainSteps_trace

/-- The loop as a run of the link. -/
def mainLink : Expansion mainMachine linkMachine := (mainServer.trans serverDaemon).trans daemonLink

/-- The loop watches for writing exactly when a `concordd_process` now would send. -/
theorem watchesWritable_iff (m : MainLoop) :
    m.watchesWritable = true ↔
      SendsMessage (linkEvents (daemonMachine.step m.server.daemon .process).2) := by
  rw [← (follows_step m.server.daemon .process).2]
  unfold Daemon.linkSteps MainLoop.watchesWritable
  by_cases hr : m.inst.geQueue.interface.readingMessage = true
  · rw [if_pos hr, hr, Bool.or_true, if_pos rfl]
    exact iff_of_false Bool.false_ne_true not_sends_nil
  · have hu := update_sends_iff m.server.daemon.env m.inst.geQueue
    rw [if_neg hr, Bool.eq_false_of_not_eq_true hr, Bool.or_false]
    simp only [linkMachine, Daemon.link, Machine.trace_cons, Machine.trace_nil, List.append_nil,
      hu, geQueueIsEmpty, decide_eq_true_eq]
    split
    · next he => simp [he]
    · next hne => simp [hne]

end Concordd
