import Concordd.Instance.Sendable
import Concordd.Main.Loop
import Concordd.Queue.Progress

/-! Whatever clients ask for is answered: the loop brings the queue forward. -/
namespace Concordd

variable {m : MainLoop} {t : Turn} {turns : List Turn}

theorem mainLink_sendable (m : MainLoop) (t : Turn) : ∀ j ∈ mainLink.steps m t, j.Sendable :=
  daemonLink.forall_expand linkSteps_sendable _ _

/-! Rounds of the loop. -/

/-- The turn gets as far as `concordd_process`. -/
def Turn.Processes (t : Turn) : Prop :=
  match t.selected with
  | .ready _ received _ => received ≠ some none
  | _ => False

instance (t : Turn) : Decidable t.Processes := by
  unfold Turn.Processes
  split <;> infer_instance

/-- Turns in which two seconds pass, and the last of which comes to `concordd_process` while no
frame is coming in. -/
structure MainRound (m : MainLoop) (turns : List Turn) : Prop where
  late : m.server.daemon.env.now + 2 ≤ (mainMachine.run m turns).server.daemon.env.now
  processes : ∃ before last, turns = before ++ [last] ∧ (mainMachine.run m before).Running ∧
    last.Processes
  unread : (mainMachine.run m turns).inst.geQueue.interface.readingMessage = false

theorem selectedSteps_processes (h : t.Processes) :
    ∃ others, t.selected.dbusSteps = others ++ [.process] := by
  unfold Turn.Processes at h
  cases hs : t.selected with
  | ready seconds received call =>
    rw [hs] at h
    cases received with
    | none => exact ⟨.advance seconds :: _, rfl⟩
    | some read => cases read with
      | none => exact (h rfl).elim
      | some bytes => exact ⟨.advance seconds :: _, rfl⟩
  | _ =>
    rw [hs] at h
    exact h.elim

theorem answeredSteps_concat (sends : ℕ → GeRs232Status) (is : List DbusStep) (i : DbusStep) :
    ∃ others, answeredSteps sends (is ++ [i]) = others ++ [i] := by
  induction is generalizing sends with
  | nil => exact ⟨[.sendReturns (sends 0)], rfl⟩
  | cons j is ih =>
    obtain ⟨others, ho⟩ := ih fun k => sends (k + 1)
    refine ⟨.sendReturns (sends 0) :: j :: others, ?_⟩
    rw [List.cons_append, answeredSteps, ho]
    rfl

theorem dbusSteps_processes (h : t.Processes) :
    ∃ others, t.dbusSteps = others ++ [.process] := by
  obtain ⟨others, ho⟩ := selectedSteps_processes h
  unfold Turn.dbusSteps
  rw [ho]
  exact answeredSteps_concat t.sends others .process

theorem process_readingMessage (s : Daemon) :
    (daemonMachine.step s .process).1.inst.geQueue.interface.readingMessage =
      s.inst.geQueue.interface.readingMessage := by
  simp only [daemonMachine, Daemon.command, concorddProcess]
  split
  · rfl
  · exact update_readingMessage s.env s.inst.geQueue

/-- A turn that comes to `concordd_process` without a frame coming in ends with an update. -/
theorem mainLink_steps_update (hrun : m.Running) (h : t.Processes)
    (hunread : (m.turn t).1.inst.geQueue.interface.readingMessage = false) :
    ∃ others, mainLink.steps m t = others ++ [.queueUpdate] := by
  obtain ⟨others, ho⟩ := dbusSteps_processes h
  have hsteps : m.dbusSteps t = others ++ [.process] := (if_pos hrun).trans ho
  have hserver : serverDaemon.expand m.server (m.dbusSteps t) =
      serverDaemon.expand m.server others ++ [.process] := by
    rw [hsteps, Expansion.expand_append]
    rfl
  have hend : (m.turn t).1.server.daemon = (daemonMachine.step
      (daemonMachine.run m.server.daemon (serverDaemon.expand m.server others)) .process).1 := by
    have hrun' := (mainServer.trans serverDaemon).run_step m t
    simp only [Expansion.trans, mainServer, hserver, Machine.run_append] at hrun'
    exact hrun'.symm
  have hread : (daemonMachine.run m.server.daemon (serverDaemon.expand m.server
      others)).inst.geQueue.interface.readingMessage = false := by
    rw [← process_readingMessage, ← hend]
    exact hunread
  refine ⟨daemonLink.expand m.server.daemon (serverDaemon.expand m.server others), ?_⟩
  show daemonLink.expand m.server.daemon (serverDaemon.expand m.server (m.dbusSteps t)) = _
  rw [hserver, Expansion.expand_append]
  congr 1
  simp only [daemonLink, Expansion.expand_cons, Expansion.expand_nil, Daemon.linkSteps, hread]
  rfl

theorem elapsed_update (others : List LinkStep) :
    elapsed (others ++ [.queueUpdate]) = elapsed others := by
  simp [elapsed]

/-- A round of the loop is one of the queue. -/
theorem expand_mainRound (h : MainRound m turns) :
    ∃ r : Round, mainLink.expand m turns = r.steps := by
  obtain ⟨before, last, rfl, hrun, hlast⟩ := h.processes
  have hend : mainMachine.run m (before ++ [last]) =
      ((mainMachine.run m before).turn last).1 := Machine.run_append
  have hunread := h.unread
  rw [hend] at hunread
  obtain ⟨others, ho⟩ := mainLink_steps_update hrun hlast hunread
  have hexpand : mainLink.expand m (before ++ [last]) =
      (mainLink.expand m before ++ others) ++ [.queueUpdate] := by
    rw [Expansion.expand_append, Expansion.expand_cons, Expansion.expand_nil, List.append_nil, ho,
      List.append_assoc]
  have hnow := now_run (mainLink.abs m) (mainLink.expand m (before ++ [last]))
  rw [mainLink.run_expand, hexpand, elapsed_update] at hnow
  have hlate : m.server.daemon.env.now + 2 ≤
      m.server.daemon.env.now + elapsed (mainLink.expand m before ++ others) :=
    h.late.trans_eq hnow
  exact ⟨⟨mainLink.expand m before ++ others, by omega⟩, hexpand⟩

theorem expand_mainRounds (rounds : List (List Turn))
    (h : mainMachine.bulk.Along MainRound m rounds) :
    ∃ rs : List Round, rs.length = rounds.length ∧
      mainLink.expand m rounds.flatten = rs.flatMap Round.steps := by
  induction rounds generalizing m with
  | nil => exact ⟨[], rfl, rfl⟩
  | cons turns rounds ih =>
    obtain ⟨r, hr⟩ := expand_mainRound h.1
    obtain ⟨rs, hlen, hrs⟩ := ih h.2
    refine ⟨r :: rs, congrArg Nat.succ hlen, ?_⟩
    rw [List.flatten_cons, Expansion.expand_append, hr, List.flatMap_cons]
    exact congrArg (r.steps ++ ·) hrs

/-! From the start. -/

/-- No message is handed over to a full queue in this turn. -/
def KeepsRoom (m : MainLoop) (t : Turn) : Prop :=
  linkMachine.Along HasRoom (mainLink.abs m) (mainLink.steps m t)

/-- The only message in the queue is not given up in this turn. -/
def KeepsLast (m : MainLoop) (t : Turn) : Prop :=
  linkMachine.Along (fun l i => ¬ DropsLast l i) (mainLink.abs m) (mainLink.steps m t)

instance (m : MainLoop) (t : Turn) : Decidable (KeepsRoom m t) :=
  inferInstanceAs (Decidable (linkMachine.Along _ _ _))

instance (m : MainLoop) (t : Turn) : Decidable (KeepsLast m t) :=
  inferInstanceAs (Decidable (linkMachine.Along _ _ _))

theorem allDue_mainInit {env : Env} (hnow : 0 ≤ env.now) :
    AllDue (mainLink.abs (mainInit env)) := by
  have hfirst : mainLink.abs (mainInit env) =
      (linkMachine.step (linkInit env) (.queueMessage [geRs232AtpEquipListRequest] none)).1 :=
    ((follows_step (daemonInit env) (.refresh none)).1).symm
  rw [hfirst]
  refine allDue_step _ _ (allDue_init hnow) ⟨?_, one_sendable, ?_⟩
  · show ¬ ((0 : Fin geQueueMaxMessages) - 0 = 7)
    decide
  · rintro ⟨h, -⟩
    cases h

theorem allDue_mainLink {turns : List Turn} (hdue : AllDue (mainLink.abs m))
    (h : mainMachine.Along (fun m t => KeepsRoom m t ∧ KeepsLast m t) m turns) :
    AllDue (mainLink.abs (mainMachine.run m turns)) := by
  induction turns generalizing m with
  | nil => exact hdue
  | cons t turns ih =>
    refine ih ?_ h.2
    rw [← mainLink.run_step]
    refine Machine.inv_run allDue_step hdue ?_
    have hsend := mainLink_sendable m t
    obtain ⟨hroom, hlast⟩ := h.1
    exact Machine.along_and.mpr ⟨hroom, Machine.along_and.mpr
      ⟨Machine.along_of_forall fun i hi _ => hsend i hi, hlast⟩⟩

/-- Once the loop has run, without an overflow and without giving up an only message, whatever is
then received and asked for short of an overflow: the callbacks of all messages in the queue are
called within one round more than three for each of them, oldest first. -/
theorem main_answers (env : Env) (hnow : 0 ≤ env.now) (before : List Turn)
    (hbefore : mainMachine.Along (fun m t => KeepsRoom m t ∧ KeepsLast m t) (mainInit env) before)
    (rounds : List (List Turn))
    (hrounds : mainMachine.bulk.Along MainRound (mainMachine.run (mainInit env) before) rounds)
    (hroom : mainMachine.Along KeepsRoom (mainMachine.run (mainInit env) before) rounds.flatten)
    (hlen : 3 * (mainMachine.run (mainInit env) before).inst.geQueue.contents.length <
      rounds.length) :
    (mainMachine.run (mainInit env) before).inst.geQueue.pending <+:
      finishedCallbacks ((mainMachine.trace (mainMachine.run (mainInit env) before)
        rounds.flatten).filterMap mainLink.seen) := by
  have hall := allDue_mainLink (allDue_mainInit hnow) hbefore
  generalize mainMachine.run (mainInit env) before = m at hall hrounds hroom hlen ⊢
  obtain ⟨rs, hcount, hrs⟩ := expand_mainRounds rounds hrounds
  rw [← mainLink.trace_expand, hrs]
  refine served_of_rounds hall.due hall.sent rs ?_ ((credit_le _ _).trans ?_)
  · rw [← hrs]
    exact (mainLink.along_expand m rounds.flatten).mpr hroom
  · rw [hcount, GeQueue.pending, List.length_map]
    exact hlen

/-- A second in which nothing comes. -/
def silentTurn : Turn := { selected := .ready 1 none none }

/-- The first request is never answered, and given up after four rounds. -/
theorem main_answers_silence :
    (mainMachine.run (mainInit ⟨0, .ok⟩) []).inst.geQueue.pending <+:
      finishedCallbacks ((mainMachine.trace (mainMachine.run (mainInit ⟨0, .ok⟩) [])
        (List.replicate 4 [silentTurn, silentTurn]).flatten).filterMap mainLink.seen) := by
  refine main_answers ⟨0, .ok⟩ le_rfl [] trivial _ ⟨?_, ?_, ?_, ?_, trivial⟩ (by decide +kernel)
    (by decide +kernel)
  all_goals
    refine ⟨by decide +kernel, ⟨[silentTurn], silentTurn, rfl, by decide +kernel, ?_⟩,
      by decide +kernel⟩
    decide

end Concordd
