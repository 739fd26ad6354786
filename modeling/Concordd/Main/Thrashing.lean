import Concordd.Library.Streak
import Concordd.Main.Loop
import Concordd.Queue.Progress

/-! When the loop stops itself: after a thousand turns in a row with nothing to wait for. -/
namespace Concordd

/-- No error, and no signal that ends the loop. -/
def Turn.Calm (t : Turn) : Prop := t.selected.leaves = false ∧ t.selected.gRet 0 = 0

instance (t : Turn) : Decidable t.Calm := inferInstanceAs (Decidable (_ ∧ _))

/-- For each turn the loop takes, whether it has a timeout of zero. -/
def MainLoop.zeroTimeouts : MainLoop → List Turn → List Bool
  | _, [] => []
  | m, t :: turns =>
    if m.Running then decide (m.cmsTimeout t = 0) :: MainLoop.zeroTimeouts (m.turn t).1 turns
    else []

variable {m : MainLoop} {t : Turn} {turns : List Turn}

theorem turn_of_not_running (h : ¬ m.Running) (t : Turn) : m.turn t = (m, []) := if_neg h

theorem run_of_not_running (h : ¬ m.Running) (turns : List Turn) :
    mainMachine.run m turns = m := by
  induction turns with
  | nil => rfl
  | cons t turns ih =>
    have hturn : mainMachine.step m t = (m, []) := turn_of_not_running h t
    rw [Machine.run_cons, hturn, ih]

theorem gRet_of_calm (h : t.Calm) (gRet : ℤ) : t.selected.gRet gRet = gRet := by
  obtain ⟨hleaves, hret⟩ := h
  revert hleaves hret
  cases t.selected with
  | interrupted signal =>
    cases signal with
    | sigchld => exact fun _ _ => rfl
    | _ =>
      intro _ h
      exact absurd h (by decide)
  | failed =>
    intro h _
    cases h
  | ready seconds received call => exact fun _ _ => rfl

theorem turn_count (hrun : m.Running) (t : Turn) :
    (m.turn t).1.zeroCmsInARowCount =
      if m.cmsTimeout t = 0 then m.zeroCmsInARowCount + 1 else 0 := by
  unfold MainLoop.turn
  rw [if_pos hrun]
  rfl

theorem turn_left (hrun : m.Running) (t : Turn) : (m.turn t).1.left = t.selected.leaves := by
  unfold MainLoop.turn
  rw [if_pos hrun]

theorem turn_gRet (hrun : m.Running) (t : Turn) :
    (m.turn t).1.gRet =
      t.selected.gRet (if (m.turn t).1.zeroCmsInARowCount = 1000 then exitFailure else 0) := by
  have hret : (m.wait t).1.gRet =
      if (m.wait t).1.zeroCmsInARowCount = 1000 then exitFailure else m.gRet := rfl
  rw [hrun.1] at hret
  unfold MainLoop.turn
  rw [if_pos hrun, ← hret]

/-- A calm turn stops the loop when it counts to a thousand. -/
theorem turn_calm (hrun : m.Running) (hcalm : t.Calm) :
    (m.turn t).1.left = false ∧
      (m.turn t).1.gRet =
        if (m.turn t).1.zeroCmsInARowCount = 1000 then exitFailure else 0 := by
  rw [turn_left hrun, turn_gRet hrun, gRet_of_calm hcalm]
  exact ⟨hcalm.1, rfl⟩

theorem running_turn_calm (hrun : m.Running) (hcalm : t.Calm) :
    (m.turn t).1.Running ↔ (m.turn t).1.zeroCmsInARowCount ≠ 1000 := by
  obtain ⟨hleft, hret⟩ := turn_calm hrun hcalm
  rw [MainLoop.Running, hleft, hret]
  split
  · next h => simp [h, exitFailure]
  · next h => simp [h]

/-- From a turn on, with so many timeouts of zero just before it. -/
theorem running_run_iff (hrun : m.Running) (hcount : m.zeroCmsInARowCount < 1000)
    (hcalm : ∀ t ∈ turns, t.Calm) :
    (mainMachine.run m turns).Running ↔
      ¬ List.replicate 1000 true <:+:
        List.replicate m.zeroCmsInARowCount true ++ m.zeroTimeouts turns := by
  induction turns generalizing m with
  | nil =>
    rw [MainLoop.zeroTimeouts, List.append_nil]
    exact iff_of_true hrun (List.not_replicate_infix hcount)
  | cons t turns ih =>
    obtain ⟨hct, hrest⟩ := List.forall_mem_cons.mp hcalm
    have hstop := running_turn_calm hrun hct
    have hnext := turn_count hrun t
    rw [Machine.run_cons, show mainMachine.step m t = m.turn t from rfl, MainLoop.zeroTimeouts,
      if_pos hrun]
    by_cases hzero : m.cmsTimeout t = 0
    · rw [if_pos hzero] at hnext
      have hshift : List.replicate m.zeroCmsInARowCount true ++
          decide (m.cmsTimeout t = 0) :: (m.turn t).1.zeroTimeouts turns =
            List.replicate (m.turn t).1.zeroCmsInARowCount true ++
              (m.turn t).1.zeroTimeouts turns := by
        rw [hnext, List.replicate_succ', List.append_assoc, hzero]
        rfl
      rw [hshift]
      by_cases hlast : (m.turn t).1.zeroCmsInARowCount = 1000
      · have hdead : ¬ (m.turn t).1.Running := fun h => hstop.mp h hlast
        rw [run_of_not_running hdead, hlast]
        exact iff_of_false hdead fun h => h (List.prefix_append _ _).isInfix
      · exact ih (hstop.mpr hlast) (by omega) hrest
    · rw [if_neg hzero] at hnext
      rw [decide_eq_false hzero, List.replicate_infix_break Bool.true_eq_false.mp hcount]
      have hgo : (m.turn t).1.zeroCmsInARowCount ≠ 1000 := by omega
      have hrec := ih (hstop.mpr hgo) (by omega) hrest
      rw [hnext, List.replicate_zero, List.nil_append] at hrec
      exact hrec

/-- Without errors and signals the loop goes on unless it takes a thousand turns in a row with a
timeout of zero. -/
theorem main_loop_runs_iff (env : Env) (turns : List Turn) (hcalm : ∀ t ∈ turns, t.Calm) :
    (mainMachine.run (mainInit env) turns).Running ↔
      ¬ List.replicate 1000 true <:+: (mainInit env).zeroTimeouts turns :=
  running_run_iff (m := mainInit env) ⟨rfl, rfl⟩ (Nat.zero_lt_succ 999) hcalm

/-- A turn in which nothing happens. -/
def idleTurn : Turn := { selected := .ready 0 none none }

theorem main_loop_runs_twice :
    (mainMachine.run (mainInit ⟨0, .ok⟩) [idleTurn, idleTurn]).Running ↔
      ¬ List.replicate 1000 true <:+: (mainInit ⟨0, .ok⟩).zeroTimeouts [idleTurn, idleTurn] :=
  main_loop_runs_iff ⟨0, .ok⟩ _ (by decide)

/-! A refused message leaves nothing to wait for. -/

/-- The panel has refused the last message of the queue. -/
def RefusedLast (l : Link) : Prop :=
  l.queue.interface.lastResponse = geRs232Nak ∧ l.queue.head = l.queue.tail

instance (l : Link) : Decidable (RefusedLast l) := inferInstanceAs (Decidable (_ ∧ _))

/-- No message is handed to the queue in this turn. -/
def HandsNothing (m : MainLoop) (t : Turn) : Prop :=
  ∀ data finished, LinkStep.queueMessage data finished ∉ mainLink.steps m t

theorem refusedLast_step {l : Link} {i : LinkStep} (h : RefusedLast l)
    (hi : ∀ data finished, i ≠ .queueMessage data finished) :
    RefusedLast (linkMachine.step l i).1 := by
  obtain ⟨hnak, he⟩ := h
  cases i with
  | queueMessage data finished => exact (hi data finished rfl).elim
  | queueUpdate =>
    have hu : geQueueUpdate l.env l.queue = ⟨l.queue, [], .ok⟩ := if_pos he
    simp only [linkMachine, hu]
    exact ⟨hnak, he⟩
  | receiveByte byte =>
    have hno : ¬ Intercepted l.queue.interface byte := by
      rintro ⟨-, h0⟩
      rw [hnak] at h0
      exact absurd h0 (by decide)
    simp only [linkMachine, RefusedLast, receiveByte_other hno]
    exact ⟨(receiveByte_calls hno).1.1.trans hnak, he⟩
  | advance seconds => exact ⟨hnak, he⟩
  | sendReturns status => exact ⟨hnak, he⟩

theorem refusedLast_run {l : Link} {steps : List LinkStep} (h : RefusedLast l)
    (hno : ∀ data finished, LinkStep.queueMessage data finished ∉ steps) :
    RefusedLast (linkMachine.run l steps) := by
  induction steps generalizing l with
  | nil => exact h
  | cons i steps ih =>
    refine ih (refusedLast_step h fun data finished hi => ?_) fun data finished hm =>
      hno data finished (List.mem_cons_of_mem _ hm)
    exact hno data finished (hi ▸ List.mem_cons_self)

theorem refusedLast_turn (h : RefusedLast (mainLink.abs m)) (hno : HandsNothing m t) :
    RefusedLast (mainLink.abs (m.turn t).1) := by
  have hrun := mainLink.run_step m t
  rw [show mainMachine.step m t = m.turn t from rfl] at hrun
  rw [← hrun]
  exact refusedLast_run h hno

theorem cmsTimeout_of_refusedLast (h : RefusedLast (mainLink.abs m)) (t : Turn) :
    m.cmsTimeout t = 0 := by
  have hzero : concorddGetTimeoutCms m.inst = 0 := (timeout_eq_zero_iff _).mpr h.1
  unfold MainLoop.cmsTimeout
  rw [hzero]
  split <;> rfl

theorem stops_of_refusedLast (hrun : m.Running) (hcount : m.zeroCmsInARowCount < 1000)
    (h : RefusedLast (mainLink.abs m)) (hcalm : ∀ t ∈ turns, t.Calm)
    (hquiet : mainMachine.Along HandsNothing m turns)
    (hlen : 1000 ≤ m.zeroCmsInARowCount + turns.length) :
    (mainMachine.run m turns).gRet = exitFailure := by
  induction turns generalizing m with
  | nil =>
    rw [List.length_nil] at hlen
    omega
  | cons t turns ih =>
    obtain ⟨hct, hrest⟩ := List.forall_mem_cons.mp hcalm
    obtain ⟨-, hret⟩ := turn_calm hrun hct
    have hnext := turn_count hrun t
    rw [if_pos (cmsTimeout_of_refusedLast h t)] at hnext
    rw [Machine.run_cons, show mainMachine.step m t = m.turn t from rfl]
    rw [List.length_cons] at hlen
    by_cases hlast : (m.turn t).1.zeroCmsInARowCount = 1000
    · have hdead : ¬ (m.turn t).1.Running := fun hgo =>
        (running_turn_calm hrun hct).mp hgo hlast
      rw [run_of_not_running hdead, hret, if_pos hlast]
    · exact ih ((running_turn_calm hrun hct).mpr hlast) (by omega)
        (refusedLast_turn h hquiet.1) hrest hquiet.2 (by omega)

theorem gRet_zero {selected : Selected} {gRet : ℤ} (h : selected.gRet gRet = 0) : gRet = 0 := by
  cases selected with
  | interrupted signal => cases signal with
    | sigchld => exact h
    | _ => cases h
  | failed => cases h
  | ready seconds received call => exact h

/-- The count stays below a thousand while the loop runs. -/
theorem count_turn (hrun : m.Running) (hcount : m.zeroCmsInARowCount < 1000)
    (hgo : (m.turn t).1.Running) : (m.turn t).1.zeroCmsInARowCount < 1000 := by
  have hret := hgo.1
  rw [turn_gRet hrun] at hret
  have hne : (m.turn t).1.zeroCmsInARowCount ≠ 1000 := by
    intro h1000
    rw [if_pos h1000] at hret
    exact absurd (gRet_zero hret) (by decide)
  have hle : (m.turn t).1.zeroCmsInARowCount ≤ 1000 := by
    rw [turn_count hrun]
    split <;> omega
  omega

theorem count_lt_of_running (turns : List Turn) (hrun : m.Running)
    (hcount : m.zeroCmsInARowCount < 1000) (hend : (mainMachine.run m turns).Running) :
    (mainMachine.run m turns).zeroCmsInARowCount < 1000 := by
  induction turns generalizing m with
  | nil => exact hcount
  | cons t turns ih =>
    rw [Machine.run_cons, show mainMachine.step m t = m.turn t from rfl] at hend ⊢
    by_cases hgo : (m.turn t).1.Running
    · exact ih hgo (count_turn hrun hcount hgo) hend
    · rw [run_of_not_running hgo] at hend
      exact (hgo hend).elim

/-- When the panel has refused the last message of the queue, a thousand turns that hand over no
other one end the daemon, whatever else is received. -/
theorem refused_message_stops (env : Env) (before turns : List Turn)
    (hrun : (mainMachine.run (mainInit env) before).Running)
    (hlast : RefusedLast (mainLink.abs (mainMachine.run (mainInit env) before)))
    (hcalm : ∀ t ∈ turns, t.Calm)
    (hquiet : mainMachine.Along HandsNothing (mainMachine.run (mainInit env) before) turns)
    (hlen : 1000 ≤ turns.length) :
    (mainMachine.run (mainInit env) (before ++ turns)).gRet = exitFailure := by
  rw [Machine.run_append]
  have hcount := count_lt_of_running before (m := mainInit env) ⟨rfl, rfl⟩
    (Nat.zero_lt_succ 999) hrun
  exact stops_of_refusedLast hrun hcount hlast hcalm hquiet (by omega)

/-- The panel answers nothing but NAK to the first request, and is silent from then on. -/
def refusedRequest : List Turn :=
  List.replicate 3 { selected := .ready 0 (some (some [geRs232Nak])) none }

theorem idleTurn_handsNothing (m : MainLoop) : HandsNothing m idleTurn := by
  intro data finished hm
  have hdbus : m.dbusSteps idleTurn =
      [.sendReturns .ok, .advance 0, .sendReturns .ok, .process] ∨
        m.dbusSteps idleTurn = [] := by
    unfold MainLoop.dbusSteps
    split
    · exact .inl rfl
    · exact .inr rfl
  revert hm
  simp only [mainLink, Expansion.trans, mainServer]
  rcases hdbus with hd | hd
  · rw [hd]
    simp only [serverDaemon, daemonLink, Expansion.expand, DbusServer.daemonSteps,
      Daemon.linkSteps, List.nil_append, List.append_nil, List.cons_append]
    split <;> simp
  · rw [hd]
    simp

theorem refused_message_stops_request :
    (mainMachine.run (mainInit ⟨0, .ok⟩)
      (refusedRequest ++ List.replicate 1000 idleTurn)).gRet = exitFailure := by
  refine refused_message_stops ⟨0, .ok⟩ refusedRequest _ (by decide +kernel) (by decide +kernel)
    ?_ ?_ (by rw [List.length_replicate])
  · intro t ht
    rw [List.eq_of_mem_replicate ht]
    decide
  · generalize mainMachine.run (mainInit ⟨0, .ok⟩) refusedRequest = m
    generalize 1000 = n
    induction n generalizing m with
    | zero => trivial
    | succ n ih => exact ⟨idleTurn_handsNothing m, ih _⟩

end Concordd
