import Concordd.Instance.Effects
import Concordd.Instance.Runs

/-! The siren frames of a partition, and the lock-out of `concordd_set_arm_level`. -/
namespace Concordd

/-- The siren frames a partition has had: the last one, and the repeat count of the last
`SIREN_SETUP` among them. -/
inductive SirenHistory
  | silent
  | setup (repeats : UInt8)
  | stop (repeats : Option UInt8)
  deriving DecidableEq

def SirenHistory.repeats : SirenHistory → Option UInt8
  | silent => none
  | setup repeats => some repeats
  | stop repeats => repeats

/-- Partition `p`'s history after one more frame. -/
def SirenHistory.hear (p : Fin 8) (history : SirenHistory) (frameBytes : Buffer) : SirenHistory :=
  if (frameBytes 2).toNat ≠ p.val then history
  else if IsSubcmd frameBytes .sirenSetup then .setup (frameBytes 4)
  else if IsSubcmd frameBytes .sirenStop then .stop history.repeats
  else history

def sirenWatch (p : Fin 8) : Monitor SirenHistory DaemonEvent where
  next history
    | .handleFrame frameBytes _ => history.hear p frameBytes
    | _ => history
  Allows _ _ := True

/-- The siren frames partition `p` has had in a run. -/
def sirenHistory (p : Fin 8) (out : List DaemonEvent) : SirenHistory :=
  (sirenWatch p).after .silent out

variable {env : Env} {self : ConcorddInstance} {frameBytes : Buffer} {frameLen : ℕ} {p : Fin 8}

theorem PartitionUpdate.sirenIsOn {old new : ConcorddPartition}
    (h : PartitionUpdate env frameBytes frameLen p old new)
    (hs : ¬ (IsSubcmd frameBytes .sirenSetup ∧ (frameBytes 2).toNat = p.val)) :
    new.sirenIsOn ↔ old.sirenIsOn := by
  cases h with
  | sirenSetup h hi => exact (hs ⟨h, hi⟩).elim
  | _ => exact Iff.rfl

/-- Only `SIREN_SETUP` turns a siren on or off, not even a text that is too long. -/
theorem handleFrame_sirenIsOn_of_not (env : Env) (self : ConcorddInstance) (frameLen : ℕ)
    (hs : ¬ (IsSubcmd frameBytes .sirenSetup ∧ (frameBytes 2).toNat = p.val)) :
    ((concorddHandleFrame env self frameBytes frameLen).state.partition p).sirenIsOn ↔
      (self.partition p).sirenIsOn := by
  obtain ⟨entry, hu, hnew⟩ := handleFrame_partition_of_ofBytes
    (f := ConcorddPartition.sirenIsOn) (fun _ _ => rfl) env self frameBytes frameLen p
  rw [hnew]
  exact hu.sirenIsOn hs

theorem handleFrame_sirenIsOn (hs : IsSubcmd frameBytes .sirenSetup)
    (hp : (frameBytes 2).toNat = p.val) (hnow : env.now ≠ 0) :
    ((concorddHandleFrame env self frameBytes frameLen).state.partition p).sirenIsOn ↔
      frameBytes 4 = 0 := by
  have hzero : (frameBytes 4).toUInt32 = 0 ↔ frameBytes 4 = 0 := by
    rw [← UInt32.toNat_inj, ← UInt8.toNat_inj]
    simp
  rw [handleFrame_sirenSetup hs hp]
  simp [ConcorddPartition.sirenIsOn, hnow, hzero]

/-- The command takes the siren to be on exactly when the last set-up had repeat count 0. -/
def SirenTracks (p : Fin 8) (s : Daemon) (history : SirenHistory) : Prop :=
  (s.inst.partition p).sirenIsOn ↔ history.repeats = some 0

theorem handle_sirenTracks {s : Daemon} {history : SirenHistory} (h : SirenTracks p s history)
    (hnow : s.env.now ≠ 0) :
    SirenTracks p (s.handle frameBytes frameLen).1 (history.hear p frameBytes) := by
  have hkeep : ¬ (IsSubcmd frameBytes .sirenSetup ∧ (frameBytes 2).toNat = p.val) →
      (SirenTracks p (s.handle frameBytes frameLen).1 history ↔ SirenTracks p s history) :=
    fun hs => iff_congr (handleFrame_sirenIsOn_of_not s.env s.inst frameLen hs) Iff.rfl
  unfold SirenHistory.hear
  split
  · next hp => exact (hkeep fun hs => hp hs.2).mpr h
  · next hp =>
    have hp := not_not.mp hp
    split
    · next hs =>
      exact (handleFrame_sirenIsOn hs hp hnow).trans (by simp [SirenHistory.repeats])
    · next hs =>
      have hrest := (hkeep fun h => hs h.1).mpr h
      split
      · exact hrest
      · exact hrest

/-- Every frame of the run is handled at a time other than 0. -/
def ClockRuns : Daemon → DaemonStep → Prop := FramesMeet fun s _ _ => s.env.now ≠ 0

theorem sirenTracks_run (p : Fin 8) {env : Env} {is : List DaemonStep}
    (hclock : daemonMachine.Along ClockRuns (daemonInit env) is) :
    SirenTracks p (daemonMachine.run (daemonInit env) is)
      (sirenHistory p (daemonMachine.trace (daemonInit env) is)) := by
  have hinit : SirenTracks p (daemonInit env) .silent := by
    simp [SirenTracks, daemonInit, concorddInit, ConcorddPartition.sirenIsOn,
      SirenHistory.repeats]
  have hwatched := Machine.inv_run (M := (sirenWatch p).watch daemonMachine)
    (P := fun s i => ClockRuns s.1 i) (I := fun s => SirenTracks p s.1 s.2) ?_ hinit
    (Monitor.watch_along.mpr hclock)
  · rw [Monitor.watch_run] at hwatched
    exact hwatched
  · rintro ⟨s, history⟩ i h hi
    refine frames_step (m := sirenWatch p) (P := SirenTracks p) ?_ ?_ ?_ ?_ h hi
    · intro t e he
      cases e with
      | handleFrame b n => exact (he b n List.mem_cons_self).elim
      | calls | returns => rfl
    · intro s t q callbacks env h
      exact h
    · intro s t h
      exact h
    · rintro s t b n h ⟨q, hnow⟩
      exact handle_sirenTracks h hnow

/-- In every run, a request for another level than 1 is forbidden as the siren frames say it
should be, exactly unless the last siren frame of the partition stops a siren with repeat
count 0. -/
theorem forbidden_iff_siren (env : Env) (is : List DaemonStep) (p : Fin 8) (armLevel : ℤ)
    (finished : Option ℕ) (hclock : daemonMachine.Along ClockRuns (daemonInit env) is)
    (hactive : ((daemonMachine.run (daemonInit env) is).inst.partition p).active = true)
    (hlevel : armLevel ≠ 1) :
    ((concorddSetArmLevel (daemonMachine.run (daemonInit env) is).env
          (daemonMachine.run (daemonInit env) is).inst p armLevel finished).status = .forbidden ↔
        sirenHistory p (daemonMachine.trace (daemonInit env) is) = .setup 0) ↔
      sirenHistory p (daemonMachine.trace (daemonInit env) is) ≠ .stop (some 0) := by
  have hon := (setArmLevel_forbidden (daemonMachine.run (daemonInit env) is).env hactive hlevel
    finished).trans (sirenTracks_run p hclock)
  rw [hon]
  cases sirenHistory p (daemonMachine.trace (daemonInit env) is) with
  | silent => simp [SirenHistory.repeats]
  | setup repeats => simp [SirenHistory.repeats]
  | stop repeats => simp [SirenHistory.repeats]

/-- `SIREN_SETUP` for partition 1 with repeat count 0. -/
def sirenSetupFrame : Buffer := fun k =>
  if k = 0 then 0x22 else if k = 1 then 0x04 else if k = 2 then 1 else 0

/-- `SIREN_STOP` for partition 1. -/
def sirenStopFrame : Buffer := fun k =>
  if k = 0 then 0x22 else if k = 1 then 0x0B else if k = 2 then 1 else 0

theorem forbidden_iff_siren_on :
    (((concorddSetArmLevel
          (daemonMachine.run (daemonInit ⟨1, .ok⟩) [.frame sirenSetupFrame 9]).env
          (daemonMachine.run (daemonInit ⟨1, .ok⟩) [.frame sirenSetupFrame 9]).inst
          (1 : Fin 8) 2 none).status = .forbidden ↔
        sirenHistory 1 (daemonMachine.trace (daemonInit ⟨1, .ok⟩) [.frame sirenSetupFrame 9]) =
          .setup 0) ↔
      sirenHistory 1 (daemonMachine.trace (daemonInit ⟨1, .ok⟩) [.frame sirenSetupFrame 9]) ≠
        .stop (some 0)) :=
  forbidden_iff_siren ⟨1, .ok⟩ [.frame sirenSetupFrame 9] 1 2 none
    ⟨fun _ _ _ => one_ne_zero, trivial⟩ (by decide) (by decide)

/-- The level of a partition whose siren has stopped stays locked. -/
theorem forbidden_after_sirenStop :
    ¬ ∀ (env : Env) (is : List DaemonStep) (p : Fin 8) (armLevel : ℤ) (finished : Option ℕ),
      daemonMachine.Along ClockRuns (daemonInit env) is →
      ((daemonMachine.run (daemonInit env) is).inst.partition p).active = true → armLevel ≠ 1 →
        ((concorddSetArmLevel (daemonMachine.run (daemonInit env) is).env
            (daemonMachine.run (daemonInit env) is).inst p armLevel finished).status = .forbidden ↔
          sirenHistory p (daemonMachine.trace (daemonInit env) is) = .setup 0) := by
  intro h
  have hstop := h ⟨1, .ok⟩ [.frame sirenSetupFrame 9, .frame sirenStopFrame 3] 1 2 none
    ⟨fun _ _ _ => one_ne_zero, fun _ _ _ => one_ne_zero, trivial⟩ (by decide) (by decide)
  revert hstop
  decide

end Concordd
