import Concordd.Instance.Machine
import Concordd.Queue.Effects

/-! A refresh that the queue refuses has already emptied the tables. -/
namespace Concordd

/-- What a refresh touches is as it was. -/
structure SameEquipment (new old : ConcorddInstance) : Prop where
  refreshPending : new.refreshPending = old.refreshPending
  busDeviceCount : new.busDeviceCount = old.busDeviceCount
  zones : ∀ z, (new.zone z).active = (old.zone z).active
  partitions : ∀ p, (new.partition p).active = (old.partition p).active
  entryDelays : ∀ p, (new.partition p).entryDelayActive = (old.partition p).entryDelayActive
  exitDelays : ∀ p, (new.partition p).exitDelayActive = (old.partition p).exitDelayActive
  outputs : ∀ o, (new.output o).active = (old.output o).active
  devices : ∀ d, (new.busDevice d).active = (old.busDevice d).active
  queue : new.geQueue = old.geQueue

/-- `concordd_refresh` returns an error only if it changes nothing. -/
def RefusesCleanly (env : Env) (self : ConcorddInstance) (finished : Option ℕ) : Prop :=
  (concorddRefresh env self finished).status.toInt < 0 →
    SameEquipment (concorddRefresh env self finished).state self

variable {env : Env} {self : ConcorddInstance}

/-- The only failing step comes last: the tables are empty by then, and the message is in the
ring, which looks empty. -/
theorem refresh_full (env : Env) (h : self.geQueue.Full) (finished : Option ℕ) :
    concorddRefresh env self finished =
      ⟨{ concorddDeactivate self with
          geQueue := geQueuePush self.geQueue [geRs232AtpEquipListRequest] finished },
        [.link (.queueMessage [geRs232AtpEquipListRequest] finished .queueFull)], .queueFull⟩ := by
  have hq : (concorddDeactivate self).geQueue = self.geQueue := rfl
  rw [concorddRefresh, concorddEquipmentRefresh, concorddQueueMessage, hq, message_full env h]
  rfl

theorem refresh_room (env : Env) (h : ¬ self.geQueue.Full) (finished : Option ℕ) :
    (concorddRefresh env self finished).status = .ok := by
  have hq : ¬ (concorddDeactivate self).geQueue.Full := h
  simp [concorddRefresh, concorddEquipmentRefresh, concorddQueueMessage, geQueueMessage, hq]

/-- In any state, a refresh is refused exactly on a full queue, and never without a trace. -/
theorem refusesCleanly_iff (env : Env) (self : ConcorddInstance) (finished : Option ℕ) :
    RefusesCleanly env self finished ↔ ¬ self.geQueue.Full := by
  constructor
  · intro h hfull
    have hneg : GeRs232Status.queueFull.toInt < 0 := by decide
    rw [RefusesCleanly, refresh_full env hfull] at h
    have htail := congrArg GeQueue.tail (h hneg).queue
    simp [geQueuePush] at htail
  · intro hroom hneg
    rw [refresh_room env hroom] at hneg
    exact absurd hneg (by decide)

/-- No refresh of the run is asked for on a full queue. -/
def RefreshFindsRoom (s : Daemon) (i : DaemonStep) : Prop :=
  ∀ finished, i = .refresh finished → ¬ s.inst.geQueue.Full

/-- In every reachable state a refused refresh changes nothing exactly when the queue is not full;
so the refused refreshes of a run are clean exactly when each refresh finds room. -/
theorem refused_refresh_iff (env : Env) (steps : List DaemonStep) :
    daemonMachine.Always (fun s => ∀ env finished, RefusesCleanly env s.inst finished ↔
        ¬ s.inst.geQueue.Full) (daemonInit env) steps ∧
      (daemonMachine.Along (fun s i => ∀ finished, i = .refresh finished →
          RefusesCleanly s.env s.inst finished) (daemonInit env) steps ↔
        daemonMachine.Along RefreshFindsRoom (daemonInit env) steps) := by
  have hstate : ∀ s : Daemon, True → ∀ env finished, RefusesCleanly env s.inst finished ↔
      ¬ s.inst.geQueue.Full := fun s _ env finished => refusesCleanly_iff env s.inst finished
  refine ⟨⟨hstate _ trivial, ?_⟩, ?_⟩
  · exact Machine.along_of_inv (I := fun _ => True) (fun _ _ _ _ => trivial)
      (fun s i _ _ => hstate _ trivial) trivial Machine.along_true
  · refine Machine.along_iff_of_inv (I := fun _ => True) (D := fun _ _ => True) ?_
      (fun _ _ _ _ _ => trivial) trivial Machine.along_true
    intro s i _ _
    exact forall_congr' fun finished => imp_congr_right fun _ =>
      refusesCleanly_iff s.env s.inst finished

/-- `EQUIP_LIST_OUTPUT_DATA` for output 5, and seven key presses that nothing answers. -/
def loadedDaemon : Daemon :=
  daemonMachine.run (daemonInit ⟨0, .ok⟩)
    (.frame (fun k => if k = 0 then 0x07 else if k = 2 then 5 else 0) 9 ::
      List.replicate 7 (.pressKeys 1 [0x31] none))

/-- The refused refresh forgets an output, and from then on commands wait for the equipment
list that was never asked for. -/
theorem refused_refresh_deactivates :
    ¬ RefusesCleanly loadedDaemon.env loadedDaemon.inst none ∧
      (loadedDaemon.inst.output 5).active = true ∧
      (concorddRefresh loadedDaemon.env loadedDaemon.inst none).status.toInt = -9 ∧
      ((concorddRefresh loadedDaemon.env loadedDaemon.inst none).state.output 5).active = false ∧
      (concorddRefresh loadedDaemon.env loadedDaemon.inst none).state.refreshPending = true := by
  refine ⟨?_, by decide +kernel, by decide +kernel, by decide +kernel, by decide +kernel⟩
  intro h
  exact absurd ((h (by decide +kernel)).outputs 5) (by decide +kernel)

end Concordd
