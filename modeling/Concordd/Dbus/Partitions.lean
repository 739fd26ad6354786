import Concordd.Dbus.Info

/-! The list of partitions: the ones the panel has marked since the tables were last cleared. -/
namespace Concordd

open Ascii

/-- `concordd_dbus_handle_system_get_partitions`. -/
def concorddDbusHandleSystemGetPartitions (self : ConcorddInstance) : List (List UInt8) :=
  ((List.finRange 8).filter fun i => (self.partition i).active).map fun i =>
    snprintf 128 (DbusObject.partition i.val).path

/-- `CONCORDD_DBUS_CMD_GET_PARTITIONS` in `dbus_message_handler`. -/
def dbusGetPartitions (self : ConcorddInstance) (path : List UInt8) : Option (List (List UInt8)) :=
  if path = concorddDbusPathRoot then some (concorddDbusHandleSystemGetPartitions self) else none

/-- One of the six frames that put partition `p` on the list. `SIREN_STOP`, `ENTRY_EXIT_DELAY`,
`ALARM_TROUBLE` and the lights' states have its number too, but leave the list alone. -/
def MarksPartition (p : Fin 8) (b : Buffer) : Prop :=
  ((IsSubcmd b .sirenSetup ∨ IsSubcmd b .touchpadDisplay ∨ IsSubcmd b .level ∨
      IsSubcmd b .featureState) ∧ (b 2).toNat = p.val) ∨
    ((IsPta b .equipListPartitionData ∨ IsPta b .equipListLightToSensorData) ∧
      (b 1).toNat = p.val)

instance (p : Fin 8) (b : Buffer) : Decidable (MarksPartition p b) :=
  inferInstanceAs (Decidable (_ ∨ _))

/-- Whether partition `p` has been marked since the panel, or a refresh, last cleared the tables. -/
def heardPartition (p : Fin 8) : Monitor Bool DaemonEvent where
  next heard
    | .handleFrame b _ =>
      if IsPta b .clearAutomationDynamicImage then false
      else heard || decide (MarksPartition p b)
    | .returns (.refresh _) _ => false
    | _ => heard
  Allows _ _ := True

variable {env : Env} {self : ConcorddInstance} {b : Buffer} {n : ℕ} {p : Fin 8} {s : Daemon}
  {i : DaemonStep} {heard : Bool}

/-! Frames. -/

theorem clear_inactive (h : IsPta b .clearAutomationDynamicImage) :
    ((concorddHandleFrame env self b n).state.partition p).active = false := by
  rw [handleFrame_clear h]
  rfl

theorem marks_active (h : MarksPartition p b) (hfit : CopiesFit b n) :
    ((concorddHandleFrame env self b n).state.partition p).active = true := by
  rcases h with ⟨h | h | h | h, hp⟩ | ⟨h | h, hp⟩
  · rw [handleFrame_of_sirenSetup h]
    unfold concorddHandleSirenSetup
    rw [getPartition_of_eq hp]
    dsimp only
    rw [setPartition_partition, if_pos rfl]
  · rw [handleFrame_of_touchpadDisplay h]
    have hn := hfit.1 h (by rw [hp]; exact p.isLt)
    unfold concorddHandleTouchpadDisplay
    rw [getPartition_of_eq hp]
    dsimp only
    rw [overrun_eq_nil hn.2, write_nil, setPartition_partition, if_pos rfl]
  · rw [handleFrame_of_level h]
    unfold concorddHandleLevel
    rw [getPartition_of_eq hp]
    dsimp only
    rw [setPartition_partition, if_pos rfl]
  · rw [handleFrame_of_featureState h]
    unfold concorddHandleFeatureState
    rw [getPartition_of_eq hp]
    dsimp only
    rw [setPartition_partition, if_pos rfl]
  · rw [handleFrame_of_equipListPartitionData h]
    unfold concorddHandleEquipListPartitionData
    rw [getPartition_of_eq hp]
    dsimp only
    rw [setPartition_partition, if_pos rfl]
  · rw [handleFrame_of_equipListLightToSensorData h]
    unfold concorddHandleEquipListLightToSensorData
    rw [getPartition_of_eq hp]
    dsimp only
    rw [setPartition_partition, if_pos rfl]

theorem PartitionUpdate.keepsActive {old new : ConcorddPartition}
    (h : PartitionUpdate env b n p old new) (hclear : ¬ IsPta b .clearAutomationDynamicImage)
    (hmarks : ¬ MarksPartition p b) : new.active = old.active := by
  cases h with
  | sirenSetup h hi => exact (hmarks (.inl ⟨.inl h, hi⟩)).elim
  | touchpadDisplay h hi => exact (hmarks (.inl ⟨.inr (.inl h), hi⟩)).elim
  | level h hi => exact (hmarks (.inl ⟨.inr (.inr (.inl h)), hi⟩)).elim
  | featureState h hi => exact (hmarks (.inl ⟨.inr (.inr (.inr h)), hi⟩)).elim
  | partitionData h hi => exact (hmarks (.inr ⟨.inl h, hi⟩)).elim
  | sensors h hi => exact (hmarks (.inr ⟨.inr h, hi⟩)).elim
  | deactivated h => exact (hclear h).elim
  | _ => rfl

theorem handleFrame_heard (env : Env) (self : ConcorddInstance) (hfit : CopiesFit b n)
    (p : Fin 8) : ((concorddHandleFrame env self b n).state.partition p).active =
      (heardPartition p).next (self.partition p).active (.handleFrame b n) := by
  by_cases hclear : IsPta b .clearAutomationDynamicImage
  · simp [heardPartition, hclear, clear_inactive hclear]
  by_cases hmarks : MarksPartition p b
  · simp [heardPartition, hclear, hmarks, marks_active hmarks hfit]
  · rw [(handleFrame_partition env self hfit p).keepsActive hclear hmarks]
    simp [heardPartition, hclear, hmarks]

/-! Runs. -/

theorem heard_calls (out : List InstanceEvent) :
    (heardPartition p).after heard (out.map .calls) = heard := by
  induction out with
  | nil => rfl
  | cons e out ih => exact ih

theorem heard_quiet {out : List DaemonEvent} (h : Quiet i out)
    (hi : ∀ finished, i ≠ .refresh finished) : (heardPartition p).after heard out = heard := by
  rcases h with ⟨events, rfl | ⟨status, rfl⟩⟩
  · exact heard_calls _
  · rw [Monitor.after_append, linkCalls, heard_calls]
    cases i with
    | refresh finished => exact (hi finished rfl).elim
    | _ => rfl

theorem heard_step (hfit : FramesFit s i) (p : Fin 8) :
    ((daemonMachine.step s i).1.inst.partition p).active =
      (heardPartition p).after (s.inst.partition p).active (daemonMachine.step s i).2 := by
  by_cases hi : ∃ finished, i = .refresh finished
  · obtain ⟨finished, rfl⟩ := hi
    obtain ⟨q, hs, events, status, ho⟩ := refresh_step s finished
    rw [hs, ho, Monitor.after_append]
    rfl
  · have hi : ∀ finished, i ≠ .refresh finished := fun finished h => hi ⟨finished, h⟩
    rcases daemon_step_other s i hi with ⟨q, callbacks, env, hs, ho⟩ | ⟨q, b, n, events, hs, ho⟩
    · rw [hs, heard_quiet ho hi]
    · have hframe : CopiesFit b n := (framesMeet_handle ho).mp hfit
      rw [hs, ho, Monitor.after_append, linkCalls, heard_calls]
      refine (handleFrame_heard s.env (s.withQueue q).inst hframe p).trans ?_
      exact (heard_calls _).symm

theorem heard_run {steps : List DaemonStep} (hfit : daemonMachine.Along FramesFit s steps)
    (p : Fin 8) :
    ((daemonMachine.run s steps).inst.partition p).active =
      (heardPartition p).after (s.inst.partition p).active (daemonMachine.trace s steps) := by
  induction steps generalizing s with
  | nil => rfl
  | cons i steps ih =>
    rw [Machine.run_cons, Machine.trace_cons, Monitor.after_append, ih hfit.2, heard_step hfit.1]

theorem partitionPath_fits (i : Fin 8) :
    snprintf 128 (DbusObject.partition i.val).path = (DbusObject.partition i.val).path := by
  apply snprintf_of_lt
  fin_cases i <;> decide

/-- After any run of the daemon in which every text fits, the server lists, in order, the paths of
the partitions that have been marked since the tables were last cleared, and of no others. -/
theorem partitions_listed (env : Env) (steps : List DaemonStep)
    (hfit : daemonMachine.Along FramesFit (daemonInit env) steps) :
    dbusGetPartitions (daemonMachine.run (daemonInit env) steps).inst concorddDbusPathRoot =
      some (((List.finRange 8).filter fun p => (heardPartition p).after false
        (daemonMachine.trace (daemonInit env) steps)).map fun p =>
          (DbusObject.partition p.val).path) := by
  have hheard : ∀ p : Fin 8,
      ((daemonMachine.run (daemonInit env) steps).inst.partition p).active =
        (heardPartition p).after false (daemonMachine.trace (daemonInit env) steps) :=
    heard_run hfit
  simp only [dbusGetPartitions, if_true, concorddDbusHandleSystemGetPartitions, hheard,
    partitionPath_fits]

/-- Partition 1 is marked, cleared by a refresh and marked again. -/
theorem partitions_listed_level :
    dbusGetPartitions (daemonMachine.run (daemonInit ⟨1, .ok⟩)
        [.frame levelFrame 7, .refresh none, .frame levelFrame 7]).inst concorddDbusPathRoot =
      some (((List.finRange 8).filter fun p => (heardPartition p).after false
        (daemonMachine.trace (daemonInit ⟨1, .ok⟩)
          [.frame levelFrame 7, .refresh none, .frame levelFrame 7])).map fun p =>
            (DbusObject.partition p.val).path) :=
  partitions_listed ⟨1, .ok⟩ [.frame levelFrame 7, .refresh none, .frame levelFrame 7] (by decide)

end Concordd
