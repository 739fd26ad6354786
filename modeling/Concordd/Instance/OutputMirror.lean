import Concordd.Instance.Payloads

/-! A client that follows the callbacks for an output, and what is lost on it. -/
namespace Concordd

/-- The fields of an output that its list entry and its events can change. -/
structure OutputInfo where
  outputState : UInt8
  pulse : Bool
  partitionId : UInt8
  lastChangedBy : UInt32
  lastChangedAt : ℤ
  deriving DecidableEq

def ConcorddOutput.info (output : ConcorddOutput) : OutputInfo where
  outputState := output.outputState
  pulse := output.pulse
  partitionId := output.partitionId
  lastChangedBy := output.lastChangedBy
  lastChangedAt := output.lastChangedAt

/-- The fields whose flag is set are copied. The pulse has none. -/
def OutputInfo.copy (held : OutputInfo) (output : ConcorddOutput) (changed : UInt32) :
    OutputInfo where
  outputState :=
    if changed &&& concorddGeneralStateChanged ≠ 0 then output.outputState else held.outputState
  pulse := held.pulse
  partitionId :=
    if changed &&& concorddGeneralPartitionIdChanged ≠ 0 then output.partitionId
    else held.partitionId
  lastChangedBy :=
    if changed &&& concorddGeneralLastChangedByChanged ≠ 0 then output.lastChangedBy
    else held.lastChangedBy
  lastChangedAt :=
    if changed &&& concorddGeneralLastChangedAtChanged ≠ 0 then output.lastChangedAt
    else held.lastChangedAt

/-- A client of output `o`. -/
def outputHear (o : Fin 71) (held : OutputInfo) : InstanceEvent → OutputInfo
  | .outputInfoChanged i output changed => if i = o then held.copy output changed else held
  | _ => held

/-- The state an event gives output `o`. -/
def outputReport (o : Fin 71) (b : Buffer) : Option UInt8 :=
  if IsSubcmd b .alarmTrouble ∧ GeRs232AlarmGeneralType.ofByte (b 8) = .systemEvent ∧
      (word16 (b 10) (b 11)).toNat = o.val then
    if b 9 = geRs232SystemEventOutputOn then some 1
    else if b 9 = geRs232SystemEventOutputOff then some 0
    else none
  else none

/-- A list entry with another state or pulse, which is stored without a call; or an event from
another partition, of which the call says nothing. -/
def OutputLost (o : Fin 71) (self : ConcorddInstance) (b : Buffer) : Prop :=
  (IsPta b .equipListOutputData ∧ (b 2 &&& ~~~ 0x40).toNat = o.val ∧
      (b 3 &&& 1 ≠ (self.output o).outputState ∨
        decide (b 3 &&& 2 ≠ 0) ≠ (self.output o).pulse)) ∨
    ∃ state ∈ outputReport o b,
      state ≠ (self.output o).outputState ∧ b 2 ≠ (self.output o).partitionId

instance (o : Fin 71) (self : ConcorddInstance) (b : Buffer) : Decidable (OutputLost o self b) :=
  inferInstanceAs (Decidable (_ ∨ ∃ _, _))

/-- The client holds what the output has stored. -/
def OutputMirrored (o : Fin 71) (s : Daemon × OutputInfo) : Prop :=
  s.2 = (s.1.inst.output o).info

instance (o : Fin 71) (s : Daemon × OutputInfo) : Decidable (OutputMirrored o s) :=
  inferInstanceAs (Decidable (_ = _))

variable {env : Env} {self : ConcorddInstance} {b : Buffer} {n : ℕ} {o : Fin 71} {s : Daemon}
  {i : DaemonStep} {held : OutputInfo} {e : InstanceEvent}

/-! An output event. -/

/-- The call for an event carries its state, time and source, but not its partition. -/
theorem copy_reported (output : ConcorddOutput) (state partitioni : UInt8) (source : UInt32)
    (now : ℤ) (active : Bool) :
    output.info.copy { output with
        active := active
        outputState := state
        partitionId := partitioni
        lastChangedAt := now
        lastChangedBy := source }
      (concorddGeneralStateChanged ||| concorddGeneralLastChangedAtChanged |||
        concorddGeneralLastChangedByChanged) =
      { output.info with outputState := state, lastChangedAt := now, lastChangedBy := source } := by
  have hpartition : (concorddGeneralStateChanged ||| concorddGeneralLastChangedAtChanged |||
      concorddGeneralLastChangedByChanged) &&& concorddGeneralPartitionIdChanged = 0 := by decide
  have hstate : (concorddGeneralStateChanged ||| concorddGeneralLastChangedAtChanged |||
      concorddGeneralLastChangedByChanged) &&& concorddGeneralStateChanged ≠ 0 := by decide
  have hby : (concorddGeneralStateChanged ||| concorddGeneralLastChangedAtChanged |||
      concorddGeneralLastChangedByChanged) &&& concorddGeneralLastChangedByChanged ≠ 0 := by decide
  have hat : (concorddGeneralStateChanged ||| concorddGeneralLastChangedAtChanged |||
      concorddGeneralLastChangedByChanged) &&& concorddGeneralLastChangedAtChanged ≠ 0 := by decide
  simp [OutputInfo.copy, ConcorddOutput.info, hpartition, hstate, hby, hat]

theorem outputReported_hear (hf : self.callbacks.outputInfoChangedFunc = true)
    (partitioni : UInt8) (source : UInt32) (esd : UInt16) (state : UInt8) :
    (concorddOutputReported env self partitioni source esd state).out.foldl (outputHear o)
        (self.output o).info =
      ((concorddOutputReported env self partitioni source esd state).state.output o).info ↔
        ¬ (esd.toNat = o.val ∧ state ≠ (self.output o).outputState ∧
          partitioni ≠ (self.output o).partitionId) := by
  unfold concorddOutputReported
  cases hi : concorddGetOutput esd.toNat with
  | none =>
    refine iff_of_true rfl ?_
    rintro ⟨he, -⟩
    rw [getOutput_of_eq he] at hi
    cases hi
  | some j =>
    have hj := getOutput_eq_some hi
    dsimp only
    split
    · next hne =>
      simp only [List.foldl_cons, List.foldl_nil, outputHear, setOutput_output]
      by_cases hjo : j = o
      · subst hjo
        rw [if_pos rfl, if_pos rfl, copy_reported]
        simp [ConcorddOutput.info, hj, Ne.symm hne, eq_comm]
      · rw [if_neg hjo, if_neg (Ne.symm hjo)]
        refine iff_of_true rfl ?_
        rintro ⟨he, -⟩
        exact hjo (Fin.ext (hj.symm.trans he))
    · next hsame =>
      refine iff_of_true rfl ?_
      rintro ⟨he, hstate, -⟩
      obtain rfl : j = o := Fin.ext (hj.symm.trans he)
      exact hstate (not_not.mp hsame).symm

/-! Frames. -/

theorem outputReport_of_event (halarm : IsSubcmd b .alarmTrouble)
    (hsystem : GeRs232AlarmGeneralType.ofByte (b 8) = .systemEvent) :
    outputReport o b = if (word16 (b 10) (b 11)).toNat = o.val then
      if b 9 = geRs232SystemEventOutputOn then some 1
      else if b 9 = geRs232SystemEventOutputOff then some 0 else none
    else none := by
  simp [outputReport, halarm, hsystem]

theorem not_data_of_alarm (halarm : IsSubcmd b .alarmTrouble) : ¬ IsPta b .equipListOutputData := by
  intro h
  cases halarm.1.symm.trans h

/-- Of an output event, the client misses the partition. -/
theorem outputLost_event {state : UInt8} (halarm : IsSubcmd b .alarmTrouble)
    (hreport : outputReport o b =
      if (word16 (b 10) (b 11)).toNat = o.val then some state else none) :
    OutputLost o self b ↔ (word16 (b 10) (b 11)).toNat = o.val ∧
      state ≠ (self.output o).outputState ∧ b 2 ≠ (self.output o).partitionId := by
  unfold OutputLost
  rw [hreport]
  by_cases ho : (word16 (b 10) (b 11)).toNat = o.val
  · simp [ho, not_data_of_alarm halarm]
  · simp [ho, not_data_of_alarm halarm]

theorem OutputUpdate.info_eq {old new : ConcorddOutput} (h : OutputUpdate env b n o old new)
    (hreport : ∀ state, ¬ ReportsOutput b o state) (hdata : ¬ IsPta b .equipListOutputData) :
    new.info = old.info := by
  cases h with
  | reported state h source => exact (hreport state h).elim
  | data h => exact (hdata h).elim
  | _ => rfl

theorem handleFrame_alarm_hear (halarm : IsSubcmd b .alarmTrouble)
    (hf : self.callbacks.outputInfoChangedFunc = true) (hin : FrameInside self b n) :
    (concorddHandleFrame env self b n).out.foldl (outputHear o) (self.output o).info =
      ((concorddHandleFrame env self b n).state.output o).info ↔ ¬ OutputLost o self b := by
  have hupdate := (handleFrame_inside env hin).output_update o
  rw [handleFrame_of_alarmTrouble halarm] at hupdate ⊢
  unfold concorddHandleAlarm at hupdate ⊢
  dsimp only at hupdate ⊢
  generalize halarmEvent : alarmEvent env _ _ _ _ _ _ = event at hupdate ⊢
  have hf' : (concorddLogEvent self event).callbacks.outputInfoChangedFunc = true := hf
  split
  · next hon =>
    have hreport := outputReport_of_event (o := o) halarm hon.1
    rw [if_pos hon.2] at hreport
    rw [outputLost_event halarm hreport]
    exact outputReported_hear hf' (b 2) _ _ 1
  · next hon =>
    split
    · next hoff =>
      have hreport := outputReport_of_event (o := o) halarm hoff.1
      rw [if_neg fun h => hon ⟨hoff.1, h⟩, if_pos hoff.2] at hreport
      rw [outputLost_event halarm hreport]
      exact outputReported_hear hf' (b 2) _ _ 0
    · next hoff =>
      rw [if_neg hon, if_neg hoff] at hupdate
      have hsilent : outputReport o b = none := by
        unfold outputReport
        split
        · next h =>
          rw [if_neg fun h9 => hon ⟨h.2.1, h9⟩, if_neg fun h9 => hoff ⟨h.2.1, h9⟩]
        · rfl
      have hlost : ¬ OutputLost o self b := by
        simp [OutputLost, not_data_of_alarm halarm, hsilent]
      refine iff_of_true ?_ hlost
      have hreported : ∀ state, ¬ ReportsOutput b o state := by
        rintro state ⟨-, hsystem, -, ⟨h9, -⟩ | ⟨h9, -⟩⟩
        · exact hon ⟨hsystem, h9⟩
        · exact hoff ⟨hsystem, h9⟩
      rw [foldl_hear_eq]
      · exact (hupdate.info_eq hreported (not_data_of_alarm halarm)).symm
      · intro e he t
        rcases List.mem_append.mp he with he | he
        · obtain ⟨changed, rfl⟩ := updateLists_calls _ _ _ _ he
          rfl
        · unfold concorddDispatchEvent at he
          split at he
          · obtain rfl := List.mem_singleton.mp he
            rfl
          · cases he

/-- A list entry is stored without a call. -/
theorem handleFrame_data_hear (hdata : IsPta b .equipListOutputData) (hfit : CopiesFit b n) :
    (concorddHandleFrame env self b n).out.foldl (outputHear o) (self.output o).info =
      ((concorddHandleFrame env self b n).state.output o).info ↔ ¬ OutputLost o self b := by
  have hreport : outputReport o b = none := by
    unfold outputReport
    rw [if_neg]
    rintro ⟨h, -⟩
    exact not_data_of_alarm h hdata
  have hlost : OutputLost o self b ↔ (b 2 &&& ~~~ 0x40).toNat = o.val ∧
      (b 3 &&& 1 ≠ (self.output o).outputState ∨
        decide (b 3 &&& 2 ≠ 0) ≠ (self.output o).pulse) := by
    simp [OutputLost, hdata, hreport]
  rw [handleFrame_of_equipListOutputData hdata, hlost]
  unfold concorddHandleEquipListOutputData
  cases hi : concorddGetOutput (b 2 &&& ~~~ 0x40).toNat with
  | none =>
    refine iff_of_true rfl ?_
    rintro ⟨he, -⟩
    rw [getOutput_of_eq he] at hi
    cases hi
  | some j =>
    have hj := getOutput_eq_some hi
    have hn := hfit.2.2 hdata (by rw [hj]; exact j.isLt)
    dsimp only
    rw [overrun_eq_nil hn.2, write_nil]
    simp only [List.foldl_cons, List.foldl_nil, outputHear, setOutput_output]
    by_cases hjo : o = j
    · subst hjo
      rw [if_pos rfl]
      simp only [ConcorddOutput.info, OutputInfo.mk.injEq, true_and, and_true, hj, eq_comm, not_or,
        ne_eq, not_not]
    · rw [if_neg hjo]
      refine iff_of_true rfl ?_
      rintro ⟨he, -⟩
      exact hjo (Fin.ext (he.symm.trans hj))

theorem handleFrame_other_hear_output (hin : FrameInside self b n)
    (halarm : ¬ IsSubcmd b .alarmTrouble) (hdata : ¬ IsPta b .equipListOutputData) :
    (concorddHandleFrame env self b n).out.foldl (outputHear o) (self.output o).info =
      ((concorddHandleFrame env self b n).state.output o).info ↔ ¬ OutputLost o self b := by
  have hlost : ¬ OutputLost o self b := by simp [OutputLost, hdata, outputReport, halarm]
  refine iff_of_true ?_ hlost
  rw [foldl_hear_eq]
  · have hupdate := (handleFrame_inside env hin).output_update o
    exact (hupdate.info_eq (fun state h => halarm h.1) hdata).symm
  · intro e he t
    have hcall := handleFrame_calls env self b n e he
    cases e with
    | outputInfoChanged => exact (halarm hcall).elim
    | _ => rfl

theorem output_mirrors (o : Fin 71) :
    Mirrors (outputHear o) (fun self => (self.output o).info) (·.outputInfoChangedFunc)
      (fun self b n => FrameInside self b n) (OutputLost o) where
  link _ _ := rfl
  rest _ _ _ := rfl
  deactivate _ := rfl
  queue _ _ _ := Iff.rfl
  guard _ _ _ _ := id
  frame env self b n hf hin := by
    by_cases halarm : IsSubcmd b .alarmTrouble
    · exact handleFrame_alarm_hear halarm hf hin
    by_cases hdata : IsPta b .equipListOutputData
    · exact handleFrame_data_hear hdata hin.1
    · exact handleFrame_other_hear_output hin halarm hdata

/-! Runs. -/

/-- Nothing of output `o` is lost in the step. -/
def KeepsOutput (o : Fin 71) : Daemon → DaemonStep → Prop :=
  FramesMeet fun s b _ => ¬ OutputLost o s.inst b

instance (o : Fin 71) (s : Daemon) (i : DaemonStep) : Decidable (KeepsOutput o s i) :=
  inferInstanceAs (Decidable (FramesMeet _ s i))

/-- From any state on, and as long as nothing is stored past the end of an array or of the table of
bus devices, a client that starts from what the output has stored holds it after every step,
exactly if no list entry brings another state or pulse and no event comes from another partition
than the one before. -/
theorem output_mirrored_iff (o : Fin 71) (s : Daemon) (steps : List DaemonStep)
    (hf : s.inst.callbacks.outputInfoChangedFunc = true)
    (hk : daemonMachine.Along (fun _ i => i.Keeps (·.outputInfoChangedFunc)) s steps)
    (hin : daemonMachine.Along FramesInside s steps) :
    ((listener (outputHear o)).watch daemonMachine).Always (OutputMirrored o)
        (s, (s.inst.output o).info) steps ↔
      daemonMachine.Along (KeepsOutput o) s steps := by
  rw [← Monitor.watch_along (m := listener (outputHear o)) (t := (s.inst.output o).info)]
  refine Machine.always_iff_of_inv
    (I := fun s => OutputMirrored o s ∧ s.1.inst.callbacks.outputInfoChangedFunc = true)
    (fun s h => h.1) (fun s i h hd => (output_mirrors o).step_iff h.1 h.2 hd.2) ?_ ⟨rfl, hf⟩
    (Monitor.watch_along.mpr (Machine.along_and.mpr ⟨hk, hin⟩))
  rintro s i ⟨ht, hf⟩ ⟨hk, hin⟩ hp
  exact ⟨((output_mirrors o).step_iff ht hf hin).mpr hp, step_callbacks _ hf hk⟩

/-- A client is told of the changes of the outputs. -/
def watchedOutput : Daemon :=
  daemonMachine.run (daemonInit ⟨1, .ok⟩) [.install { outputInfoChangedFunc := true }]

/-- `ALARM_TROUBLE` for output 2: it was switched on from partition `p`. -/
def outputOnFrame (p : UInt8) : Buffer := fun k =>
  if k = 0 then 0x22 else if k = 1 then 0x02 else if k = 2 then p else if k = 8 then 18
  else if k = 9 then 5 else if k = 11 then 2 else 0

theorem output_mirrored_on :
    ((listener (outputHear 2)).watch daemonMachine).Always (OutputMirrored 2)
      (watchedOutput, (watchedOutput.inst.output 2).info) [.frame (outputOnFrame 0) 12] :=
  (output_mirrored_iff 2 watchedOutput _ rfl (by exact ⟨trivial, trivial⟩)
    (by decide +kernel)).mpr (by decide +kernel)

/-- The client is not told that the partition is another one. -/
theorem partition_of_output_missed :
    ¬ ((listener (outputHear 2)).watch daemonMachine).Always (OutputMirrored 2)
      (watchedOutput, (watchedOutput.inst.output 2).info) [.frame (outputOnFrame 1) 12] := by
  decide +kernel

end Concordd
