import Concordd.Instance.Dispatch

/-! Which calls a frame makes, and what else than the tables it leaves alone. -/
namespace Concordd

/-- The frames that can make the call. -/
def FrameCall (frameBytes : Buffer) : InstanceEvent → Prop
  | .link _ =>
    IsPta frameBytes .clearAutomationDynamicImage ∨ IsPta frameBytes .equipListComplete
  | .instanceInfoChanged _ | .outputInfoChanged _ _ _ | .event _ =>
    IsSubcmd frameBytes .alarmTrouble
  | .partitionInfoChanged _ _ _ =>
    IsPta frameBytes .equipListPartitionData ∨ IsSubcmd frameBytes .sirenSetup ∨
      IsSubcmd frameBytes .sirenStop ∨ IsSubcmd frameBytes .sirenGo ∨
      IsSubcmd frameBytes .touchpadDisplay ∨ IsSubcmd frameBytes .level ∨
      IsSubcmd frameBytes .featureState
  | .sirenSync => IsSubcmd frameBytes .sirenSync
  | .zoneInfoChanged _ _ _ =>
    IsPta frameBytes .zoneStatus ∨ IsPta frameBytes .equipListZoneData ∨
      IsSubcmd2 frameBytes .keyfob
  | .lightInfoChanged _ _ _ _ =>
    IsSubcmd2 frameBytes .lightsState ∨ IsSubcmd2 frameBytes .userLights
  | .copy _ _ =>
    IsSubcmd frameBytes .touchpadDisplay ∨ IsPta frameBytes .equipListZoneData ∨
      IsPta frameBytes .equipListOutputData
  | .strayDevice _ _ _ => IsPta frameBytes .equipListSuperbusDevData

def FrameCalls (frameBytes : Buffer) (out : List InstanceEvent) : Prop :=
  ∀ e ∈ out, FrameCall frameBytes e

/-- The queue and the callbacks are as they were, and no refresh has begun. -/
structure SameRest (old new : ConcorddInstance) : Prop where
  queue : new.geQueue = old.geQueue
  callbacks : new.callbacks = old.callbacks
  pending : new.refreshPending = true → old.refreshPending = true

/-- What a frame that asks for nothing does besides its work on the tables. -/
structure LeavesRest (frameBytes : Buffer) (old : ConcorddInstance)
    (r : Outcome ConcorddInstance InstanceEvent) : Prop where
  rest : SameRest old r.state
  calls : FrameCalls frameBytes r.out

variable {env : Env} {self other new : ConcorddInstance} {b : Buffer} {n : ℕ} {e : InstanceEvent}
  {out out' : List InstanceEvent}

/-! Lists of calls. -/

theorem calls_nil : FrameCalls b [] := fun _ he => nomatch he

theorem calls_cons (he : FrameCall b e) (h : FrameCalls b out) : FrameCalls b (e :: out) := by
  intro e' hm
  rcases List.mem_cons.mp hm with rfl | hm
  · exact he
  · exact h e' hm

theorem calls_one (he : FrameCall b e) : FrameCalls b [e] := calls_cons he calls_nil

theorem calls_append (h : FrameCalls b out) (h' : FrameCalls b out') :
    FrameCalls b (out ++ out') := by
  intro e hm
  rcases List.mem_append.mp hm with hm | hm
  · exact h e hm
  · exact h' e hm

theorem calls_branch {c : Prop} [Decidable c] (h : FrameCalls b out) (h' : FrameCalls b out') :
    FrameCalls b (if c then out else out') := by
  split
  · exact h
  · exact h'

theorem calls_ite {c : Prop} [Decidable c] (h : FrameCalls b out) :
    FrameCalls b (if c then out else []) := calls_branch h calls_nil

theorem calls_instanceInfoChanged (h : IsSubcmd b .alarmTrouble) (changed : UInt32) :
    FrameCalls b (concorddInstanceInfoChanged self changed) := calls_ite (calls_one h)

theorem calls_partitionInfoChanged {p : Fin 8} {changed : UInt32}
    (h : FrameCall b (.partitionInfoChanged p (self.partition p) changed)) :
    FrameCalls b (concorddPartitionInfoChanged self p changed) := calls_ite (calls_one h)

theorem calls_zoneInfoChanged {z : Fin 96} {changed : UInt32}
    (h : FrameCall b (.zoneInfoChanged z (self.zone z) changed)) :
    FrameCalls b (concorddZoneInfoChanged self z changed) := calls_ite (calls_one h)

/-! Handlers. -/

theorem SameRest.refl (self : ConcorddInstance) : SameRest self self := ⟨rfl, rfl, id⟩

theorem SameRest.trans (h : SameRest self other) (h' : SameRest other new) : SameRest self new :=
  ⟨h'.queue.trans h.queue, h'.callbacks.trans h.callbacks, fun hp => h.pending (h'.pending hp)⟩

theorem SameRest.write (self : ConcorddInstance) (writes : List (ℕ × UInt8)) :
    SameRest self (self.write writes) where
  queue := write_beside (f := (·.geQueue)) (fun _ _ _ _ _ _ => rfl) self writes
  callbacks := write_beside (f := (·.callbacks)) (fun _ _ _ _ _ _ => rfl) self writes
  pending := by
    rw [write_beside (f := (·.refreshPending)) (fun _ _ _ _ _ _ => rfl)]
    exact id

theorem LeavesRest.same (b : Buffer) (self : ConcorddInstance) :
    LeavesRest b self ⟨self, [], .ok⟩ :=
  ⟨.refl self, calls_nil⟩

theorem LeavesRest.write (h : SameRest self other) (writes : List (ℕ × UInt8))
    (hcalls : FrameCalls b out) : LeavesRest b self ⟨other.write writes, out, .ok⟩ :=
  ⟨h.trans (.write other writes), hcalls⟩

theorem outputReported_leavesRest (h : IsSubcmd b .alarmTrouble) (env : Env)
    (self : ConcorddInstance) (partitioni : UInt8) (source : UInt32) (esd : UInt16)
    (state : UInt8) :
    LeavesRest b self (concorddOutputReported env self partitioni source esd state) := by
  unfold concorddOutputReported
  split
  · exact .same b self
  · split
    · exact ⟨⟨rfl, rfl, id⟩, calls_ite (calls_one h)⟩
    · exact .same b self

theorem updateLists_leavesRest (h : IsSubcmd b .alarmTrouble) (env : Env)
    (self : ConcorddInstance) (partitioni : UInt8) (general : GeRs232AlarmGeneralType)
    (typeS : UInt8) (event : ConcorddEvent) :
    SameRest self (concorddUpdateLists env self partitioni general typeS event).1 ∧
      FrameCalls b (concorddUpdateLists env self partitioni general typeS event).2 := by
  have hsystem : ∀ general,
      SameRest self (concorddSystemTrouble env self general typeS event).1 ∧
        FrameCalls b (concorddSystemTrouble env self general typeS event).2 := by
    intro general
    unfold concorddSystemTrouble
    dsimp only
    split
    · exact ⟨⟨rfl, rfl, id⟩, calls_instanceInfoChanged h _⟩
    · exact ⟨⟨rfl, rfl, id⟩, calls_nil⟩
  have halarm : SameRest self (concorddPutAlarm self partitioni typeS event) := by
    unfold concorddPutAlarm
    split <;> exact ⟨rfl, rfl, id⟩
  have htrouble : SameRest self (concorddPutTrouble self partitioni typeS event) := by
    unfold concorddPutTrouble
    split <;> exact ⟨rfl, rfl, id⟩
  have hconfig : SameRest self (concorddConfigChanged self partitioni typeS).1 ∧
      FrameCalls b (concorddConfigChanged self partitioni typeS).2 := by
    unfold concorddConfigChanged
    split
    · exact ⟨.refl self, calls_nil⟩
    · split
      · exact ⟨.refl self, calls_nil⟩
      · exact ⟨⟨rfl, rfl, id⟩, calls_instanceInfoChanged h _⟩
  cases general with
  | systemTrouble | systemTroubleRestoral => exact hsystem _
  | alarm | alarmRestoral | alarmCancel => exact ⟨halarm, calls_nil⟩
  | fireTrouble | nonfireTrouble | fireTroubleRestoral | nonfireTroubleRestoral =>
    exact ⟨htrouble, calls_nil⟩
  | systemConfigChange => exact hconfig
  | partitionEvent | systemEvent | other => exact ⟨.refl self, calls_nil⟩

theorem handleAlarm_leavesRest (h : IsSubcmd b .alarmTrouble) (partitioni st : UInt8)
    (source : UInt32) (typeG typeS : UInt8) (esd : UInt16) :
    LeavesRest b self (concorddHandleAlarm env self partitioni st source typeG typeS esd) := by
  have hdispatch : ∀ self : ConcorddInstance, FrameCalls b (concorddDispatchEvent self) :=
    fun self => calls_ite (calls_one h)
  unfold concorddHandleAlarm
  dsimp only
  generalize alarmEvent env partitioni st source typeG typeS esd = event
  -- logging the event leaves the rest alone
  have hlog : SameRest self (concorddLogEvent self event) := ⟨rfl, rfl, id⟩
  split
  · obtain ⟨hrest, hcalls⟩ := outputReported_leavesRest h env
      (concorddLogEvent self event) partitioni source esd 1
    exact ⟨hlog.trans hrest, hcalls⟩
  · split
    · obtain ⟨hrest, hcalls⟩ := outputReported_leavesRest h env
        (concorddLogEvent self event) partitioni source esd 0
      exact ⟨hlog.trans hrest, hcalls⟩
    · obtain ⟨hrest, hcalls⟩ := updateLists_leavesRest h env (concorddLogEvent self event)
        partitioni (GeRs232AlarmGeneralType.ofByte typeG) typeS event
      exact ⟨hlog.trans hrest, calls_append hcalls (hdispatch _)⟩

theorem handleSubcmd_leavesRest (env : Env) (self : ConcorddInstance) (n : ℕ)
    (h : IsPta b .subcmd) : LeavesRest b self (concorddHandleSubcmd env self b n) := by
  unfold concorddHandleSubcmd
  cases hc : GeRs232PtaSubcmd.ofByte (b 1) <;> dsimp only
  case sirenSetup =>
    unfold concorddHandleSirenSetup
    split
    · exact .same b self
    · refine ⟨⟨rfl, rfl, id⟩, calls_ite (calls_partitionInfoChanged ?_)⟩
      exact .inr (.inl ⟨h, hc⟩)
  case sirenStop =>
    unfold concorddHandleSirenStop
    split
    · exact .same b self
    · refine ⟨⟨rfl, rfl, id⟩, calls_partitionInfoChanged ?_⟩
      exact .inr (.inr (.inl ⟨h, hc⟩))
  case sirenGo =>
    unfold concorddHandleSirenGo
    split
    · exact .same b self
    · refine ⟨⟨rfl, rfl, id⟩, calls_ite (calls_partitionInfoChanged ?_)⟩
      exact .inr (.inr (.inr (.inl ⟨h, hc⟩)))
  case sirenSync => exact ⟨.refl self, calls_ite (calls_one ⟨h, hc⟩)⟩
  case touchpadDisplay =>
    unfold concorddHandleTouchpadDisplay
    split
    · exact .same b self
    · apply LeavesRest.write
      · exact ⟨rfl, rfl, id⟩
      · refine calls_cons (.inl ⟨h, hc⟩) (calls_branch calls_nil ?_)
        exact calls_partitionInfoChanged (.inr (.inr (.inr (.inr (.inl ⟨h, hc⟩)))))
  case level =>
    unfold concorddHandleLevel
    split
    · exact .same b self
    · refine ⟨⟨rfl, rfl, id⟩, calls_partitionInfoChanged ?_⟩
      exact .inr (.inr (.inr (.inr (.inr (.inl ⟨h, hc⟩)))))
  case alarmTrouble => exact handleAlarm_leavesRest ⟨h, hc⟩ ..
  case entryExitDelay =>
    unfold concorddHandleEntryExitDelay
    split
    · exact .same b self
    · dsimp only
      split <;> exact ⟨⟨rfl, rfl, id⟩, calls_nil⟩
  case featureState =>
    unfold concorddHandleFeatureState
    split
    · exact .same b self
    · refine ⟨⟨rfl, rfl, id⟩, calls_ite (calls_partitionInfoChanged ?_)⟩
      exact .inr (.inr (.inr (.inr (.inr (.inr ⟨h, hc⟩)))))
  case timeAndDate =>
    exact ⟨⟨rfl, rfl, fun hp => (Bool.false_ne_true hp).elim⟩, calls_nil⟩
  all_goals exact .same b self

theorem lightsStateLoop_leavesRest (h : IsSubcmd2 b .lightsState) (env : Env) (p : Fin 8)
    (lightState : UInt16) (is : List (Fin 10)) (self : ConcorddInstance) :
    SameRest self (lightsStateLoop env p lightState self is).1 ∧
      FrameCalls b (lightsStateLoop env p lightState self is).2 := by
  induction is generalizing self with
  | nil => exact ⟨.refl self, calls_nil⟩
  | cons i is ih =>
    simp only [lightsStateLoop]
    split
    · exact ih self
    · split
      · exact ⟨⟨rfl, rfl, id⟩, calls_one (.inl h)⟩
      · obtain ⟨hrest, hcalls⟩ := ih (self.setPartition p ((self.partition p).setLight i
          { (self.partition p).light i with
            lightState := !((self.partition p).light i).lightState, lastChangedAt := env.now }))
        refine ⟨.trans ?_ hrest, hcalls⟩
        exact ⟨rfl, rfl, id⟩

theorem handleSubcmd2_leavesRest (env : Env) (self : ConcorddInstance) (h : IsPta b .subcmd2) :
    LeavesRest b self (concorddHandleSubcmd2 env self b) := by
  unfold concorddHandleSubcmd2
  cases hc : GeRs232PtaSubcmd2.ofByte (b 1) <;> dsimp only
  case lightsState =>
    unfold concorddHandleLightsState
    split
    · exact .same b self
    · next p _ =>
      obtain ⟨hrest, hcalls⟩ := lightsStateLoop_leavesRest ⟨h, hc⟩ env p
        (word16 (b 5) (b 4)) (List.finRange 10) self
      exact ⟨hrest, hcalls⟩
  case userLights =>
    unfold concorddHandleUserLights
    split
    · exact .same b self
    · split
      · exact .same b self
      · exact ⟨⟨rfl, rfl, id⟩, calls_ite (calls_one (.inr ⟨h, hc⟩))⟩
  case keyfob =>
    unfold concorddHandleKeyfob
    split
    · exact .same b self
    · dsimp only
      split
      · exact ⟨⟨rfl, rfl, id⟩, calls_zoneInfoChanged (.inr (.inr ⟨h, hc⟩))⟩
      · exact .same b self
  case other => exact .same b self

/-! Frames. -/

theorem handleFrame_leavesRest (env : Env) (self : ConcorddInstance) (b : Buffer) (n : ℕ)
    (hclear : ¬ IsPta b .clearAutomationDynamicImage) (hcomplete : ¬ IsPta b .equipListComplete)
    (huser : ¬ IsPta b .equipListUserData) :
    LeavesRest b self (concorddHandleFrame env self b n) := by
  unfold concorddHandleFrame
  cases hc : GeRs232Pta.ofByte (b 0) <;> dsimp only
  case clearAutomationDynamicImage => exact (hclear hc).elim
  case equipListComplete => exact (hcomplete hc).elim
  case equipListUserData => exact (huser hc).elim
  case subcmd => exact handleSubcmd_leavesRest env self n hc
  case subcmd2 => exact handleSubcmd2_leavesRest env self hc
  case zoneStatus =>
    unfold concorddHandleZoneStatus
    split
    · exact .same b self
    · exact ⟨⟨rfl, rfl, id⟩, calls_ite (calls_zoneInfoChanged (.inl hc))⟩
  case equipListPartitionData =>
    unfold concorddHandleEquipListPartitionData
    split
    · exact .same b self
    · exact ⟨⟨rfl, rfl, id⟩, calls_ite (calls_partitionInfoChanged (.inl hc))⟩
  case equipListZoneData =>
    unfold concorddHandleEquipListZoneData
    split
    · exact .same b self
    · apply LeavesRest.write
      · exact ⟨rfl, rfl, id⟩
      · refine calls_cons (.inr (.inl hc)) (calls_ite ?_)
        exact calls_zoneInfoChanged (.inr (.inl hc))
  case equipListSuperbusDevData =>
    unfold concorddHandleEquipListSuperbusDevData
    dsimp only
    split
    · apply LeavesRest.write
      · exact ⟨rfl, rfl, id⟩
      · exact calls_one hc
    · exact ⟨⟨rfl, rfl, id⟩, calls_nil⟩
  case equipListSuperbusCapData =>
    unfold concorddHandleEquipListSuperbusCapData
    dsimp only
    split
    · exact .same b self
    · split
      · exact ⟨⟨rfl, rfl, id⟩, calls_nil⟩
      · exact .write (.refl self) _ calls_nil
  case equipListOutputData =>
    unfold concorddHandleEquipListOutputData
    split
    · exact .same b self
    · apply LeavesRest.write
      · exact ⟨rfl, rfl, id⟩
      · exact calls_cons (.inr (.inr hc)) (calls_one (.inr (.inr hc)))
  case equipListLightToSensorData =>
    unfold concorddHandleEquipListLightToSensorData
    split
    · exact .same b self
    · exact ⟨⟨rfl, rfl, id⟩, calls_nil⟩
  case panelType => exact ⟨⟨rfl, rfl, id⟩, calls_nil⟩
  all_goals exact .same b self

/-- A list of users keeps everything else. -/
theorem handleFrame_users (env : Env) (self : ConcorddInstance) (n : ℕ)
    (h : IsPta b .equipListUserData) :
    (concorddHandleFrame env self b n).out = [] ∧
      ∃ user, (concorddHandleFrame env self b n).state = { self with user := user } := by
  rw [handleFrame_of_equipListUserData h]
  unfold concorddHandleEquipListUserData
  split
  · exact ⟨rfl, self.user, rfl⟩
  · exact ⟨rfl, _, rfl⟩

theorem handleFrame_calls (env : Env) (self : ConcorddInstance) (b : Buffer) (n : ℕ) :
    FrameCalls b (concorddHandleFrame env self b n).out := by
  by_cases hclear : IsPta b .clearAutomationDynamicImage
  · rw [handleFrame_clear hclear]
    intro e he
    obtain ⟨l, -, rfl⟩ := List.mem_map.mp he
    exact .inl hclear
  by_cases hcomplete : IsPta b .equipListComplete
  · rw [handleFrame_complete hcomplete]
    intro e he
    obtain ⟨l, -, rfl⟩ := List.mem_map.mp he
    exact .inr hcomplete
  by_cases huser : IsPta b .equipListUserData
  · rw [(handleFrame_users env self n huser).1]
    exact calls_nil
  · exact (handleFrame_leavesRest env self b n hclear hcomplete huser).calls

theorem handleFrame_callbacks (env : Env) (self : ConcorddInstance) (b : Buffer) (n : ℕ) :
    (concorddHandleFrame env self b n).state.callbacks = self.callbacks := by
  by_cases hclear : IsPta b .clearAutomationDynamicImage
  · rw [handleFrame_clear hclear]
    rfl
  by_cases hcomplete : IsPta b .equipListComplete
  · rw [handleFrame_complete hcomplete]
    rfl
  by_cases huser : IsPta b .equipListUserData
  · obtain ⟨-, user, hs⟩ := handleFrame_users env self n huser
    rw [hs]
  · exact (handleFrame_leavesRest env self b n hclear hcomplete huser).rest.callbacks

/-! Events and bus devices. -/

/-- `f` reads nothing of the tables of partitions, zones, outputs and users, of what the panel
says about itself, or of the siren, the refresh and the queue. -/
structure BesideTables {α : Type*} (f : ConcorddInstance → α) : Prop where
  partition : ∀ self p entry, f (self.setPartition p entry) = f self
  zone : ∀ self z entry, f (self.setZone z entry) = f self
  output : ∀ self o entry, f (self.setOutput o entry) = f self
  user : ∀ self user, f { self with user := user } = f self
  panel : ∀ self panelType hwRev swRev serialNumber, f { self with
    panelType := panelType, hwRev := hwRev, swRev := swRev, serialNumber := serialNumber } = f self
  siren : ∀ self i, f { self with sirenGoPartitionId := i } = f self
  pending : ∀ self pending, f { self with refreshPending := pending } = f self
  queue : ∀ self q, f { self with geQueue := q } = f self
  write : ∀ (self : ConcorddInstance) writes, f (self.write writes) = f self

section Beside

variable {α : Type*} {f : ConcorddInstance → α}

theorem handleSubcmd_beside (hf : BesideTables f) (env : Env) (self : ConcorddInstance)
    (b : Buffer) (n : ℕ) (halarm : GeRs232PtaSubcmd.ofByte (b 1) ≠ .alarmTrouble) :
    f (concorddHandleSubcmd env self b n).state = f self := by
  unfold concorddHandleSubcmd
  cases hc : GeRs232PtaSubcmd.ofByte (b 1) with
  | sirenSetup =>
    dsimp only
    unfold concorddHandleSirenSetup
    split
    · rfl
    · exact (hf.siren _ _).trans (hf.partition _ _ _)
  | sirenStop =>
    dsimp only
    unfold concorddHandleSirenStop
    split
    · rfl
    · exact hf.partition _ _ _
  | sirenGo =>
    dsimp only
    unfold concorddHandleSirenGo
    split <;> rfl
  | touchpadDisplay =>
    dsimp only
    unfold concorddHandleTouchpadDisplay
    split
    · rfl
    · exact (hf.write _ _).trans (hf.partition _ _ _)
  | level =>
    dsimp only
    unfold concorddHandleLevel
    split
    · rfl
    · exact hf.partition _ _ _
  | alarmTrouble => exact (halarm hc).elim
  | entryExitDelay =>
    dsimp only
    unfold concorddHandleEntryExitDelay
    split
    · rfl
    · dsimp only
      split
      · exact hf.partition _ _ _
      · exact hf.partition _ _ _
  | featureState =>
    dsimp only
    unfold concorddHandleFeatureState
    split
    · rfl
    · exact hf.partition _ _ _
  | timeAndDate => exact hf.pending _ _
  | sirenSync | temperature | other => rfl

theorem lightsStateLoop_beside (hf : BesideTables f) (env : Env) (p : Fin 8)
    (lightState : UInt16) (is : List (Fin 10)) (self : ConcorddInstance) :
    f (lightsStateLoop env p lightState self is).1 = f self := by
  induction is generalizing self with
  | nil => rfl
  | cons i is ih =>
    simp only [lightsStateLoop]
    split
    · exact ih self
    · split
      · exact hf.partition _ _ _
      · exact (ih _).trans (hf.partition _ _ _)

theorem handleSubcmd2_beside (hf : BesideTables f) (env : Env) (self : ConcorddInstance)
    (b : Buffer) : f (concorddHandleSubcmd2 env self b).state = f self := by
  unfold concorddHandleSubcmd2
  cases GeRs232PtaSubcmd2.ofByte (b 1) with
  | lightsState =>
    dsimp only
    unfold concorddHandleLightsState
    split
    · rfl
    · exact lightsStateLoop_beside hf ..
  | userLights =>
    dsimp only
    unfold concorddHandleUserLights
    split
    · rfl
    · split
      · rfl
      · exact hf.partition _ _ _
  | keyfob =>
    dsimp only
    unfold concorddHandleKeyfob
    split
    · rfl
    · dsimp only
      split
      · exact hf.zone _ _ _
      · rfl
  | other => rfl

/-- Only alarms, the list of bus devices and a refresh reach the events and the bus devices. -/
theorem handleFrame_beside (hf : BesideTables f) (env : Env) (self : ConcorddInstance) (n : ℕ)
    (halarm : ¬ IsSubcmd b .alarmTrouble) (hdevice : ¬ IsPta b .equipListSuperbusDevData)
    (hcap : ¬ IsPta b .equipListSuperbusCapData)
    (hclear : ¬ IsPta b .clearAutomationDynamicImage) :
    f (concorddHandleFrame env self b n).state = f self := by
  unfold concorddHandleFrame
  cases hc : GeRs232Pta.ofByte (b 0) with
  | subcmd => exact handleSubcmd_beside hf env self b n fun h => halarm ⟨hc, h⟩
  | subcmd2 => exact handleSubcmd2_beside hf env self b
  | equipListSuperbusDevData => exact (hdevice hc).elim
  | equipListSuperbusCapData => exact (hcap hc).elim
  | clearAutomationDynamicImage => exact (hclear hc).elim
  | equipListComplete => exact hf.queue _ _
  | zoneStatus =>
    dsimp only
    unfold concorddHandleZoneStatus
    split
    · rfl
    · exact hf.zone _ _ _
  | equipListPartitionData =>
    dsimp only
    unfold concorddHandleEquipListPartitionData
    split
    · rfl
    · exact hf.partition _ _ _
  | equipListZoneData =>
    dsimp only
    unfold concorddHandleEquipListZoneData
    split
    · rfl
    · exact (hf.write _ _).trans (hf.zone _ _ _)
  | equipListUserData =>
    dsimp only
    unfold concorddHandleEquipListUserData
    split
    · rfl
    · exact hf.user _ _
  | equipListOutputData =>
    dsimp only
    unfold concorddHandleEquipListOutputData
    split
    · rfl
    · exact (hf.write _ _).trans (hf.output _ _ _)
  | equipListLightToSensorData =>
    dsimp only
    unfold concorddHandleEquipListLightToSensorData
    split
    · rfl
    · exact hf.partition _ _ _
  | panelType => exact hf.panel _ _ _ _ _
  | automationEventLost | equipListScheduleData | equipListScheduledEventData | other => rfl

end Beside

end Concordd
