import Concordd.Instance.LightsReport
import Concordd.Instance.Payloads

/-! A client that follows the callbacks for a light, and what is lost on it. -/
namespace Concordd

def concorddLightZoneIdChanged : UInt32 := (1 : UInt32) <<< 8

/-- The fields of a light that frames can change. -/
structure LightInfo where
  lightState : Bool
  zoneId : UInt8
  lastChangedAt : ℤ
  deriving DecidableEq

def ConcorddLight.info (light : ConcorddLight) : LightInfo where
  lightState := light.lightState
  zoneId := light.zoneId
  lastChangedAt := light.lastChangedAt

/-- The fields whose flag is set are copied. -/
def LightInfo.copy (held : LightInfo) (light : ConcorddLight) (changed : UInt32) : LightInfo where
  lightState :=
    if changed &&& concorddGeneralStateChanged ≠ 0 then light.lightState else held.lightState
  zoneId := if changed &&& concorddLightZoneIdChanged ≠ 0 then light.zoneId else held.zoneId
  lastChangedAt :=
    if changed &&& concorddGeneralLastChangedAtChanged ≠ 0 then light.lastChangedAt
    else held.lastChangedAt

/-- A client of light `l` of partition `p`. -/
def lightHear (p : Fin 8) (l : Fin 10) (held : LightInfo) : InstanceEvent → LightInfo
  | .lightInfoChanged i j light changed =>
    if i = p ∧ j = l then held.copy light changed else held
  | _ => held

def ConcorddInstance.lightInfo (self : ConcorddInstance) (p : Fin 8) (l : Fin 10) : LightInfo :=
  ((self.partition p).light l).info

/-- A report of all lights gets to light `l` of partition `p` and changes it without a call: the
daemon is refreshing, or has never seen the light change. -/
def ChangedSilently (p : Fin 8) (l : Fin 10) (self : ConcorddInstance) (lights : UInt16) : Prop :=
  LightDiffers self p lights l ∧ ∀ j ≤ l, ¬ LightNotified self p lights j

instance (p : Fin 8) (l : Fin 10) (self : ConcorddInstance) (lights : UInt16) :
    Decidable (ChangedSilently p l self lights) := inferInstanceAs (Decidable (_ ∧ _))

/-- Such a report, or a list of sensors with another one for the light. -/
def LightLost (p : Fin 8) (l : Fin 10) (self : ConcorddInstance) (b : Buffer) : Prop :=
  (IsSubcmd2 b .lightsState ∧ (b 2).toNat = p.val ∧
      ChangedSilently p l self (word16 (b 5) (b 4))) ∨
    (IsPta b .equipListLightToSensorData ∧ (b 1).toNat = p.val ∧ l ≠ 0 ∧
      b (Fin.ofNat _ (2 + l.val)) ≠ ((self.partition p).light l).zoneId)

instance (p : Fin 8) (l : Fin 10) (self : ConcorddInstance) (b : Buffer) :
    Decidable (LightLost p l self b) := inferInstanceAs (Decidable (_ ∨ _))

/-- The client holds what the light has stored. -/
def LightMirrored (p : Fin 8) (l : Fin 10) (s : Daemon × LightInfo) : Prop :=
  s.2 = s.1.inst.lightInfo p l

instance (p : Fin 8) (l : Fin 10) (s : Daemon × LightInfo) : Decidable (LightMirrored p l s) :=
  inferInstanceAs (Decidable (_ = _))

variable {env : Env} {self : ConcorddInstance} {b : Buffer} {n : ℕ} {p q : Fin 8} {l j : Fin 10}
  {s : Daemon} {i : DaemonStep} {held : LightInfo} {lights : UInt16} {is : List (Fin 10)}

/-! One call. -/

theorem copy_light (held : LightInfo) (light : ConcorddLight) (hzone : light.zoneId = held.zoneId) :
    held.copy light (concorddGeneralStateChanged ||| concorddGeneralLastChangedAtChanged) =
      light.info := by
  have hstate : (concorddGeneralStateChanged ||| concorddGeneralLastChangedAtChanged) &&&
      concorddGeneralStateChanged ≠ 0 := by decide
  have hat : (concorddGeneralStateChanged ||| concorddGeneralLastChangedAtChanged) &&&
      concorddGeneralLastChangedAtChanged ≠ 0 := by decide
  have hflag : (concorddGeneralStateChanged ||| concorddGeneralLastChangedAtChanged) &&&
      concorddLightZoneIdChanged = 0 := by decide
  simp [LightInfo.copy, ConcorddLight.info, hstate, hat, hflag, hzone]

/-! The loop over the lights. -/

theorem lightChanged_info (env : Env) (h : l ≠ j) :
    (lightChanged env self p j).lightInfo p l = self.lightInfo p l := by
  rw [ConcorddInstance.lightInfo, lightChanged_light, if_neg h]
  rfl

theorem lightDiffers_changed (h : l ≠ j) :
    LightDiffers (lightChanged env self p j) p lights l ↔ LightDiffers self p lights l := by
  unfold LightDiffers
  rw [lightChanged_light, if_neg h]

/-- A light the loop does not come to stays as it is, and nothing is called for it. -/
theorem lightsStateLoop_other (env : Env) (self : ConcorddInstance) (p : Fin 8) (lights : UInt16)
    (h : l ∉ is) (held : LightInfo) :
    (lightsStateLoop env p lights self is).2.foldl (lightHear p l) held = held ∧
      (lightsStateLoop env p lights self is).1.lightInfo p l = self.lightInfo p l := by
  induction is generalizing self with
  | nil => exact ⟨rfl, rfl⟩
  | cons j is ih =>
    obtain ⟨hj, his⟩ := not_or.mp (List.mem_cons.not.mp h)
    rw [lightsStateLoop_cons]
    split
    · exact ih self his
    · split
      · refine ⟨?_, lightChanged_info env hj⟩
        rw [List.foldl_cons, List.foldl_nil, lightHear, if_neg fun hl => hj hl.2.symm]
      · obtain ⟨hhear, hinfo⟩ := ih (lightChanged env self p j) his
        exact ⟨hhear, hinfo.trans (lightChanged_info env hj)⟩

/-- The loop loses exactly the lights it changes silently. -/
theorem lightsStateLoop_hear (his : is.Pairwise (· < ·)) (hl : l ∈ is) :
    (lightsStateLoop env p lights self is).2.foldl (lightHear p l) (self.lightInfo p l) =
        (lightsStateLoop env p lights self is).1.lightInfo p l ↔
      ¬ (LightDiffers self p lights l ∧ ∀ j ∈ is, j ≤ l → ¬ LightNotified self p lights j) := by
  induction is generalizing self with
  | nil => cases hl
  | cons j is ih =>
    rw [List.pairwise_cons] at his
    obtain ⟨hj, his⟩ := his
    rw [lightsStateLoop_cons]
    by_cases hlj : l = j
    · subst hlj
      have hlater : l ∉ is := fun hm => lt_irrefl l (hj l hm)
      by_cases hd : LightDiffers self p lights l
      · rw [if_neg (not_not_intro hd)]
        by_cases hn : LightNotified self p lights l
        · rw [if_pos hn]
          refine iff_of_true ?_ fun h => h.2 l List.mem_cons_self le_rfl hn
          rw [List.foldl_cons, List.foldl_nil, lightHear, if_pos ⟨rfl, rfl⟩]
          refine copy_light _ _ ?_
          rw [lightChanged_light, if_pos rfl]
          rfl
        · rw [if_neg hn]
          obtain ⟨hhear, hinfo⟩ := lightsStateLoop_other env (lightChanged env self p l) p lights
            hlater (self.lightInfo p l)
          refine iff_of_false ?_ (not_not_intro ⟨hd, ?_⟩)
          · rw [hhear, hinfo]
            intro he
            have hstate := congrArg LightInfo.lightState he
            rw [ConcorddInstance.lightInfo, ConcorddInstance.lightInfo, lightChanged_light,
              if_pos rfl] at hstate
            exact Bool.not_ne_self _ hstate.symm
          · intro k hk hkl
            rcases List.mem_cons.mp hk with rfl | hk
            · exact hn
            · exact absurd (hj k hk) (not_lt_of_ge hkl)
      · rw [if_pos hd]
        obtain ⟨hhear, hinfo⟩ := lightsStateLoop_other env self p lights hlater
          (self.lightInfo p l)
        exact iff_of_true (hhear.trans hinfo.symm) fun h => hd h.1
    · have hl : l ∈ is := (List.mem_cons.mp hl).resolve_left hlj
      have hjl : j < l := hj l hl
      by_cases hd : LightDiffers self p lights j
      · rw [if_neg (not_not_intro hd)]
        by_cases hn : LightNotified self p lights j
        · rw [if_pos hn]
          refine iff_of_true ?_ fun h => h.2 j List.mem_cons_self hjl.le hn
          rw [List.foldl_cons, List.foldl_nil, lightHear, if_neg fun h => hlj h.2.symm,
            lightChanged_info env hlj]
        · rw [if_neg hn, ← lightChanged_info env hlj, ih his hl,
            lightDiffers_changed hlj]
          refine not_congr (and_congr_right fun _ => ?_)
          simp only [List.mem_cons, forall_eq_or_imp, hn, not_false_eq_true, implies_true,
            true_and]
          refine forall₂_congr fun k hk => ?_
          rw [lightNotified_changed (hj k hk).ne']
      · have hn : ¬ LightNotified self p lights j := fun h => hd h.1
        rw [if_pos hd, ih his hl]
        simp only [List.mem_cons, forall_eq_or_imp, hn, not_false_eq_true, implies_true, true_and]

/-! Frames. -/

theorem changedSilently_iff : ChangedSilently p l self lights ↔
    LightDiffers self p lights l ∧
      ∀ j ∈ List.finRange 10, j ≤ l → ¬ LightNotified self p lights j := by
  simp [ChangedSilently]

theorem lightsStateLoop_partition (env : Env) (self : ConcorddInstance) (l : Fin 10)
    (lights : UInt16) (hqp : q ≠ p) (is : List (Fin 10)) (held : LightInfo) :
    (lightsStateLoop env q lights self is).2.foldl (lightHear p l) held = held ∧
      (lightsStateLoop env q lights self is).1.lightInfo p l = self.lightInfo p l := by
  have hother : ∀ (self : ConcorddInstance) (j : Fin 10),
      (lightChanged env self q j).lightInfo p l = self.lightInfo p l := by
    intro self j
    rw [ConcorddInstance.lightInfo, lightChanged, setPartition_partition, if_neg hqp.symm]
    rfl
  induction is generalizing self with
  | nil => exact ⟨rfl, rfl⟩
  | cons j is ih =>
    rw [lightsStateLoop_cons]
    split
    · exact ih self
    · split
      · refine ⟨?_, hother self j⟩
        rw [List.foldl_cons, List.foldl_nil, lightHear, if_neg fun h => hqp h.1]
      · obtain ⟨hhear, hinfo⟩ := ih (lightChanged env self q j)
        exact ⟨hhear, hinfo.trans (hother self j)⟩

theorem handleFrame_lightsState_hear (h : IsSubcmd2 b .lightsState) :
    (concorddHandleFrame env self b n).out.foldl (lightHear p l) (self.lightInfo p l) =
      (concorddHandleFrame env self b n).state.lightInfo p l ↔ ¬ LightLost p l self b := by
  have hsensors : ¬ IsPta b .equipListLightToSensorData := fun h' => by cases h.1.symm.trans h'
  have hlost : LightLost p l self b ↔
      (b 2).toNat = p.val ∧ ChangedSilently p l self (word16 (b 5) (b 4)) := by
    simp [LightLost, h, hsensors]
  rw [handleFrame_of_lightsState h, hlost]
  unfold concorddHandleLightsState
  cases hq : concorddGetPartition (b 2).toNat with
  | none =>
    refine iff_of_true rfl ?_
    rintro ⟨he, -⟩
    rw [getPartition_of_eq he] at hq
    cases hq
  | some q =>
    have hval := getPartition_eq_some hq
    dsimp only
    by_cases hqp : q = p
    · subst hqp
      rw [lightsStateLoop_hear (List.pairwise_lt_finRange 10) (List.mem_finRange l),
        changedSilently_iff]
      exact not_congr (and_iff_right hval).symm
    · obtain ⟨hhear, hinfo⟩ := lightsStateLoop_partition env self l (word16 (b 5) (b 4)) hqp
        (List.finRange 10) (self.lightInfo p l)
      refine iff_of_true (hhear.trans hinfo.symm) ?_
      rintro ⟨he, -⟩
      exact hqp (Fin.ext (hval.symm.trans he))

theorem handleFrame_userLights_hear (h : IsSubcmd2 b .userLights)
    (hf : self.callbacks.lightInfoChangedFunc = true) :
    (concorddHandleFrame env self b n).out.foldl (lightHear p l) (self.lightInfo p l) =
      (concorddHandleFrame env self b n).state.lightInfo p l := by
  rw [handleFrame_of_userLights h]
  unfold concorddHandleUserLights
  split
  · rfl
  · next q _ =>
    split
    · rfl
    · next k _ =>
      dsimp only
      rw [if_pos hf, List.foldl_cons, List.foldl_nil, lightHear]
      by_cases hqp : q = p
      · subst hqp
        by_cases hkl : k = l
        · subst hkl
          rw [if_pos ⟨rfl, rfl⟩, ConcorddInstance.lightInfo, ConcorddInstance.lightInfo,
            setPartition_partition, if_pos rfl]
          simp only [ConcorddPartition.setLight, Function.update_self]
          exact copy_light _ _ rfl
        · rw [if_neg fun hl => hkl hl.2, ConcorddInstance.lightInfo, ConcorddInstance.lightInfo,
            setPartition_partition, if_pos rfl]
          simp only [ConcorddPartition.setLight, Function.update_of_ne (Ne.symm hkl)]
      · rw [if_neg fun hl => hqp hl.1, ConcorddInstance.lightInfo, ConcorddInstance.lightInfo,
          setPartition_partition, if_neg (Ne.symm hqp)]

/-- A list of sensors is stored without a call. -/
theorem handleFrame_sensors_hear (h : IsPta b .equipListLightToSensorData) :
    (concorddHandleFrame env self b n).out.foldl (lightHear p l) (self.lightInfo p l) =
      (concorddHandleFrame env self b n).state.lightInfo p l ↔ ¬ LightLost p l self b := by
  have hstate : ¬ IsSubcmd2 b .lightsState := fun h' => by cases h.symm.trans h'.1
  have hlost : LightLost p l self b ↔ (b 1).toNat = p.val ∧ l ≠ 0 ∧
      b (Fin.ofNat _ (2 + l.val)) ≠ ((self.partition p).light l).zoneId := by
    simp [LightLost, h, hstate]
  rw [handleFrame_of_equipListLightToSensorData h, hlost]
  unfold concorddHandleEquipListLightToSensorData
  cases hq : concorddGetPartition (b 1).toNat with
  | none =>
    refine iff_of_true rfl ?_
    rintro ⟨he, -⟩
    rw [getPartition_of_eq he] at hq
    cases hq
  | some q =>
    have hval := getPartition_eq_some hq
    simp only [List.foldl_nil, ConcorddInstance.lightInfo, setPartition_partition]
    by_cases hqp : p = q
    · subst hqp
      rw [if_pos rfl]
      by_cases hl : l = 0
      · simp [hl]
      · simp [hl, hval, ConcorddLight.info, eq_comm]
    · rw [if_neg hqp]
      refine iff_of_true rfl ?_
      rintro ⟨he, -⟩
      exact hqp (Fin.ext (he.symm.trans hval))

theorem PartitionUpdate.lightInfo_eq {old new : ConcorddPartition}
    (h : PartitionUpdate env b n p old new) (hstate : ¬ IsSubcmd2 b .lightsState)
    (huser : ¬ IsSubcmd2 b .userLights) (hsensors : ¬ IsPta b .equipListLightToSensorData) :
    new.light = old.light := by
  cases h with
  | lights h => exact (h.elim hstate huser).elim
  | sensors h => exact (hsensors h).elim
  | _ => rfl

theorem light_mirrors (p : Fin 8) (l : Fin 10) :
    Mirrors (lightHear p l) (fun self => self.lightInfo p l) (·.lightInfoChangedFunc)
      (fun _ _ _ => True) (LightLost p l) where
  link _ _ := rfl
  rest _ _ _ := rfl
  deactivate _ := rfl
  queue _ _ _ := Iff.rfl
  guard _ _ _ _ := id
  frame env self b n hf _ := by
    by_cases hstate : IsSubcmd2 b .lightsState
    · exact handleFrame_lightsState_hear hstate
    by_cases hsensors : IsPta b .equipListLightToSensorData
    · exact handleFrame_sensors_hear hsensors
    have hlost : ¬ LightLost p l self b := by simp [LightLost, hstate, hsensors]
    refine iff_of_true ?_ hlost
    by_cases huser : IsSubcmd2 b .userLights
    · exact handleFrame_userLights_hear huser hf
    · rw [foldl_hear_eq]
      · obtain ⟨entry, hu, hnew⟩ := handleFrame_partition_of_ofBytes
          (f := fun partition => (partition.light l).info) (fun _ _ => rfl) env self b n p
        have hkeep := hu.lightInfo_eq hstate huser hsensors
        rw [hkeep] at hnew
        exact hnew.symm
      · intro e he t
        have hcall := handleFrame_calls env self b n e he
        cases e with
        | lightInfoChanged => exact (hcall.elim hstate huser).elim
        | _ => rfl

/-! Runs. -/

/-- Nothing of light `l` is lost in the step. -/
def KeepsLight (p : Fin 8) (l : Fin 10) : Daemon → DaemonStep → Prop :=
  FramesMeet fun s b _ => ¬ LightLost p l s.inst b

instance (p : Fin 8) (l : Fin 10) (s : Daemon) (i : DaemonStep) : Decidable (KeepsLight p l s i) :=
  inferInstanceAs (Decidable (FramesMeet _ s i))

/-- From any state on, a client that starts from what the light has stored holds it after every
step, exactly if no report changes it silently and no list gives it another sensor. -/
theorem light_mirrored_iff (p : Fin 8) (l : Fin 10) (s : Daemon) (steps : List DaemonStep)
    (hf : s.inst.callbacks.lightInfoChangedFunc = true)
    (hk : daemonMachine.Along (fun _ i => i.Keeps (·.lightInfoChangedFunc)) s steps) :
    ((listener (lightHear p l)).watch daemonMachine).Always (LightMirrored p l)
        (s, s.inst.lightInfo p l) steps ↔
      daemonMachine.Along (KeepsLight p l) s steps := by
  rw [← Monitor.watch_along (m := listener (lightHear p l)) (t := s.inst.lightInfo p l)]
  refine Machine.always_iff_of_inv
    (I := fun s => LightMirrored p l s ∧ s.1.inst.callbacks.lightInfoChangedFunc = true)
    (fun s h => h.1)
    (fun s i h _ => (light_mirrors p l).step_iff h.1 h.2 fun _ _ _ => trivial) ?_ ⟨rfl, hf⟩
    (Monitor.watch_along.mpr hk)
  rintro s i ⟨ht, hf⟩ hk hp
  have hstep := (light_mirrors p l).step_iff (i := i) ht hf fun _ _ _ => trivial
  exact ⟨hstep.mpr hp, step_callbacks _ hf hk⟩

/-- A client is told of the changes of the lights. -/
def watchedLight : Daemon :=
  daemonMachine.run (daemonInit ⟨1, .ok⟩) [.install { lightInfoChangedFunc := true }]

/-- `USER_LIGHTS` for light 2 of partition 1. -/
def userLightFrame (state : UInt8) : Buffer := fun k =>
  if k = 0 then 0x23 else if k = 1 then 0x02 else if k = 2 then 1 else if k = 8 then 2
  else if k = 9 then state else 0

theorem light_mirrored_user :
    ((listener (lightHear 1 2)).watch daemonMachine).Always (LightMirrored 1 2)
      (watchedLight, watchedLight.inst.lightInfo 1 2)
      [.frame (userLightFrame 1) 10, .frame (lightsStateFrame 0) 6] :=
  (light_mirrored_iff 1 2 watchedLight _ rfl (by exact ⟨trivial, trivial, trivial⟩)).mpr
    (by decide +kernel)

/-- The first report of a light is silent. -/
theorem first_light_missed :
    ¬ ((listener (lightHear 1 2)).watch daemonMachine).Always (LightMirrored 1 2)
      (watchedLight, watchedLight.inst.lightInfo 1 2) [.frame (lightsStateFrame 4) 6] := by
  decide +kernel

end Concordd
