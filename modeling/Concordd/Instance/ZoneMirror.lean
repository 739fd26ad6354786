import Concordd.Instance.Effects
import Concordd.Instance.Notifications

/-! A client that follows the callbacks for a zone, and the reports that are lost on it. -/
namespace Concordd

def geRs232ZoneStatusFault : UInt8 := 2

def geRs232ZoneStatusAlarm : UInt8 := 4

def geRs232ZoneStatusTrouble : UInt8 := 8

/-- The five status bits, each with its `CONCORDD_ZONE_*_CHANGED` flag eight places higher. -/
def zoneStatusMask : UInt8 :=
  geRs232ZoneStatusTripped ||| geRs232ZoneStatusFault ||| geRs232ZoneStatusAlarm |||
    geRs232ZoneStatusTrouble ||| geRs232ZoneStatusBypassed

/-- A client of zone `z`, which copies the status bits that a callback says have changed. -/
def zoneHear (z : Fin 96) (held : UInt8) : InstanceEvent → UInt8
  | .zoneInfoChanged i zone changed =>
    if i = z then copyBits (changedBits changed &&& zoneStatusMask) held zone.zoneState else held
  | _ => held

def ConcorddInstance.zoneBits (self : ConcorddInstance) (z : Fin 96) : UInt8 :=
  (self.zone z).zoneState &&& zoneStatusMask

/-- The state a frame reports for zone `z`. -/
def zoneReport (z : Fin 96) (frameBytes : Buffer) : Option UInt8 :=
  if IsPta frameBytes .zoneStatus ∧ (word16 (frameBytes 3) (frameBytes 4)).toNat = z.val then
    some (frameBytes 5)
  else if IsPta frameBytes .equipListZoneData ∧
      (word16 (frameBytes 4) (frameBytes 5)).toNat = z.val then
    some (frameBytes 7)
  else none

/-- A report of other status bits for a zone that is not active. It is stored without a call. -/
def ReportsSilently (z : Fin 96) (self : ConcorddInstance) (frameBytes : Buffer) : Prop :=
  (self.zone z).active = false ∧
    ∃ state ∈ zoneReport z frameBytes, state &&& zoneStatusMask ≠ self.zoneBits z

instance (z : Fin 96) (self : ConcorddInstance) (frameBytes : Buffer) :
    Decidable (ReportsSilently z self frameBytes) :=
  inferInstanceAs (Decidable (_ ∧ ∃ _, _))

/-- While the zone is active, the client holds its status bits. -/
def ZoneMirrored (z : Fin 96) (s : Daemon × UInt8) : Prop :=
  (s.1.inst.zone z).active = true → s.2 = s.1.inst.zoneBits z

instance (z : Fin 96) (s : Daemon × UInt8) : Decidable (ZoneMirrored z s) :=
  inferInstanceAs (Decidable (_ → _))

variable {env : Env} {self : ConcorddInstance} {b : Buffer} {n : ℕ} {z : Fin 96} {s : Daemon}
  {i : DaemonStep} {held : UInt8}

/-! One callback. -/

theorem setZone_hear (hf : self.callbacks.zoneInfoChangedFunc = true) (y : Fin 96)
    (entry : ConcorddZone) (changed : UInt32) :
    (concorddZoneInfoChanged (self.setZone y entry) y changed).foldl (zoneHear z) held =
      if y = z then copyBits (changedBits changed &&& zoneStatusMask) held entry.zoneState
      else held := by
  have hf : (self.setZone y entry).callbacks.zoneInfoChangedFunc = true := hf
  rw [concorddZoneInfoChanged, if_pos hf, List.foldl_cons, List.foldl_nil, setZone_zone,
    if_pos rfl]
  rfl

/-- The flags of a list entry, other than those of its status bits, are no flags of status bits. -/
theorem changedBits_zoneData {p g t : Prop} [Decidable p] [Decidable g] [Decidable t]
    (changed : UInt8) :
    changedBits ((if p then concorddGeneralPartitionIdChanged else 0) |||
      (if g then concorddZoneGroupChanged else 0) ||| (if t then concorddZoneTypeChanged else 0) |||
      (changed.toUInt32 <<< 8)) = changed := by
  rw [changedBits_or, changedBits_or, changedBits_or, changedBits_shift,
    changedBits_ite (by decide), changedBits_ite (by decide), changedBits_ite (by decide)]
  simp

/-- The client is up to date after a callback for every change `c`, unless the zone is not
active. -/
theorem hear_changes (old new : UInt8) (active : Bool) {c : Prop} [Decidable c] {changed : UInt32}
    (hbits : changedBits changed = old ^^^ new) (hc : ¬ c → new = old) :
    (if c ∧ active = true then
        copyBits (changedBits changed &&& zoneStatusMask) (old &&& zoneStatusMask) new
      else old &&& zoneStatusMask) = new &&& zoneStatusMask ↔
      ¬ (active = false ∧ new &&& zoneStatusMask ≠ old &&& zoneStatusMask) := by
  rw [hbits, copyBits_changed]
  cases active with
  | true =>
    refine iff_of_true ?_ (fun h => Bool.false_ne_true h.1.symm)
    by_cases h : c
    · simp [h]
    · simp [hc h]
  | false => simp [eq_comm]

/-! Frames. -/

theorem zoneReport_of_zoneStatus (h : IsPta b .zoneStatus) :
    zoneReport z b =
      if (word16 (b 3) (b 4)).toNat = z.val then some (b 5) else none := by
  have hne : ¬ IsPta b .equipListZoneData := fun h' => by cases h.symm.trans h'
  simp [zoneReport, h, hne]

theorem zoneReport_of_zoneData (h : IsPta b .equipListZoneData) :
    zoneReport z b =
      if (word16 (b 4) (b 5)).toNat = z.val then some (b 7) else none := by
  have hne : ¬ IsPta b .zoneStatus := fun h' => by cases h.symm.trans h'
  simp [zoneReport, h, hne]

theorem not_reportsSilently (h : zoneReport z b = none) : ¬ ReportsSilently z self b := by
  rintro ⟨-, state, hs, -⟩
  rw [h] at hs
  cases hs

theorem reportsSilently_iff {state : UInt8} (h : zoneReport z b = some state) :
    ReportsSilently z self b ↔
      (self.zone z).active = false ∧ state &&& zoneStatusMask ≠ self.zoneBits z := by
  simp [ReportsSilently, h]

/-- A report for zone `k` as a client of `z` sees it. -/
theorem report_hear (hf : self.callbacks.zoneInfoChangedFunc = true) {k : ℕ} {y : Fin 96}
    {entry : ConcorddZone} {c : Prop} [Decidable c] {changed : UInt32} (hy : k = y.val)
    (hreport : zoneReport z b = if k = z.val then some entry.zoneState else none)
    (hbits : changedBits changed = (self.zone y).zoneState ^^^ entry.zoneState)
    (hc : ¬ c → entry.zoneState = (self.zone y).zoneState) :
    (if c ∧ (self.zone y).active = true then
        concorddZoneInfoChanged (self.setZone y entry) y changed else []).foldl (zoneHear z)
          (self.zoneBits z) = (self.setZone y entry).zoneBits z ↔ ¬ ReportsSilently z self b := by
  rw [apply_ite (List.foldl (zoneHear z) (self.zoneBits z)), setZone_hear hf, List.foldl_nil]
  by_cases hyz : y = z
  · subst hyz
    rw [if_pos hy] at hreport
    rw [reportsSilently_iff hreport, if_pos rfl]
    simp only [ConcorddInstance.zoneBits, setZone_zone, if_true]
    exact hear_changes _ _ _ hbits hc
  · have hne : k ≠ z.val := fun he => hyz (Fin.ext (hy.symm.trans he))
    rw [if_neg hne] at hreport
    refine iff_of_true ?_ (not_reportsSilently hreport)
    simp [ConcorddInstance.zoneBits, hyz, Ne.symm hyz]

theorem noReport_hear {k : ℕ} {state : UInt8} (hk : concorddGetZone k = none)
    (hreport : zoneReport z b = if k = z.val then some state else none) :
    ¬ ReportsSilently z self b := by
  have hne : k ≠ z.val := by
    intro he
    rw [getZone_of_eq he] at hk
    cases hk
  rw [if_neg hne] at hreport
  exact not_reportsSilently hreport

theorem handleFrame_zoneStatus_hear (h : IsPta b .zoneStatus)
    (hf : self.callbacks.zoneInfoChangedFunc = true) :
    (concorddHandleFrame env self b n).out.foldl (zoneHear z) (self.zoneBits z) =
      (concorddHandleFrame env self b n).state.zoneBits z ↔ ¬ ReportsSilently z self b := by
  have hreport := zoneReport_of_zoneStatus (z := z) h
  rw [handleFrame_of_zoneStatus h]
  unfold concorddHandleZoneStatus
  cases hy : concorddGetZone (word16 (b 3) (b 4)).toNat with
  | none => exact iff_of_true rfl (noReport_hear hy hreport)
  | some y =>
    refine report_hear hf (getZone_eq_some hy) hreport (changedBits_shift _) ?_
    intro hc
    exact (UInt8.xor_eq_zero_iff.mp (not_not.mp hc)).symm

theorem handleFrame_zoneData_hear (h : IsPta b .equipListZoneData)
    (hf : self.callbacks.zoneInfoChangedFunc = true) (hfit : CopiesFit b n) :
    (concorddHandleFrame env self b n).out.foldl (zoneHear z) (self.zoneBits z) =
      (concorddHandleFrame env self b n).state.zoneBits z ↔ ¬ ReportsSilently z self b := by
  have hreport := zoneReport_of_zoneData (z := z) h
  rw [handleFrame_of_equipListZoneData h]
  unfold concorddHandleEquipListZoneData
  cases hy : concorddGetZone (word16 (b 4) (b 5)).toNat with
  | none => exact iff_of_true rfl (noReport_hear hy hreport)
  | some y =>
    have hn := hfit.2.1 h (by rw [getZone_eq_some hy]; exact y.isLt)
    dsimp only
    rw [overrun_eq_nil hn.2, write_nil]
    refine report_hear hf (getZone_eq_some hy) hreport (changedBits_zoneData _) ?_
    intro hc
    have hbits := congrArg changedBits (not_not.mp hc)
    rw [changedBits_zoneData] at hbits
    exact (UInt8.xor_eq_zero_iff.mp hbits).symm

theorem ZoneUpdate.sameState {old new : ConcorddZone} (h : ZoneUpdate env b n z old new)
    (hs : ¬ IsPta b .zoneStatus) (hd : ¬ IsPta b .equipListZoneData) :
    new.zoneState = old.zoneState := by
  cases h with
  | status hc => exact (hs hc).elim
  | data hc => exact (hd hc).elim
  | _ => rfl

/-- A key fob's callback has flags for other fields, and no other frame has one for a zone. -/
theorem handleFrame_other_hear (hs : ¬ IsPta b .zoneStatus) (hd : ¬ IsPta b .equipListZoneData)
    (hf : self.callbacks.zoneInfoChangedFunc = true) :
    (concorddHandleFrame env self b n).out.foldl (zoneHear z) held = held := by
  by_cases hk : IsSubcmd2 b .keyfob
  · rw [handleFrame_of_keyfob hk]
    unfold concorddHandleKeyfob
    split
    · rfl
    · next y _ =>
      dsimp only
      split
      · dsimp only
        rw [setZone_hear hf, show changedBits (concorddZoneLastKcChanged |||
          concorddZoneLastKcChangedAtChanged) &&& zoneStatusMask = 0 by decide, copyBits_none,
          ite_self]
      · rfl
  · apply foldl_hear_eq
    intro e he t
    have hcall := handleFrame_calls env self b n e he
    cases e with
    | zoneInfoChanged y zone changed =>
      rcases hcall with h | h | h
      · exact (hs h).elim
      · exact (hd h).elim
      · exact (hk h).elim
    | _ => rfl

theorem zone_mirrors (z : Fin 96) :
    Mirrors (zoneHear z) (·.zoneBits z) (·.zoneInfoChangedFunc) (fun _ b n => CopiesFit b n)
      (ReportsSilently z) where
  link _ _ := rfl
  rest _ _ _ := rfl
  deactivate _ := rfl
  queue _ _ _ := Iff.rfl
  guard _ _ _ _ := id
  frame env self b n hf hfit := by
    by_cases hs : IsPta b .zoneStatus
    · exact handleFrame_zoneStatus_hear hs hf
    by_cases hd : IsPta b .equipListZoneData
    · exact handleFrame_zoneData_hear hd hf hfit
    · have hreport : zoneReport z b = none := by simp [zoneReport, hs, hd]
      refine iff_of_true ?_ (not_reportsSilently hreport)
      rw [handleFrame_other_hear hs hd hf, ConcorddInstance.zoneBits, ConcorddInstance.zoneBits,
        (handleFrame_zone env self hfit z).sameState hs hd]

/-- A report makes its zone active. -/
theorem handleFrame_report_active {state : UInt8} (h : zoneReport z b = some state)
    (hfit : CopiesFit b n) :
    ((concorddHandleFrame env self b n).state.zone z).active = true := by
  unfold zoneReport at h
  by_cases hs : IsPta b .zoneStatus ∧ (word16 (b 3) (b 4)).toNat = z.val
  · rw [handleFrame_of_zoneStatus hs.1]
    unfold concorddHandleZoneStatus
    rw [getZone_of_eq hs.2]
    dsimp only
    rw [setZone_zone, if_pos rfl]
  · rw [if_neg hs] at h
    by_cases hd : IsPta b .equipListZoneData ∧ (word16 (b 4) (b 5)).toNat = z.val
    · have hn := hfit.2.1 hd.1 (by rw [hd.2]; exact z.isLt)
      rw [handleFrame_of_equipListZoneData hd.1]
      unfold concorddHandleEquipListZoneData
      rw [getZone_of_eq hd.2]
      dsimp only
      rw [overrun_eq_nil hn.2, write_nil, setZone_zone, if_pos rfl]
    · rw [if_neg hd] at h
      cases h

/-! Runs. -/

/-- No frame of the step reports silently. -/
def ReportsAloud (z : Fin 96) : Daemon → DaemonStep → Prop :=
  FramesMeet fun s b _ => ¬ ReportsSilently z s.inst b

instance (z : Fin 96) (s : Daemon) (i : DaemonStep) : Decidable (ReportsAloud z s i) :=
  inferInstanceAs (Decidable (FramesMeet _ s i))

theorem zoneMirrored_step_iff {s : Daemon × UInt8} (ht : s.2 = s.1.inst.zoneBits z)
    (hf : s.1.inst.callbacks.zoneInfoChangedFunc = true) (hfit : FramesFit s.1 i) :
    ZoneMirrored z (((listener (zoneHear z)).watch daemonMachine).step s i).1 ↔
      ReportsAloud z s.1 i := by
  have hmirror := (zone_mirrors z).step_iff (i := i) ht hf hfit
  constructor
  · intro h b n hm
    rintro ⟨hoff, state, hreport, hne⟩
    -- the silent report has made the zone active, and the client missed it
    obtain ⟨q, hstep⟩ := step_of_handled hm
    have hactive : ((daemonMachine.step s.1 i).1.inst.zone z).active = true := by
      rw [hstep]
      exact handleFrame_report_active hreport (hfit b n hm)
    exact hmirror.mp (h hactive) b n hm ⟨hoff, state, hreport, hne⟩
  · intro h _
    exact hmirror.mpr h

/-- From any state on, and as long as every text fits, a client that starts from the zone's bits
holds them whenever the zone is active, exactly if no frame reports other bits while the zone is
not. -/
theorem zone_mirrored_iff (z : Fin 96) (s : Daemon) (steps : List DaemonStep)
    (hf : s.inst.callbacks.zoneInfoChangedFunc = true)
    (hk : daemonMachine.Along (fun _ i => i.Keeps (·.zoneInfoChangedFunc)) s steps)
    (hfit : daemonMachine.Along FramesFit s steps) :
    ((listener (zoneHear z)).watch daemonMachine).Always (ZoneMirrored z) (s, s.inst.zoneBits z)
        steps ↔
      daemonMachine.Along (ReportsAloud z) s steps := by
  rw [← Monitor.watch_along (m := listener (zoneHear z)) (t := s.inst.zoneBits z)]
  refine Machine.always_iff_of_inv
    (I := fun s => s.2 = s.1.inst.zoneBits z ∧ s.1.inst.callbacks.zoneInfoChangedFunc = true)
    (fun s h _ => h.1) (fun s i h hd => zoneMirrored_step_iff h.1 h.2 hd.2) ?_ ⟨rfl, hf⟩
    (Monitor.watch_along.mpr (Machine.along_and.mpr ⟨hk, hfit⟩))
  rintro s i ⟨ht, hf⟩ ⟨hk, hfit⟩ hp
  exact ⟨((zone_mirrors z).step_iff ht hf hfit).mpr hp, step_callbacks _ hf hk⟩

/-- `ZONE_STATUS` for zone 1. -/
def zoneReportFrame (state : UInt8) : Buffer := fun k =>
  if k = 0 then 0x21 else if k = 4 then 1 else if k = 5 then state else 0

/-- Zone 1 is active, and a client is told of its changes. -/
def watchedZone : Daemon :=
  daemonMachine.run (daemonInit ⟨1, .ok⟩)
    [.install { zoneInfoChangedFunc := true }, .frame (zoneReportFrame 0) 6]

theorem zone_mirrored_aloud :
    ((listener (zoneHear 1)).watch daemonMachine).Always (ZoneMirrored 1)
      (watchedZone, watchedZone.inst.zoneBits 1)
      [.frame (zoneReportFrame 1) 6, .refresh none, .frame (zoneReportFrame 1) 6] :=
  (zone_mirrored_iff 1 watchedZone _ rfl (by exact ⟨trivial, trivial, trivial, trivial⟩)
    (by decide +kernel)).mpr (by decide +kernel)

/-- The zone trips after a refresh, before anything else is heard of it. -/
theorem silent_report_missed :
    (watchedZone.inst.zone 1).active = true ∧
      ¬ ((listener (zoneHear 1)).watch daemonMachine).Always (ZoneMirrored 1)
        (watchedZone, watchedZone.inst.zoneBits 1)
        [.refresh none, .frame (zoneReportFrame 1) 6] := by
  decide +kernel

end Concordd
