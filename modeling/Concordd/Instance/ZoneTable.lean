import Concordd.Instance.ZoneMirror

/-! The panel numbers zones from 1 to 96, the table from 0 to 95. -/
namespace Concordd

/-- The zone a report is about, by the panel's number. -/
def namedZone (frameBytes : Buffer) : Option ℕ :=
  if IsPta frameBytes .zoneStatus then some (word16 (frameBytes 3) (frameBytes 4)).toNat
  else if IsPta frameBytes .equipListZoneData then
    some (word16 (frameBytes 4) (frameBytes 5)).toNat
  else none

def reportedState (frameBytes : Buffer) : UInt8 :=
  if IsPta frameBytes .zoneStatus then frameBytes 5 else frameBytes 7

/-- A report of a zone of the panel, with a name of up to 16 bytes if it has one. -/
def ReportsZone (frameBytes : Buffer) (frameLen : ℕ) : Prop :=
  (∃ k ∈ namedZone frameBytes, 1 ≤ k ∧ k ≤ 96) ∧
    (IsPta frameBytes .equipListZoneData → 8 ≤ frameLen ∧ frameLen ≤ 24)

instance (frameBytes : Buffer) (frameLen : ℕ) : Decidable (ReportsZone frameBytes frameLen) :=
  inferInstanceAs (Decidable ((∃ k ∈ namedZone frameBytes, _) ∧ _))

def lastReport (k : ℕ) (frames : List (Buffer × ℕ)) : Option (Buffer × ℕ) :=
  (frames.filter fun f => namedZone f.1 = some k).getLast?

def lastListing (k : ℕ) (frames : List (Buffer × ℕ)) : Option (Buffer × ℕ) :=
  (frames.filter fun f => IsPta f.1 .equipListZoneData ∧ namedZone f.1 = some k).getLast?

/-- The zone is as the list of zones has it. -/
structure ZoneListed (frameBytes : Buffer) (frameLen : ℕ) (zone : ConcorddZone) : Prop where
  partitionId : zone.partitionId = frameBytes 1
  group : zone.group = frameBytes 3
  type : zone.type = frameBytes 6
  nameLen : zone.encodedNameLen.toNat = frameLen - 8
  name : ∀ i : Fin 16, i.val < frameLen - 8 →
    zone.encodedName i = frameBytes (Fin.ofNat _ (8 + i.val))

/-- Once reported, the zone is active and in the state last reported; once listed, it is as last
listed. -/
structure ZoneHolds (k : ℕ) (frames : List (Buffer × ℕ)) (zone : ConcorddZone) : Prop where
  active : (lastReport k frames).isSome → zone.active = true
  state : ∀ f ∈ lastReport k frames, zone.zoneState = reportedState f.1
  listed : ∀ f ∈ lastListing k frames, ZoneListed f.1 f.2 zone

/-- `concordd_get_zone` finds the zone, active, in the state last reported for it, and as it was
last listed. -/
def ZoneTracked (self : ConcorddInstance) (frames : List (Buffer × ℕ)) (k : ℕ) : Prop :=
  ∃ z, concorddGetZone k = some z ∧ (self.zone z).active = true ∧
    (∃ f ∈ lastReport k frames, (self.zone z).zoneState = reportedState f.1) ∧
      ∀ f ∈ lastListing k frames, ZoneListed f.1 f.2 (self.zone z)

variable {env : Env} {self : ConcorddInstance} {b : Buffer} {n k : ℕ} {z : Fin 96} {s : Daemon}
  {frames : List (Buffer × ℕ)} {f : Buffer × ℕ} {zone : ConcorddZone}

/-! One more frame. -/

theorem lastReport_append :
    lastReport k (frames ++ [f]) =
      if namedZone f.1 = some k then some f else lastReport k frames := by
  unfold lastReport
  rw [List.filter_append, List.getLast?_append]
  split
  · next h => simp [h]
  · next h => simp [h]

theorem lastListing_append :
    lastListing k (frames ++ [f]) =
      if IsPta f.1 .equipListZoneData ∧ namedZone f.1 = some k then some f
      else lastListing k frames := by
  unfold lastListing
  rw [List.filter_append, List.getLast?_append]
  split
  · next h => simp [h]
  · next h => simp [h]

theorem lastReport_of_named (hf : f ∈ frames) (hk : namedZone f.1 = some k) :
    ∃ g, lastReport k frames = some g := by
  have hm : f ∈ frames.filter fun f => namedZone f.1 = some k := by
    simp [hf, hk]
  exact Option.isSome_iff_exists.mp (List.getLast?_isSome.mpr (List.ne_nil_of_mem hm))

theorem namedZone_pta (h : namedZone b = some k) :
    IsPta b .zoneStatus ∧ (word16 (b 3) (b 4)).toNat = k ∨
      IsPta b .equipListZoneData ∧ (word16 (b 4) (b 5)).toNat = k := by
  unfold namedZone at h
  split at h
  · next hs => exact .inl ⟨hs, Option.some.inj h⟩
  · split at h
    · next hd => exact .inr ⟨hd, Option.some.inj h⟩
    · cases h

theorem namedZone_of_status (h : IsPta b .zoneStatus) :
    namedZone b = some (word16 (b 3) (b 4)).toNat := if_pos h

theorem namedZone_of_data (h : IsPta b .equipListZoneData) :
    namedZone b = some (word16 (b 4) (b 5)).toNat := by
  have hne : ¬ IsPta b .zoneStatus := fun h' => by cases h.symm.trans h'
  rw [namedZone, if_neg hne, if_pos h]

theorem ReportsZone.fit (h : ReportsZone b n) : CopiesFit b n := by
  obtain ⟨⟨k, hk, -⟩, hlen⟩ := h
  refine ⟨fun hc => ?_, fun hd _ => hlen hd, fun hc => ?_⟩
  · rcases namedZone_pta hk with ⟨h, -⟩ | ⟨h, -⟩
    · cases h.symm.trans hc.1
    · cases h.symm.trans hc.1
  · rcases namedZone_pta hk with ⟨h, -⟩ | ⟨h, -⟩
    · cases h.symm.trans hc
    · cases h.symm.trans hc

/-- A status report leaves alone what only the list of zones sets. -/
theorem ZoneUpdate.listing {old new : ConcorddZone} (h : ZoneUpdate env b n z old new)
    (hd : ¬ IsPta b .equipListZoneData) {f : Buffer × ℕ} (hl : ZoneListed f.1 f.2 old) :
    ZoneListed f.1 f.2 new := by
  cases h with
  | data hc => exact (hd hc).elim
  | _ => exact ⟨hl.partitionId, hl.group, hl.type, hl.nameLen, hl.name⟩

/-- A report of another zone leaves this one alone. -/
theorem ZoneUpdate.unnamed {old new : ConcorddZone} (h : ZoneUpdate env b n z old new)
    (hk : namedZone b = some k) (hne : k ≠ z.val) : new = old := by
  cases h with
  | keep => rfl
  | status hs hi =>
    rw [namedZone_of_status hs, hi] at hk
    exact (hne (Option.some.inj hk).symm).elim
  | data hd hi =>
    rw [namedZone_of_data hd, hi] at hk
    exact (hne (Option.some.inj hk).symm).elim
  | keyfob hc =>
    rcases namedZone_pta hk with ⟨h, -⟩ | ⟨h, -⟩
    · cases h.symm.trans hc.1
    · cases h.symm.trans hc.1
  | deactivated hc =>
    rcases namedZone_pta hk with ⟨h, -⟩ | ⟨h, -⟩
    · cases h.symm.trans hc
    · cases h.symm.trans hc

theorem handleFrame_zone_listed (h : IsPta b .equipListZoneData)
    (hi : (word16 (b 4) (b 5)).toNat = z.val) (hlen : 8 ≤ n ∧ n ≤ 24) :
    ZoneListed b n ((concorddHandleFrame env self b n).state.zone z) := by
  rw [handleFrame_of_equipListZoneData h]
  unfold concorddHandleEquipListZoneData
  rw [getZone_of_eq hi]
  dsimp only
  rw [overrun_eq_nil hlen.2, write_nil, setZone_zone, if_pos rfl]
  refine ⟨rfl, rfl, rfl, ?_, ?_⟩
  · dsimp only
    rw [UInt8.ofInt, UInt8.toNat_ofNat']
    omega
  · intro i hi
    exact if_pos (by omega)

theorem handleFrame_zone_state (env : Env) (self : ConcorddInstance) (hfit : CopiesFit b n)
    (hz : namedZone b = some z.val) :
    ((concorddHandleFrame env self b n).state.zone z).active = true ∧
      ((concorddHandleFrame env self b n).state.zone z).zoneState = reportedState b := by
  rcases namedZone_pta hz with ⟨hs, hi⟩ | ⟨hd, hi⟩
  · have hreport : zoneReport z b = some (b 5) := if_pos ⟨hs, hi⟩
    refine ⟨handleFrame_report_active hreport hfit, ?_⟩
    rw [handleFrame_zoneStatus hs hi, reportedState, if_pos hs]
  · have hne : ¬ IsPta b .zoneStatus := fun h => by cases hd.symm.trans h
    have hreport : zoneReport z b = some (b 7) := by simp [zoneReport, hne, hd, hi]
    refine ⟨handleFrame_report_active hreport hfit, ?_⟩
    have hn := hfit.2.1 hd (by rw [hi]; exact z.isLt)
    rw [handleFrame_zoneData hd hi hn.2, reportedState, if_neg hne]

/-! Runs. -/

theorem zoneHolds_step (env : Env) (h : ZoneHolds z.val frames (self.zone z))
    (hr : ReportsZone b n) :
    ZoneHolds z.val (frames ++ [(b, n)]) ((concorddHandleFrame env self b n).state.zone z) := by
  have hfit := hr.fit
  have hupdate := handleFrame_zone env self hfit z
  obtain ⟨⟨k, hk, -⟩, hlen⟩ := hr
  replace hk : namedZone b = some k := hk
  by_cases hz : k = z.val
  · obtain rfl := hz
    obtain ⟨hactive, hstate⟩ := handleFrame_zone_state env self hfit hk
    constructor
    case active => exact fun _ => hactive
    case state =>
      intro f hf
      rw [lastReport_append, if_pos hk] at hf
      obtain rfl := Option.some.inj hf
      exact hstate
    case listed =>
      intro f hf
      rw [lastListing_append] at hf
      by_cases hd : IsPta b .equipListZoneData
      · rw [if_pos ⟨hd, hk⟩] at hf
        obtain rfl := Option.some.inj hf
        have hi : (word16 (b 4) (b 5)).toNat = z.val :=
          Option.some.inj ((namedZone_of_data hd).symm.trans hk)
        exact handleFrame_zone_listed hd hi (hlen hd)
      · rw [if_neg fun hc => hd hc.1] at hf
        exact hupdate.listing hd (h.listed f hf)
  · have hne : ¬ namedZone b = some z.val :=
      fun hc => hz (Option.some.inj (hk.symm.trans hc))
    rw [hupdate.unnamed hk hz]
    refine ⟨?_, ?_, ?_⟩
    · rw [lastReport_append, if_neg hne]
      exact h.active
    · rw [lastReport_append, if_neg hne]
      exact h.state
    · rw [lastListing_append, if_neg fun hc => hne hc.2]
      exact h.listed

theorem zoneHolds_run {fs : List (Buffer × ℕ)} (h : ZoneHolds z.val frames (s.inst.zone z))
    (hr : ∀ f ∈ fs, ReportsZone f.1 f.2) :
    ZoneHolds z.val (frames ++ fs)
      ((daemonMachine.run s (fs.map fun f => .frame f.1 f.2)).inst.zone z) := by
  induction fs generalizing s frames with
  | nil =>
    rw [List.append_nil]
    exact h
  | cons f fs ih =>
    rw [List.forall_mem_cons] at hr
    have hstep := zoneHolds_step s.env h hr.1
    have hrun := ih (s := { s with inst := (concorddHandleFrame s.env s.inst f.1 f.2).state })
      hstep hr.2
    rw [List.append_assoc] at hrun
    exact hrun

/-- After any reports of zones the table has every zone they named as last reported, except for
the panel's last zone. -/
theorem zone_tracked_iff (s : Daemon) (fs : List (Buffer × ℕ))
    (hr : ∀ f ∈ fs, ReportsZone f.1 f.2) (k : ℕ) (hk : ∃ f ∈ fs, namedZone f.1 = some k) :
    ZoneTracked (daemonMachine.run s (fs.map fun f => .frame f.1 f.2)).inst fs k ↔ k ≠ 96 := by
  obtain ⟨f, hf, hk⟩ := hk
  obtain ⟨⟨k', hk', hone, hmax⟩, -⟩ := hr f hf
  obtain rfl : k = k' := Option.some.inj (hk.symm.trans hk')
  constructor
  · rintro ⟨z, hz, -⟩ rfl
    exact absurd (getZone_eq_some hz) z.isLt.ne'
  · intro hne
    obtain ⟨z, hz⟩ : ∃ z : Fin 96, k = z.val := ⟨⟨k, by omega⟩, rfl⟩
    obtain ⟨g, hg⟩ := lastReport_of_named hf hk
    have hstart : ZoneHolds z.val [] (s.inst.zone z) :=
      ⟨fun h => (nomatch h), fun _ h => (nomatch h), fun _ h => (nomatch h)⟩
    have hrun := zoneHolds_run hstart hr
    rw [← hz, List.nil_append] at hrun
    have hactive := hrun.active (Option.isSome_iff_exists.mpr ⟨g, hg⟩)
    exact ⟨z, getZone_of_eq hz, hactive, ⟨g, hg, hrun.state g hg⟩, hrun.listed⟩

/-- `EQUIP_LIST_ZONE_DATA` for zone `k`, with a name of one character. -/
def zoneListFrame (k : UInt8) : Buffer := fun i =>
  if i = 0 then 0x03 else if i = 1 then 1 else if i = 5 then k else if i = 8 then 0x41 else 0

theorem zone_tracked_first :
    ZoneTracked (daemonMachine.run (daemonInit ⟨1, .ok⟩)
        ([(zoneListFrame 1, 9), (zoneReportFrame 1, 6)].map fun f => .frame f.1 f.2)).inst
        [(zoneListFrame 1, 9), (zoneReportFrame 1, 6)] 1 ↔ 1 ≠ 96 :=
  zone_tracked_iff (daemonInit ⟨1, .ok⟩) [(zoneListFrame 1, 9), (zoneReportFrame 1, 6)]
    (by decide) 1 (by decide)

/-- Zone 96 is listed, and not found. -/
theorem zone_tracked_last :
    ¬ ∀ (env : Env) (fs : List (Buffer × ℕ)), (∀ f ∈ fs, ReportsZone f.1 f.2) →
      ∀ k, (∃ f ∈ fs, namedZone f.1 = some k) →
        ZoneTracked (daemonMachine.run (daemonInit env)
          (fs.map fun f => .frame f.1 f.2)).inst fs k := by
  intro h
  obtain ⟨z, hz, -⟩ := h ⟨1, .ok⟩ [(zoneListFrame 96, 9)] (by decide) 96 (by decide)
  cases hz

end Concordd
