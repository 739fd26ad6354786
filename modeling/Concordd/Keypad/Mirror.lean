import Concordd.Keypad.Touchpad
import Concordd.Instance.ZoneMirror

/-! Over a run the keypad emulator shows what the daemon has stored, but for what it is not told. -/
namespace Concordd

/-! Steps. -/

/-- The call of the instance that an event of the daemon shows. -/
def DaemonEvent.call : DaemonEvent → Option InstanceEvent
  | .calls event => some event
  | _ => none

/-- The calls of a step. -/
def stepCalls (s : Daemon) (i : DaemonStep) : List InstanceEvent :=
  (daemonMachine.step s i).2.filterMap DaemonEvent.call

variable {before : UInt8} {self : ConcorddInstance} {p : Fin 8} {z : Fin 96} {s : Daemon}
  {i : DaemonStep} {touchpad : Touchpad} {old : ConcorddPartition} {e : InstanceEvent} {now : ℤ}
  {out : List InstanceEvent} {t : Daemon × Option Emulator}

theorem stepSignals_eq (before : UInt8) (s : Daemon) (i : DaemonStep) :
    stepSignals before s i =
      (stepCalls s i).flatMap (dbusSignals before (daemonMachine.step s i).1.inst) := by
  unfold stepSignals stepCalls
  induction (daemonMachine.step s i).2 with
  | nil => rfl
  | cons e out ih =>
    cases e with
    | calls event => rw [List.flatMap_cons, ih]; rfl
    | handleFrame | returns => exact ih

theorem listener_after {τ : Type*} (hear : τ → InstanceEvent → τ) (t : τ) (out : List DaemonEvent) :
    (listener hear).after t out = (out.filterMap DaemonEvent.call).foldl hear t := by
  induction out generalizing t with
  | nil => rfl
  | cons e out ih =>
    cases e with
    | calls event => exact ih (hear t event)
    | handleFrame | returns => exact ih t

/-- No frame of the step sets up the siren of partition `p` silently. -/
def SetsSirenAloud (p : Fin 8) : Daemon → DaemonStep → Prop :=
  FramesMeet fun s b _ => ¬ SetsSirenSilently p s.inst b

instance (p : Fin 8) (s : Daemon) (i : DaemonStep) : Decidable (SetsSirenAloud p s i) :=
  inferInstanceAs (Decidable (FramesMeet _ s i))

/-- In the step nothing changes without a call, and the text of the touchpad stays short enough. -/
def KeepsEmulator (before : UInt8) (p : Fin 8) (s : Daemon) (i : DaemonStep) : Prop :=
  SetsSirenAloud p s i ∧ (∀ z, z ≠ 0 → ReportsAloud z s i) ∧
    FitsTouchpad before ((daemonMachine.step s i).1.inst.partition p)

instance (before : UInt8) (p : Fin 8) (s : Daemon) (i : DaemonStep) :
    Decidable (KeepsEmulator before p s i) := inferInstanceAs (Decidable (_ ∧ _ ∧ _))

/-- The emulator shows the text, the level and the siren of partition `p`, and the status bits of
each active zone but zone 0. -/
def EmulatorShows (before : UInt8) (p : Fin 8) (s : Daemon × Option Emulator) : Prop :=
  ∃ emulator ∈ s.2, emulator.touchpad = (s.1.inst.partition p).touchpad before ∧
    ∀ z, z ≠ 0 → (s.1.inst.zone z).active = true →
      (emulator.zoneData (zoneEntry z)).Shows (s.1.inst.zoneBits z)

/-- What the emulator keeps of the daemon's state, of zones that are not active too. -/
structure EmulatorInv (before : UInt8) (p : Fin 8) (s : Daemon × Option Emulator) : Prop where
  follows : ∃ emulator, s.2 = some emulator ∧
    emulator.Follows ((s.1.inst.partition p).touchpad before) s.1.inst.zoneBits
  fits : FitsTouchpad before (s.1.inst.partition p)
  partitionFunc : s.1.inst.callbacks.partitionInfoChangedFunc = true
  zoneFunc : s.1.inst.callbacks.zoneInfoChangedFunc = true

theorem stepCalls_current (h : e ∈ stepCalls s i) : e.Current (daemonMachine.step s i).1.inst := by
  obtain ⟨shown, hmem, hcall⟩ := List.mem_filterMap.mp h
  cases shown with
  | calls event =>
    obtain rfl := Option.some.inj hcall
    exact step_current hmem
  | handleFrame | returns => cases hcall

theorem not_fits_of_overruns (h : Overruns before p e) (hcurrent : e.Current self) :
    ¬ FitsTouchpad before (self.partition p) := by
  cases e with
  | partitionInfoChanged q partition changed =>
    obtain ⟨rfl, -, hfits⟩ := h
    rw [show self.partition q = partition from hcurrent]
    exact hfits
  | _ => exact h.elim

/-- A call that has a text for the touchpad of partition `p`. -/
def TellsText (p : Fin 8) : InstanceEvent → Prop
  | .partitionInfoChanged i _ changed =>
    i = p ∧ changed &&& concorddPartitionTouchpadTextChanged ≠ 0
  | _ => False

theorem touchpadText_kept (before : UInt8) (touchpad : Touchpad) (h : ∀ e ∈ out, ¬ TellsText p e) :
    (out.foldl (touchpadHear before p) touchpad).touchpadText = touchpad.touchpadText := by
  induction out generalizing touchpad with
  | nil => rfl
  | cons e out ih =>
    rw [List.foldl_cons, ih _ fun e' he' => h e' (List.mem_cons_of_mem e he')]
    have he := h e List.mem_cons_self
    cases e with
    | partitionInfoChanged q partition changed =>
      simp only [touchpadHear]
      split
      · next hq =>
        have hflag : changed &&& concorddPartitionTouchpadTextChanged = 0 :=
          not_not.mp fun hflag => he ⟨hq, hflag⟩
        simp [Touchpad.copy, hflag]
      · rfl
    | _ => rfl

/-- A text that is heard to be another one has been copied. -/
theorem fits_of_heard (hfits : FitsTouchpad before old)
    (hcurrent : ∀ e ∈ out, e.Current self) (hover : ∀ e ∈ out, ¬ Overruns before p e)
    (hheard : out.foldl (touchpadHear before p) (old.touchpad before) =
      (self.partition p).touchpad before) : FitsTouchpad before (self.partition p) := by
  by_cases htold : ∃ e ∈ out, TellsText p e
  · obtain ⟨e, hmem, he⟩ := htold
    cases e with
    | partitionInfoChanged q partition changed =>
      obtain ⟨rfl, hflag⟩ := he
      rw [show self.partition q = partition from hcurrent _ hmem]
      by_contra hlong
      exact hover _ hmem ⟨rfl, hflag, hlong⟩
    | _ => exact he.elim
  · have htext := touchpadText_kept before (old.touchpad before)
      fun e he hte => htold ⟨e, he, hte⟩
    rw [hheard] at htext
    unfold FitsTouchpad
    rw [show (self.partition p).touchpadAscii before = old.touchpadAscii before from htext]
    exact hfits

/-! The bits of a zone. -/

theorem shows_unique {data : ZoneData} {x y : UInt8} (hx : data.Shows x) (hy : data.Shows y) :
    x &&& zoneStatusMask = y &&& zoneStatusMask := by
  have hbit : ∀ {f : UInt8} {k : ℕ}, f.toNat = 2 ^ k →
      decide (x &&& f ≠ 0) = decide (y &&& f ≠ 0) → x.toNat.testBit k = y.toNat.testBit k := by
    intro f k hf h
    rw [decide_eq_decide, and_bit_ne hf, and_bit_ne hf] at h
    exact Bool.eq_iff_iff.mpr h
  apply UInt8.toNat_inj.mp
  apply Nat.eq_of_testBit_eq
  intro k
  rw [UInt8.toNat_and, UInt8.toNat_and, Nat.testBit_and, Nat.testBit_and]
  obtain rfl | rfl | rfl | rfl | rfl | hk : k = 0 ∨ k = 1 ∨ k = 2 ∨ k = 3 ∨ k = 4 ∨ 5 ≤ k := by
    omega
  · rw [hbit rfl (hx.isTripped.symm.trans hy.isTripped)]
  · rw [hbit rfl (hx.isFault.symm.trans hy.isFault)]
  · rw [hbit rfl (hx.isAlarm.symm.trans hy.isAlarm)]
  · rw [hbit rfl (hx.isTrouble.symm.trans hy.isTrouble)]
  · rw [hbit rfl (hx.isBypassed.symm.trans hy.isBypassed)]
  · have hpow : 2 ^ 5 ≤ 2 ^ k := Nat.pow_le_pow_right two_pos hk
    have hmask : zoneStatusMask.toNat < 2 ^ 5 := by decide
    rw [Nat.testBit_lt_two_pow (hmask.trans_le hpow), Bool.and_false, Bool.and_false]

theorem copyBits_masked {changed held stored : UInt8} (h : held &&& zoneStatusMask = held) :
    copyBits (changed &&& zoneStatusMask) held stored &&& zoneStatusMask =
      copyBits (changed &&& zoneStatusMask) held stored := by
  apply UInt8.eq_of_toBitVec_eq
  ext i hi
  have hbit := congrArg (fun x : UInt8 => x.toBitVec[i]) h
  simp only [copyBits, UInt8.toBitVec_or, UInt8.toBitVec_and, UInt8.toBitVec_not,
    BitVec.getElem_or, BitVec.getElem_and, BitVec.getElem_not] at hbit ⊢
  revert hbit
  cases held.toBitVec[i] <;> cases stored.toBitVec[i] <;> cases changed.toBitVec[i] <;>
    cases zoneStatusMask.toBitVec[i] <;> decide

theorem zoneBits_masked (self : ConcorddInstance) (z : Fin 96) :
    self.zoneBits z &&& zoneStatusMask = self.zoneBits z := by
  rw [ConcorddInstance.zoneBits, UInt8.and_assoc, UInt8.and_self]

theorem zoneHear_masked {held : UInt8} (h : held &&& zoneStatusMask = held) :
    out.foldl (zoneHear z) held &&& zoneStatusMask = out.foldl (zoneHear z) held := by
  induction out generalizing held with
  | nil => exact h
  | cons e out ih =>
    refine ih ?_
    cases e with
    | zoneInfoChanged y zone changed =>
      simp only [zoneHear]
      split
      · exact copyBits_masked h
      · exact h
    | _ => exact h

/-! Runs. -/

theorem touchpad_step_iff (h : EmulatorInv before p t) (hfit : FramesFit t.1 i) :
    (stepCalls t.1 i).foldl (touchpadHear before p) ((t.1.inst.partition p).touchpad before) =
        ((daemonMachine.step t.1 i).1.inst.partition p).touchpad before ↔
      SetsSirenAloud p t.1 i := by
  rw [stepCalls, ← listener_after]
  exact (touchpad_mirrors before p).step_iff rfl h.partitionFunc hfit

theorem zone_step_iff (h : EmulatorInv before p t) (hfit : FramesFit t.1 i) :
    (stepCalls t.1 i).foldl (zoneHear z) (t.1.inst.zoneBits z) =
        (daemonMachine.step t.1 i).1.inst.zoneBits z ↔ ReportsAloud z t.1 i := by
  rw [stepCalls, ← listener_after]
  exact (zone_mirrors z).step_iff rfl h.zoneFunc hfit

/-- A report that is silent makes the zone active all the same. -/
theorem active_of_silent (hfit : FramesFit s i) (h : ¬ ReportsAloud z s i) :
    ((daemonMachine.step s i).1.inst.zone z).active = true := by
  unfold ReportsAloud FramesMeet at h
  push Not at h
  obtain ⟨b, n, hm, -, state, hreport, -⟩ := h
  obtain ⟨q, hstep⟩ := step_of_handled hm
  rw [hstep]
  exact handleFrame_report_active hreport (hfit b n hm)

theorem emulator_step (h : EmulatorInv before p t) (i : DaemonStep) :
    ∃ emulator : Emulator, emulator.Follows ((t.1.inst.partition p).touchpad before)
        t.1.inst.zoneBits ∧
      ((emulatorMachine before p).step t i).1 = ((daemonMachine.step t.1 i).1,
        handleMessages p (daemonMachine.step t.1 i).1.env.now (some emulator)
          ((stepCalls t.1 i).flatMap (dbusSignals before (daemonMachine.step t.1 i).1.inst))) := by
  obtain ⟨emulator, hemulator, hfollows⟩ := h.follows
  refine ⟨emulator, hfollows, ?_⟩
  rw [← stepSignals_eq, ← hemulator]
  rfl

theorem emulator_step_iff (h : EmulatorInv before p t) (hfit : FramesFit t.1 i) :
    EmulatorShows before p ((emulatorMachine before p).step t i).1 ↔
      KeepsEmulator before p t.1 i := by
  obtain ⟨emulator, hfollows, hstep⟩ := emulator_step h i
  rw [hstep]
  by_cases hover : ∃ e ∈ stepCalls t.1 i, Overruns before p e
  · rw [calls_overrun hfollows hover]
    obtain ⟨e, hmem, he⟩ := hover
    refine iff_of_false ?_ ?_
    · rintro ⟨_, hnone, -⟩
      cases hnone
    · rintro ⟨-, -, hfits⟩
      exact not_fits_of_overruns he (stepCalls_current hmem) hfits
  · have hover : ∀ e ∈ stepCalls t.1 i, ¬ Overruns before p e := fun e he ho => hover ⟨e, he, ho⟩
    obtain ⟨emulator', hnew, hfollows'⟩ := calls_followed hfollows hover
    rw [hnew]
    constructor
    · rintro ⟨shown, hshown, htouchpad, hzones⟩
      obtain rfl := Option.some.inj hshown
      rw [hfollows'.touchpad] at htouchpad
      refine ⟨(touchpad_step_iff h hfit).mp htouchpad, ?_, ?_⟩
      · intro z hz
        by_contra hsilent
        have hshows := hzones z hz (active_of_silent hfit hsilent)
        have hbits := shows_unique (hfollows'.zones z hz) hshows
        rw [zoneHear_masked (zoneBits_masked _ z), zoneBits_masked] at hbits
        exact hsilent ((zone_step_iff h hfit).mp hbits)
      · exact fits_of_heard h.fits (fun e he => stepCalls_current he) hover htouchpad
    · rintro ⟨hsiren, hzones, -⟩
      refine ⟨emulator', rfl, hfollows'.touchpad.trans ((touchpad_step_iff h hfit).mpr hsiren), ?_⟩
      intro z hz _
      have hshows := hfollows'.zones z hz
      rw [(zone_step_iff h hfit).mpr (hzones z hz)] at hshows
      exact hshows

/-- The two callbacks that the emulator depends on stay installed. -/
def KeepsFuncs (_ : Daemon) (i : DaemonStep) : Prop :=
  i.Keeps (·.partitionInfoChangedFunc) ∧ i.Keeps (·.zoneInfoChangedFunc)

theorem emulatorInv_step (h : EmulatorInv before p t) (hi : KeepsFuncs t.1 i)
    (hfit : FramesFit t.1 i) (hkeeps : KeepsEmulator before p t.1 i) :
    EmulatorInv before p ((emulatorMachine before p).step t i).1 := by
  obtain ⟨emulator, hfollows, hstep⟩ := emulator_step h i
  have hover : ∀ e ∈ stepCalls t.1 i, ¬ Overruns before p e :=
    fun e he ho => not_fits_of_overruns ho (stepCalls_current he) hkeeps.2.2
  obtain ⟨emulator', hnew, hfollows'⟩ := calls_followed hfollows hover
  rw [hstep, hnew]
  refine ⟨⟨emulator', rfl, ?_, ?_⟩, hkeeps.2.2, step_callbacks _ h.partitionFunc hi.1,
    step_callbacks _ h.zoneFunc hi.2⟩
  · exact hfollows'.touchpad.trans ((touchpad_step_iff h hfit).mpr hkeeps.1)
  · intro z hz
    have hshows := hfollows'.zones z hz
    rw [(zone_step_iff h hfit).mpr (hkeeps.2.1 z hz)] at hshows
    exact hshows

/-! The start. -/

theorem zoneInfo_shows (data : ZoneData) (now k : ℤ) (zone : ConcorddZone) :
    (data.update now (zoneInfo before k zone)).Shows zone.zoneState := by
  unfold zoneInfo ZoneData.update
  rw [List.foldl_append, List.foldl_append, List.foldl_append]
  constructor <;> rfl

theorem shows_masked {data : ZoneData} {x : UInt8} (h : data.Shows x) :
    data.Shows (x &&& zoneStatusMask) := by
  have hand : ∀ f, zoneStatusMask &&& f = f → x &&& zoneStatusMask &&& f = x &&& f := by
    intro f hf
    rw [UInt8.and_assoc, hf]
  obtain ⟨htripped, hfault, halarm, htrouble, hbypassed⟩ := h
  exact ⟨by rwa [hand _ rfl], by rwa [hand _ rfl], by rwa [hand _ rfl], by rwa [hand _ rfl],
    by rwa [hand _ rfl]⟩

theorem zone_answer (z : Fin 96) :
    dbusGetInfo before self (DbusObject.zone z.val).path =
      if (self.zone z).active then some (zoneInfo before z.val (self.zone z)) else none := by
  rw [getInfo_path (.zone z.val) (isInt_fin z (by decide)), DbusObject.info, concorddGetZone,
    tableIndex_fin, Option.bind_some]

theorem refreshZone_active (hz : z ≠ 0) (hactive : (self.zone z).active = true)
    (emulator : Emulator) :
    ((refreshZone before self now emulator z.val).zoneData (zoneEntry z)).Shows
      (self.zoneBits z) := by
  unfold refreshZone
  rw [zone_answer, if_pos hactive]
  dsimp only
  rw [updateZone_entry hz]
  dsimp only
  rw [Function.update_self]
  exact shows_masked (zoneInfo_shows _ _ _ _)

theorem refreshZone_inactive (hactive : (self.zone z).active = false) (emulator : Emulator) :
    refreshZone before self now emulator z.val = emulator := by
  unfold refreshZone
  rw [zone_answer, if_neg (Bool.eq_false_iff.mp hactive)]

/-- Asking for another zone leaves an entry as it is. -/
theorem refreshZone_other {k : ℕ} (hk : k ≤ 96) (hne : k ≠ z.val) (emulator : Emulator) :
    (refreshZone before self now emulator k).zoneData (zoneEntry z) =
      emulator.zoneData (zoneEntry z) := by
  unfold refreshZone
  split
  · unfold updateZone
    split
    · rfl
    · refine Function.update_of_ne ?_ _ _
      intro heq
      have hval := congrArg Fin.val heq
      simp only [zoneEntry, Fin.val_castLE, Int.toNat_natCast, Fin.ofNat] at hval
      omega
  · rfl

theorem refresh_shows {zs : List ℕ} (hzs : ∀ k ∈ zs, k ≤ 96) (hz : z ≠ 0)
    (hactive : (self.zone z).active = true) {emulator : Emulator}
    (h : z.val ∈ zs ∨ (emulator.zoneData (zoneEntry z)).Shows (self.zoneBits z)) :
    ((zs.foldl (refreshZone before self now) emulator).zoneData (zoneEntry z)).Shows
      (self.zoneBits z) := by
  induction zs generalizing emulator with
  | nil => exact h.resolve_left List.not_mem_nil
  | cons k zs ih =>
    refine ih (fun k' hk' => hzs k' (List.mem_cons_of_mem k hk')) ?_
    by_cases hkz : k = z.val
    · subst hkz
      exact .inr (refreshZone_active hz hactive emulator)
    · rw [refreshZone_other (hzs k List.mem_cons_self) hkz]
      refine h.imp_left fun hm => ?_
      exact (List.mem_cons.mp hm).resolve_left (Ne.symm hkz)

theorem refresh_keeps {zs : List ℕ} (hzs : ∀ k ∈ zs, k ≤ 96)
    (hactive : (self.zone z).active = false) (emulator : Emulator) :
    (zs.foldl (refreshZone before self now) emulator).zoneData (zoneEntry z) =
      emulator.zoneData (zoneEntry z) := by
  induction zs generalizing emulator with
  | nil => rfl
  | cons k zs ih =>
    rw [List.foldl_cons, ih fun k' hk' => hzs k' (List.mem_cons_of_mem k hk')]
    by_cases hkz : k = z.val
    · subst hkz
      rw [refreshZone_inactive hactive]
    · exact refreshZone_other (hzs k List.mem_cons_self) hkz emulator

theorem emulatorInit_follows (hfits : FitsTouchpad before (s.inst.partition p))
    (hzones : ∀ z, z ≠ 0 → (s.inst.zone z).active = true ∨ s.inst.zoneBits z = 0) :
    ∃ emulator, emulatorInit before p s = some emulator ∧
      emulator.Follows ((s.inst.partition p).touchpad before) s.inst.zoneBits := by
  have hanswer : dbusGetInfo before s.inst (DbusObject.partition p.val).path =
      some (partitionInfo before (s.inst.partition p)) := by
    rw [getInfo_path (.partition p.val) (isInt_fin p (by decide)), DbusObject.info,
      concorddGetPartition, tableIndex_fin, Option.map_some]
  have hrange : ∀ k ∈ List.range' 1 96, k ≤ 96 := by
    intro k hk
    rw [List.mem_range'_1] at hk
    omega
  have hinit : emulatorInit before p s =
      some { refreshZones before s.inst s.env.now {} with
        touchpad := (s.inst.partition p).touchpad before } := by
    unfold emulatorInit refreshTouchpad
    rw [hanswer]
    dsimp only
    rw [update_info hfits, Option.map_some]
  refine ⟨_, hinit, rfl, ?_⟩
  intro z hz
  dsimp only
  rw [refreshZones]
  by_cases hactive : (s.inst.zone z).active = true
  · refine refresh_shows hrange hz hactive (.inl ?_)
    have hpos := Fin.pos_iff_ne_zero.mpr hz
    have hlt := z.isLt
    rw [List.mem_range'_1]
    omega
  · have hbits := (hzones z hz).resolve_left hactive
    rw [refresh_keeps hrange (Bool.eq_false_iff.mpr hactive), hbits]
    exact ⟨rfl, rfl, rfl, rfl, rfl⟩

theorem emulatorInv_init (hpartition : s.inst.callbacks.partitionInfoChangedFunc = true)
    (hzone : s.inst.callbacks.zoneInfoChangedFunc = true)
    (hfits : FitsTouchpad before (s.inst.partition p))
    (hzones : ∀ z, z ≠ 0 → (s.inst.zone z).active = true ∨ s.inst.zoneBits z = 0) :
    EmulatorInv before p (s, emulatorInit before p s) :=
  ⟨emulatorInit_follows hfits hzones, hfits, hpartition, hzone⟩

/-- What holds along a run of the daemon holds along the emulator's. -/
theorem emulator_along (before : UInt8) (p : Fin 8) {P : Daemon → DaemonStep → Prop}
    {steps : List DaemonStep} :
    (emulatorMachine before p).Along (fun t i => P t.1 i) t steps ↔
      daemonMachine.Along P t.1 steps :=
  Machine.along_proj Prod.fst fun _ _ => rfl

/-- The emulator does nothing to the daemon. -/
theorem emulator_run (before : UInt8) (p : Fin 8) {steps : List DaemonStep} :
    ((emulatorMachine before p).run t steps).1 = daemonMachine.run t.1 steps :=
  Machine.run_proj Prod.fst fun _ _ => rfl

theorem emulatorInv_run {steps : List DaemonStep} (h : EmulatorInv before p t)
    (hk : daemonMachine.Along KeepsFuncs t.1 steps)
    (hfit : daemonMachine.Along FramesFit t.1 steps)
    (hkeeps : daemonMachine.Along (KeepsEmulator before p) t.1 steps) :
    EmulatorInv before p ((emulatorMachine before p).run t steps) := by
  refine Machine.inv_run
    (P := fun t i => KeepsFuncs t.1 i ∧ FramesFit t.1 i ∧ KeepsEmulator before p t.1 i)
    (fun t i h hi => emulatorInv_step h hi.1 hi.2.1 hi.2.2) h ?_
  refine (emulator_along before p
    (P := fun s i => KeepsFuncs s i ∧ FramesFit s i ∧ KeepsEmulator before p s i)).mpr ?_
  exact Machine.along_and.mpr ⟨hk, Machine.along_and.mpr ⟨hfit, hkeeps⟩⟩

/-- A daemon whose signals an emulator for partition 1 hears. -/
def watchedKeypad : Daemon :=
  daemonMachine.run (daemonInit ⟨1, .ok⟩)
    [.install { partitionInfoChangedFunc := true, zoneInfoChangedFunc := true }]

/-- `TOUCHPAD_DISPLAY` for partition 1: a blinking `"ALARM "`. -/
def touchpadFrame : Buffer := fun k =>
  if k = 0 then 0x22 else if k = 1 then 0x09 else if k = 2 then 1 else if k = 4 then 1
  else if k = 5 then 0xFE else if k = 6 then 0x33 else 0

/-- `TOUCHPAD_DISPLAY` for partition 1: twenty times `"ENERGY SAVER "`. -/
def longTouchpadFrame : Buffer := fun k =>
  if k = 0 then 0x22 else if k = 1 then 0x09 else if k = 2 then 1 else if k = 4 then 1 else 0x5F

/-- A frame of the panel writes past the end of `touchpad_text`. -/
theorem long_text_overruns :
    ((emulatorMachine 0 1).run (watchedKeypad, emulatorInit 0 1 watchedKeypad)
      [.frame longTouchpadFrame 25]).2 = none := by
  decide +kernel

end Concordd
