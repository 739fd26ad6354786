import Concordd.Instance.Calls
import Concordd.Instance.Effects
import Concordd.Instance.Runs

/-! The table of bus devices, and the lookups that trust its counter. -/
namespace Concordd

/-! What `concordd_get_device` reads. -/

/-- `bus_device[i]`, with whatever is in memory beyond the table. -/
def ConcorddInstance.deviceAt (self : ConcorddInstance) (beyond : ℕ → ConcorddDevice) (i : ℕ) :
    ConcorddDevice :=
  if h : i < 32 then self.busDevice ⟨i, h⟩ else beyond i

/-- The indices the loop of `concordd_get_device` reads among those it is given, up to the one
it returns. -/
def deviceReadsLoop (entry : ℕ → ConcorddDevice) (deviceid : UInt32) : List ℕ → List ℕ
  | [] => []
  | i :: rest =>
    if (entry i).active = true ∧ (entry i).deviceId = deviceid then [i]
    else i :: deviceReadsLoop entry deviceid rest

def deviceReads (self : ConcorddInstance) (beyond : ℕ → ConcorddDevice) (deviceid : UInt32) :
    List ℕ :=
  deviceReadsLoop (self.deviceAt beyond) deviceid (List.range self.busDeviceCount.toNat)

/-- The counter fits the table, and every lookup stays inside it. -/
structure DevicesFit (inst : ConcorddInstance) : Prop where
  count : inst.busDeviceCount.toNat ≤ 32
  reads : ∀ beyond deviceid, ∀ i ∈ deviceReads inst beyond deviceid, i < 32

/-- The table fits before and after the step, and nothing is written beyond it. -/
def DevicesInside (s : Daemon) (i : DaemonStep) : Prop :=
  DevicesFit s.inst ∧ DevicesFit (daemonMachine.step s i).1.inst ∧
    ∀ index deviceid status,
      .calls (.strayDevice index deviceid status) ∉ (daemonMachine.step s i).2

/-- How many devices have been listed since the last refresh, asked for by a command or by the
panel. No more than 32 are. -/
def devicesListed : Monitor ℕ DaemonEvent where
  next listed
    | .handleFrame b _ =>
      if IsPta b .equipListSuperbusDevData then listed + 1
      else if IsPta b .clearAutomationDynamicImage then 0
      else listed
    | .returns (.refresh _) _ => 0
    | _ => listed
  Allows listed
    | .handleFrame b _ => IsPta b .equipListSuperbusDevData → listed < 32
    | _ => True

variable {env : Env} {self : ConcorddInstance} {b : Buffer} {n : ℕ} {s : Daemon} {i : DaemonStep}
  {listed : ℕ}

theorem mem_deviceReadsLoop {entry : ℕ → ConcorddDevice} {deviceid : UInt32} {is : List ℕ} {k : ℕ}
    (h : k ∈ deviceReadsLoop entry deviceid is) : k ∈ is := by
  induction is with
  | nil => exact h
  | cons i rest ih =>
    rw [deviceReadsLoop] at h
    split at h
    · rw [List.mem_singleton] at h
      exact h ▸ List.mem_cons_self
    · rcases List.mem_cons.mp h with rfl | h
      · exact List.mem_cons_self
      · exact List.mem_cons_of_mem i (ih h)

theorem devicesFit_iff : DevicesFit self ↔ self.busDeviceCount.toNat ≤ 32 := by
  refine ⟨fun h => h.count, fun h => ⟨h, ?_⟩⟩
  intro beyond deviceid k hk
  have := List.mem_range.mp (mem_deviceReadsLoop hk)
  omega

/-! The counter. -/

theorem write_deviceCount (self : ConcorddInstance) (writes : List (ℕ × UInt8)) :
    (self.write writes).busDeviceCount = self.busDeviceCount :=
  write_beside (f := (·.busDeviceCount)) (fun _ _ _ _ _ _ => rfl) self writes

theorem handleAlarm_deviceCount (partitioni st : UInt8) (source : UInt32) (typeG typeS : UInt8)
    (esd : UInt16) :
    (concorddHandleAlarm env self partitioni st source typeG typeS esd).state.busDeviceCount =
      self.busDeviceCount := by
  unfold concorddHandleAlarm
  dsimp only
  split
  · exact outputReported_keeps (f := (·.busDeviceCount)) (fun _ _ => rfl) ..
  · split
    · exact outputReported_keeps (f := (·.busDeviceCount)) (fun _ _ => rfl) ..
    · exact updateLists_keeps (f := (·.busDeviceCount)) (fun _ _ => rfl) (fun _ _ _ => rfl) ..

theorem handleFrame_cap_deviceCount (h : IsPta b .equipListSuperbusCapData) :
    (concorddHandleFrame env self b n).state.busDeviceCount = self.busDeviceCount := by
  rw [handleFrame_of_equipListSuperbusCapData h]
  unfold concorddHandleEquipListSuperbusCapData
  dsimp only
  split
  · rfl
  · split
    · rfl
    · exact write_deviceCount ..

theorem besideTables_deviceCount : BesideTables (·.busDeviceCount) where
  partition _ _ _ := rfl
  zone _ _ _ := rfl
  output _ _ _ := rfl
  user _ _ := rfl
  panel _ _ _ _ _ := rfl
  siren _ _ := rfl
  pending _ _ := rfl
  queue _ _ := rfl
  write := write_deviceCount

/-- The frames that neither list a device nor ask for a refresh leave the counter alone. -/
theorem handleFrame_deviceCount (env : Env) (self : ConcorddInstance) (n : ℕ)
    (hlist : ¬ IsPta b .equipListSuperbusDevData)
    (hclear : ¬ IsPta b .clearAutomationDynamicImage) :
    (concorddHandleFrame env self b n).state.busDeviceCount = self.busDeviceCount := by
  by_cases halarm : IsSubcmd b .alarmTrouble
  · rw [handleFrame_of_alarmTrouble halarm]
    exact handleAlarm_deviceCount ..
  by_cases hcap : IsPta b .equipListSuperbusCapData
  · exact handleFrame_cap_deviceCount hcap
  · exact handleFrame_beside besideTables_deviceCount env self n halarm hlist hcap hclear

/-- A listed device goes to the entry that the counter points at, if there is one. -/
theorem handleFrame_listed (env : Env) (self : ConcorddInstance) (n : ℕ)
    (h : IsPta b .equipListSuperbusDevData) :
    (concorddHandleFrame env self b n).state.busDeviceCount = self.busDeviceCount + 1 ∧
      (concorddHandleFrame env self b n).out =
        if self.busDeviceCount.toNat < 32 then []
        else [.strayDevice self.busDeviceCount (word24 (b 3) (b 4) (b 5)) (b 6)] := by
  rw [handleFrame_of_equipListSuperbusDevData h]
  unfold concorddHandleEquipListSuperbusDevData
  dsimp only
  split
  · next hnone =>
    rw [tableIndex_eq_none] at hnone
    exact ⟨write_deviceCount .., (if_neg (by omega)).symm⟩
  · next d hd =>
    rw [tableIndex_eq_some] at hd
    have := d.isLt
    exact ⟨rfl, (if_pos (by omega)).symm⟩

/-! Steps. -/

/-- The counter of the table is the number of devices listed. -/
def DevicesCounted (s : Daemon × ℕ) : Prop := s.1.inst.busDeviceCount.toNat = s.2 ∧ s.2 ≤ 32

theorem listed_calls (listed : ℕ) (events : List InstanceEvent) :
    devicesListed.after listed (events.map .calls) = listed ∧
      devicesListed.Accepts listed (events.map .calls) := by
  induction events with
  | nil => exact ⟨rfl, trivial⟩
  | cons e events ih => exact ⟨ih.1, trivial, ih.2⟩

theorem listed_linkCalls (listed : ℕ) (events : List LinkEvent) :
    devicesListed.after listed (linkCalls events) = listed ∧
      devicesListed.Accepts listed (linkCalls events) := listed_calls _ _

theorem listed_handle (s : Daemon) (b : Buffer) (n listed : ℕ) :
    devicesListed.after listed (s.handle b n).2 =
        devicesListed.next listed (.handleFrame b n) ∧
      (devicesListed.Accepts listed (s.handle b n).2 ↔
        (IsPta b .equipListSuperbusDevData → listed < 32)) := by
  obtain ⟨hafter, hacc⟩ := listed_calls (devicesListed.next listed (.handleFrame b n))
    (concorddHandleFrame s.env s.inst b n).out
  exact ⟨hafter, and_iff_left hacc⟩

theorem listed_quiet (listed : ℕ) {out : List DaemonEvent} (h : Quiet i out)
    (hi : ∀ finished, i ≠ .refresh finished) :
    devicesListed.after listed out = listed ∧ devicesListed.Accepts listed out := by
  have hnext : ∀ status, devicesListed.next listed (.returns i status) = listed := by
    intro status
    cases i with
    | refresh finished => exact (hi finished rfl).elim
    | _ => rfl
  rcases h with ⟨events, rfl | ⟨status, rfl⟩⟩
  · exact listed_linkCalls listed events
  · obtain ⟨hafter, hacc⟩ := listed_linkCalls listed events
    rw [Monitor.after_append, Monitor.accepts_append, hafter]
    exact ⟨hnext status, hacc, trivial, trivial⟩

/-- Something is written beyond the table. -/
def Strays (out : List DaemonEvent) : Prop :=
  ∃ index deviceid status, .calls (.strayDevice index deviceid status) ∈ out

theorem strays_linkCalls (events : List LinkEvent) (out : List DaemonEvent) :
    Strays (linkCalls events ++ out) ↔ Strays out := by
  simp [Strays, linkCalls]

theorem Quiet.strays {out : List DaemonEvent} (h : Quiet i out) : ¬ Strays out := by
  rcases h with ⟨events, rfl | ⟨status, rfl⟩⟩
  · simp [Strays, linkCalls]
  · simp [Strays, linkCalls]

theorem strays_handle (h : Strays (s.handle b n).2) : IsPta b .equipListSuperbusDevData := by
  obtain ⟨index, deviceid, status, hm⟩ := h
  simp only [Daemon.handle, List.mem_cons, reduceCtorEq, List.mem_map, DaemonEvent.calls.injEq,
    exists_eq_right, false_or] at hm
  exact handleFrame_calls s.env s.inst b n _ hm

/-- A listed device is within the table as long as no more than 32 are. -/
theorem handle_listing (n : ℕ) (h : DevicesCounted (s, listed))
    (hlist : IsPta b .equipListSuperbusDevData) :
    (Strays (s.handle b n).2 ↔ ¬ listed < 32) ∧
      (listed < 32 → DevicesCounted ((s.handle b n).1, listed + 1)) := by
  obtain ⟨hcount, hle⟩ := h
  dsimp only at hcount hle
  obtain ⟨hstate, hout⟩ := handleFrame_listed s.env s.inst n hlist
  rw [hcount] at hout
  constructor
  · by_cases hroom : listed < 32
    · rw [if_pos hroom] at hout
      simp [Strays, Daemon.handle, hout, hroom]
    · rw [if_neg hroom] at hout
      simp [Strays, Daemon.handle, hout, hroom]
  · intro hroom
    refine ⟨?_, hroom⟩
    simp only [Daemon.handle, hstate, UInt8.toNat_add, UInt8.toNat_one, hcount]
    omega

/-- Any other frame keeps the counter, or starts it again. -/
theorem handle_unlisted (n : ℕ) (h : DevicesCounted (s, listed))
    (hlist : ¬ IsPta b .equipListSuperbusDevData) :
    DevicesCounted ((s.handle b n).1, devicesListed.next listed (.handleFrame b n)) := by
  by_cases hclear : IsPta b .clearAutomationDynamicImage
  · have hnext : devicesListed.next listed (.handleFrame b n) = 0 := by
      simp [devicesListed, hlist, hclear]
    have hcount : (concorddHandleFrame s.env s.inst b n).state.busDeviceCount = 0 := by
      rw [handleFrame_clear hclear]
      rfl
    rw [hnext]
    exact ⟨congrArg UInt8.toNat hcount, Nat.zero_le 32⟩
  · have hnext : devicesListed.next listed (.handleFrame b n) = listed := by
      simp [devicesListed, hlist, hclear]
    have hcount := handleFrame_deviceCount s.env s.inst n hlist hclear
    rw [hnext]
    exact ⟨(congrArg UInt8.toNat hcount).trans h.1, h.2⟩

/-- A frame overruns the table exactly when it lists a device too many. -/
theorem handle_devices (b : Buffer) (n : ℕ) (h : DevicesCounted (s, listed)) :
    (Strays (s.handle b n).2 ↔ IsPta b .equipListSuperbusDevData ∧ ¬ listed < 32) ∧
      ((IsPta b .equipListSuperbusDevData → listed < 32) →
        DevicesCounted ((s.handle b n).1, devicesListed.next listed (.handleFrame b n))) := by
  by_cases hlist : IsPta b .equipListSuperbusDevData
  · obtain ⟨hstrays, hkeep⟩ := handle_listing n h hlist
    have hnext : devicesListed.next listed (.handleFrame b n) = listed + 1 := if_pos hlist
    rw [hnext, hstrays]
    exact ⟨(and_iff_right hlist).symm, fun hroom => hkeep (hroom hlist)⟩
  · exact ⟨iff_of_false (fun hs => hlist (strays_handle hs)) fun hc => hlist hc.1,
      fun _ => handle_unlisted n h hlist⟩

/-- A step overruns the table exactly when the monitor rejects it, and else they agree. -/
theorem step_devices (h : DevicesCounted (s, listed)) :
    (Strays (daemonMachine.step s i).2 ↔
        ¬ devicesListed.Accepts listed (daemonMachine.step s i).2) ∧
      (devicesListed.Accepts listed (daemonMachine.step s i).2 →
        DevicesCounted ((daemonMachine.step s i).1,
          devicesListed.after listed (daemonMachine.step s i).2)) := by
  by_cases hi : ∃ finished, i = .refresh finished
  · obtain ⟨finished, rfl⟩ := hi
    obtain ⟨q, hs, events, status, ho⟩ := refresh_step s finished
    rw [hs, ho]
    obtain ⟨hafter, hacc⟩ := listed_linkCalls listed events
    rw [Monitor.accepts_append, Monitor.after_append, hafter]
    refine ⟨iff_of_false ?_ (not_not_intro ⟨hacc, trivial, trivial⟩), fun _ => ⟨rfl, ?_⟩⟩
    · rw [strays_linkCalls]
      simp [Strays]
    · exact Nat.zero_le 32
  have hi : ∀ finished, i ≠ .refresh finished := fun finished he => hi ⟨finished, he⟩
  rcases daemon_step_other s i hi with ⟨q, callbacks, env, hs, ho⟩ | ⟨q, b, n, events, hs, ho⟩
  · obtain ⟨hafter, hacc⟩ := listed_quiet listed ho hi
    rw [hs, hafter]
    exact ⟨iff_of_false ho.strays (not_not_intro hacc), fun _ => h⟩
  · obtain ⟨hstrays, hkeep⟩ := handle_devices (s := s.withQueue q) b n h
    obtain ⟨hafter, hacc⟩ := listed_linkCalls listed events
    obtain ⟨hafter', hacc'⟩ := listed_handle (s.withQueue q) b n listed
    rw [hs, ho, strays_linkCalls, hstrays, Monitor.accepts_append, Monitor.after_append, hafter,
      hafter', hacc']
    refine ⟨?_, fun ha => hkeep ha.2⟩
    rw [and_iff_right hacc, Classical.not_imp]

theorem step_inside (h : DevicesCounted (s, listed)) :
    DevicesInside s i ↔ devicesListed.Accepts listed (daemonMachine.step s i).2 := by
  obtain ⟨hstrays, hkeep⟩ := step_devices (i := i) h
  have hnow : DevicesFit s.inst := devicesFit_iff.mpr (h.1.trans_le h.2)
  constructor
  · rintro ⟨-, -, hin⟩
    refine not_not.mp fun hn => ?_
    obtain ⟨index, deviceid, status, hm⟩ := hstrays.mpr hn
    exact hin index deviceid status hm
  · intro ha
    have hcounted := hkeep ha
    refine ⟨hnow, devicesFit_iff.mpr (hcounted.1.trans_le hcounted.2), ?_⟩
    intro index deviceid status hm
    exact hstrays.mp ⟨index, deviceid, status, hm⟩ ha

/-- The table stays within its bounds exactly in the runs that list no more than 32 devices
between two refreshes. -/
theorem devices_inside_iff (env : Env) (steps : List DaemonStep) :
    daemonMachine.Along DevicesInside (daemonInit env) steps ↔
      devicesListed.Accepts 0 (daemonMachine.trace (daemonInit env) steps) := by
  rw [← Monitor.watch_along (m := devicesListed) (t := 0), ← Monitor.along_accepts_iff]
  exact Machine.along_iff_of_inv (I := DevicesCounted) (D := fun _ _ => True)
    (fun _ _ h _ => step_inside h) (fun _ _ h _ ha => (step_devices h).2 ha)
    ⟨rfl, Nat.zero_le 32⟩ Machine.along_true

/-- `EQUIP_LIST_SUPERBUS_DEV_DATA` for device 1. -/
def deviceFrame : Buffer := fun k => if k = 0 then 0x05 else if k = 5 then 1 else 0

/-- The thirty-third device after one start is written past the end. -/
theorem devices_inside_thirtyThree :
    ¬ ∀ (env : Env) (steps : List DaemonStep),
      daemonMachine.Along DevicesInside (daemonInit env) steps := by
  intro h
  have hfit : DevicesFit (daemonMachine.run (daemonInit ⟨1, .ok⟩)
      (List.replicate 33 (.frame deviceFrame 7))).inst :=
    Machine.inv_run (I := fun s : Daemon => DevicesFit s.inst) (fun _ _ _ hstep => hstep.2.1)
      (devicesFit_iff.mpr (by decide)) (h ⟨1, .ok⟩ _)
  have hcount := hfit.count
  revert hcount
  decide +kernel

end Concordd
