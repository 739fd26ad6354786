import Concordd.Instance.Devices

/-! The table of bus devices after a refresh, and what the last list of devices left in it. -/
namespace Concordd

/-! What the panel's list says. -/

/-- The ids of the devices the frames list, in order. -/
def reportedIds (frames : List Buffer) : List UInt32 :=
  (frames.filter fun b => IsPta b .equipListSuperbusDevData).map fun b =>
    word24 (b 3) (b 4) (b 5)

/-- The frames that name a capability of the device. -/
def capFrames (deviceid : UInt32) (frames : List Buffer) : List Buffer :=
  frames.filter fun b =>
    IsPta b .equipListSuperbusCapData ∧ word24 (b 1) (b 2) (b 3) = deviceid

def reportedCaps (deviceid : UInt32) (frames : List Buffer) : UInt32 :=
  ((capFrames deviceid frames).map fun b => (1 : UInt32) <<< (b 4).toUInt32).foldl (· ||| ·) 0

/-- The data that last came with a capability, if any did. -/
def reportedData (cap : UInt8) (deviceid : UInt32) (frames : List Buffer) : Option UInt8 :=
  ((capFrames deviceid frames).filter fun b => b 4 = cap).getLast?.map fun b => b 5

/-- A list of at most 32 devices, each before its capabilities. -/
def deviceReport : Monitor (List Buffer) Buffer where
  next listed b := listed ++ [b]
  Allows listed b :=
    (IsPta b .equipListSuperbusDevData ∧ (reportedIds listed).length < 32) ∨
      (IsPta b .equipListSuperbusCapData ∧ (b 4).toNat < 32 ∧
        word24 (b 1) (b 2) (b 3) ∈ reportedIds listed)

instance (listed : List Buffer) (b : Buffer) : Decidable (deviceReport.Allows listed b) :=
  inferInstanceAs (Decidable (_ ∨ _))

/-- The device has what was reported for it on top of what it had before. -/
structure DeviceHolds (before : ConcorddDevice) (deviceid : UInt32) (frames : List Buffer)
    (device : ConcorddDevice) : Prop where
  caps : device.caps = before.caps ||| reportedCaps deviceid frames
  inputCount : device.inputCount = (reportedData 0x08 deviceid frames).getD before.inputCount
  outputCount : device.outputCount = (reportedData 0x0B deviceid frames).getD before.outputCount

/-- What listing a device makes of the entry it goes to. -/
def ConcorddDevice.withListing (device : ConcorddDevice) (frameBytes : Buffer) : ConcorddDevice :=
  { device with
    active := true
    deviceId := word24 (frameBytes 3) (frameBytes 4) (frameBytes 5)
    deviceStatus := frameBytes 6 }

def ConcorddInstance.setDevice (self : ConcorddInstance) (d : Fin 32) (device : ConcorddDevice) :
    ConcorddInstance :=
  { self with busDevice := Function.update self.busDevice d device }

def ConcorddInstance.HasDevice (self : ConcorddInstance) (deviceid : UInt32) (d : Fin 32) : Prop :=
  (self.busDevice d).active = true ∧ (self.busDevice d).deviceId = deviceid

/-- Each device has one active entry, which holds what was reported for it and nothing else. -/
def DevicesReported (self : ConcorddInstance) (frames : List Buffer) : Prop :=
  ∀ deviceid ∈ reportedIds frames, ∃ d, (∀ i, self.HasDevice deviceid i ↔ i = d) ∧
    DeviceHolds {} deviceid frames (self.busDevice d)

/-- Nothing of the entry shows once the device is reported in its place. -/
structure Overwritten (before : ConcorddDevice) (deviceid : UInt32) (frames : List Buffer) :
    Prop where
  caps : before.caps ||| reportedCaps deviceid frames = reportedCaps deviceid frames
  inputCount : reportedData 0x08 deviceid frames = none → before.inputCount = 0
  outputCount : reportedData 0x0B deviceid frames = none → before.outputCount = 0

/-- Each entry the list of devices reaches is overwritten. -/
def NothingLeft (self : ConcorddInstance) (frames : List Buffer) : Prop :=
  ∀ (d : Fin 32) (deviceid : UInt32), (reportedIds frames)[d.val]? = some deviceid →
    Overwritten (self.busDevice d) deviceid frames

variable {env : Env} {self old : ConcorddInstance} {b : Buffer} {n : ℕ} {d : Fin 32}
  {deviceid : UInt32} {frames listed : List Buffer} {device before : ConcorddDevice}

/-! One more frame. -/

@[simp] theorem setDevice_busDevice (i : Fin 32) :
    (self.setDevice d device).busDevice i = if i = d then device else self.busDevice i :=
  Function.update_apply ..

theorem handleFrame_cap_state (h : IsPta b .equipListSuperbusCapData)
    (hget : concorddGetDevice self (word24 (b 1) (b 2) (b 3)) = some d.val) :
    (concorddHandleFrame env self b n).state =
      self.setDevice d ((self.busDevice d).addCap (b 4) (b 5)) := by
  rw [handleFrame_of_equipListSuperbusCapData h]
  unfold concorddHandleEquipListSuperbusCapData
  dsimp only
  rw [hget]
  dsimp only
  rw [tableIndex_val, device_val]
  rfl

theorem handleFrame_device_state (h : IsPta b .equipListSuperbusDevData)
    (hd : self.busDeviceCount.toNat = d.val) :
    (concorddHandleFrame env self b n).state =
      { self.setDevice d ((self.busDevice d).withListing b) with
        busDeviceCount := self.busDeviceCount + 1 } := by
  have hget : tableIndex 32 self.busDeviceCount.toNat = some d := by
    rw [tableIndex_eq_some, hd]
  rw [handleFrame_of_equipListSuperbusDevData h]
  unfold concorddHandleEquipListSuperbusDevData
  dsimp only
  rw [hget]
  rfl

theorem reportedIds_device (listed : List Buffer) (h : IsPta b .equipListSuperbusDevData) :
    reportedIds (listed ++ [b]) = reportedIds listed ++ [word24 (b 3) (b 4) (b 5)] := by
  simp [reportedIds, h]

theorem length_reportedIds_device (listed : List Buffer) (h : IsPta b .equipListSuperbusDevData) :
    (reportedIds (listed ++ [b])).length = (reportedIds listed).length + 1 := by
  rw [reportedIds_device listed h, List.length_append, List.length_singleton]

/-- The device goes to the end of the list. -/
theorem getElem?_reportedIds_device (h : IsPta b .equipListSuperbusDevData) (k : ℕ) :
    (reportedIds (listed ++ [b]))[k]? =
      if k = (reportedIds listed).length then some (word24 (b 3) (b 4) (b 5))
      else (reportedIds listed)[k]? := by
  rw [reportedIds_device listed h, List.getElem?_append]
  split
  · next hlt => rw [if_neg hlt.ne]
  · next hge =>
    split
    · next he => rw [he, Nat.sub_self, List.getElem?_cons_zero]
    · next hne => rw [List.getElem?_eq_none (by simp; omega), List.getElem?_eq_none (by omega)]

theorem reportedIds_cap (h : IsPta b .equipListSuperbusCapData) :
    reportedIds (listed ++ [b]) = reportedIds listed := by
  have hne : ¬ IsPta b .equipListSuperbusDevData := fun h' => by cases h.symm.trans h'
  simp [reportedIds, hne]

theorem capFrames_device (h : IsPta b .equipListSuperbusDevData) :
    capFrames deviceid (listed ++ [b]) = capFrames deviceid listed := by
  have hne : ¬ IsPta b .equipListSuperbusCapData := fun h' => by cases h.symm.trans h'
  simp [capFrames, hne]

theorem capFrames_cap (h : IsPta b .equipListSuperbusCapData) :
    capFrames deviceid (listed ++ [b]) =
      if word24 (b 1) (b 2) (b 3) = deviceid then capFrames deviceid listed ++ [b]
      else capFrames deviceid listed := by
  split <;> simp_all [capFrames]

theorem DeviceHolds.of_capFrames (h : DeviceHolds before deviceid listed device)
    (hcaps : capFrames deviceid frames = capFrames deviceid listed) :
    DeviceHolds before deviceid frames device := by
  obtain ⟨hc, hi, ho⟩ := h
  refine ⟨hc.trans ?_, hi.trans ?_, ho.trans ?_⟩
  · rw [reportedCaps, reportedCaps, hcaps]
  · rw [reportedData, reportedData, hcaps]
  · rw [reportedData, reportedData, hcaps]

theorem DeviceHolds.of_unreported (device : ConcorddDevice) (h : capFrames deviceid frames = []) :
    DeviceHolds device deviceid frames device := by
  refine ⟨?_, ?_, ?_⟩
  · simp [reportedCaps, h]
  · simp [reportedData, h]
  · simp [reportedData, h]

theorem DeviceHolds.addCap (h : DeviceHolds before deviceid listed device)
    (hcaps : capFrames deviceid frames = capFrames deviceid listed ++ [b]) :
    DeviceHolds before deviceid frames (device.addCap (b 4) (b 5)) := by
  have hdata : ∀ cap, reportedData cap deviceid frames =
      if b 4 = cap then some (b 5) else reportedData cap deviceid listed := by
    intro cap
    unfold reportedData
    rw [hcaps, List.filter_append, List.getLast?_append]
    split
    · next hc => simp [hc]
    · next hc => simp [hc]
  obtain ⟨hc, hi, ho⟩ := h
  refine ⟨?_, ?_, ?_⟩
  · have hor : reportedCaps deviceid frames =
        reportedCaps deviceid listed ||| ((1 : UInt32) <<< (b 4).toUInt32) := by
      simp [reportedCaps, hcaps]
    rw [hor, ← UInt32.or_assoc, ← hc]
    rfl
  · rw [hdata]
    unfold ConcorddDevice.addCap
    dsimp only
    split
    · rfl
    · exact hi
  · rw [hdata]
    unfold ConcorddDevice.addCap
    dsimp only
    split
    · rfl
    · exact ho

/-- Something of the old entry is left exactly when it is not overwritten. -/
theorem DeviceHolds.blank_iff (h : DeviceHolds before deviceid frames device) :
    DeviceHolds {} deviceid frames device ↔ Overwritten before deviceid frames := by
  obtain ⟨hc, hi, ho⟩ := h
  have hblank : ∀ (cap count : UInt8), ((reportedData cap deviceid frames).getD count =
      (reportedData cap deviceid frames).getD 0 ↔
        (reportedData cap deviceid frames = none → count = 0)) := by
    intro cap count
    cases reportedData cap deviceid frames with
    | none => simp
    | some data => simp
  constructor
  · rintro ⟨hc', hi', ho'⟩
    refine ⟨?_, (hblank _ _).mp (hi.symm.trans hi'), (hblank _ _).mp (ho.symm.trans ho')⟩
    rw [← hc, hc']
    exact UInt32.zero_or
  · rintro ⟨hc', hi', ho'⟩
    refine ⟨?_, hi.trans ((hblank _ _).mpr hi'), ho.trans ((hblank _ _).mpr ho')⟩
    rw [hc, hc']
    exact UInt32.zero_or.symm

/-! The table. -/

/-- The table after a refresh of `old` and the frames: the devices in the order in which they were
listed, each over whatever `old` had in its place. -/
structure DeviceTable (old : ConcorddInstance) (listed : List Buffer) (new : ConcorddInstance) :
    Prop where
  fits : (reportedIds listed).length ≤ 32
  count : new.busDeviceCount.toNat = (reportedIds listed).length
  entry : ∀ (d : Fin 32) deviceid,
    new.HasDevice deviceid d ↔ (reportedIds listed)[d.val]? = some deviceid
  known : ∀ deviceid ∉ reportedIds listed, capFrames deviceid listed = []
  holds : (reportedIds listed).Nodup → ∀ (d : Fin 32) deviceid,
    (reportedIds listed)[d.val]? = some deviceid →
      DeviceHolds (old.busDevice d) deviceid listed (new.busDevice d)
  rest : ∀ d : Fin 32, (reportedIds listed).length ≤ d.val →
    new.busDevice d = { old.busDevice d with active := false }

theorem deviceTable_refreshed (old : ConcorddInstance) (q : GeQueue) :
    DeviceTable old [] { concorddDeactivate old with geQueue := q } where
  fits := Nat.zero_le 32
  count := rfl
  entry d deviceid := iff_of_false (fun h => Bool.false_ne_true h.1) (by simp [reportedIds])
  known _ _ := rfl
  holds _ d deviceid h := by simp [reportedIds] at h
  rest _ _ := rfl

theorem getDevice_hasDevice (h : concorddGetDevice self deviceid = some d.val) :
    self.HasDevice deviceid d := by
  have := List.find?_some h
  rwa [device_val, Bool.and_eq_true, beq_iff_eq] at this

theorem getDevice_lt {i : ℕ} (h : concorddGetDevice self deviceid = some i) :
    i < self.busDeviceCount.toNat :=
  List.mem_range.mp (List.mem_of_find?_eq_some h)

theorem getDevice_of_hasDevice (hd : d.val < self.busDeviceCount.toNat)
    (h : self.HasDevice deviceid d) : concorddGetDevice self deviceid ≠ none := by
  intro hnone
  have := List.find?_eq_none.mp hnone d (List.mem_range.mpr hd)
  rw [device_val, Bool.and_eq_true, beq_iff_eq] at this
  exact this h

theorem DeviceTable.get (h : DeviceTable old listed self) (hid : deviceid ∈ reportedIds listed) :
    ∃ d : Fin 32, concorddGetDevice self deviceid = some d.val ∧ self.HasDevice deviceid d := by
  obtain ⟨k, hk⟩ := List.getElem?_of_mem hid
  obtain ⟨hlt, -⟩ := List.getElem?_eq_some_iff.mp hk
  have hfits := h.fits
  have hhas : self.HasDevice deviceid ⟨k, by omega⟩ := (h.entry _ deviceid).mpr hk
  obtain ⟨i, hi⟩ := Option.ne_none_iff_exists'.mp
    (getDevice_of_hasDevice (d := ⟨k, by omega⟩) (by rw [h.count]; exact hlt) hhas)
  have hcount := getDevice_lt hi
  rw [h.count] at hcount
  exact ⟨⟨i, by omega⟩, hi, getDevice_hasDevice (d := ⟨i, by omega⟩) hi⟩

/-- A device that is listed once has one place in the list. -/
theorem index_unique (hnodup : (reportedIds listed).Nodup) {k d : Fin 32}
    (hk : (reportedIds listed)[k.val]? = some deviceid)
    (hd : (reportedIds listed)[d.val]? = some deviceid) : k = d := by
  obtain ⟨hlt, -⟩ := List.getElem?_eq_some_iff.mp hk
  exact Fin.ext ((List.getElem?_inj hlt hnodup).mp (hk.trans hd.symm))

theorem hasDevice_addCap (k : Fin 32) :
    (self.setDevice d ((self.busDevice d).addCap (b 4) (b 5))).HasDevice deviceid k ↔
      self.HasDevice deviceid k := by
  unfold ConcorddInstance.HasDevice
  rw [setDevice_busDevice]
  split
  · next hk =>
    rw [hk]
    exact Iff.rfl
  · exact Iff.rfl

/-- A capability goes to the device it names, wherever that is, and to no other. -/
theorem DeviceTable.holds_cap (h : DeviceTable old listed self)
    (hcap : IsPta b .equipListSuperbusCapData)
    (hd : (reportedIds listed)[d.val]? = some (word24 (b 1) (b 2) (b 3)))
    (hnodup : (reportedIds listed).Nodup) {k : Fin 32}
    (hk : (reportedIds listed)[k.val]? = some deviceid) :
    DeviceHolds (old.busDevice k) deviceid (listed ++ [b])
      ((self.setDevice d ((self.busDevice d).addCap (b 4) (b 5))).busDevice k) := by
  have hold := h.holds hnodup k deviceid hk
  rw [setDevice_busDevice]
  by_cases hkd : k = d
  · subst hkd
    obtain rfl : deviceid = word24 (b 1) (b 2) (b 3) := Option.some.inj (hk.symm.trans hd)
    rw [if_pos rfl]
    exact hold.addCap (by rw [capFrames_cap hcap, if_pos rfl])
  · have hne : word24 (b 1) (b 2) (b 3) ≠ deviceid :=
      fun he => hkd (index_unique hnodup hk (he ▸ hd))
    rw [if_neg hkd]
    exact hold.of_capFrames (by rw [capFrames_cap hcap, if_neg hne])

theorem deviceTable_cap (h : DeviceTable old listed self)
    (hcap : IsPta b .equipListSuperbusCapData)
    (hid : word24 (b 1) (b 2) (b 3) ∈ reportedIds listed) :
    DeviceTable old (listed ++ [b]) (concorddHandleFrame env self b n).state := by
  obtain ⟨d, hget, hhas⟩ := h.get hid
  have hd := (h.entry d _).mp hhas
  have hids : reportedIds (listed ++ [b]) = reportedIds listed := reportedIds_cap hcap
  rw [handleFrame_cap_state hcap hget]
  constructor
  case fits => exact hids ▸ h.fits
  case count => exact hids ▸ h.count
  case entry =>
    intro k deviceid
    rw [hids, hasDevice_addCap]
    exact h.entry k deviceid
  case known =>
    intro deviceid hout
    rw [hids] at hout
    have hne : word24 (b 1) (b 2) (b 3) ≠ deviceid := fun he => hout (he ▸ hid)
    rw [capFrames_cap hcap, if_neg hne]
    exact h.known deviceid hout
  case holds =>
    intro hnodup k deviceid hk
    rw [hids] at hnodup hk
    exact h.holds_cap hcap hd hnodup hk
  case rest =>
    intro k hk
    rw [hids] at hk
    obtain ⟨hlt, -⟩ := List.getElem?_eq_some_iff.mp hd
    have hkd : k ≠ d := fun he => absurd hk (by rw [he]; omega)
    rw [setDevice_busDevice, if_neg hkd]
    exact h.rest k hk

/-- A newly listed device has what its entry had before the refresh. -/
theorem DeviceTable.holds_device (h : DeviceTable old listed self)
    (hdev : IsPta b .equipListSuperbusDevData) (hd : (reportedIds listed).length = d.val)
    (hnodup : (reportedIds (listed ++ [b])).Nodup) {k : Fin 32}
    (hk : (reportedIds (listed ++ [b]))[k.val]? = some deviceid) :
    DeviceHolds (old.busDevice k) deviceid (listed ++ [b])
      ((self.setDevice d ((self.busDevice d).withListing b)).busDevice k) := by
  have hcaps : capFrames deviceid (listed ++ [b]) = capFrames deviceid listed :=
    capFrames_device hdev
  rw [getElem?_reportedIds_device hdev] at hk
  rw [reportedIds_device listed hdev, List.nodup_append] at hnodup
  obtain ⟨hnodup, -, hfresh⟩ := hnodup
  rw [setDevice_busDevice]
  by_cases hkd : k = d
  · subst hkd
    rw [if_pos hd.symm] at hk
    obtain rfl := Option.some.inj hk
    have hnew : word24 (b 3) (b 4) (b 5) ∉ reportedIds listed :=
      fun hm => hfresh _ hm _ List.mem_cons_self rfl
    obtain ⟨hc, hi, ho⟩ :=
      DeviceHolds.of_unreported (old.busDevice k) (hcaps.trans (h.known _ hnew))
    rw [if_pos rfl, h.rest k hd.le]
    exact ⟨hc, hi, ho⟩
  · have hne : k.val ≠ (reportedIds listed).length := fun he => hkd (Fin.ext (he.trans hd))
    rw [if_neg hne] at hk
    rw [if_neg hkd]
    exact (h.holds hnodup k deviceid hk).of_capFrames hcaps

theorem deviceTable_device (h : DeviceTable old listed self)
    (hlen : (reportedIds listed).length < 32) (hdev : IsPta b .equipListSuperbusDevData) :
    DeviceTable old (listed ++ [b]) (concorddHandleFrame env self b n).state := by
  obtain ⟨d, hd⟩ : ∃ d : Fin 32, (reportedIds listed).length = d.val := ⟨⟨_, hlen⟩, rfl⟩
  have hlength := length_reportedIds_device listed hdev
  rw [handleFrame_device_state hdev (h.count.trans hd)]
  constructor
  case fits => omega
  case count =>
    have hcount := h.count
    dsimp only
    rw [hlength, UInt8.toNat_add, UInt8.toNat_one]
    omega
  case entry =>
    intro k deviceid
    rw [getElem?_reportedIds_device hdev]
    unfold ConcorddInstance.HasDevice
    dsimp only
    rw [setDevice_busDevice]
    by_cases hk : k = d
    · subst hk
      simp [ConcorddDevice.withListing, hd]
    · rw [if_neg hk, if_neg fun he => hk (Fin.ext (he.trans hd))]
      exact h.entry k deviceid
  case known =>
    intro deviceid hout
    rw [reportedIds_device listed hdev, List.mem_append, not_or] at hout
    rw [capFrames_device hdev]
    exact h.known deviceid hout.1
  case holds => exact fun hnodup k deviceid hk => h.holds_device hdev hd hnodup hk
  case rest =>
    intro k hk
    have hkd : k ≠ d := fun he => absurd hk (by rw [he]; omega)
    dsimp only
    rw [setDevice_busDevice, if_neg hkd]
    exact h.rest k (by omega)

/-- A list of devices keeps to the table, frame by frame. -/
theorem deviceTable_run {s : Daemon} {fs : List (Buffer × ℕ)} (h : DeviceTable old listed s.inst)
    (ha : deviceReport.Accepts listed (fs.map (·.1))) :
    DeviceTable old (listed ++ fs.map (·.1))
      (daemonMachine.run s (fs.map fun f => .frame f.1 f.2)).inst := by
  induction fs generalizing s listed with
  | nil =>
    rw [List.map_nil, List.append_nil]
    exact h
  | cons f fs ih =>
    obtain ⟨hf, ha⟩ := ha
    have hstep : DeviceTable old (listed ++ [f.1])
        (concorddHandleFrame s.env s.inst f.1 f.2).state := by
      rcases hf with ⟨hdev, hlen⟩ | ⟨hcap, -, hid⟩
      · exact deviceTable_device h hlen hdev
      · exact deviceTable_cap h hcap hid
    have hrun := ih (s := { s with inst := (concorddHandleFrame s.env s.inst f.1 f.2).state })
      hstep ha
    rw [List.append_assoc] at hrun
    exact hrun

theorem DeviceTable.reported_iff (h : DeviceTable old listed self) :
    DevicesReported self listed ↔ (reportedIds listed).Nodup ∧ NothingLeft old listed := by
  have hfits := h.fits
  constructor
  · intro hreported
    have hnodup : (reportedIds listed).Nodup := by
      rw [List.nodup_iff_getElem?_ne_getElem?]
      intro i j hij hj hsame
      obtain ⟨deviceid, hid⟩ : ∃ deviceid, (reportedIds listed)[j]? = some deviceid :=
        ⟨_, List.getElem?_eq_getElem hj⟩
      obtain ⟨d, hd, -⟩ := hreported deviceid (List.mem_of_getElem? hid)
      have hi := (hd ⟨i, by omega⟩).mp ((h.entry _ _).mpr (hsame.trans hid))
      have hj := (hd ⟨j, by omega⟩).mp ((h.entry _ _).mpr hid)
      exact hij.ne (congrArg Fin.val (hi.trans hj.symm))
    refine ⟨hnodup, ?_⟩
    intro k deviceid hk
    obtain ⟨d, hd, hholds⟩ := hreported deviceid (List.mem_of_getElem? hk)
    obtain rfl := (hd k).mp ((h.entry k deviceid).mpr hk)
    exact (h.holds hnodup k deviceid hk).blank_iff.mp hholds
  · rintro ⟨hnodup, hleft⟩ deviceid hid
    obtain ⟨k, hk⟩ := List.getElem?_of_mem hid
    obtain ⟨hlt, -⟩ := List.getElem?_eq_some_iff.mp hk
    obtain ⟨d, rfl⟩ : ∃ d : Fin 32, k = d.val := ⟨⟨k, by omega⟩, rfl⟩
    refine ⟨d, ?_, (h.holds hnodup d deviceid hk).blank_iff.mpr (hleft d deviceid hk)⟩
    intro i
    rw [h.entry]
    constructor
    · intro hi
      exact index_unique hnodup hi hk
    · rintro rfl
      exact hk

/-- After a refresh and a list of devices the table is what the list says exactly when no device
is listed twice and nothing is left of the entries before it. -/
theorem devices_reported_iff (s : Daemon) (finished : Option ℕ) (fs : List (Buffer × ℕ))
    (ha : deviceReport.Accepts [] (fs.map (·.1))) :
    DevicesReported (daemonMachine.run s
        (.refresh finished :: fs.map fun f => .frame f.1 f.2)).inst (fs.map (·.1)) ↔
      (reportedIds (fs.map (·.1))).Nodup ∧ NothingLeft s.inst (fs.map (·.1)) := by
  obtain ⟨q, hs, -⟩ := refresh_step s finished
  rw [Machine.run_cons, hs]
  exact (deviceTable_run (deviceTable_refreshed s.inst q) ha).reported_iff

/-- `EQUIP_LIST_SUPERBUS_CAP_DATA` for device 1: four inputs. -/
def inputsFrame : Buffer := fun k =>
  if k = 0 then 0x06 else if k = 3 then 1 else if k = 4 then 0x08 else if k = 5 then 4 else 0

/-- `EQUIP_LIST_SUPERBUS_DEV_DATA` for device 2. -/
def otherDeviceFrame : Buffer := fun k => if k = 0 then 0x05 else if k = 5 then 2 else 0

theorem devices_reported_iff_inputs :
    DevicesReported (daemonMachine.run (daemonInit ⟨1, .ok⟩)
        (.refresh none :: [(deviceFrame, 7), (inputsFrame, 6)].map fun f => .frame f.1 f.2)).inst
        [deviceFrame, inputsFrame] ↔
      (reportedIds [deviceFrame, inputsFrame]).Nodup ∧
        NothingLeft concorddInit [deviceFrame, inputsFrame] :=
  devices_reported_iff (daemonInit ⟨1, .ok⟩) none [(deviceFrame, 7), (inputsFrame, 6)] (by decide)

/-- Device 2 is listed where device 1 was, and has its inputs. -/
theorem devices_reported_left :
    ¬ ∀ (s : Daemon) (finished : Option ℕ) (fs : List (Buffer × ℕ)),
      deviceReport.Accepts [] (fs.map (·.1)) →
        DevicesReported (daemonMachine.run s
          (.refresh finished :: fs.map fun f => .frame f.1 f.2)).inst (fs.map (·.1)) := by
  intro h
  let s := daemonMachine.run (daemonInit ⟨1, .ok⟩) [.frame deviceFrame 7, .frame inputsFrame 6]
  obtain ⟨d, hd, hholds⟩ := h s none [(otherDeviceFrame, 7)] (by decide) 2 (by decide)
  obtain rfl := (hd 0).mp ⟨by decide, by decide⟩
  have hinputs := hholds.inputCount
  revert hinputs
  decide

end Concordd
