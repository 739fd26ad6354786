import Concordd.Dbus.Events

/-! What a signal says of an object is what the object answers. -/
namespace Concordd

open Ascii

/-- The `concordd_*_func` of `main` as far as they send signals. -/
def dbusSignals (before : UInt8) (self : ConcorddInstance) : InstanceEvent → List DbusSignal
  | .instanceInfoChanged changed => concorddDbusSystemInfoChangedFunc self changed
  | .partitionInfoChanged i partition changed =>
    concorddDbusPartitionInfoChangedFunc before i partition changed
  | .sirenSync => [⟨concorddDbusPathRoot, .sirenSync, []⟩]
  | .zoneInfoChanged i zone changed => concorddDbusZoneInfoChangedFunc before i zone changed
  | .lightInfoChanged i lighti light changed =>
    concorddDbusLightInfoChangedFunc i lighti light changed
  | .outputInfoChanged i output changed => concorddDbusOutputInfoChangedFunc before i output changed
  | .event event => [concorddDbusEventFunc event]
  | .link _ | .copy _ _ | .strayDevice _ _ _ => []

/-- What an object answers to `get_info`. Partitions and lights answer whether or not they are
active. -/
def DbusObject.info (before : UInt8) (self : ConcorddInstance) : DbusObject → Option DbusDict
  | .system => some (systemInfo self)
  | .partition p => (concorddGetPartition p).map fun i => partitionInfo before (self.partition i)
  | .zone z => (concorddGetZone z).bind fun i =>
    if (self.zone i).active then some (zoneInfo before z (self.zone i)) else none
  | .output o => (concorddGetOutput o).bind fun i =>
    if (self.output i).active then some (outputInfo before o (self.output i)) else none
  | .light p l => (concorddGetPartition p).bind fun i => (concorddPartitionGetLight l).map fun j =>
    lightInfo p l ((self.partition i).light j)

/-- The dictionary has the entry. An output's `changed` signal has the number of the user under
`lastChangedBy`, where `get_info` has the name of that number: there the dictionary has the name. -/
def DbusDict.Tells (dict : DbusDict) : DbusKey × DbusValue → Prop
  | (.lastChangedBy, .int32 user) => (.lastChangedBy, .ofUser user) ∈ dict
  | entry => entry ∈ dict

variable {before : UInt8} {self : ConcorddInstance} {o : DbusObject} {p z i l : ℤ}
  {changed : UInt32} {entries : List (UInt32 × DbusKey × DbusValue)}
  {entry : DbusKey × DbusValue} {signal : DbusSignal} {e : InstanceEvent} {s : Daemon}
  {step : DaemonStep}

/-! `get_info` on a printed path. -/

theorem output_getInfo (ho : IsInt i) : dbusGetInfo before self (DbusObject.output i).path =
    (DbusObject.output i).info before self := by
  have hk := output_kinds i
  have hout : ¬ 0 ≤ i → concorddGetOutput i = none := fun h => tableIndex_eq_none.mpr (by omega)
  simp only [dbusGetInfo, hk.output, if_true, concorddDbusHandleOutputGetInfo,
    concorddOutputFromDbusPath, output_outputIndex ho, DbusObject.info]
  split
  · rfl
  · next h => rw [hout h]

theorem light_getInfo (hp : IsInt p) (hl : IsInt l) :
    dbusGetInfo before self (DbusObject.light p l).path =
      (DbusObject.light p l).info before self := by
  have hk := light_kinds p l
  simp only [dbusGetInfo, hk.output, hk.zone, Bool.false_eq_true, if_false, light_isLight, if_true,
    concorddDbusHandleLightGetInfo, concorddLightFromDbusPath, light_partitionIndex hp,
    light_lightIndex p hl, DbusObject.info]
  cases hi : concorddGetPartition p with
  | none => simp
  | some i =>
    have hp0 : 0 ≤ p := by
      rw [concorddGetPartition, tableIndex_eq_some] at hi
      omega
    cases hj : concorddPartitionGetLight l with
    | none => simp
    | some j =>
      have hl0 : 0 ≤ l := by
        rw [concorddPartitionGetLight, tableIndex_eq_some] at hj
        omega
      simp [hp0, hl0]

theorem getInfo_path (o : DbusObject) (h : o.Printable) :
    dbusGetInfo before self o.path = o.info before self := by
  cases o with
  | system => rfl
  | output i => exact output_getInfo h
  | zone i =>
    have hk := zone_kinds i
    simp [dbusGetInfo, DbusObject.info, hk.output, hk.zone, concorddDbusHandleZoneGetInfo,
      zone_zoneIndex h]
  | partition i =>
    have hk := partition_kinds i
    simp [dbusGetInfo, DbusObject.info, hk.output, hk.zone, partition_isLight,
      concorddDbusPathIsPartition, hk.partition, concorddDbusHandlePartitionGetInfo,
      partition_partitionIndex h]
  | light p l => exact light_getInfo h.1 h.2

/-! Signals. -/

theorem path_fits (o : DbusObject) (h : o.Printable) : snprintf 120 o.path = o.path := by
  apply snprintf_of_lt
  have hroot : concorddDbusPathRoot.length = 19 := rfl
  have hpartition : concorddDbusPathPartition.length = 30 := rfl
  have hzone : concorddDbusPathZone.length = 25 := rfl
  have houtput : concorddDbusPathOutput.length = 27 := rfl
  have hlight : concorddDbusLightDir.length = 7 := rfl
  cases o with
  | system => decide
  | partition i | zone i | output i =>
    have hi := length_decimalInt_le h
    simp only [DbusObject.path, List.length_append]
    omega
  | light p l =>
    have hp := length_decimalInt_le h.1
    have hl := length_decimalInt_le h.2
    simp only [DbusObject.path, List.length_append]
    omega

/-- An object of one of the tables. -/
theorem isInt_fin {n : ℕ} (i : Fin n) (hn : n ≤ 96) : IsInt (i.val : ℤ) := by
  have hi := i.isLt
  constructor <;> omega

theorem tableIndex_fin {n : ℕ} (i : Fin n) : tableIndex n (i.val : ℤ) = some i :=
  tableIndex_eq_some.mpr rfl

/-- What the signals of a call say. -/
def SignalTold (before : UInt8) (self : ConcorddInstance) (signal : DbusSignal) : Prop :=
  ∃ dict, dbusGetInfo before self signal.path = some dict ∧
    ∀ entry ∈ signal.dict, DbusDict.Tells dict entry

theorem changedSignal_told (dict : DbusDict) (ho : o.Printable)
    (hinfo : o.info before self = some dict)
    (hentries : ∀ entry ∈ entries, changed &&& entry.1 ≠ 0 → DbusDict.Tells dict entry.2)
    (hs : signal ∈ changedSignal o changed entries) : SignalTold before self signal := by
  unfold changedSignal at hs
  split at hs
  · cases hs
  · obtain rfl := List.mem_singleton.mp hs
    refine ⟨dict, ?_, ?_⟩
    · rw [path_fits o ho, getInfo_path o ho, hinfo]
    · intro entry hentry
      obtain ⟨flagged, hm, hflag⟩ := List.mem_filterMap.mp hentry
      split at hflag
      · next hset =>
        obtain rfl := Option.some.inj hflag
        exact hentries flagged hm hset
      · cases hflag

theorem system_told (hs : signal ∈ concorddDbusSystemInfoChangedFunc self changed) :
    SignalTold before self signal := by
  refine changedSignal_told (o := .system) (systemInfo self) trivial rfl ?_ hs
  simp [systemInfo, DbusDict.Tells]

theorem partition_told {i : Fin 8}
    (hs : signal ∈ concorddDbusPartitionInfoChangedFunc before i (self.partition i) changed) :
    SignalTold before self signal := by
  refine changedSignal_told (o := .partition i.val) (partitionInfo before (self.partition i))
    (isInt_fin i (by decide)) ?_ ?_ hs
  · simp [DbusObject.info, concorddGetPartition, tableIndex_fin]
  · simp [partitionInfo, DbusDict.Tells]

/-- A single bit is set if it is not clear. -/
theorem ofAllBits_eq (bits mask : UInt8) (k : ℕ) (hmask : mask.toNat = 2 ^ k) :
    DbusValue.ofAllBits bits mask = DbusValue.ofBits bits mask := by
  have hpow : 2 ^ k ≠ 0 := by positivity
  simp only [DbusValue.ofAllBits, DbusValue.ofBits, DbusValue.boolean.injEq, decide_eq_decide,
    ne_eq, ← UInt8.toNat_inj, UInt8.toNat_and, hmask, Nat.and_two_pow]
  cases bits.toNat.testBit k <;> simp [hpow.symm]

theorem zone_told {i : Fin 96} (hactive : (self.zone i).active = true)
    (hflag : changed &&& concorddZoneLastTrippedAtChanged = 0)
    (hs : signal ∈ concorddDbusZoneInfoChangedFunc before i (self.zone i) changed) :
    SignalTold before self signal := by
  refine changedSignal_told (o := .zone i.val) (zoneInfo before i.val (self.zone i))
    (isInt_fin i (by decide)) ?_ ?_ hs
  · simp [DbusObject.info, concorddGetZone, tableIndex_fin, hactive]
  · simp [zoneInfo, DbusDict.Tells, hflag, ofAllBits_eq _ geRs232ZoneStatusTripped 0 rfl,
      ofAllBits_eq _ geRs232ZoneStatusFault 1 rfl, ofAllBits_eq _ geRs232ZoneStatusAlarm 2 rfl,
      ofAllBits_eq _ geRs232ZoneStatusTrouble 3 rfl,
      ofAllBits_eq _ geRs232ZoneStatusBypassed 4 rfl]

theorem light_told {i : Fin 8} {j : Fin 10}
    (hchanged : changed = concorddGeneralStateChanged ||| concorddGeneralLastChangedAtChanged)
    (hs : signal ∈ concorddDbusLightInfoChangedFunc i j ((self.partition i).light j) changed) :
    SignalTold before self signal := by
  have hby : changed &&& concorddGeneralLastChangedByChanged = 0 := by rw [hchanged]; decide
  refine changedSignal_told (o := .light i.val j.val)
    (lightInfo i.val j.val ((self.partition i).light j))
    ⟨isInt_fin i (by decide), isInt_fin j (by decide)⟩ ?_ ?_ hs
  · simp [DbusObject.info, concorddGetPartition, concorddPartitionGetLight, tableIndex_fin]
  · simp [lightInfo, DbusDict.Tells, hby]

theorem output_told {i : Fin 71} (hactive : (self.output i).active = true)
    (hchanged : changed = concorddGeneralStateChanged ||| concorddGeneralLastChangedAtChanged |||
      concorddGeneralLastChangedByChanged)
    (hs : signal ∈ concorddDbusOutputInfoChangedFunc before i (self.output i) changed) :
    SignalTold before self signal := by
  have hname : changed &&& concorddGeneralEncodedNameChanged = 0 := by rw [hchanged]; decide
  refine changedSignal_told (o := .output i.val) (outputInfo before i.val (self.output i))
    (isInt_fin i (by decide)) ?_ ?_ hs
  · simp [DbusObject.info, concorddGetOutput, tableIndex_fin, hactive]
  · simp [outputInfo, DbusDict.Tells, hname, DbusValue.ofWide]

theorem eventSignal_member (event : ConcorddEvent) : (eventSignal event).2 ≠ .changed := by
  unfold eventSignal
  cases event.general with
  | other => dsimp only; split <;> simp
  | _ => simp

theorem dbusSignals_told (h : e.Current self) (hs : signal ∈ dbusSignals before self e)
    (hm : signal.member = .changed) : SignalTold before self signal := by
  cases e with
  | instanceInfoChanged changed => exact system_told hs
  | partitionInfoChanged i partition changed =>
    obtain rfl := h
    exact partition_told hs
  | zoneInfoChanged i zone changed =>
    obtain ⟨rfl, hactive, hflag⟩ := h
    exact zone_told hactive hflag hs
  | lightInfoChanged i j light changed =>
    obtain ⟨rfl, hchanged⟩ := h
    exact light_told hchanged hs
  | outputInfoChanged i output changed =>
    obtain ⟨rfl, hactive, hchanged⟩ := h
    exact output_told hactive hchanged hs
  | sirenSync =>
    obtain rfl := List.mem_singleton.mp hs
    cases hm
  | event event =>
    obtain rfl := List.mem_singleton.mp hs
    exact (eventSignal_member event hm).elim
  | link | copy | strayDevice => cases hs

/-! Runs. -/

/-- The signals of a step. -/
def stepSignals (before : UInt8) (s : Daemon) (i : DaemonStep) : List DbusSignal :=
  (daemonMachine.step s i).2.flatMap fun
    | .calls event => dbusSignals before (daemonMachine.step s i).1.inst event
    | .handleFrame _ _ | .returns _ _ => []

/-- Whatever a `changed` signal says of an object, in any run from any state, the object itself
would answer to `get_info` on the path of the signal, with a user's name for the number of the user
an output was changed by. -/
theorem signals_told (before : UInt8) (s : Daemon) (steps : List DaemonStep) :
    daemonMachine.Along (fun s i => ∀ signal ∈ stepSignals before s i, signal.member = .changed →
      ∃ dict, dbusGetInfo before (daemonMachine.step s i).1.inst signal.path = some dict ∧
        ∀ entry ∈ signal.dict, DbusDict.Tells dict entry) s steps := by
  refine Machine.along_of_inv (I := fun _ => True) (fun _ _ _ _ => trivial) ?_ trivial
    Machine.along_true
  intro s i _ _ signal hs hm
  obtain ⟨out, hout, hsignal⟩ := List.mem_flatMap.mp hs
  cases out with
  | calls e => exact dbusSignals_told (step_current hout) hsignal hm
  | handleFrame | returns => cases hsignal

end Concordd
