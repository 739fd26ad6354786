import Concordd.Dbus.Info
import Concordd.Instance.EventLog
import Concordd.Instance.FrameExtent

/-! The signal of an event tells what the panel's frame has said. -/
namespace Concordd

open Ascii

def geRs232AlarmGeneralTypePartitionConfigChange : UInt8 := 12

def geRs232AlarmGeneralTypePartitionTest : UInt8 := 14

/-- The `category` of `append_dict_event`. -/
def eventCategory : GeRs232AlarmGeneralType → List UInt8
  | .systemTrouble | .systemTroubleRestoral => text "SYSTEM-TROUBLE"
  | .alarm | .alarmRestoral | .alarmCancel => text "PARTITION-ALARM"
  | .fireTrouble | .nonfireTrouble | .fireTroubleRestoral | .nonfireTroubleRestoral =>
    text "PARTITION-TROUBLE"
  | .partitionEvent => text "PARTITION-EVENT"
  | .systemEvent => text "SYSTEM-EVENT"
  | .systemConfigChange | .other => text "UNKNOWN"

/-- The `specific_desc` of `append_dict_event`. -/
def eventDescription (specific : ℤ) : GeRs232AlarmGeneralType → List UInt8
  | .systemTrouble | .systemTroubleRestoral => geSpecificSystemTroubleToCstr specific
  | .alarm | .alarmRestoral | .alarmCancel => geSpecificAlarmToCstr specific
  | .fireTrouble | .nonfireTrouble | .fireTroubleRestoral | .nonfireTroubleRestoral =>
    geSpecificTroubleToCstr specific
  | .partitionEvent => geSpecificPartitionToCstr specific
  | .systemEvent | .systemConfigChange | .other => []

def eventStatusText (status : UInt8) : List UInt8 :=
  if status = 1 then text "ONGOING"
  else if status = 2 then text "CANCELED"
  else if status = 3 then text "RESTORED"
  else text "TRIGGERED"

/-- `append_dict_event`. -/
def appendDictEvent (event : ConcorddEvent) : DbusDict :=
  [(.status, .string (some (eventStatusText event.status))),
    (.category, .string (some (eventCategory event.general))),
    (.description, .string (some (eventDescription event.specificType.toNat event.general))),
    (.generalType, .ofByte event.generalType),
    (.specificType, .ofByte event.specificType),
    (.partitionId, .ofByte event.partitionId),
    (.sourceType, .ofByte event.sourceType),
    (.extraData, .int32 event.extraData.toNat),
    if event.zoneId ≠ 0xFFFF then (.zoneId, .int32 event.zoneId.toNat)
    else (.unitId, .ofWide event.deviceId.toNat)]

/-- The object and the name of the signal in `concordd_dbus_event_func`. -/
def eventSignal (event : ConcorddEvent) : DbusObject × DbusMember :=
  match event.general with
  | .systemTrouble | .systemTroubleRestoral => (.system, .trouble)
  | .alarm | .alarmRestoral | .alarmCancel => (.partition event.partitionId.toNat, .alarm)
  | .fireTrouble | .nonfireTrouble | .fireTroubleRestoral | .nonfireTroubleRestoral =>
    (.partition event.partitionId.toNat, .trouble)
  | .partitionEvent => (.partition event.partitionId.toNat, .event)
  | .systemEvent | .systemConfigChange => (.system, .event)
  | .other =>
    if event.generalType = geRs232AlarmGeneralTypePartitionConfigChange ∨
        event.generalType = geRs232AlarmGeneralTypePartitionTest then
      (.partition event.partitionId.toNat, .event)
    else (.system, .event)

def concorddDbusEventFunc (event : ConcorddEvent) : DbusSignal where
  path := snprintf 120 (eventSignal event).1.path
  member := (eventSignal event).2
  dict := appendDictEvent event

/-- The signals of events among what a frame makes the instance call. -/
def eventSignals (out : List InstanceEvent) : List DbusSignal :=
  out.flatMap fun
    | .event event => [concorddDbusEventFunc event]
    | _ => []

/-- Two frames say the same of an event. The number of a bus device has three bytes, that of a
zone two. -/
structure SameAlarm (b b' : Buffer) : Prop where
  partition : b 2 = b' 2
  sourceType : b 4 = b' 4
  device : b 4 = geRs232AlarmSourceTypeBusDevice → b 5 = b' 5
  number : b 6 = b' 6 ∧ b 7 = b' 7
  generalType : b 8 = b' 8
  specificType : b 9 = b' 9
  extraData : b 10 = b' 10 ∧ b 11 = b' 11

/-- The event of an alarm frame. -/
def alarmOf (env : Env) (b : Buffer) : ConcorddEvent :=
  alarmEvent env (b 2) (b 4) (word24 (b 5) (b 6) (b 7)) (b 8) (b 9) (word16 (b 10) (b 11))

variable {env env' : Env} {self self' : ConcorddInstance} {b b' : Buffer} {n n' : ℕ}
  {x y z x' y' z' : UInt8}

/-! Numbers of two, three and four bytes. -/

theorem word16_inj : word16 x y = word16 x' y' ↔ x = x' ∧ y = y' := by
  rw [← UInt16.toNat_inj, word16_toNat, word16_toNat, ← UInt8.toNat_inj, ← UInt8.toNat_inj]
  have hy := y.toNat_lt
  have hy' := y'.toNat_lt
  omega

theorem word24_toNat (x y z : UInt8) :
    (word24 x y z).toNat = 65536 * x.toNat + 256 * y.toNat + z.toNat := by
  have hx := x.toNat_lt
  have hy := y.toNat_lt
  have hz := z.toNat_lt
  simp [word24, UInt32.toNat_add, UInt32.toNat_shiftLeft, Nat.shiftLeft_eq]
  omega

theorem word24_inj : word24 x y z = word24 x' y' z' ↔ x = x' ∧ y = y' ∧ z = z' := by
  rw [← UInt32.toNat_inj, word24_toNat, word24_toNat, ← UInt8.toNat_inj, ← UInt8.toNat_inj,
    ← UInt8.toNat_inj]
  have hy := y.toNat_lt
  have hy' := y'.toNat_lt
  have hz := z.toNat_lt
  have hz' := z'.toNat_lt
  omega

/-- The number of a zone loses its highest byte. -/
theorem word24_toUInt16 (x y z : UInt8) : (word24 x y z).toUInt16 = word16 y z := by
  rw [← UInt16.toNat_inj, UInt32.toNat_toUInt16, word24_toNat, word16_toNat]
  have hy := y.toNat_lt
  have hz := z.toNat_lt
  omega

theorem ofByte_inj : DbusValue.ofByte x = DbusValue.ofByte y ↔ x = y := by
  simp [DbusValue.ofByte, UInt8.toNat_inj]

theorem ofWide_inj {v w : UInt32} :
    DbusValue.ofWide v.toNat = DbusValue.ofWide w.toNat ↔ v = w := by
  constructor
  · intro h
    have hmod := congrArg (· % ((2 ^ 32 : ℕ) : ℤ)) (DbusValue.int32.inj h)
    simp only [Int.bmod_emod] at hmod
    have hv := v.toNat_lt
    have hw := w.toNat_lt
    rw [← UInt32.toNat_inj]
    omega
  · rintro rfl
    rfl

/-! Signals. -/

/-- What the dictionary says of the source. -/
theorem appendDictEvent_source {event event' : ConcorddEvent}
    (h : appendDictEvent event = appendDictEvent event') :
    (event.zoneId = event'.zoneId ∧ event.zoneId ≠ 0xFFFF) ∨
      (event.zoneId = 0xFFFF ∧ event'.zoneId = 0xFFFF ∧ event.deviceId = event'.deviceId) := by
  simp only [appendDictEvent, List.cons.injEq, and_true] at h
  have hsource := h.2.2.2.2.2.2.2.2
  split at hsource
  · next hz =>
    split at hsource
    · left
      have hnumber := DbusValue.int32.inj (congrArg Prod.snd hsource)
      exact ⟨UInt16.toNat_inj.mp (by exact_mod_cast hnumber), hz⟩
    · cases congrArg Prod.fst hsource
  · next hz =>
    split at hsource
    · cases congrArg Prod.fst hsource
    · next hz' =>
      exact .inr ⟨not_not.mp hz, not_not.mp hz', ofWide_inj.mp (congrArg Prod.snd hsource)⟩

/-- The signal determines what it was made of. -/
theorem sameAlarm_of_signal
    (h : concorddDbusEventFunc (alarmOf env b) = concorddDbusEventFunc (alarmOf env' b')) :
    SameAlarm b b' := by
  have hdict : appendDictEvent (alarmOf env b) = appendDictEvent (alarmOf env' b') :=
    congrArg DbusSignal.dict h
  have hsource := appendDictEvent_source hdict
  simp only [appendDictEvent, List.cons.injEq, Prod.mk.injEq, true_and, ofByte_inj,
    DbusValue.int32.injEq, Nat.cast_inj, UInt16.toNat_inj] at hdict
  obtain ⟨-, -, -, hgeneral, hspecific, hpartition, htype, hextra, -⟩ := hdict
  have htype : b 4 = b' 4 := htype
  have hnumbers : (b 4 = geRs232AlarmSourceTypeBusDevice → b 5 = b' 5) ∧
      b 6 = b' 6 ∧ b 7 = b' 7 := by
    simp only [alarmOf, alarmEvent, ← htype] at hsource
    by_cases hbus : b 4 = geRs232AlarmSourceTypeBusDevice
    · simp only [hbus, if_true, ne_eq, not_true, and_false, false_or, true_and] at hsource
      obtain ⟨h5, h6, h7⟩ := word24_inj.mp hsource
      exact ⟨fun _ => h5, h6, h7⟩
    · simp only [hbus, if_false, word24_toUInt16] at hsource
      have hzone : word16 (b 6) (b 7) = word16 (b' 6) (b' 7) := by
        rcases hsource with ⟨hz, -⟩ | ⟨hz, hz', -⟩
        · exact hz
        · exact hz.trans hz'.symm
      exact ⟨fun hc => (hbus hc).elim, word16_inj.mp hzone⟩
  exact ⟨hpartition, htype, hnumbers.1, hnumbers.2, hgeneral, hspecific, word16_inj.mp hextra⟩

theorem signal_of_sameAlarm (h : SameAlarm b b') :
    concorddDbusEventFunc (alarmOf env b) = concorddDbusEventFunc (alarmOf env' b') := by
  have hevent : { alarmOf env b with timestamp := env'.now } = alarmOf env' b' := by
    simp only [alarmOf, alarmEvent, ← h.partition, ← h.sourceType, ← h.number.1, ← h.number.2,
      ← h.generalType, ← h.specificType, ← h.extraData.1, ← h.extraData.2]
    by_cases hbus : b 4 = geRs232AlarmSourceTypeBusDevice
    · simp [hbus, ← h.device hbus]
    · simp [hbus, word24_toUInt16]
  rw [← hevent]
  rfl

/-! Frames. -/

theorem eventSignals_append (out out' : List InstanceEvent) :
    eventSignals (out ++ out') = eventSignals out ++ eventSignals out' := List.flatMap_append

theorem eventSignals_of_none {out : List InstanceEvent} (h : ∀ e, .event e ∉ out) :
    eventSignals out = [] := by
  apply List.flatMap_eq_nil_iff.mpr
  intro e he
  cases e with
  | event event => exact (h event he).elim
  | _ => rfl

/-- An event that is not an output's has one signal. -/
theorem handleFrame_eventSignals (halarm : IsSubcmd b .alarmTrouble)
    (hf : self.callbacks.eventFunc = true) (ho : ¬ (alarmOf env b).ReportsOutput) :
    eventSignals (concorddHandleFrame env self b n).out =
      [concorddDbusEventFunc (alarmOf env b)] := by
  have hlog := handleAlarm_log env self (b 2) (b 4) (word24 (b 5) (b 6) (b 7)) (b 8) (b 9)
    (word16 (b 10) (b 11))
  have hkeeps := handleFrame_callbacks env self b n
  rw [handleFrame_of_alarmTrouble halarm] at hkeeps ⊢
  have hon : ¬ (GeRs232AlarmGeneralType.ofByte (b 8) = .systemEvent ∧
      b 9 = geRs232SystemEventOutputOn) := fun h => ho ⟨h.1, .inl h.2⟩
  have hoff : ¬ (GeRs232AlarmGeneralType.ofByte (b 8) = .systemEvent ∧
      b 9 = geRs232SystemEventOutputOff) := fun h => ho ⟨h.1, .inr h.2⟩
  unfold concorddHandleAlarm at hlog hkeeps ⊢
  dsimp only at hlog hkeeps ⊢
  rw [if_neg hon, if_neg hoff] at hlog hkeeps ⊢
  rw [Prod.mk.injEq] at hlog
  dsimp only at hlog hkeeps ⊢
  rw [eventSignals_append,
    eventSignals_of_none fun e => updateLists_undispatched _ _ _ _ _, List.nil_append,
    concorddDispatchEvent, hkeeps, if_pos hf, hlog.1, hlog.2, Function.update_self]
  rfl

/-- Of two frames that are no output's, the signals are the same exactly if the frames say the same
of the event, in whatever states and at whatever times they come. -/
theorem event_signals_iff (h : IsSubcmd b .alarmTrouble) (h' : IsSubcmd b' .alarmTrouble)
    (hf : self.callbacks.eventFunc = true) (hf' : self'.callbacks.eventFunc = true)
    (ho : ¬ (alarmOf env b).ReportsOutput) (ho' : ¬ (alarmOf env' b').ReportsOutput) :
    eventSignals (concorddHandleFrame env self b n).out =
      eventSignals (concorddHandleFrame env' self' b' n').out ↔ SameAlarm b b' := by
  rw [handleFrame_eventSignals h hf ho, handleFrame_eventSignals h' hf' ho', List.cons.injEq]
  exact ⟨fun hs => sameAlarm_of_signal hs.1, fun hs => ⟨signal_of_sameAlarm hs, rfl⟩⟩

/-- A burglar alarm of zone 5 in partition 1. -/
def alarmFrame : Buffer := fun k =>
  if k = 0 then 0x22 else if k = 1 then 0x02 else if k = 2 then 1 else if k = 7 then 5
  else if k = 8 then 1 else if k = 9 then 35 else 0

/-- The same alarm a minute later. -/
theorem event_signals_repeated :
    eventSignals (concorddHandleFrame ⟨0, .ok⟩
        { concorddInit with callbacks := { eventFunc := true } } alarmFrame 12).out =
      eventSignals (concorddHandleFrame ⟨60, .ok⟩
        { concorddInit with callbacks := { eventFunc := true } } alarmFrame 12).out ↔
      SameAlarm alarmFrame alarmFrame :=
  event_signals_iff (by decide +kernel) (by decide +kernel) rfl rfl
    (fun h => absurd h.1 (by decide +kernel)) (fun h => absurd h.1 (by decide +kernel))

end Concordd
