import Concordd.Instance.Toggles
import Concordd.Queue.Fifo

/-! What each command and each frame hands to `ge_queue_message`. -/
namespace Concordd

/-- The keys as one message, where they can be encoded. -/
def keysRequest (partition : ℤ) (keys : List UInt8) (finished : Option ℕ) : Option Unfinished :=
  match pressKeysMessage partition keys with
  | .ok msg => some ⟨msg, finished⟩
  | .error _ => none

/-- A partition in use that is not being programmed. -/
def ConcorddInstance.TakesKeys (self : ConcorddInstance) (partitioni : ℤ) : Prop :=
  ∃ p : Fin 8, partitioni = p.val ∧ (self.partition p).active = true ∧
    (self.partition p).programmingMode = false

instance (self : ConcorddInstance) (partitioni : ℤ) : Decidable (self.TakesKeys partitioni) :=
  inferInstanceAs (Decidable (∃ _, _))

section

variable (self : ConcorddInstance)

def lightRequest (partitioni lighti : ℤ) (state : Bool) (finished : Option ℕ) :
    Option Unfinished :=
  if self.refreshPending = false ∧ self.TakesKeys partitioni ∧ 0 ≤ lighti ∧ lighti ≤ 9 then
    keysRequest partitioni (setLightKeys lighti state) finished
  else none

/-- The user's code, where the user is in use and has one. -/
def bypassCode (useri : ℤ) : Option (Fin 7 → UInt8) :=
  match concorddGetUser (if useri = -1 then geRs232UserSystem else useri) with
  | none => none
  | some u =>
    if (self.user u).active = true ∧ (self.user u).codeStr 0 ≠ 0 then some (self.user u).codeStr
    else none

def bypassRequest (zonei : ℤ) (bypass : Bool) (useri : ℤ) (finished : Option ℕ) :
    Option Unfinished :=
  match concorddGetZone zonei, bypassCode self useri with
  | some z, some codeStr =>
    if self.refreshPending = false ∧ (self.zone z).active = true ∧
        self.TakesKeys (self.zone z).partitionId.toNat ∧
        zoneBypassed (self.zone z).zoneState ≠ bypass then
      keysRequest (self.zone z).partitionId.toNat (zoneBypassKeys codeStr z) finished
    else none
  | _, _ => none

def outputRequest (outputi : ℤ) (state : Bool) (finished : Option ℕ) : Option Unfinished :=
  match concorddGetOutput outputi with
  | none => none
  | some o =>
    if self.refreshPending = false ∧ (self.output o).active = true ∧
        (self.output o).outputState ≠ (if state then 1 else 0) ∧
        (self.partition 1).programmingMode = false then
      keysRequest 1 (setOutputKeys outputi) finished
    else none

/-- The level differs from the partition's, or disarming it would end something. -/
def ConcorddPartition.Rearms (partition : ConcorddPartition) (armLevel : ℤ) : Prop :=
  (partition.armLevel.toNat : ℤ) ≠ armLevel ∨ partition.sirenIsOn ∨
    (partition.entryDelayActive = true ∧ armLevel = 1)

instance (partition : ConcorddPartition) (armLevel : ℤ) : Decidable (partition.Rearms armLevel) :=
  inferInstanceAs (Decidable (_ ∨ _))

def armLevelRequest (partitioni armLevel : ℤ) (finished : Option ℕ) : Option Unfinished :=
  match concorddGetPartition partitioni, armLevelKeys armLevel with
  | some p, some keys =>
    if self.TakesKeys partitioni ∧ (self.partition p).Rearms armLevel ∧
        ¬ ((self.partition p).sirenIsOn ∧ armLevel ≠ 1) then
      keysRequest partitioni keys finished
    else none
  | _, _ => none

/-- The message a command hands over, if it gets that far. -/
def DaemonStep.request : DaemonStep → Option Unfinished
  | .refresh finished => some ⟨[geRs232AtpEquipListRequest], finished⟩
  | .dynamicDataRefresh finished => some ⟨[geRs232AtpDynamicDataRefresh], finished⟩
  | .pressKeys partition keys finished => keysRequest partition keys finished
  | .setLight partition light state finished => lightRequest self partition light state finished
  | .setZoneBypass zone bypass user finished => bypassRequest self zone bypass user finished
  | .setOutput output state finished => outputRequest self output state finished
  | .setArmLevel partition armLevel finished => armLevelRequest self partition armLevel finished
  | _ => none

end

/-- The message a frame makes the instance hand over. -/
def frameRequest (frameBytes : Buffer) : Option Unfinished :=
  match GeRs232Pta.ofByte (frameBytes 0) with
  | .clearAutomationDynamicImage => some ⟨[geRs232AtpEquipListRequest], none⟩
  | .equipListComplete => some ⟨[geRs232AtpDynamicDataRefresh], none⟩
  | _ => none

variable {env : Env} {self : ConcorddInstance} {frameBytes : Buffer} {frameLen : ℕ} {s : Daemon}
  {i : DaemonStep}

/-! Commands. -/

/-- The command hands the request to the queue; without one it answers with an error of its
own. -/
def Asks (env : Env) (self : ConcorddInstance) (r : Outcome ConcorddInstance InstanceEvent) :
    Option Unfinished → Prop
  | some m => r = concorddQueueMessage env self m.data m.finished
  | none => ∃ status, status ≠ .ok ∧ status ≠ .queueFull ∧ r = concorddReject self status

theorem asks_reject {status : GeRs232Status} (h : status ≠ .ok ∧ status ≠ .queueFull) :
    Asks env self (concorddReject self status) none := ⟨status, h.1, h.2, rfl⟩

theorem asks_guard {c : Prop} [Decidable c] {status : GeRs232Status}
    {r : Outcome ConcorddInstance InstanceEvent} {m : Option Unfinished}
    (hs : status ≠ .ok ∧ status ≠ .queueFull) (hc : c → m = none) (h : ¬ c → Asks env self r m) :
    Asks env self (if c then concorddReject self status else r) m := by
  split
  · next hyes =>
    rw [hc hyes]
    exact asks_reject hs
  · next hno => exact h hno

theorem pressKeys_asks (env : Env) (self : ConcorddInstance) (partition : ℤ) (keys : List UInt8)
    (finished : Option ℕ) :
    Asks env self (concorddPressKeys env self partition keys finished)
      (keysRequest partition keys finished) := by
  unfold keysRequest
  rcases pressKeys_cases env self partition keys finished with ⟨msg, hm, hr⟩ | ⟨hm, hr⟩
  · rw [hm, hr]
    exact rfl
  · rw [hm, hr]
    exact asks_reject (by decide)

theorem takesKeys_of_get (self : ConcorddInstance) {k : ℤ} {p : Fin 8}
    (h : concorddGetPartition k = some p) :
    self.TakesKeys k ↔
      (self.partition p).active = true ∧ (self.partition p).programmingMode = false := by
  obtain rfl := tableIndex_eq_some.mp h
  constructor
  · rintro ⟨q, hq, ha, hm⟩
    obtain rfl : p = q := Fin.ext (by exact_mod_cast hq)
    exact ⟨ha, hm⟩
  · rintro ⟨ha, hm⟩
    exact ⟨p, rfl, ha, hm⟩

theorem not_takesKeys_of_get (self : ConcorddInstance) {k : ℤ} (h : concorddGetPartition k = none) :
    ¬ self.TakesKeys k := by
  rintro ⟨p, rfl, -⟩
  rw [getPartition_of_eq rfl] at h
  cases h

/-- The two tests a command makes of the partition it has found. -/
theorem asks_partition {k : ℤ} {p : Fin 8} {r : Outcome ConcorddInstance InstanceEvent}
    {m : Option Unfinished} (hp : concorddGetPartition k = some p)
    (hno : ¬ self.TakesKeys k → m = none) (h : self.TakesKeys k → Asks env self r m) :
    Asks env self
      (if ¬ (self.partition p).active then concorddReject self .invalidArgument
      else if (self.partition p).programmingMode then concorddReject self .error
      else r) m := by
  have hkeys := takesKeys_of_get self hp
  apply asks_guard (by decide)
  · intro ha
    exact hno fun hk => ha (hkeys.mp hk).1
  intro ha
  apply asks_guard (by decide)
  · intro hm
    exact hno fun hk => Bool.false_ne_true ((hkeys.mp hk).2.symm.trans hm)
  intro hm
  exact h (hkeys.mpr ⟨not_not.mp ha, eq_false_of_ne_true hm⟩)

/-- The tests a bypass makes of its user. -/
theorem asks_bypassCode (useri : ℤ)
    {r : (Fin 7 → UInt8) → Outcome ConcorddInstance InstanceEvent} {m : Option Unfinished}
    (hno : bypassCode self useri = none → m = none)
    (h : ∀ codeStr, bypassCode self useri = some codeStr → Asks env self (r codeStr) m) :
    Asks env self
      (match concorddGetUser (if useri = -1 then geRs232UserSystem else useri) with
      | none => concorddReject self .invalidArgument
      | some u =>
        if ¬ (self.user u).active then concorddReject self .invalidArgument
        else if (self.user u).codeStr 0 = 0 then concorddReject self .error
        else r (self.user u).codeStr) m := by
  unfold bypassCode at hno h
  cases hu : concorddGetUser (if useri = -1 then geRs232UserSystem else useri) with
  | none =>
    rw [hu] at hno
    rw [hno rfl]
    exact asks_reject (by decide)
  | some u =>
    simp only [hu] at hno h
    dsimp only
    apply asks_guard (by decide)
    · intro ha
      exact hno (if_neg fun hall => ha hall.1)
    intro ha
    apply asks_guard (by decide)
    · intro hcode
      exact hno (if_neg fun hall => hall.2 hcode)
    intro hcode
    exact h _ (if_pos ⟨not_not.mp ha, hcode⟩)

theorem setLight_asks (env : Env) (self : ConcorddInstance) (partitioni lighti : ℤ)
    (state : Bool) (finished : Option ℕ) :
    Asks env self (concorddSetLight env self partitioni lighti state finished)
      (lightRequest self partitioni lighti state finished) := by
  unfold concorddSetLight
  apply asks_guard (by decide)
  · intro hpending
    simp [lightRequest, hpending]
  intro hpending
  cases hp : concorddGetPartition partitioni with
  | none =>
    have hkeys := not_takesKeys_of_get self hp
    simp only [lightRequest, hkeys, false_and, and_false, if_false]
    exact asks_reject (by decide)
  | some p =>
    dsimp only
    apply asks_partition hp
    · intro hkeys
      simp [lightRequest, hkeys]
    intro hkeys
    apply asks_guard (by decide)
    · intro hl
      refine if_neg ?_
      rintro ⟨-, -, h0, h9⟩
      omega
    intro hl
    have hall : self.refreshPending = false ∧ self.TakesKeys partitioni ∧
        0 ≤ lighti ∧ lighti ≤ 9 :=
      ⟨by simpa using hpending, hkeys, by omega, by omega⟩
    rw [lightRequest, if_pos hall]
    exact pressKeys_asks ..

theorem setOutput_asks (env : Env) (self : ConcorddInstance) (outputi : ℤ) (state : Bool)
    (finished : Option ℕ) :
    Asks env self (concorddSetOutput env self outputi state finished)
      (outputRequest self outputi state finished) := by
  unfold concorddSetOutput outputRequest
  apply asks_guard (by decide)
  · intro hpending
    cases concorddGetOutput outputi <;> simp [hpending]
  intro hpending
  cases concorddGetOutput outputi with
  | none => exact asks_reject (by decide)
  | some o =>
    dsimp only
    apply asks_guard (by decide)
    · intro ha
      simp [ha]
    intro ha
    apply asks_guard (by decide)
    · intro hsame
      simp [hsame]
    intro hsame
    apply asks_guard (by decide)
    · intro hm
      simp [hm]
    intro hm
    rw [if_pos ⟨by simpa using hpending, by simpa using ha, hsame, by simpa using hm⟩]
    exact pressKeys_asks ..

theorem setZoneBypass_asks (env : Env) (self : ConcorddInstance) (zonei : ℤ) (bypass : Bool)
    (useri : ℤ) (finished : Option ℕ) :
    Asks env self (concorddSetZoneBypass env self zonei bypass useri finished)
      (bypassRequest self zonei bypass useri finished) := by
  unfold concorddSetZoneBypass bypassRequest
  apply asks_guard (by decide)
  · intro hpending
    cases concorddGetZone zonei <;> cases bypassCode self useri <;> simp [hpending]
  intro hpending
  cases concorddGetZone zonei with
  | none => exact asks_reject (by decide)
  | some z =>
    dsimp only
    apply asks_guard (by decide)
    · intro ha
      cases bypassCode self useri <;> simp [ha]
    intro ha
    cases hp : concorddGetPartition (self.zone z).partitionId.toNat with
    | none =>
      have hkeys := not_takesKeys_of_get self hp
      cases bypassCode self useri <;> simp [hkeys] <;> exact asks_reject (by decide)
    | some p =>
      dsimp only
      apply asks_partition hp
      · intro hkeys
        cases bypassCode self useri <;> simp [hkeys]
      intro hkeys
      apply asks_guard (by decide)
      · intro hsame
        cases bypassCode self useri with
        | none => rfl
        | some codeStr =>
          refine if_neg ?_
          rintro ⟨-, -, -, hne⟩
          exact hne hsame
      intro hsame
      have hall : self.refreshPending = false ∧ (self.zone z).active = true ∧
          self.TakesKeys (self.zone z).partitionId.toNat ∧
          zoneBypassed (self.zone z).zoneState ≠ bypass :=
        ⟨by simpa using hpending, by simpa using ha, hkeys, hsame⟩
      apply asks_bypassCode useri (r := fun codeStr =>
        concorddPressKeys env self (self.zone z).partitionId.toNat (zoneBypassKeys codeStr z)
          finished)
      · intro hcode
        rw [hcode]
      · intro codeStr hcode
        rw [hcode]
        dsimp only
        rw [if_pos hall]
        exact pressKeys_asks ..

theorem setArmLevel_asks (env : Env) (self : ConcorddInstance) (partitioni armLevel : ℤ)
    (finished : Option ℕ) :
    Asks env self (concorddSetArmLevel env self partitioni armLevel finished)
      (armLevelRequest self partitioni armLevel finished) := by
  unfold concorddSetArmLevel armLevelRequest
  cases hp : concorddGetPartition partitioni with
  | none => exact asks_reject (by decide)
  | some p =>
    have hkeys := takesKeys_of_get self hp
    dsimp only
    apply asks_guard (by decide)
    · intro ha
      cases armLevelKeys armLevel <;> simp [hkeys, ha]
    intro ha
    apply asks_guard (by decide)
    · intro hs
      cases armLevelKeys armLevel <;> simp [hs]
    intro hs
    split
    · next hr =>
      have hr : (self.partition p).Rearms armLevel := hr
      apply asks_guard (by decide)
      · intro hm
        cases armLevelKeys armLevel <;> simp [hkeys, hm]
      intro hm
      cases armLevelKeys armLevel with
      | none => exact asks_reject (by decide)
      | some keys =>
        dsimp only
        rw [if_pos ⟨hkeys.mpr ⟨by simpa using ha, by simpa using hm⟩, hr, hs⟩]
        exact pressKeys_asks ..
    · next hr =>
      have hr : ¬ (self.partition p).Rearms armLevel := hr
      cases armLevelKeys armLevel <;> simp [hr] <;> exact asks_reject (by decide)

/-- The commands that can hand a message over. -/
def DaemonStep.IsCommand : DaemonStep → Prop
  | .refresh _ | .dynamicDataRefresh _ | .pressKeys _ _ _ | .setLight _ _ _ _
  | .setZoneBypass _ _ _ _ | .setOutput _ _ _ | .setArmLevel _ _ _ => True
  | _ => False

/-- What the command asks for is decided by the tables before it. A refresh has deactivated
them when it asks. -/
theorem step_asks (s : Daemon) (h : i.IsCommand) :
    ∃ self r, self.geQueue = s.inst.geQueue ∧ Asks s.env self r (i.request s.inst) ∧
      daemonMachine.step s i = s.command i r := by
  cases i with
  | refresh finished => exact ⟨concorddDeactivate s.inst, _, rfl, rfl, rfl⟩
  | dynamicDataRefresh finished => exact ⟨s.inst, _, rfl, rfl, rfl⟩
  | pressKeys => exact ⟨s.inst, _, rfl, pressKeys_asks .., rfl⟩
  | setLight => exact ⟨s.inst, _, rfl, setLight_asks .., rfl⟩
  | setZoneBypass => exact ⟨s.inst, _, rfl, setZoneBypass_asks .., rfl⟩
  | setOutput => exact ⟨s.inst, _, rfl, setOutput_asks .., rfl⟩
  | setArmLevel => exact ⟨s.inst, _, rfl, setArmLevel_asks .., rfl⟩
  | _ => exact h.elim

/-! The callback of a request is the one the command was given. -/

def DaemonStep.finished : DaemonStep → Option ℕ
  | .refresh finished | .dynamicDataRefresh finished | .pressKeys _ _ finished
  | .setLight _ _ _ finished | .setZoneBypass _ _ _ finished | .setOutput _ _ finished
  | .setArmLevel _ _ finished => finished
  | _ => none

theorem guarded_finished {c : Prop} [Decidable c] {partition : ℤ} {keys : List UInt8}
    {finished : Option ℕ} {m : Unfinished}
    (h : (if c then keysRequest partition keys finished else none) = some m) :
    m.finished = finished := by
  by_cases hc : c
  · rw [if_pos hc] at h
    unfold keysRequest at h
    split at h
    · obtain rfl := Option.some.inj h
      rfl
    · cases h
  · rw [if_neg hc] at h
    cases h

theorem request_finished {m : Unfinished} (h : i.request self = some m) :
    m.finished = i.finished := by
  cases i with
  | refresh finished =>
    obtain rfl := Option.some.inj h
    rfl
  | dynamicDataRefresh finished =>
    obtain rfl := Option.some.inj h
    rfl
  | pressKeys partition keys finished =>
    exact guarded_finished (c := True) (by rw [if_pos trivial]; exact h)
  | setLight partition light state finished => exact guarded_finished h
  | setZoneBypass zone bypass user finished =>
    simp only [DaemonStep.request, bypassRequest] at h
    split at h
    · exact guarded_finished h
    · cases h
  | setOutput output state finished =>
    simp only [DaemonStep.request, outputRequest] at h
    cases ho : concorddGetOutput output with
    | none =>
      rw [ho] at h
      cases h
    | some o =>
      rw [ho] at h
      exact guarded_finished h
  | setArmLevel partition armLevel finished =>
    simp only [DaemonStep.request, armLevelRequest] at h
    split at h
    · exact guarded_finished h
    · cases h
  | _ => cases h

theorem frameRequest_finished {b : Buffer} {r : Unfinished} (h : frameRequest b = some r) :
    r.finished = none := by
  unfold frameRequest at h
  split at h
  · obtain rfl := Option.some.inj h
    rfl
  · obtain rfl := Option.some.inj h
    rfl
  · cases h

end Concordd
