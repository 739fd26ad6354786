import Concordd.Instance.Effects
import Concordd.Instance.Runs

/-! Outputs and zone bypasses, which the panel toggles: what a request finds stored, what the
frames report, and a panel in the loop. -/
namespace Concordd

/-- What `concordd_set_output` or `concordd_set_zone_bypass` switches. -/
inductive Switch
  | output (o : Fin 71)
  | bypass (z : Fin 96)
  deriving DecidableEq

/-- The state a step asks for. -/
def Switch.request : Switch → DaemonStep → Option Bool
  | .output o, .setOutput outputi state _ => if outputi = o.val then some state else none
  | .bypass z, .setZoneBypass zonei state _ _ => if zonei = z.val then some state else none
  | _, _ => none

instance (frameBytes : Buffer) (o : Fin 71) (state : UInt8) :
    Decidable (ReportsOutput frameBytes o state) :=
  inferInstanceAs (Decidable (_ ∧ _ ∧ _ ∧ (_ ∨ _)))

def zoneBypassed (zoneState : UInt8) : Bool :=
  zoneState &&& geRs232ZoneStatusBypassed == geRs232ZoneStatusBypassed

/-- The state a frame reports. -/
def Switch.report : Switch → Buffer → Option Bool
  | .output o, frameBytes =>
    if ReportsOutput frameBytes o 1 then some true
    else if ReportsOutput frameBytes o 0 then some false
    else if IsPta frameBytes .equipListOutputData ∧ (frameBytes 2 &&& ~~~ 0x40).toNat = o.val then
      some (frameBytes 3 &&& 1 = 1)
    else none
  | .bypass z, frameBytes =>
    if IsPta frameBytes .zoneStatus ∧ (word16 (frameBytes 3) (frameBytes 4)).toNat = z.val then
      some (zoneBypassed (frameBytes 5))
    else if IsPta frameBytes .equipListZoneData ∧
        (word16 (frameBytes 4) (frameBytes 5)).toNat = z.val then
      some (zoneBypassed (frameBytes 7))
    else none

/-- The instance has stored that the switch is in state `x`. -/
def Switch.Holds : Switch → ConcorddInstance → Bool → Prop
  | .output o, self, x => (self.output o).outputState = if x then 1 else 0
  | .bypass z, self, x => zoneBypassed (self.zone z).zoneState = x

variable {env : Env} {self : ConcorddInstance} {frameBytes : Buffer} {frameLen : ℕ} {w : Switch}
  {x known : Bool}

/-! What is stored is what was last reported. -/

theorem OutputUpdate.outputState {o : Fin 71} {old new : ConcorddOutput}
    (h : OutputUpdate env frameBytes frameLen o old new)
    (hreport : (Switch.output o).report frameBytes = none) : new.outputState = old.outputState := by
  simp only [Switch.report] at hreport
  cases h with
  | reported state h source =>
    have hs := h.2.2.2
    split_ifs at hreport with hon hoff
    rcases hs with ⟨-, rfl⟩ | ⟨-, rfl⟩
    · exact (hon h).elim
    · exact (hoff h).elim
  | data h hi =>
    simp only [h, hi, and_self, if_true] at hreport
    split_ifs at hreport
  | keep | deactivated => rfl

theorem ZoneUpdate.zoneState {z : Fin 96} {old new : ConcorddZone}
    (h : ZoneUpdate env frameBytes frameLen z old new)
    (hreport : (Switch.bypass z).report frameBytes = none) : new.zoneState = old.zoneState := by
  simp only [Switch.report] at hreport
  cases h with
  | status h hi tripped changed => simp [h, hi] at hreport
  | data h hi =>
    simp only [h, hi, and_self, if_true] at hreport
    split_ifs at hreport
  | keep | keyfob | deactivated => rfl

theorem holds_init (w : Switch) : w.Holds concorddInit false := by
  cases w with
  | output o => rfl
  | bypass z =>
    change zoneBypassed 0 = false
    decide

theorem and_one_eq (b : UInt8) : b &&& 1 = if b &&& 1 = 1 then 1 else 0 := by
  revert b
  decide +kernel

/-- A frame whose texts fit stores the state it reports, and no other touches what is stored. -/
theorem holds_handleFrame (hf : CopiesFit frameBytes frameLen) (h : w.Holds self known) :
    w.Holds (concorddHandleFrame env self frameBytes frameLen).state
      ((w.report frameBytes).getD known) := by
  cases hr : w.report frameBytes with
  | none =>
    cases w with
    | output o =>
      obtain ⟨entry, hu, hnew⟩ := handleFrame_outputState env self hf o
      exact (hnew.trans (hu.outputState hr)).trans h
    | bypass z =>
      have hkeep := (handleFrame_zone env self hf z).zoneState hr
      exact (congrArg zoneBypassed hkeep).trans h
  | some y =>
    cases w with
    | output o =>
      simp only [Switch.report] at hr
      split_ifs at hr with hon hoff hdata
      · obtain rfl := Option.some.inj hr
        exact handleFrame_outputReported hon
      · obtain rfl := Option.some.inj hr
        exact handleFrame_outputReported hoff
      · obtain rfl := Option.some.inj hr
        have hfit := hf.2.2 hdata.1 (by omega)
        refine (handleFrame_outputData hdata.1 hdata.2 hfit.2).trans ?_
        simpa using and_one_eq (frameBytes 3)
    | bypass z =>
      simp only [Switch.report] at hr
      split_ifs at hr with hstatus hdata
      · obtain rfl := Option.some.inj hr
        exact congrArg zoneBypassed (handleFrame_zoneStatus hstatus.1 hstatus.2)
      · obtain rfl := Option.some.inj hr
        have hfit := hf.2.1 hdata.1 (by omega)
        exact congrArg zoneBypassed (handleFrame_zoneData hdata.1 hdata.2 hfit.2)

/-! What a request answers. -/

/-- The request has handed its key sequence to `ge_queue_message`, which also stores what it
rejects. -/
def Toggles (status : GeRs232Status) : Prop := status = .ok ∨ status = .queueFull

instance (status : GeRs232Status) : Decidable (Toggles status) :=
  inferInstanceAs (Decidable (_ ∨ _))

/-- The request is refused, or finds the state there already, or hands its keys to
`concordd_press_keys`. -/
def Requests (env : Env) (self : ConcorddInstance) (same : Prop) (finished : Option ℕ)
    (r : Outcome ConcorddInstance InstanceEvent) : Prop :=
  (∃ status, ¬ Toggles status ∧ status ≠ .already ∧ r = concorddReject self status) ∨
    (same ∧ r = concorddReject self .already) ∨
    ¬ same ∧ ∃ partition keys, r = concorddPressKeys env self partition keys finished

theorem not_toggles_already : ¬ Toggles .already := by decide

theorem not_toggles_error : ¬ Toggles .error := by decide

theorem requests_reject {same : Prop} {finished : Option ℕ} {status : GeRs232Status}
    (h : ¬ Toggles status ∧ status ≠ .already) :
    Requests env self same finished (concorddReject self status) :=
  .inl ⟨status, h.1, h.2, rfl⟩

theorem requests_guard {same c : Prop} [Decidable c] {finished : Option ℕ} {status : GeRs232Status}
    {r : Outcome ConcorddInstance InstanceEvent} (hs : ¬ Toggles status ∧ status ≠ .already)
    (h : Requests env self same finished r) :
    Requests env self same finished (if c then concorddReject self status else r) := by
  split
  · exact requests_reject hs
  · exact h

theorem requests_same {same : Prop} [Decidable same] {finished : Option ℕ}
    {r : Outcome ConcorddInstance InstanceEvent}
    (h : ¬ same → Requests env self same finished r) :
    Requests env self same finished (if same then concorddReject self .already else r) := by
  split
  · next hsame => exact .inr (.inl ⟨hsame, rfl⟩)
  · next hsame => exact h hsame

theorem setOutput_requests (env : Env) (self : ConcorddInstance) (o : Fin 71) (state : Bool)
    (finished : Option ℕ) :
    Requests env self ((self.output o).outputState = if state then 1 else 0) finished
      (concorddSetOutput env self o state finished) := by
  unfold concorddSetOutput
  rw [show concorddGetOutput o = some o from getOutput_of_eq rfl]
  -- a refresh is pending, or the output is not in use
  apply requests_guard (by decide)
  apply requests_guard (by decide)
  apply requests_same
  intro hsame
  apply requests_guard (by decide)
  exact .inr (.inr ⟨hsame, _, _, rfl⟩)

theorem setZoneBypass_requests (env : Env) (self : ConcorddInstance) (z : Fin 96) (bypass : Bool)
    (useri : ℤ) (finished : Option ℕ) :
    Requests env self (zoneBypassed (self.zone z).zoneState = bypass) finished
      (concorddSetZoneBypass env self z bypass useri finished) := by
  unfold concorddSetZoneBypass
  rw [show concorddGetZone z = some z from getZone_of_eq rfl]
  -- a refresh is pending, or the zone is not in use
  apply requests_guard (by decide)
  apply requests_guard (by decide)
  cases concorddGetPartition (self.zone z).partitionId.toNat with
  | none => exact requests_reject (by decide)
  | some p =>
    apply requests_guard (by decide)
    apply requests_guard (by decide)
    apply requests_same
    intro hsame
    cases concorddGetUser (if useri = -1 then geRs232UserSystem else useri) with
    | none => exact requests_reject (by decide)
    | some u =>
      -- the user is not in use, or has no code
      apply requests_guard (by decide)
      apply requests_guard (by decide)
      exact .inr (.inr ⟨hsame, _, _, rfl⟩)

/-- A request that toggles hands one message to the queue and changes nothing else. -/
theorem Requests.toggles {same : Prop} {finished : Option ℕ}
    {r : Outcome ConcorddInstance InstanceEvent} (h : Requests env self same finished r)
    (ht : Toggles r.status) :
    ¬ same ∧ ∃ msg, r = concorddQueueMessage env self msg finished := by
  rcases h with ⟨status, hs, -, rfl⟩ | ⟨-, rfl⟩ | ⟨hsame, partition, keys, rfl⟩
  · exact (hs ht).elim
  · exact (not_toggles_already ht).elim
  · refine ⟨hsame, ?_⟩
    rcases pressKeys_cases env self partition keys finished with ⟨msg, -, hr⟩ | ⟨-, hr⟩
    · exact ⟨msg, hr⟩
    · rw [hr] at ht
      exact (not_toggles_error ht).elim

theorem Requests.already {same : Prop} {finished : Option ℕ}
    {r : Outcome ConcorddInstance InstanceEvent} (h : Requests env self same finished r)
    (ha : r.status = .already) : same := by
  rcases h with ⟨status, -, hs, rfl⟩ | ⟨hsame, -⟩ | ⟨-, partition, keys, rfl⟩
  · exact (hs ha).elim
  · exact hsame
  · rcases pressKeys_cases env self partition keys finished with ⟨msg, -, hr⟩ | ⟨-, hr⟩
    · rw [hr] at ha
      rcases queueMessage_status env self msg finished with hs | hs <;>
        rw [hs] at ha <;> cases ha
    · rw [hr] at ha
      cases ha

/-- In an instance that stores `known`, a request for `x` toggles only if the two differ, and
finds the state there already only if they do not. -/
def Switch.Answers (w : Switch) (known : Bool) : DaemonEvent → Prop
  | .returns i status => ∀ x, w.request i = some x →
      (Toggles status → known = !x) ∧ (status = .already → known = x)
  | _ => True

theorem Switch.request_eq_some {w : Switch} {i : DaemonStep} {x : Bool} :
    w.request i = some x ↔
      (∃ (o : Fin 71) (finished : Option ℕ), w = .output o ∧ i = .setOutput o x finished) ∨
      ∃ (z : Fin 96) (user : ℤ) (finished : Option ℕ),
        w = .bypass z ∧ i = .setZoneBypass z x user finished := by
  constructor
  · intro h
    cases w with
    | output o =>
      cases i with
      | setOutput output state finished =>
        simp only [Switch.request] at h
        split_ifs at h with ho
        obtain rfl := Option.some.inj h
        exact .inl ⟨o, finished, rfl, by rw [ho]⟩
      | _ => cases h
    | bypass z =>
      cases i with
      | setZoneBypass zone state user finished =>
        simp only [Switch.request] at h
        split_ifs at h with hz
        obtain rfl := Option.some.inj h
        exact .inr ⟨z, user, finished, rfl, by rw [hz]⟩
      | _ => cases h
  · rintro (⟨o, finished, rfl, rfl⟩ | ⟨z, user, finished, rfl, rfl⟩) <;>
      simp [Switch.request]

theorem Requests.answers {same : Prop} {finished : Option ℕ}
    {r : Outcome ConcorddInstance InstanceEvent} (h : Requests env self same finished r)
    (hsame : same ↔ known = x) :
    (Toggles r.status → known = !x) ∧ (r.status = .already → known = x) := by
  constructor
  · intro ht
    have hne : ¬ known = x := fun he => (h.toggles ht).1 (hsame.mpr he)
    revert hne
    cases known <;> cases x <;> decide
  · intro ha
    exact hsame.mp (h.already ha)

variable {s : Daemon} {i : DaemonStep}

theorem returns_of_quiet {j : DaemonStep} {status : GeRs232Status} {out : List DaemonEvent}
    (h : Quiet i out) (hm : .returns j status ∈ out) : j = i := by
  rcases h with ⟨events, rfl | ⟨status', rfl⟩⟩
  · simp [linkCalls] at hm
  · simp [linkCalls] at hm
    exact hm.1

theorem returns_command {r : Outcome ConcorddInstance InstanceEvent} {j : DaemonStep}
    {status : GeRs232Status} (hm : .returns j status ∈ (s.command i r).2) :
    j = i ∧ status = r.status := by
  simpa [Daemon.command] using hm

theorem step_returns {j : DaemonStep} {status : GeRs232Status}
    (hm : .returns j status ∈ (daemonMachine.step s i).2) : j = i := by
  rcases daemon_step_cases s i with ⟨q, callbacks, env, -, ho⟩ | ⟨q, -, ho⟩ |
    ⟨q, b, n, events, -, ho⟩
  · exact returns_of_quiet ho hm
  · exact returns_of_quiet ho hm
  · rw [ho] at hm
    simp [linkCalls, Daemon.handle] at hm

theorem step_answers (h : w.Holds s.inst known) {e : DaemonEvent}
    (he : e ∈ (daemonMachine.step s i).2) : w.Answers known e := by
  cases e with
  | calls | handleFrame => trivial
  | returns j status =>
    obtain rfl := step_returns he
    intro x hx
    rcases Switch.request_eq_some.mp hx with ⟨o, finished, rfl, rfl⟩ | ⟨z, user, finished, rfl, rfl⟩
    · obtain ⟨-, rfl⟩ := returns_command he
      refine (setOutput_requests s.env s.inst o x finished).answers ?_
      have h : (s.inst.output o).outputState = if known then 1 else 0 := h
      rw [h]
      cases known <;> cases x <;> decide
    · obtain ⟨-, rfl⟩ := returns_command he
      refine (setZoneBypass_requests s.env s.inst z x user finished).answers ?_
      have h : zoneBypassed (s.inst.zone z).zoneState = known := h
      rw [h]

end Concordd
