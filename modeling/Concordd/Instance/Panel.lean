import Concordd.Instance.Toggles

/-! A panel that toggles a switch on every key sequence for it, in the loop with the daemon. -/
namespace Concordd

variable {w : Switch} {known v : Bool} {s : Daemon} {i : DaemonStep} {e : DaemonEvent}
  {out : List DaemonEvent}

/-- Keeps the state last reported for the switch, and expects the requests to be answered by it. -/
def reportWatch (w : Switch) : Monitor Bool DaemonEvent where
  next known
    | .handleFrame frameBytes _ => (w.report frameBytes).getD known
    | _ => known
  Allows := w.Answers

theorem reportWatch_next (h : NoFrame [e]) : (reportWatch w).next known e = known := by
  cases e with
  | handleFrame b n => exact (h b n List.mem_cons_self).elim
  | calls | returns => rfl

theorem holds_step (h : w.Holds s.inst known) (hf : FramesFit s i) :
    w.Holds (daemonMachine.step s i).1.inst
      ((reportWatch w).after known (daemonMachine.step s i).2) := by
  refine frames_step (m := reportWatch w) (P := fun s known => w.Holds s.inst known)
    (G := fun _ b n => CopiesFit b n) ?_ ?_ ?_ ?_ h hf
  · intro t e he
    exact reportWatch_next he
  · intro s t q callbacks env h
    cases w <;> exact h
  · intro s t h
    cases w <;> exact h
  · rintro s t b n h ⟨q, hf⟩
    exact holds_handleFrame hf h

theorem accepts_of_noFrame (hn : NoFrame out) (h : ∀ e ∈ out, w.Answers known e) :
    (reportWatch w).Accepts known out := by
  induction out with
  | nil => trivial
  | cons e out ih =>
    refine ⟨h e List.mem_cons_self, ?_⟩
    rw [reportWatch_next fun b n hm => hn b n (List.mem_singleton.mp hm ▸ List.mem_cons_self)]
    exact ih (fun b n hm => hn b n (List.mem_cons_of_mem e hm))
      fun e' he => h e' (List.mem_cons_of_mem e he)

theorem accepts_calls (events : List InstanceEvent) :
    (reportWatch w).Accepts known (events.map .calls) := by
  apply accepts_of_noFrame (noFrame_calls events)
  intro e he
  obtain ⟨event, -, rfl⟩ := List.mem_map.mp he
  trivial

theorem step_accepts (h : w.Holds s.inst known) :
    (reportWatch w).Accepts known (daemonMachine.step s i).2 := by
  rcases daemon_step_cases s i with ⟨q, callbacks, env, -, ho⟩ | ⟨q, -, ho⟩ |
    ⟨q, b, n, events, -, ho⟩
  · exact accepts_of_noFrame ho.noFrame fun e he => step_answers h he
  · exact accepts_of_noFrame ho.noFrame fun e he => step_answers h he
  · rw [ho, Monitor.accepts_append]
    exact ⟨accepts_calls _, trivial, accepts_calls _⟩

/-- In every run whose texts fit, the state last reported decides what a request can do. -/
theorem requests_follow (w : Switch) (env : Env) {is : List DaemonStep}
    (hfit : daemonMachine.Along FramesFit (daemonInit env) is) :
    (reportWatch w).Accepts false (daemonMachine.trace (daemonInit env) is) := by
  apply Monitor.accepts_of_inv (P := FramesFit) (I := fun s => w.Holds s.1.inst s.2)
  · intro s i h hf
    exact ⟨step_accepts h, holds_step h hf⟩
  · exact holds_init w
  · exact hfit

/-! The panel. -/

/-- One switch as the panel has it. `waiting` counts the key sequences it has yet to execute,
`sent` the ones enqueued since its last report; `reported` says that it has reported since it
last executed one, and `settled` that a request has toggled the switch or found it as asked. -/
structure Panel where
  on : Bool
  known : Bool := false
  waiting : ℕ := 0
  reported : Bool := false
  sent : ℕ := 0
  settled : Bool := false
  deriving DecidableEq

def Panel.execute (t : Panel) : Panel :=
  if t.waiting = 0 then t
  else { t with on := !t.on, waiting := t.waiting - 1, reported := false }

def Panel.answered (t : Panel) (status : GeRs232Status) : Panel :=
  if Toggles status then { t with waiting := t.waiting + 1, sent := t.sent + 1, settled := true }
  else if status = .already then { t with settled := true }
  else t

/-- Follows the daemon for one switch, and expects its reports to be true. -/
def panelWatch (w : Switch) : Monitor Panel DaemonEvent where
  next t
    | .handleFrame frameBytes _ =>
      match w.report frameBytes with
      | some x => { t with known := x, reported := true, sent := 0 }
      | none => t
    | .returns i status => if w.request i = none then t else t.answered status
    | .calls _ => t
  Allows t
    | .handleFrame frameBytes _ => ∀ x, w.report frameBytes = some x → x = t.on
    | _ => True

inductive LoopStep
  | daemon (i : DaemonStep)
  | execute

def loopMachine (w : Switch) : Machine (Daemon × Panel) LoopStep DaemonEvent where
  step s
    | .daemon i => ((panelWatch w).watch daemonMachine).step s i
    | .execute => ((s.1, s.2.execute), [])

def loopInit (env : Env) (on : Bool) : Daemon × Panel := (daemonInit env, { on })

/-- Every text the daemon stores fits. -/
def LoopFits (s : Daemon × Panel) : LoopStep → Prop
  | .daemon i => FramesFit s.1 i
  | .execute => True

/-- The panel reports truly, and every request for the switch is for `v`. -/
def AsksFor (w : Switch) (v : Bool) (s : Daemon × Panel) : LoopStep → Prop
  | .daemon i => (panelWatch w).Accepts s.2 (daemonMachine.step s.1 i).2 ∧
      ∀ x, w.request i = some x → x = v
  | .execute => True

/-- A request is made only after the earlier ones are executed and the result is reported. -/
def InTurn (w : Switch) (s : Daemon × Panel) : LoopStep → Prop
  | .daemon i => w.request i ≠ none → s.2.waiting = 0 ∧ s.2.reported = true
  | .execute => True

instance (w : Switch) : ∀ t e, Decidable ((panelWatch w).Allows t e)
  | t, .handleFrame b _ => inferInstanceAs (Decidable (∀ x, w.report b = some x → x = t.on))
  | _, .returns _ _ => inferInstanceAs (Decidable True)
  | _, .calls _ => inferInstanceAs (Decidable True)

instance (s : Daemon × Panel) : ∀ i, Decidable (LoopFits s i)
  | .daemon i => inferInstanceAs (Decidable (FramesFit s.1 i))
  | .execute => inferInstanceAs (Decidable True)

instance (w : Switch) (v : Bool) (s : Daemon × Panel) : ∀ i, Decidable (AsksFor w v s i)
  | .daemon _ => inferInstanceAs (Decidable (_ ∧ _))
  | .execute => inferInstanceAs (Decidable True)

instance (w : Switch) (s : Daemon × Panel) : ∀ i, Decidable (InTurn w s i)
  | .daemon _ => inferInstanceAs (Decidable (_ → _))
  | .execute => inferInstanceAs (Decidable True)

structure PanelInv (v : Bool) (t : Panel) : Prop where
  known_of_reported : t.reported = true → t.known = t.on
  waiting_le : t.waiting ≤ 1
  on_of_waiting : t.waiting = 1 → t.on = !v
  on_of_settled : t.settled = true → t.waiting = 0 → t.on = v
  sent_le : t.sent ≤ 1
  sent_of_reported : t.waiting = 0 → t.reported = true → t.sent = 0

variable {t : Panel}

theorem panelInv_execute (h : PanelInv v t) : PanelInv v t.execute := by
  unfold Panel.execute
  split
  · exact h
  · next hw =>
    have hwaiting := h.waiting_le
    have hon := h.on_of_waiting (by omega)
    constructor
    · simp
    · simp only
      omega
    · intro h1
      simp only at h1
      omega
    · intro _ _
      simp [hon]
    · exact h.sent_le
    · simp

theorem panelInv_report (h : PanelInv v t) :
    PanelInv v { t with known := t.on, reported := true, sent := 0 } where
  known_of_reported _ := rfl
  waiting_le := h.waiting_le
  on_of_waiting := h.on_of_waiting
  on_of_settled := h.on_of_settled
  sent_le := Nat.zero_le 1
  sent_of_reported _ _ := rfl

theorem panelInv_answered (h : PanelInv v t) {status : GeRs232Status}
    (hturn : t.waiting = 0 ∧ t.reported = true)
    (hanswer : (Toggles status → t.known = !v) ∧ (status = .already → t.known = v)) :
    PanelInv v (t.answered status) := by
  have hon := h.known_of_reported hturn.2
  have hsent := h.sent_of_reported hturn.1 hturn.2
  unfold Panel.answered
  split
  · next ht =>
    have hwrong : t.on = !v := hon.symm.trans (hanswer.1 ht)
    constructor
    · exact h.known_of_reported
    · simp [hturn.1]
    · intro _
      exact hwrong
    · intro _ h0
      simp at h0
    · simp [hsent]
    · intro h0
      simp at h0
  · split
    · next ha =>
      have hright : t.on = v := hon.symm.trans (hanswer.2 ha)
      exact ⟨h.known_of_reported, h.waiting_le, h.on_of_waiting, fun _ _ => hright, h.sent_le,
        h.sent_of_reported⟩
    · exact h

theorem panel_after_calls (events : List InstanceEvent) :
    (panelWatch w).after t (events.map .calls) = t := by
  induction events with
  | nil => rfl
  | cons e events ih => exact ih

/-- The panel knows as reported what the daemon's frames have reported. -/
theorem panel_known : ((panelWatch w).after t out).known = (reportWatch w).after t.known out := by
  induction out generalizing t with
  | nil => rfl
  | cons e out ih =>
    have hnext : ((panelWatch w).next t e).known = (reportWatch w).next t.known e := by
      cases e with
      | handleFrame b n =>
        simp only [panelWatch, reportWatch]
        cases w.report b <;> rfl
      | returns i status =>
        simp only [panelWatch, reportWatch, Panel.answered]
        split_ifs <;> rfl
      | calls => rfl
    rw [Monitor.after_cons, Monitor.after_cons, ih, hnext]

theorem panelInv_quiet (h : PanelInv v t) (hs : w.Holds s.inst t.known)
    (hv : ∀ x, w.request i = some x → x = v)
    (hturn : w.request i ≠ none → t.waiting = 0 ∧ t.reported = true)
    (ho : Quiet i (daemonMachine.step s i).2) :
    PanelInv v ((panelWatch w).after t (daemonMachine.step s i).2) := by
  rcases ho with ⟨events, ho | ⟨status, ho⟩⟩
  · rw [ho]
    exact (panel_after_calls (w := w) (t := t) _).symm ▸ h
  · have hanswer := step_answers hs (e := .returns i status) (by rw [ho]; simp)
    rw [ho, Monitor.after_append, linkCalls, panel_after_calls]
    simp only [Monitor.after_cons, Monitor.after_nil, panelWatch]
    split
    · exact h
    · next hr =>
      obtain ⟨x, hx⟩ := Option.ne_none_iff_exists'.mp hr
      obtain rfl := hv x hx
      exact panelInv_answered h (hturn hr) (hanswer _ hx)

theorem panelInv_handle (h : PanelInv v t) {b : Buffer} {n : ℕ}
    (ha : (panelWatch w).Accepts t (s.handle b n).2) :
    PanelInv v ((panelWatch w).after t (s.handle b n).2) := by
  simp only [Daemon.handle, Monitor.after_cons, panel_after_calls]
  have hreport := ha.1
  simp only [panelWatch] at hreport ⊢
  cases hr : w.report b with
  | none => exact h
  | some x =>
    obtain rfl := hreport x hr
    exact panelInv_report h

/-- The daemon has stored what the panel last reported, and the panel is where it should be. -/
def LoopInv (w : Switch) (v : Bool) (s : Daemon × Panel) : Prop :=
  w.Holds s.1.inst s.2.known ∧ PanelInv v s.2

theorem loopInv_step {s : Daemon × Panel} {i : LoopStep} (h : LoopInv w v s)
    (hf : LoopFits s i) (ha : AsksFor w v s i) (hturn : InTurn w s i) :
    LoopInv w v ((loopMachine w).step s i).1 := by
  cases i with
  | execute =>
    refine ⟨?_, panelInv_execute h.2⟩
    have hknown : s.2.execute.known = s.2.known := by
      unfold Panel.execute
      split <;> rfl
    simp only [loopMachine, hknown]
    exact h.1
  | daemon i =>
    constructor
    · simp only [loopMachine, Monitor.watch, panel_known]
      exact holds_step h.1 hf
    · simp only [loopMachine, Monitor.watch]
      rcases daemon_step_cases s.1 i with ⟨q, callbacks, env, -, ho⟩ | ⟨q, -, ho⟩ |
        ⟨q, b, n, events, -, ho⟩
      · exact panelInv_quiet h.2 h.1 ha.2 hturn ho
      · exact panelInv_quiet h.2 h.1 ha.2 hturn ho
      · have hframe := ha.1
        rw [ho, Monitor.accepts_append, linkCalls, panel_after_calls] at hframe
        rw [ho, Monitor.after_append, linkCalls, panel_after_calls]
        exact panelInv_handle h.2 hframe.2

theorem loopInv_init (w : Switch) (v : Bool) (env : Env) (on : Bool) :
    LoopInv w v (loopInit env on) := by
  refine ⟨holds_init w, ?_⟩
  constructor <;> simp [loopInit]

/-- `EQUIP_LIST_OUTPUT_DATA` for output 1. -/
def outputDataFrame (outputState : UInt8) : Buffer := fun k =>
  if k = 0 then 0x07 else if k = 2 then 1 else if k = 3 then outputState else 0

/-- Output 1 is off, and is asked for twice, the second time when the panel has reported it. -/
def askedInTurn : List LoopStep :=
  [.daemon (.frame (outputDataFrame 0) 9), .daemon (.setOutput 1 true none), .execute,
    .daemon (.frame (outputDataFrame 1) 9), .daemon (.setOutput 1 true none)]

/-- Output 1 is off, and is asked for twice before the panel reports it. -/
def askedTwice : List LoopStep :=
  [.daemon (.frame (outputDataFrame 0) 9), .daemon (.setOutput 1 true none),
    .daemon (.setOutput 1 true none), .execute, .execute]

end Concordd
