import Concordd.Instance.Calls
import Concordd.Instance.Runs

/-! Clients that follow the callbacks: what they hold is what the instance has stored. -/
namespace Concordd

/-! A client's copy of a byte of status bits. -/

/-- The bits of the mask are copied, the others kept. -/
def copyBits (mask held stored : UInt8) : UInt8 := (held &&& ~~~mask) ||| (stored &&& mask)

/-- The second byte of the flags, where the bits of a status byte have theirs. -/
def changedBits (changed : UInt32) : UInt8 := (changed >>> 8).toUInt8

theorem copyBits_none (held stored : UInt8) : copyBits 0 held stored = held := by simp [copyBits]

/-- Copying the bits that have changed brings all bits of the mask up to date. -/
theorem copyBits_changed (mask old new : UInt8) :
    copyBits ((old ^^^ new) &&& mask) (old &&& mask) new = new &&& mask := by
  apply UInt8.eq_of_toBitVec_eq
  ext i hi
  simp only [copyBits, UInt8.toBitVec_or, UInt8.toBitVec_and, UInt8.toBitVec_not,
    UInt8.toBitVec_xor, BitVec.getElem_or, BitVec.getElem_and, BitVec.getElem_not,
    BitVec.getElem_xor]
  cases old.toBitVec[i] <;> cases new.toBitVec[i] <;> cases mask.toBitVec[i] <;> rfl

theorem changedBits_or (a b : UInt32) :
    changedBits (a ||| b) = changedBits a ||| changedBits b := by
  apply UInt8.eq_of_toBitVec_eq
  ext i hi
  simp [changedBits]

theorem changedBits_shift (bits : UInt8) : changedBits (bits.toUInt32 <<< 8) = bits := by
  apply UInt8.eq_of_toBitVec_eq
  ext i hi
  simp [changedBits, hi, show 8 + i < 32 by omega, show i < 32 by omega]

theorem changedBits_ite {c : Prop} [Decidable c] {flag : UInt32} (h : changedBits flag = 0) :
    changedBits (if c then flag else 0) = 0 := by
  split
  · exact h
  · decide

/-! Listening. -/

variable {τ : Type*} {hear : τ → InstanceEvent → τ} {t : τ} {s : Daemon} {i : DaemonStep}
  {b : Buffer} {n : ℕ}

/-- A client, as a monitor of the calls the instance makes. -/
def listener (hear : τ → InstanceEvent → τ) : Monitor τ DaemonEvent where
  next t
    | .calls event => hear t event
    | _ => t
  Allows _ _ := True

theorem listener_calls (t : τ) (out : List InstanceEvent) :
    (listener hear).after t (out.map .calls) = out.foldl hear t := by
  induction out generalizing t with
  | nil => rfl
  | cons e out ih => exact ih (hear t e)

theorem listener_linkCalls (hlink : ∀ t l, hear t (.link l) = t) (t : τ)
    (events : List LinkEvent) : (listener hear).after t (linkCalls events) = t := by
  induction events with
  | nil => rfl
  | cons e events ih => exact (congrArg ((listener hear).after · _) (hlink t e)).trans ih

theorem listener_quiet (hlink : ∀ t l, hear t (.link l) = t) (t : τ) {out : List DaemonEvent}
    (h : Quiet i out) : (listener hear).after t out = t := by
  rcases h with ⟨events, rfl | ⟨status, rfl⟩⟩
  · exact listener_linkCalls hlink t events
  · rw [Monitor.after_append, listener_linkCalls hlink]
    rfl

theorem foldl_hear_eq {out : List InstanceEvent} (h : ∀ e ∈ out, ∀ t, hear t e = t) (t : τ) :
    out.foldl hear t = t := by
  induction out with
  | nil => rfl
  | cons e out ih =>
    rw [List.foldl_cons, h e List.mem_cons_self]
    exact ih fun e' he' => h e' (List.mem_cons_of_mem e he')

/-! The callback stays installed. -/

def DaemonStep.Keeps (installed : Callbacks → Bool) : DaemonStep → Prop
  | .install callbacks => installed callbacks = true
  | _ => True

theorem queueOnly_callbacks {self : ConcorddInstance}
    {r : Outcome ConcorddInstance InstanceEvent} (h : QueueOnly self r) :
    r.state.callbacks = self.callbacks := by
  obtain ⟨⟨q, hq⟩, -⟩ := h
  rw [hq]

theorem step_callbacks (installed : Callbacks → Bool) (hs : installed s.inst.callbacks = true)
    (hi : i.Keeps installed) : installed (daemonMachine.step s i).1.inst.callbacks = true := by
  have hsame : ∀ {i}, (daemonMachine.step s i).1.inst.callbacks = s.inst.callbacks →
      installed (daemonMachine.step s i).1.inst.callbacks = true := fun h => h ▸ hs
  cases i with
  | receiveByte byte =>
    apply hsame
    rcases receiveByte_cases s byte with ⟨q, events, h⟩ | ⟨q, buffer, len, events, h⟩
    · exact congrArg (fun r : Daemon × List DaemonEvent => r.1.inst.callbacks) h
    · exact (congrArg (fun r : Daemon × List DaemonEvent => r.1.inst.callbacks) h).trans
        (handleFrame_callbacks s.env (s.withQueue q).inst buffer len.toNat)
  | frame b n => exact hsame (handleFrame_callbacks s.env s.inst b n)
  | process => exact hsame (queueOnly_callbacks (queueOnly_process ..))
  | refresh => exact hsame rfl
  | dynamicDataRefresh => exact hsame rfl
  | pressKeys => exact hsame (queueOnly_callbacks (queueOnly_pressKeys ..))
  | setLight => exact hsame (queueOnly_callbacks (queueOnly_setLight ..))
  | setZoneBypass => exact hsame (queueOnly_callbacks (queueOnly_setZoneBypass ..))
  | setOutput => exact hsame (queueOnly_callbacks (queueOnly_setOutput ..))
  | setArmLevel => exact hsame (queueOnly_callbacks (queueOnly_setArmLevel ..))
  | install callbacks => exact hi
  | advance | sendReturns => exact hsame rfl

/-! Mirrors. -/

/-- The client follows a view of the tables through the frames that meet a guard, except where a
frame's change is lost on it. -/
structure Mirrors (hear : τ → InstanceEvent → τ) (view : ConcorddInstance → τ)
    (installed : Callbacks → Bool) (Guard : ConcorddInstance → Buffer → ℕ → Prop)
    (Lost : ConcorddInstance → Buffer → Prop) : Prop where
  link : ∀ t l, hear t (.link l) = t
  rest : ∀ inst q callbacks, view { inst with geQueue := q, callbacks } = view inst
  deactivate : ∀ inst, view (concorddDeactivate inst) = view inst
  queue : ∀ (inst : ConcorddInstance) q b, Lost { inst with geQueue := q } b ↔ Lost inst b
  guard : ∀ (inst : ConcorddInstance) q b n, Guard inst b n → Guard { inst with geQueue := q } b n
  frame : ∀ env (inst : ConcorddInstance) b n, installed inst.callbacks = true → Guard inst b n →
    ((concorddHandleFrame env inst b n).out.foldl hear (view inst) =
      view (concorddHandleFrame env inst b n).state ↔ ¬ Lost inst b)

variable {view : ConcorddInstance → τ} {installed : Callbacks → Bool}
  {Guard : ConcorddInstance → Buffer → ℕ → Prop} {Lost : ConcorddInstance → Buffer → Prop}

/-- A step that handles a frame ends where the frame leaves it. -/
theorem step_of_handled (h : DaemonEvent.handleFrame b n ∈ (daemonMachine.step s i).2) :
    ∃ q, (daemonMachine.step s i).1 = ((s.withQueue q).handle b n).1 := by
  rcases daemon_step_cases s i with ⟨q, callbacks, env, -, ho⟩ | ⟨q, -, ho⟩ |
    ⟨q, b', n', events, hs, ho⟩
  · exact (ho.noFrame b n h).elim
  · exact (ho.noFrame b n h).elim
  · rw [ho] at h
    rcases List.mem_append.mp h with h | h
    · exact (noFrame_linkCalls events b n h).elim
    · rcases List.mem_cons.mp h with h | h
      · cases h
        exact ⟨q, hs⟩
      · exact (noFrame_calls _ b n h).elim

/-- One step keeps the mirror exactly if no frame it handles is lost on the client. -/
theorem Mirrors.step_iff (h : Mirrors hear view installed Guard Lost) (ht : t = view s.inst)
    (hs : installed s.inst.callbacks = true)
    (hg : FramesMeet (fun s b n => Guard s.inst b n) s i) :
    (listener hear).after t (daemonMachine.step s i).2 = view (daemonMachine.step s i).1.inst ↔
      FramesMeet (fun s b _ => ¬ Lost s.inst b) s i := by
  subst ht
  have hquiet : NoFrame (daemonMachine.step s i).2 →
      FramesMeet (fun s b _ => ¬ Lost s.inst b) s i := fun ho b n hm => (ho b n hm).elim
  rcases daemon_step_cases s i with ⟨q, callbacks, env, hstep, ho⟩ | ⟨q, hstep, ho⟩ |
    ⟨q, b, n, events, hstep, ho⟩
  · refine iff_of_true ?_ (hquiet ho.noFrame)
    rw [listener_quiet h.link _ ho, hstep]
    exact (h.rest s.inst q callbacks).symm
  · refine iff_of_true ?_ (hquiet ho.noFrame)
    rw [listener_quiet h.link _ ho, hstep]
    exact ((h.rest (concorddDeactivate s.inst) q s.inst.callbacks).trans
      (h.deactivate s.inst)).symm
  · have hview : view s.inst = view (s.withQueue q).inst :=
      (h.rest s.inst q s.inst.callbacks).symm
    have hafter : (listener hear).after (view s.inst) (daemonMachine.step s i).2 =
        (concorddHandleFrame s.env (s.withQueue q).inst b n).out.foldl hear
          (view (s.withQueue q).inst) := by
      rw [ho, Monitor.after_append, listener_linkCalls h.link, hview]
      exact listener_calls _ _
    have hguard : Guard (s.withQueue q).inst b n := by
      apply h.guard
      exact hg b n (by rw [ho]; simp [Daemon.handle])
    rw [hafter, hstep]
    refine (h.frame s.env (s.withQueue q).inst b n hs hguard).trans
      ((h.queue s.inst q b).not.trans ?_)
    constructor
    · intro hno b' n' hm
      rw [ho] at hm
      rcases List.mem_append.mp hm with hm | hm
      · exact (noFrame_linkCalls events b' n' hm).elim
      · rcases List.mem_cons.mp hm with hm | hm
        · cases hm
          exact hno
        · exact (noFrame_calls _ b' n' hm).elim
    · intro hmeet
      exact hmeet b n (by rw [ho]; simp [Daemon.handle])

end Concordd
