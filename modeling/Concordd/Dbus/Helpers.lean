import Concordd.Dbus.Server
import Concordd.Queue.Effects

/-! Each callback helper is run at most once, by the handler that made it or by the queue. -/
namespace Concordd

/-- The callback the queue calls. -/
def LinkEvent.calledBack : LinkEvent → Option ℕ
  | .finished callback _ => callback
  | _ => none

/-- Each callback is called once. The state is the callbacks called so far. -/
def callbacksOnce : Monitor (List ℕ) LinkEvent where
  next ran e := e.calledBack.toList ++ ran
  Allows ran e := ∀ h, e.calledBack = some h → h ∉ ran

/-- The helper `concordd_dbus_callback_helper` is run for. -/
def DbusEvent.ran : DbusEvent → Option ℕ
  | .daemon (.calls (.link event)) => event.calledBack
  | .helper k _ => some k
  | _ => none

/-- Each helper is run once. -/
def helpersOnce : Monitor (List ℕ) DbusEvent where
  next ran e := e.ran.toList ++ ran
  Allows ran e := ∀ h, e.ran = some h → h ∉ ran

instance : ∀ ran e, Decidable (helpersOnce.Allows ran e) :=
  fun ran e => inferInstanceAs (Decidable (∀ h ∈ e.ran, h ∉ ran))

/-- The callbacks of the messages in the ring. -/
def GeQueue.callbacks (q : GeQueue) : List ℕ := q.contents.filterMap (·.finished)

/-- The callbacks called and the callbacks still in the ring are different ones, made before
`n`. -/
structure Owned (n : ℕ) (q : GeQueue) (ran : List ℕ) : Prop where
  nodup : (ran ++ q.callbacks).Nodup
  made : ∀ h ∈ ran ++ q.callbacks, h < n

/-- An answer ends the message at the head, but nothing is queued. -/
def AnswersEmpty (q : GeQueue) (byte : UInt8) : Prop :=
  Intercepted q.interface byte ∧ q.Ends byte ∧ q.head = q.tail

instance (q : GeQueue) (byte : UInt8) : Decidable (AnswersEmpty q byte) :=
  inferInstanceAs (Decidable (_ ∧ _ ∧ _))

variable {n m : ℕ} {q : GeQueue} {ran : List ℕ} {env : Env} {s : Daemon}

/-! The operations of the queue. -/

theorem Owned.mono (h : Owned n q ran) (hnm : n ≤ m) : Owned m q ran :=
  ⟨h.nodup, fun k hk => (h.made k hk).trans_le hnm⟩

theorem callbacks_cons (hne : q.head ≠ q.tail) :
    q.callbacks = (q.queue q.head).finished.toList ++ (geQueueDrop q).callbacks := by
  rw [GeQueue.callbacks, contents_cons hne, List.filterMap_cons]
  cases h : (q.queue q.head).finished <;> simp [GeQueue.entry, h, GeQueue.callbacks]

theorem owned_finish (h : Owned n q ran) (hne : q.head ≠ q.tail) (status : GeRs232Status) :
    callbacksOnce.Allows ran (.finished (q.queue q.head).finished status) ∧
      Owned n (geQueueDrop q)
        (callbacksOnce.next ran (.finished (q.queue q.head).finished status)) := by
  obtain ⟨hnodup, hmade⟩ := h
  rw [callbacks_cons hne] at hnodup hmade
  cases hf : (q.queue q.head).finished with
  | none =>
    rw [hf] at hnodup hmade
    refine ⟨?_, hnodup, hmade⟩
    intro k hk
    cases hk
  | some k =>
    rw [hf] at hnodup hmade
    have hperm : (ran ++ k :: (geQueueDrop q).callbacks).Perm
        (k :: (ran ++ (geQueueDrop q).callbacks)) := List.perm_middle
    refine ⟨?_, hperm.nodup_iff.mp hnodup, fun j hj => hmade j (hperm.mem_iff.mpr hj)⟩
    intro j hj
    obtain rfl : k = j := Option.some.inj hj
    have hfresh := (List.nodup_cons.mp (hperm.nodup_iff.mp hnodup)).1
    exact fun hm => hfresh (List.mem_append_left _ hm)

theorem callbacks_of_contents {q' : GeQueue} (h : q'.contents = q.contents) :
    q'.callbacks = q.callbacks := by rw [GeQueue.callbacks, h, GeQueue.callbacks]

theorem Owned.of_contents {q' : GeQueue} (hq : Owned n q ran) (h : q'.contents = q.contents) :
    Owned n q' ran := by
  obtain ⟨hnodup, hmade⟩ := hq
  rw [← callbacks_of_contents h] at hnodup hmade
  exact ⟨hnodup, hmade⟩

theorem callbacksOnce_quiet (ran : List ℕ) {out : List LinkEvent}
    (h : ∀ e ∈ out, e.calledBack = none) :
    callbacksOnce.Accepts ran out ∧ callbacksOnce.after ran out = ran := by
  induction out with
  | nil => exact ⟨trivial, rfl⟩
  | cons e out ih =>
    have he := h e List.mem_cons_self
    have hnext : callbacksOnce.next ran e = ran := by simp [callbacksOnce, he]
    have hrest := ih fun e' he' => h e' (List.mem_cons_of_mem _ he')
    rw [Monitor.accepts_cons, Monitor.after_cons, hnext]
    refine ⟨⟨?_, hrest.1⟩, hrest.2⟩
    intro k hk
    rw [he] at hk
    cases hk

theorem owned_transmit (env : Env) (h : Owned n q ran) :
    callbacksOnce.Accepts ran (geQueueTransmit env q).out ∧
      Owned n (geQueueTransmit env q).state
        (callbacksOnce.after ran (geQueueTransmit env q).out) := by
  have hquiet : ∀ e ∈ (geQueueTransmit env q).out, e.calledBack = none := by
    intro e he
    rcases transmit_out env q with ho | ho <;> rw [ho] at he
    · rw [List.mem_singleton.mp he]
      rfl
    · rcases List.mem_cons.mp he with rfl | he
      · rfl
      · rw [List.mem_singleton.mp he]
        rfl
  obtain ⟨hacc, hafter⟩ := callbacksOnce_quiet ran hquiet
  rw [hafter]
  exact ⟨hacc, h.of_contents (contents_transmit env)⟩

theorem owned_update (env : Env) (h : Owned n q ran) :
    callbacksOnce.Accepts ran (geQueueUpdate env q).out ∧
      Owned n (geQueueUpdate env q).state (callbacksOnce.after ran (geQueueUpdate env q).out) := by
  rcases update_cases env q with ⟨-, hu⟩ | ⟨hg, hu⟩ | ⟨-, -, -, hu⟩
  · rw [hu]
    exact ⟨trivial, h⟩
  · rw [hu]
    obtain ⟨hallow, hdrop⟩ := owned_finish h hg.1 .timeout
    obtain ⟨hacc, hsent⟩ := owned_transmit env hdrop
    exact ⟨⟨hallow, hacc⟩, hsent⟩
  · rw [hu]
    exact owned_transmit env h

/-- A full ring forgets its messages, so the callback pushed is not in it either. -/
theorem callbacks_push (q : GeQueue) (data : List UInt8) (finished : Option ℕ) :
    (geQueuePush q data finished).callbacks =
      if q.Full then [] else q.callbacks ++ finished.toList := by
  split
  · next hfull =>
    have hnil := contents_eq_nil.mpr ((push_head_eq_tail_iff q data finished).mpr hfull)
    rw [GeQueue.callbacks, hnil]
    rfl
  · next hfull =>
    rw [GeQueue.callbacks, contents_push data finished hfull, List.filterMap_append]
    cases finished <;> rfl

theorem owned_push (h : Owned n q ran) (data : List UInt8) {finished : Option ℕ}
    (hm : n ≤ m) (hf : ∀ k, finished = some k → n ≤ k ∧ k < m) :
    Owned m (geQueuePush q data finished) ran := by
  obtain ⟨hnodup, hmade⟩ := h.mono hm
  have hold : ∀ k ∈ ran ++ q.callbacks, k < n := h.made
  constructor
  · rw [callbacks_push]
    split
    · rw [List.append_nil]
      exact (List.nodup_append.mp hnodup).1
    · rw [← List.append_assoc]
      cases finished with
      | none => simpa using hnodup
      | some k =>
        refine List.nodup_append.mpr ⟨hnodup, List.nodup_singleton k, ?_⟩
        rintro j hj _ hk rfl
        obtain rfl := List.mem_singleton.mp hk
        have := hold j hj
        have := (hf j rfl).1
        omega
  · rw [callbacks_push]
    intro k hk
    split at hk
    · rw [List.append_nil] at hk
      exact hmade k (List.mem_append_left _ hk)
    · rw [← List.append_assoc, List.mem_append] at hk
      rcases hk with hk | hk
      · exact hmade k hk
      · exact (hf k (Option.mem_toList.mp hk)).2

theorem owned_answer (env : Env) (h : Owned n q ran) {byte : UInt8}
    (hi : Intercepted q.interface byte) (ha : ¬ AnswersEmpty q byte) :
    callbacksOnce.Accepts ran (geQueueReceiveByte env q byte).2 ∧
      Owned n (geQueueReceiveByte env q byte).1
        (callbacksOnce.after ran (geQueueReceiveByte env q byte).2) := by
  rcases queueReceiveByte_cases env q byte with ⟨-, hg, hr⟩ | ⟨-, hg, hr⟩ | ⟨hno, -⟩
  · rw [hr]
    have hq : Owned n (geQueueAnswered q byte) ran := h.of_contents rfl
    rcases gotResponse_cases env (geQueueAnswered q byte) with ⟨hend, he⟩ | ⟨-, -, he⟩
    · rw [he]
      have hne : q.head ≠ q.tail := by
        intro hemp
        rw [answered_ready_iff env hi] at hend
        exact ha ⟨hi, ⟨hg, hend⟩, hemp⟩
      obtain ⟨hallow, hdrop⟩ := owned_finish hq hne
        (geRs232ReadyToSend env (geQueueAnswered q byte).interface)
      exact ⟨⟨by simp [callbacksOnce, LinkEvent.calledBack],
        by simp [callbacksOnce, LinkEvent.calledBack], hallow, trivial⟩, hdrop⟩
    · rw [he]
      exact ⟨⟨by simp [callbacksOnce, LinkEvent.calledBack],
        by simp [callbacksOnce, LinkEvent.calledBack], trivial⟩, hq.of_contents rfl⟩
  · rw [hr]
    exact ⟨⟨by simp [callbacksOnce, LinkEvent.calledBack], trivial⟩, h.of_contents rfl⟩
  · exact (hno hi).elim

/-- The callback a step brings along is a new one. -/
def CallbackMade (n m : ℕ) : LinkStep → Prop
  | .queueMessage _ finished => ∀ k, finished = some k → n ≤ k ∧ k < m
  | _ => True

def AnswersQueued (l : Link) : LinkStep → Prop
  | .receiveByte byte => ¬ AnswersEmpty l.queue byte
  | _ => True

theorem owned_link_step {l : Link} {j : LinkStep} (h : Owned n l.queue ran) (hm : n ≤ m)
    (hf : CallbackMade n m j) (ha : AnswersQueued l j) :
    callbacksOnce.Accepts ran (linkMachine.step l j).2 ∧
      Owned m (linkMachine.step l j).1.queue
        (callbacksOnce.after ran (linkMachine.step l j).2) := by
  cases j with
  | queueMessage data finished =>
    obtain ⟨hacc, hq⟩ := owned_update l.env (owned_push h data hm hf)
    exact ⟨⟨by simp [LinkEvent.calledBack, callbacksOnce], hacc⟩, hq⟩
  | queueUpdate =>
    obtain ⟨hacc, hq⟩ := owned_update l.env h
    exact ⟨hacc, hq.mono hm⟩
  | receiveByte byte =>
    by_cases hi : Intercepted l.queue.interface byte
    · obtain ⟨hacc, hq⟩ := owned_answer l.env h hi ha
      exact ⟨hacc, hq.mono hm⟩
    · have hquiet : ∀ e ∈ (geQueueReceiveByte l.env l.queue byte).2, e.calledBack = none := by
        rcases queueReceiveByte_cases l.env l.queue byte with
          ⟨hyes, -⟩ | ⟨hyes, -⟩ | ⟨-, j, out, hr, -, hl⟩
        · exact (hi hyes).elim
        · exact (hi hyes).elim
        · rw [hr]
          rcases hl with rfl | rfl | ⟨buffer, len, rfl⟩ <;> simp [LinkEvent.calledBack]
      obtain ⟨hacc, hafter⟩ := callbacksOnce_quiet ran hquiet
      refine ⟨hacc, ?_⟩
      have hq : Owned m (geQueueReceiveByte l.env l.queue byte).1 ran := by
        rw [receiveByte_other hi]
        exact (h.mono hm).of_contents rfl
      exact hafter.symm ▸ hq
  | advance seconds => exact ⟨trivial, h.mono hm⟩
  | sendReturns status => exact ⟨trivial, h.mono hm⟩

theorem owned_link_run {l : Link} {js : List LinkStep} (h : Owned n l.queue ran)
    (hf : ∀ j ∈ js, CallbackMade n n j) (ha : linkMachine.Along AnswersQueued l js) :
    callbacksOnce.Accepts ran (linkMachine.trace l js) ∧
      Owned n (linkMachine.run l js).queue
        (callbacksOnce.after ran (linkMachine.trace l js)) := by
  induction js generalizing l ran with
  | nil => exact ⟨trivial, h⟩
  | cons j js ih =>
    obtain ⟨hacc, hq⟩ := owned_link_step h le_rfl (hf j List.mem_cons_self) ha.1
    obtain ⟨hrest, hlast⟩ := ih hq (fun j' hj' => hf j' (List.mem_cons_of_mem _ hj')) ha.2
    simp only [Machine.trace_cons, Monitor.accepts_append, Monitor.after_append]
    exact ⟨⟨hacc, hrest⟩, hlast⟩

/-! The server. -/

theorem helpersOnce_daemon (ran : List ℕ) (out : List DaemonEvent) :
    helpersOnce.after ran (out.map .daemon) = callbacksOnce.after ran (linkEvents out) ∧
      (helpersOnce.Accepts ran (out.map .daemon) ↔ callbacksOnce.Accepts ran (linkEvents out)) := by
  induction out generalizing ran with
  | nil => exact ⟨rfl, Iff.rfl⟩
  | cons e out ih =>
    have hother : (DbusEvent.daemon e).ran = none → linkEvents (e :: out) = linkEvents out →
        helpersOnce.after ran ((e :: out).map .daemon) =
            callbacksOnce.after ran (linkEvents (e :: out)) ∧
          (helpersOnce.Accepts ran ((e :: out).map .daemon) ↔
            callbacksOnce.Accepts ran (linkEvents (e :: out))) := by
      intro he hl
      have hnext : helpersOnce.next ran (.daemon e) = ran := by simp [helpersOnce, he]
      rw [hl, List.map_cons, Monitor.after_cons, Monitor.accepts_cons, hnext]
      refine ⟨(ih ran).1, (and_iff_right ?_).trans (ih ran).2⟩
      intro k hk
      rw [he] at hk
      cases hk
    cases e with
    | calls event =>
      cases event with
      | link l =>
        obtain ⟨hafter, hacc⟩ := ih (l.calledBack.toList ++ ran)
        exact ⟨hafter, and_congr Iff.rfl hacc⟩
      | _ => exact hother rfl rfl
    | _ => exact hother rfl rfl

def ServerOwned (s : DbusServer × List ℕ) : Prop :=
  Owned s.1.nextHelper s.1.daemon.inst.geQueue s.2

/-- An answer that ends a message comes while one is queued. -/
def AnswersPending (s : DbusServer) : DbusStep → Prop
  | .receiveByte byte => ¬ AnswersEmpty s.daemon.inst.geQueue byte
  | _ => True

instance (s : DbusServer) : ∀ i, Decidable (AnswersPending s i)
  | .receiveByte _ => inferInstanceAs (Decidable (¬ _))
  | .methodCall _ _ | .process | .refresh | .advance _ | .sendReturns _ =>
    inferInstanceAs (Decidable True)

theorem main_owned {t : DbusServer} {i : DaemonStep} (h : ServerOwned (t, ran))
    (hf : ∀ j ∈ t.daemon.linkSteps i, CallbackMade t.nextHelper t.nextHelper j)
    (ha : linkMachine.Along AnswersQueued t.daemon.link (t.daemon.linkSteps i)) :
    helpersOnce.Accepts ran (t.main i).2 ∧
      ServerOwned ((t.main i).1, helpersOnce.after ran (t.main i).2) := by
  obtain ⟨hrun, htrace⟩ := follows_step t.daemon i
  obtain ⟨hacc, hq⟩ := owned_link_run (l := t.daemon.link) h hf ha
  obtain ⟨hafter, hiff⟩ := helpersOnce_daemon ran (daemonMachine.step t.daemon i).2
  rw [htrace] at hacc hq
  rw [hrun] at hq
  refine ⟨hiff.mpr hacc, ?_⟩
  unfold DbusServer.main ServerOwned
  dsimp only
  rw [hafter]
  exact hq

theorem callbackMade_enqueueSteps {r : Option Unfinished} (h : ∀ m, r = some m → m.finished = none)
    {j : LinkStep} (hj : j ∈ enqueueSteps r) : CallbackMade n m j := by
  cases r with
  | none => cases hj
  | some r =>
    obtain rfl := List.mem_singleton.mp hj
    intro k hk
    rw [h r rfl] at hk
    cases hk

theorem answersQueued_enqueueSteps (l : Link) (r : Option Unfinished) :
    linkMachine.Along AnswersQueued l (enqueueSteps r) := by
  cases r with
  | none => trivial
  | some r => exact ⟨trivial, trivial⟩

theorem handler_command {path : List UInt8} {method : DbusMethod} {helper : ℕ} {i : DaemonStep}
    (h : dbusMessageHandler path method helper = some i) :
    i.IsCommand ∧ i.finished = some helper := by
  cases method <;> simp only [dbusMessageHandler] at h <;> split_ifs at h <;>
    obtain rfl := Option.some.inj h <;> exact ⟨trivial, rfl⟩

theorem toInt_neg_iff (status : GeRs232Status) : status.toInt < 0 ↔ status ≠ .ok := by
  cases status <;> decide

theorem returnedStatus_command (s : Daemon) (i : DaemonStep)
    {r : Outcome ConcorddInstance InstanceEvent} :
    returnedStatus (s.command i r).2 = r.status := by
  have hnone : ∀ out : List InstanceEvent,
      (out.map DaemonEvent.calls).findSome? DaemonEvent.returned = none := by
    intro out
    rw [List.findSome?_eq_none_iff]
    intro e he
    obtain ⟨a, -, rfl⟩ := List.mem_map.mp he
    rfl
  rw [returnedStatus, Daemon.command, List.findSome?_append, hnone]
  rfl

theorem owned_enqueue (h : Owned n q ran) (env : Env) {request : Option Unfinished}
    (hf : ∀ m, request = some m → m.finished = some n) :
    callbacksOnce.Accepts ran (linkMachine.trace ⟨q, env⟩ (enqueueSteps request)) ∧
      Owned (n + 1) (linkMachine.run ⟨q, env⟩ (enqueueSteps request)).queue
        (callbacksOnce.after ran (linkMachine.trace ⟨q, env⟩ (enqueueSteps request))) := by
  cases request with
  | none => exact ⟨trivial, h.mono (Nat.le_succ n)⟩
  | some m =>
    have hmade : CallbackMade n (n + 1) (.queueMessage m.data m.finished) := by
      intro k hk
      rw [hf m rfl] at hk
      obtain rfl := Option.some.inj hk
      omega
    have hstep := owned_link_step (l := ⟨q, env⟩) h (Nat.le_succ n) hmade trivial
    simpa [enqueueSteps] using hstep

/-- A helper that its handler runs is not in the ring: the message was refused, or the full ring
has forgotten it. -/
theorem owned_refused {self : ConcorddInstance} {r : Outcome ConcorddInstance InstanceEvent}
    {request : Option Unfinished} (h : Owned n q ran) (hq : self.geQueue = q)
    (hr : Asks env self r request) (hs : r.status ≠ .ok) :
    callbacksOnce.after ran (linkMachine.trace ⟨q, env⟩ (enqueueSteps request)) = ran ∧
      n ∉ ran ∧
      Owned (n + 1) (linkMachine.run ⟨q, env⟩ (enqueueSteps request)).queue (n :: ran) := by
  subst hq
  have hfresh : n ∉ ran ++ self.geQueue.callbacks := fun hm => (h.made n hm).false
  have hran : n ∉ ran := fun hm => hfresh (List.mem_append_left _ hm)
  cases request with
  | none =>
    refine ⟨rfl, hran, List.nodup_cons.mpr ⟨hfresh, h.nodup⟩, ?_⟩
    intro k hk
    rcases List.mem_cons.mp hk with rfl | hk
    · exact Nat.lt_succ_self _
    · exact (h.made k hk).trans (Nat.lt_succ_self n)
  | some m =>
    obtain rfl := hr
    have hfull : self.geQueue.Full := by
      by_contra hroom
      simp [concorddQueueMessage, geQueueMessage, hroom] at hs
    have hnil : (geQueuePush self.geQueue m.data m.finished).callbacks = [] := by
      rw [callbacks_push, if_pos hfull]
    simp only [enqueueSteps, Machine.trace_cons, Machine.trace_nil, Machine.run_cons,
      Machine.run_nil, linkMachine, message_full env hfull]
    refine ⟨rfl, hran, ?_⟩
    constructor
    · rw [hnil, List.append_nil]
      exact List.nodup_cons.mpr ⟨hran, (List.nodup_append.mp h.nodup).1⟩
    · rw [hnil, List.append_nil]
      intro k hk
      rcases List.mem_cons.mp hk with rfl | hk
      · exact Nat.lt_succ_self _
      · exact (h.made k (List.mem_append_left _ hk)).trans (Nat.lt_succ_self n)

theorem methodCall_owned {t : DbusServer} (h : ServerOwned (t, ran)) (path : List UInt8)
    (method : DbusMethod) :
    helpersOnce.Accepts ran (t.methodCall path method).2 ∧
      ServerOwned ((t.methodCall path method).1,
        helpersOnce.after ran (t.methodCall path method).2) := by
  unfold DbusServer.methodCall
  cases hc : dbusMessageHandler path method t.nextHelper with
  | none => exact ⟨trivial, h⟩
  | some i =>
    obtain ⟨hi, hfin⟩ := handler_command hc
    obtain ⟨self, r, hq, hr, hs⟩ := step_asks t.daemon hi
    obtain ⟨hrun, htrace⟩ := follows_step t.daemon i
    rw [linkSteps_command hi] at hrun htrace
    obtain ⟨hafter, hiff⟩ := helpersOnce_daemon ran (daemonMachine.step t.daemon i).2
    rw [← htrace] at hafter hiff
    obtain ⟨hacc, howned⟩ := owned_enqueue h t.daemon.env
      fun m hm => (request_finished hm).trans hfin
    have hstatus : returnedStatus (daemonMachine.step t.daemon i).2 = r.status := by
      rw [hs]
      exact returnedStatus_command _ _
    have hmade : helpersOnce.Allows ran (.helperNew t.nextHelper) := by
      intro k hk
      cases hk
    have hnext : helpersOnce.next ran (.helperNew t.nextHelper) = ran := rfl
    dsimp only
    rw [hstatus, Monitor.accepts_cons, Monitor.after_cons, hnext, Monitor.accepts_append,
      Monitor.after_append, hafter, hiff]
    by_cases hneg : r.status.toInt < 0
    · -- the handler answers itself
      obtain ⟨hsame, hran, hown⟩ := owned_refused h hq hr ((toInt_neg_iff _).mp hneg)
      have hsame : callbacksOnce.after ran (linkMachine.trace t.daemon.link
          (enqueueSteps (i.request t.daemon.inst))) = ran := hsame
      rw [if_pos hneg, hsame]
      refine ⟨⟨hmade, hacc, ?_, trivial⟩, ?_⟩
      · intro k hk
        obtain rfl := Option.some.inj hk
        exact hran
      · have hown : Owned (t.nextHelper + 1) (linkMachine.run t.daemon.link
            (enqueueSteps (i.request t.daemon.inst))).queue (t.nextHelper :: ran) := hown
        rw [hrun] at hown
        exact hown
    · rw [if_neg hneg]
      refine ⟨⟨hmade, hacc, trivial⟩, ?_⟩
      have hown : Owned (t.nextHelper + 1) (linkMachine.run t.daemon.link
          (enqueueSteps (i.request t.daemon.inst))).queue (callbacksOnce.after ran
            (linkMachine.trace t.daemon.link (enqueueSteps (i.request t.daemon.inst)))) := howned
      rw [hrun] at hown
      exact hown

theorem serverOwned_step {s : DbusServer × List ℕ} {i : DbusStep} (h : ServerOwned s)
    (ha : AnswersPending s.1 i) :
    helpersOnce.Accepts s.2 (dbusMachine.step s.1 i).2 ∧
      ServerOwned ((helpersOnce.watch dbusMachine).step s i).1 := by
  obtain ⟨t, ran⟩ := s
  cases i with
  | methodCall path method => exact methodCall_owned h path method
  | receiveByte byte =>
    refine main_owned h ?_ ?_
    · intro j hj
      rcases List.mem_cons.mp hj with rfl | hj
      · trivial
      · exact callbackMade_enqueueSteps (fun m hm => byteRequest_finished hm) hj
    · exact ⟨ha, answersQueued_enqueueSteps _ _⟩
  | process =>
    refine main_owned h ?_ ?_
    · intro j hj
      simp only [Daemon.linkSteps] at hj
      split at hj
      · cases hj
      · obtain rfl := List.mem_singleton.mp hj
        trivial
    · simp only [Daemon.linkSteps]
      split
      · trivial
      · exact ⟨trivial, trivial⟩
  | refresh =>
    refine main_owned h ?_ ⟨trivial, trivial⟩
    intro j hj
    obtain rfl := List.mem_singleton.mp hj
    intro k hk
    cases hk
  | advance seconds =>
    refine main_owned h ?_ ⟨trivial, trivial⟩
    intro j hj
    obtain rfl := List.mem_singleton.mp hj
    trivial
  | sendReturns status =>
    refine main_owned h ?_ ⟨trivial, trivial⟩
    intro j hj
    obtain rfl := List.mem_singleton.mp hj
    trivial

theorem serverOwned_init (env : Env) : ServerOwned (dbusInit env, []) := by
  have hnil : (dbusInit env).daemon.inst.geQueue.callbacks = [] := by
    rw [GeQueue.callbacks, contents_eq_nil.mpr rfl]
    rfl
  constructor
  · rw [hnil]
    exact List.nodup_nil
  · rw [hnil]
    intro k hk
    cases hk

/-- In a run in which no answer ends a message of an empty ring, each helper is run at most
once. -/
theorem helper_run_once (env : Env) (steps : List DbusStep)
    (ha : dbusMachine.Along AnswersPending (dbusInit env) steps) :
    helpersOnce.Accepts [] (dbusMachine.trace (dbusInit env) steps) :=
  Monitor.accepts_of_inv (fun _ _ h hi => serverOwned_step h hi) (serverOwned_init env) ha

def keyOneCall : DbusStep :=
  .methodCall (concorddDbusPathPartition ++ cLiteral "1") (.pressKeys (cLiteral "1"))

theorem helper_run_once_two :
    helpersOnce.Accepts [] (dbusMachine.trace (dbusInit ⟨0, .ok⟩)
      [keyOneCall, keyOneCall, .receiveByte geRs232Ack, .process, .receiveByte geRs232Ack]) :=
  helper_run_once ⟨0, .ok⟩ _ (by decide +kernel)

/-- Eight calls before the first answer. The last is refused by its handler, and its helper is
left in the ring that the answers then empty. -/
def refusedCallRun : List DbusStep :=
  List.replicate 8 keyOneCall ++
    (List.replicate 8 [.receiveByte geRs232Ack, .process]).flatten

theorem refused_helper_run_twice :
    ¬ helpersOnce.Accepts [] (dbusMachine.trace (dbusInit ⟨0, .ok⟩) refusedCallRun) ∧
      (dbusMachine.trace (dbusInit ⟨0, .ok⟩) refusedCallRun).filterMap DbusEvent.ran =
        [7, 0, 1, 2, 3, 4, 5, 6, 7] := by
  decide +kernel

end Concordd
