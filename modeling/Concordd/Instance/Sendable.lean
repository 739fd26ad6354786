import Concordd.Instance.KeyFrames
import Concordd.Instance.LinkSteps
import Concordd.Queue.Retries

/-! What the daemon hands to the queue is of a size that can be sent. -/
namespace Concordd

variable {self : ConcorddInstance} {i : DaemonStep}

theorem one_sendable : 1 ≤ 1 ∧ 1 ≤ geRs232MaxMessageSize := by decide

theorem keysRequest_sendable {c : Prop} [Decidable c] {partition : ℤ} {keys : List UInt8}
    {finished : Option ℕ} {r : Unfinished}
    (h : (if c then keysRequest partition keys finished else none) = some r) :
    1 ≤ r.data.length ∧ r.data.length ≤ geRs232MaxMessageSize := by
  by_cases hc : c
  · rw [if_pos hc] at h
    unfold keysRequest at h
    split at h
    · next msg hmsg =>
      obtain rfl := Option.some.inj h
      obtain ⟨hmin, hmax⟩ := length_pressKeysMessage hmsg
      exact ⟨(by decide : 1 ≤ 3).trans hmin, hmax⟩
    · cases h
  · rw [if_neg hc] at h
    cases h

theorem request_sendable {r : Unfinished} (h : i.request self = some r) :
    1 ≤ r.data.length ∧ r.data.length ≤ geRs232MaxMessageSize := by
  cases i with
  | refresh finished =>
    obtain rfl := Option.some.inj h
    exact one_sendable
  | dynamicDataRefresh finished =>
    obtain rfl := Option.some.inj h
    exact one_sendable
  | pressKeys partition keys finished =>
    exact keysRequest_sendable (c := True) (by rw [if_pos trivial]; exact h)
  | setLight partition light state finished => exact keysRequest_sendable h
  | setZoneBypass zone bypass user finished =>
    simp only [DaemonStep.request, bypassRequest] at h
    split at h
    · exact keysRequest_sendable h
    · cases h
  | setOutput output state finished =>
    simp only [DaemonStep.request, outputRequest] at h
    cases ho : concorddGetOutput output with
    | none =>
      rw [ho] at h
      cases h
    | some o =>
      rw [ho] at h
      exact keysRequest_sendable h
  | setArmLevel partition armLevel finished =>
    simp only [DaemonStep.request, armLevelRequest] at h
    split at h
    · exact keysRequest_sendable h
    · cases h
  | _ => cases h

theorem frameRequest_sendable {b : Buffer} {r : Unfinished} (h : frameRequest b = some r) :
    1 ≤ r.data.length ∧ r.data.length ≤ geRs232MaxMessageSize := by
  unfold frameRequest at h
  split at h
  · obtain rfl := Option.some.inj h
    exact one_sendable
  · obtain rfl := Option.some.inj h
    exact one_sendable
  · cases h

theorem enqueueSteps_sendable {r : Option Unfinished}
    (h : ∀ u, r = some u → 1 ≤ u.data.length ∧ u.data.length ≤ geRs232MaxMessageSize) :
    ∀ j ∈ enqueueSteps r, j.Sendable := by
  intro j hj
  cases r with
  | none => cases hj
  | some u =>
    rw [List.mem_singleton.mp hj]
    exact h u rfl

theorem linkSteps_sendable (s : Daemon) (i : DaemonStep) : ∀ j ∈ s.linkSteps i, j.Sendable := by
  by_cases hc : i.IsCommand
  · rw [linkSteps_command hc]
    exact enqueueSteps_sendable fun u hu => request_sendable hu
  cases i with
  | receiveByte byte =>
    intro j hj
    rcases List.mem_cons.mp hj with rfl | hj
    · trivial
    · refine enqueueSteps_sendable (fun u hu => ?_) j hj
      rw [Daemon.byteRequest, Option.bind_eq_some_iff] at hu
      obtain ⟨b, -, hb⟩ := hu
      exact frameRequest_sendable hb
  | frame b n => exact enqueueSteps_sendable fun u hu => frameRequest_sendable hu
  | process =>
    intro j hj
    simp only [Daemon.linkSteps] at hj
    split at hj
    · cases hj
    · rw [List.mem_singleton.mp hj]
      trivial
  | install callbacks =>
    intro j hj
    cases hj
  | advance seconds =>
    intro j hj
    rw [List.mem_singleton.mp hj]
    trivial
  | sendReturns status =>
    intro j hj
    rw [List.mem_singleton.mp hj]
    trivial
  | _ => exact (hc trivial).elim

end Concordd
