import Mathlib

/-! Histories of entries: the latest entry of a kind, and a circular log of the newest ones. -/
namespace History

variable {α ι : Type*} {h : List α} {a : α}

section Latest

variable {p : α → Prop} [DecidablePred p] {unset : α → Prop} {entry : α}

/-- The last entry of a kind. -/
def latest (p : α → Prop) [DecidablePred p] (h : List α) : Option α := h.reverse.find? p

theorem latest_snoc : latest p (h ++ [a]) = if p a then some a else latest p h := by
  unfold latest
  rw [List.reverse_append, List.reverse_singleton, List.singleton_append, List.find?_cons]
  by_cases hp : p a <;> simp [hp]

/-- `entry` is the last of its kind, or there was none and it is unset. -/
def Shows (unset : α → Prop) (latest : Option α) (entry : α) : Prop :=
  match latest with
  | some e => entry = e
  | none => unset entry

/-- One more entry replaces what is shown, or is of another kind. -/
theorem Shows.snoc (hs : Shows unset (latest p h) entry) (a : α) :
    Shows unset (latest p (h ++ [a])) (if p a then a else entry) := by
  rw [latest_snoc]
  by_cases hp : p a
  · rw [if_pos hp, if_pos hp]
    rfl
  · rw [if_neg hp, if_neg hp]
    exact hs

end Latest

section Log

/-- `prev` undoes `next`, and fewer than `c` steps back do not come round. -/
structure Circular (next prev : ι → ι) (c : ℕ) : Prop where
  prev_next : ∀ k, prev (next k) = k
  apart : ∀ k i, i + 1 < c → prev^[i + 1] k ≠ k

/-- The newest entries stand in the slots from `last` backwards, and no other slot is set until
the log comes round. -/
structure Logs (prev : ι → ι) (c : ℕ) (unset : α → Prop) (h : List α) (slots : ι → α)
    (last : ι) : Prop where
  recent : ∀ i, i < c → ∀ e, h.reverse[i]? = some e → slots (prev^[i] last) = e
  unused : h.length < c → ∀ k, (∀ i, i < h.length → k ≠ prev^[i] last) → unset (slots k)

variable {next prev : ι → ι} {c : ℕ} {unset : α → Prop} {slots : ι → α} {last : ι}

theorem logs_empty (hu : ∀ k, unset (slots k)) : Logs prev c unset [] slots last :=
  ⟨by simp, fun _ k _ => hu k⟩

/-- One more entry goes into the next slot, and the older ones are one step further back. -/
theorem Logs.snoc [DecidableEq ι] (hc : Circular next prev c)
    (hl : Logs prev c unset h slots last) (a : α) :
    Logs prev c unset (h ++ [a]) (Function.update slots (next last) a) (next last) := by
  constructor
  · intro i hi e he
    rw [List.reverse_append, List.reverse_singleton, List.singleton_append] at he
    cases i with
    | zero => simpa using he
    | succ i =>
      rw [Function.update_of_ne (hc.apart _ i hi), Function.iterate_succ_apply, hc.prev_next]
      exact hl.recent i (by omega) e (by simpa using he)
  · intro hlen k hk
    rw [List.length_append, List.length_singleton] at hlen hk
    have hnew : k ≠ next last := hk 0 (by omega)
    rw [Function.update_of_ne hnew]
    refine hl.unused (by omega) k fun i hi => ?_
    have hback := hk (i + 1) (by omega)
    rwa [Function.iterate_succ_apply, hc.prev_next] at hback

end Log

end History
