import Concordd.Library.Machine

/-! A machine each of whose steps is a few steps of another one. -/

/-- Each step of `M` from `s` is the run of `N` from `abs s` over the steps given for it, and what
of its outputs is `seen` is that run's trace. -/
structure Expansion {σ ι ο τ κ ω : Type*} (M : Machine σ ι ο) (N : Machine τ κ ω) where
  abs : σ → τ
  steps : σ → ι → List κ
  seen : ο → Option ω
  run_step : ∀ s i, N.run (abs s) (steps s i) = abs (M.step s i).1
  trace_step : ∀ s i, N.trace (abs s) (steps s i) = (M.step s i).2.filterMap seen

namespace Expansion

variable {σ ι ο τ κ ω υ ν ξ : Type*} {M : Machine σ ι ο} {N : Machine τ κ ω} {K : Machine υ ν ξ}
  {P : τ → κ → Prop}

/-- A run in the other machine's steps. -/
def expand (E : Expansion M N) : σ → List ι → List κ
  | _, [] => []
  | s, i :: is => E.steps s i ++ E.expand (M.step s i).1 is

@[simp] theorem expand_nil (E : Expansion M N) (s : σ) : E.expand s [] = [] := rfl

@[simp] theorem expand_cons (E : Expansion M N) (s : σ) (i : ι) (is : List ι) :
    E.expand s (i :: is) = E.steps s i ++ E.expand (M.step s i).1 is := rfl

@[simp] theorem expand_append (E : Expansion M N) (s : σ) (is js : List ι) :
    E.expand s (is ++ js) = E.expand s is ++ E.expand (M.run s is) js := by
  induction is generalizing s with
  | nil => rfl
  | cons i is ih => simp [ih]

theorem run_expand (E : Expansion M N) (s : σ) (is : List ι) :
    N.run (E.abs s) (E.expand s is) = E.abs (M.run s is) := by
  induction is generalizing s with
  | nil => rfl
  | cons i is ih => rw [expand_cons, Machine.run_append, E.run_step, ih, Machine.run_cons]

theorem trace_expand (E : Expansion M N) (s : σ) (is : List ι) :
    N.trace (E.abs s) (E.expand s is) = (M.trace s is).filterMap E.seen := by
  induction is generalizing s with
  | nil => rfl
  | cons i is ih =>
    rw [expand_cons, Machine.trace_append, E.run_step, E.trace_step, ih, Machine.trace_cons,
      List.filterMap_append]

/-- A guard holds along an expanded run when it holds along what each step expands to. -/
theorem along_expand (E : Expansion M N) (s : σ) (is : List ι) :
    N.Along P (E.abs s) (E.expand s is) ↔
      M.Along (fun s i => N.Along P (E.abs s) (E.steps s i)) s is := by
  induction is generalizing s with
  | nil => exact Iff.rfl
  | cons i is ih =>
    rw [expand_cons, Machine.along_append, E.run_step, ih, Machine.along_cons]

/-- What each step expands to, a run expands to. -/
theorem forall_expand (E : Expansion M N) {Q : κ → Prop} (h : ∀ s i, ∀ j ∈ E.steps s i, Q j)
    (s : σ) (is : List ι) : ∀ j ∈ E.expand s is, Q j := by
  induction is generalizing s with
  | nil =>
    intro j hj
    cases hj
  | cons i is ih =>
    intro j hj
    rcases List.mem_append.mp hj with hj | hj
    · exact h s i j hj
    · exact ih _ j hj

/-- Expansions compose. -/
def trans (E : Expansion M N) (F : Expansion N K) : Expansion M K where
  abs s := F.abs (E.abs s)
  steps s i := F.expand (E.abs s) (E.steps s i)
  seen o := (E.seen o).bind F.seen
  run_step s i := by rw [F.run_expand, E.run_step]
  trace_step s i := by rw [F.trace_expand, E.trace_step, List.filterMap_filterMap]

end Expansion
