import Mathlib

/-! Deterministic machines with outputs, their finite runs, and monitors that watch the outputs. -/

/-- Each input takes a state to the next one and makes a list of outputs. -/
structure Machine (σ ι ο : Type*) where
  step : σ → ι → σ × List ο

namespace Machine

variable {σ ι ο : Type*} {M : Machine σ ι ο} {P Q : σ → ι → Prop} {s : σ} {i : ι} {is : List ι}

/-- The state a list of inputs leads to. -/
def run (M : Machine σ ι ο) : σ → List ι → σ
  | s, [] => s
  | s, i :: is => M.run (M.step s i).1 is

/-- The outputs a list of inputs makes, in order. -/
def trace (M : Machine σ ι ο) : σ → List ι → List ο
  | _, [] => []
  | s, i :: is => (M.step s i).2 ++ M.trace (M.step s i).1 is

/-- Every input of the run satisfies `P` in the state in which it is taken. -/
def Along (M : Machine σ ι ο) (P : σ → ι → Prop) : σ → List ι → Prop
  | _, [] => True
  | s, i :: is => P s i ∧ M.Along P (M.step s i).1 is

instance decidableAlong (M : Machine σ ι ο) (P : σ → ι → Prop) [∀ s i, Decidable (P s i)] :
    ∀ s is, Decidable (M.Along P s is)
  | _, [] => .isTrue trivial
  | s, i :: is =>
    have := decidableAlong M P (M.step s i).1 is
    inferInstanceAs (Decidable (P s i ∧ M.Along P (M.step s i).1 is))

/-- Every state of the run satisfies `P`, the first and the last included. -/
def Always (M : Machine σ ι ο) (P : σ → Prop) (s : σ) (is : List ι) : Prop :=
  P s ∧ M.Along (fun s i => P (M.step s i).1) s is

instance (M : Machine σ ι ο) (P : σ → Prop) [DecidablePred P] (s : σ) (is : List ι) :
    Decidable (M.Always P s is) :=
  inferInstanceAs (Decidable (_ ∧ _))

@[simp] theorem run_nil : M.run s [] = s := rfl

@[simp] theorem run_cons : M.run s (i :: is) = M.run (M.step s i).1 is := rfl

@[simp] theorem trace_nil : M.trace s [] = [] := rfl

@[simp] theorem trace_cons :
    M.trace s (i :: is) = (M.step s i).2 ++ M.trace (M.step s i).1 is := rfl

@[simp] theorem along_nil : M.Along P s [] := trivial

@[simp] theorem along_cons :
    M.Along P s (i :: is) ↔ P s i ∧ M.Along P (M.step s i).1 is := Iff.rfl

@[simp] theorem along_true : M.Along (fun _ _ => True) s is := by
  induction is generalizing s with
  | nil => trivial
  | cons i is ih => exact ⟨trivial, ih⟩

/-- What holds of each input in every state holds along a run. -/
theorem along_of_forall (h : ∀ i ∈ is, ∀ s, P s i) : M.Along P s is := by
  induction is generalizing s with
  | nil => trivial
  | cons i is ih =>
    exact ⟨h i List.mem_cons_self s, ih fun j hj => h j (List.mem_cons_of_mem i hj)⟩

theorem along_and : M.Along (fun s i => P s i ∧ Q s i) s is ↔ M.Along P s is ∧ M.Along Q s is := by
  induction is generalizing s with
  | nil => simp
  | cons i is ih => simp [ih]; tauto

/-- An invariant kept by the steps that meet a guard holds after every guarded run. -/
theorem inv_run {I : σ → Prop} (hstep : ∀ s i, I s → P s i → I (M.step s i).1)
    (hs : I s) (ha : M.Along P s is) : I (M.run s is) := by
  induction is generalizing s with
  | nil => exact hs
  | cons i is ih => exact ih (hstep s i hs ha.1) ha.2

/-- What an invariant says about one guarded step holds along every guarded run. -/
theorem along_of_inv {I : σ → Prop} (hstep : ∀ s i, I s → P s i → I (M.step s i).1)
    (hq : ∀ s i, I s → P s i → Q s i) (hs : I s) (ha : M.Along P s is) :
    M.Along Q s is := by
  induction is generalizing s with
  | nil => trivial
  | cons i is ih => exact ⟨hq s i hs ha.1, ih (hstep s i hs ha.1) ha.2⟩

/-- Within a domain `D`: where the invariant makes `Q` equivalent to the guard `P` at one
step, and guarded steps keep the invariant, `Q` holds along a run exactly when `P` does. -/
theorem along_iff_of_inv {I : σ → Prop} {D : σ → ι → Prop}
    (hiff : ∀ s i, I s → D s i → (Q s i ↔ P s i))
    (hstep : ∀ s i, I s → D s i → P s i → I (M.step s i).1)
    (hs : I s) (hd : M.Along D s is) : M.Along Q s is ↔ M.Along P s is := by
  induction is generalizing s with
  | nil => simp
  | cons i is ih =>
    have hi := hiff s i hs hd.1
    constructor
    · intro h
      have hp := hi.mp h.1
      exact ⟨hp, (ih (hstep s i hs hd.1 hp) hd.2).mp h.2⟩
    · intro h
      exact ⟨hi.mpr h.1, (ih (hstep s i hs hd.1 h.1) hd.2).mpr h.2⟩

/-- As above, for a property of states: it holds throughout a run exactly when every step meets
the guard. -/
theorem always_iff_of_inv {I R : σ → Prop} {D : σ → ι → Prop} (hinv : ∀ s, I s → R s)
    (hiff : ∀ s i, I s → D s i → (R (M.step s i).1 ↔ P s i))
    (hstep : ∀ s i, I s → D s i → P s i → I (M.step s i).1)
    (hs : I s) (hd : M.Along D s is) : M.Always R s is ↔ M.Along P s is := by
  rw [Always, along_iff_of_inv hiff hstep hs hd]
  exact and_iff_right (hinv s hs)

/-! Runs in parts. -/

@[simp] theorem run_append {is js : List ι} : M.run s (is ++ js) = M.run (M.run s is) js := by
  induction is generalizing s with
  | nil => rfl
  | cons i is ih => exact ih

@[simp] theorem trace_append {is js : List ι} :
    M.trace s (is ++ js) = M.trace s is ++ M.trace (M.run s is) js := by
  induction is generalizing s with
  | nil => rfl
  | cons i is ih => simp [ih]

@[simp] theorem along_append {is js : List ι} :
    M.Along P s (is ++ js) ↔ M.Along P s is ∧ M.Along P (M.run s is) js := by
  induction is generalizing s with
  | nil => simp
  | cons i is ih => simp [ih, and_assoc]

/-- A part of the state that another machine has runs as that machine does. -/
theorem run_proj {τ υ : Type*} {N : Machine τ ι υ} {t : τ} (f : τ → σ)
    (hf : ∀ t i, f (N.step t i).1 = (M.step (f t) i).1) : f (N.run t is) = M.run (f t) is := by
  induction is generalizing t with
  | nil => rfl
  | cons i is ih => rw [run_cons, run_cons, ih, hf]

/-- A guard that looks at the part of the state another machine has. -/
theorem along_proj {τ υ : Type*} {N : Machine τ ι υ} {t : τ} (f : τ → σ)
    (hf : ∀ t i, f (N.step t i).1 = (M.step (f t) i).1) :
    N.Along (fun t i => P (f t) i) t is ↔ M.Along P (f t) is := by
  induction is generalizing t with
  | nil => exact Iff.rfl
  | cons i is ih =>
    rw [along_cons, along_cons, ← hf]
    exact and_congr_right fun _ => ih

/-- Rounds that each lower a variant, while it is not zero, bring it down by their number. -/
theorem variant_rounds {I : σ → Prop} {μ : σ → ℕ} {rounds : List (List ι)}
    (hround : ∀ s, ∀ r ∈ rounds, I s → M.Along P s r →
      I (M.run s r) ∧ μ (M.run s r) ≤ μ s - 1)
    (hs : I s) (ha : M.Along P s rounds.flatten) :
    I (M.run s rounds.flatten) ∧ μ (M.run s rounds.flatten) ≤ μ s - rounds.length := by
  induction rounds generalizing s with
  | nil => exact ⟨hs, le_rfl⟩
  | cons r rounds ih =>
    rw [List.flatten_cons, along_append] at ha
    rw [List.flatten_cons, run_append, List.length_cons]
    obtain ⟨hi, hle⟩ := hround s r List.mem_cons_self hs ha.1
    obtain ⟨hrun, hrest⟩ := ih (fun s r hr => hround s r (List.mem_cons_of_mem _ hr)) hi ha.2
    exact ⟨hrun, by omega⟩

/-- The machine that takes a list of inputs at a time. -/
def bulk (M : Machine σ ι ο) : Machine σ (List ι) ο where
  step s is := (M.run s is, M.trace s is)

end Machine

/-- An observer of outputs: its own state, and the outputs it allows in that state. -/
structure Monitor (τ ο : Type*) where
  next : τ → ο → τ
  Allows : τ → ο → Prop

namespace Monitor

variable {σ ι ο τ : Type*} {m : Monitor τ ο} {M : Machine σ ι ο} {P : σ → ι → Prop} {s : σ}
  {t : τ} {o : ο} {os ps : List ο} {is : List ι}

def after (m : Monitor τ ο) (t : τ) (os : List ο) : τ := os.foldl m.next t

/-- Every output is allowed in the state the outputs before it lead to. -/
def Accepts (m : Monitor τ ο) : τ → List ο → Prop
  | _, [] => True
  | t, o :: os => m.Allows t o ∧ m.Accepts (m.next t o) os

instance decidableAccepts (m : Monitor τ ο) [∀ t o, Decidable (m.Allows t o)] :
    ∀ t os, Decidable (m.Accepts t os)
  | _, [] => .isTrue trivial
  | t, o :: os =>
    have := decidableAccepts m (m.next t o) os
    inferInstanceAs (Decidable (m.Allows t o ∧ m.Accepts (m.next t o) os))

@[simp] theorem after_nil : m.after t [] = t := rfl

@[simp] theorem after_cons : m.after t (o :: os) = m.after (m.next t o) os := rfl

@[simp] theorem accepts_nil : m.Accepts t [] := trivial

@[simp] theorem accepts_cons :
    m.Accepts t (o :: os) ↔ m.Allows t o ∧ m.Accepts (m.next t o) os := Iff.rfl

@[simp] theorem after_append : m.after t (os ++ ps) = m.after (m.after t os) ps :=
  List.foldl_append ..

@[simp] theorem accepts_append :
    m.Accepts t (os ++ ps) ↔ m.Accepts t os ∧ m.Accepts (m.after t os) ps := by
  induction os generalizing t with
  | nil => simp
  | cons o os ih => simp [ih, and_assoc]

/-- The machine together with the monitor that watches it. -/
def watch (m : Monitor τ ο) (M : Machine σ ι ο) : Machine (σ × τ) ι ο where
  step s i := (((M.step s.1 i).1, m.after s.2 (M.step s.1 i).2), (M.step s.1 i).2)

theorem watch_run : (m.watch M).run (s, t) is = (M.run s is, m.after t (M.trace s is)) := by
  induction is generalizing s t with
  | nil => rfl
  | cons i is ih => simp only [Machine.run_cons, watch, Machine.trace_cons, after_append]; exact ih

/-- A guard that does not look at the monitor holds along a run with or without it. -/
theorem watch_along :
    (m.watch M).Along (fun s i => P s.1 i) (s, t) is ↔ M.Along P s is := by
  induction is generalizing s t with
  | nil => exact Iff.rfl
  | cons i is ih => exact and_congr_right fun _ => ih

/-- A trace is accepted step by step. -/
theorem along_accepts_iff :
    (m.watch M).Along (fun s i => m.Accepts s.2 (M.step s.1 i).2) (s, t) is ↔
      m.Accepts t (M.trace s is) := by
  induction is generalizing s t with
  | nil => exact Iff.rfl
  | cons i is ih =>
    rw [Machine.along_cons, Machine.trace_cons, accepts_append]
    exact and_congr_right fun _ => ih

/-- Where every guarded step makes only allowed outputs and keeps a relation between the machine
and the monitor, every guarded run makes an accepted trace. -/
theorem accepts_of_inv {I : σ × τ → Prop}
    (hstep : ∀ s i, I s → P s.1 i →
      m.Accepts s.2 (M.step s.1 i).2 ∧ I ((m.watch M).step s i).1)
    (h : I (s, t)) (ha : M.Along P s is) : m.Accepts t (M.trace s is) := by
  induction is generalizing s t with
  | nil => trivial
  | cons i is ih =>
    obtain ⟨hacc, hi⟩ := hstep (s, t) i h ha.1
    exact accepts_append.mpr ⟨hacc, ih hi ha.2⟩

end Monitor
