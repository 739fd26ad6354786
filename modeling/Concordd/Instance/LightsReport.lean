import Concordd.Instance.Effects
import Concordd.Instance.Machine

/-! A report of all lights of a partition, and the lights it leaves behind. -/
namespace Concordd

variable {env : Env} {self : ConcorddInstance} {p : Fin 8} {lights : UInt16} {i j : Fin 10}

/-- The light is not as the report has it. -/
def LightDiffers (self : ConcorddInstance) (p : Fin 8) (lights : UInt16) (i : Fin 10) : Prop :=
  ((self.partition p).light i).lightState ≠ lights.toNat.testBit i.val

instance (self : ConcorddInstance) (p : Fin 8) (lights : UInt16) (i : Fin 10) :
    Decidable (LightDiffers self p lights i) := inferInstanceAs (Decidable (_ ≠ _))

/-- Its change is notified, which ends the loop. -/
def LightNotified (self : ConcorddInstance) (p : Fin 8) (lights : UInt16) (i : Fin 10) : Prop :=
  LightDiffers self p lights i ∧ self.refreshPending = false ∧
    ((self.partition p).light i).lastChangedAt ≠ 0 ∧ self.callbacks.lightInfoChangedFunc = true

instance (self : ConcorddInstance) (p : Fin 8) (lights : UInt16) (i : Fin 10) :
    Decidable (LightNotified self p lights i) := inferInstanceAs (Decidable (_ ∧ _ ∧ _ ∧ _))

/-- Light `j` with the state the report gives it. -/
def lightChanged (env : Env) (self : ConcorddInstance) (p : Fin 8) (j : Fin 10) :
    ConcorddInstance :=
  self.setPartition p ((self.partition p).setLight j
    { (self.partition p).light j with
      lightState := !((self.partition p).light j).lightState
      lastChangedAt := env.now })

theorem lightsStateLoop_cons (rest : List (Fin 10)) :
    lightsStateLoop env p lights self (j :: rest) =
      if ¬ LightDiffers self p lights j then lightsStateLoop env p lights self rest
      else if LightNotified self p lights j then
        (lightChanged env self p j, [.lightInfoChanged p j
          (((lightChanged env self p j).partition p).light j)
          (concorddGeneralStateChanged ||| concorddGeneralLastChangedAtChanged)])
      else lightsStateLoop env p lights (lightChanged env self p j) rest := by
  unfold LightNotified LightDiffers
  simp only [lightsStateLoop]
  by_cases hd : ((self.partition p).light j).lightState = lights.toNat.testBit j.val
  · simp [hd]
  · simp only [hd, if_false, ne_eq, not_false_eq_true, not_true_eq_false, true_and]
    by_cases hn : self.refreshPending = false ∧
        ((self.partition p).light j).lastChangedAt ≠ 0 ∧
        self.callbacks.lightInfoChangedFunc = true
    · simp [hn, lightChanged, setPartition_partition, ConcorddPartition.setLight]
    · rw [if_neg (by simpa using hn), if_neg hn]
      rfl

theorem lightChanged_light (i j : Fin 10) :
    ((lightChanged env self p j).partition p).light i =
      if i = j then { (self.partition p).light j with
          lightState := !((self.partition p).light j).lightState
          lastChangedAt := env.now }
      else (self.partition p).light i := by
  rw [lightChanged, setPartition_partition, if_pos rfl]
  exact Function.update_apply ..

theorem lightChanged_reported (h : LightDiffers self p lights j) :
    (((lightChanged env self p j).partition p).light j).lightState =
      lights.toNat.testBit j.val := by
  rw [lightChanged_light, if_pos rfl]
  exact Bool.not_eq.mpr h

theorem lightNotified_changed (hij : i ≠ j) :
    LightNotified (lightChanged env self p j) p lights i ↔ LightNotified self p lights i := by
  unfold LightNotified LightDiffers
  rw [lightChanged_light, if_neg hij]
  exact Iff.rfl

/-- The loop gets to light `i` of the list. -/
def Reached (self : ConcorddInstance) (p : Fin 8) (lights : UInt16) (is : List (Fin 10))
    (i : Fin 10) : Prop :=
  i ∈ is ∧ ∀ j ∈ is, j < i → ¬ LightNotified self p lights j

instance (self : ConcorddInstance) (p : Fin 8) (lights : UInt16) (is : List (Fin 10))
    (i : Fin 10) : Decidable (Reached self p lights is i) :=
  inferInstanceAs (Decidable (_ ∧ ∀ j ∈ is, _))

theorem reached_cons {rest : List (Fin 10)} (hj : ∀ k ∈ rest, j < k) :
    Reached self p lights (j :: rest) i ↔
      i = j ∨ ¬ LightNotified self p lights j ∧ Reached self p lights rest i := by
  unfold Reached
  simp only [List.mem_cons, forall_eq_or_imp]
  constructor
  · rintro ⟨rfl | hi, hfirst, hrest⟩
    · exact .inl rfl
    · exact .inr ⟨hfirst (hj i hi), hi, hrest⟩
  · rintro (rfl | ⟨hfirst, hi, hrest⟩)
    · exact ⟨.inl rfl, fun h => absurd h (lt_irrefl i), fun k hk h => absurd h (hj k hk).asymm⟩
    · exact ⟨.inr hi, fun _ => hfirst, hrest⟩

/-- The lights the loop gets to are as reported; the rest is as it was. -/
theorem lightsStateLoop_light {is : List (Fin 10)} (his : is.Pairwise (· < ·)) (i : Fin 10) :
    (((lightsStateLoop env p lights self is).1.partition p).light i).lightState =
      if Reached self p lights is i then lights.toNat.testBit i.val
      else ((self.partition p).light i).lightState := by
  induction is generalizing self with
  | nil => exact (if_neg fun h => nomatch h.1).symm
  | cons k rest ih =>
    rw [List.pairwise_cons] at his
    obtain ⟨hk, hrest⟩ := his
    have hnot : ∀ self, ¬ Reached self p lights rest k := by
      intro self h
      exact absurd (hk k h.1) (lt_irrefl k)
    rw [lightsStateLoop_cons]
    simp only [reached_cons hk]
    by_cases hd : LightDiffers self p lights k
    · rw [if_neg (not_not_intro hd)]
      by_cases hn : LightNotified self p lights k
      · rw [if_pos hn]
        by_cases hi : i = k
        · subst hi
          rw [if_pos (.inl rfl)]
          exact lightChanged_reported hd
        · rw [if_neg (by tauto)]
          dsimp only
          rw [lightChanged_light, if_neg hi]
      · rw [if_neg hn, ih hrest]
        by_cases hi : i = k
        · subst hi
          rw [if_neg (hnot _), if_pos (.inl rfl)]
          exact lightChanged_reported hd
        · have hsame : Reached (lightChanged env self p k) p lights rest i ↔
              Reached self p lights rest i := by
            refine and_congr_right fun _ => forall₂_congr fun j hj => ?_
            rw [lightNotified_changed (hk j hj).ne']
          simp only [hsame, lightChanged_light, hi, hn, if_false, false_or, not_false_eq_true,
            true_and]
    · rw [if_pos hd, ih hrest]
      have hn : ¬ LightNotified self p lights k := fun h => hd h.1
      by_cases hi : i = k
      · subst hi
        rw [if_neg (hnot _), if_pos (.inl rfl)]
        exact not_not.mp hd
      · simp only [hi, hn, false_or, not_false_eq_true, true_and]

theorem handleSubcmd2_light (env : Env) (self : ConcorddInstance) {b : Buffer}
    (h : GeRs232PtaSubcmd2.ofByte (b 1) = .lightsState) (hp : (b 2).toNat = p.val) (i : Fin 10) :
    (((concorddHandleSubcmd2 env self b).state.partition p).light i).lightState =
      if ∀ j < i, ¬ LightNotified self p (word16 (b 5) (b 4)) j then
        (word16 (b 5) (b 4)).toNat.testBit i.val
      else ((self.partition p).light i).lightState := by
  unfold concorddHandleSubcmd2 concorddHandleLightsState
  rw [h, getPartition_of_eq hp]
  dsimp only
  rw [lightsStateLoop_light (List.pairwise_lt_finRange 10)]
  simp [Reached]

/-- A report of the lights whose light zero is notified leaves it at that; any other gives every
light the state it reports, where no light is behind one whose change is notified. -/
theorem lights_report (env : Env) (self : ConcorddInstance) (p : Fin 8) (b : Buffer)
    (h : GeRs232PtaSubcmd2.ofByte (b 1) = .lightsState) (hp : (b 2).toNat = p.val) :
    let light := ((concorddHandleSubcmd2 env self b).state.partition p).light
    let lights := word16 (b 5) (b 4)
    (LightNotified self p lights 0 →
        (light 0).lightState = lights.toNat.testBit 0 ∧
          ∀ i ≠ 0, light i = (self.partition p).light i) ∧
      (¬ LightNotified self p lights 0 →
        (∀ i, LightNotified self p lights i → ∀ j, i < j → ¬ LightDiffers self p lights j) →
          ∀ i, (light i).lightState = lights.toNat.testBit i.val) := by
  have hlight := fun i => handleSubcmd2_light env self h hp i
  refine ⟨?_, ?_⟩
  · intro hzero
    refine ⟨?_, ?_⟩
    · rw [hlight, if_pos fun j hj => absurd hj (Fin.not_lt_zero j)]
      rfl
    · intro i hi
      have hrange : List.finRange 10 = 0 :: (List.finRange 9).map Fin.succ := by decide
      unfold concorddHandleSubcmd2 concorddHandleLightsState
      rw [h, getPartition_of_eq hp]
      dsimp only
      rw [hrange, lightsStateLoop_cons, if_neg (not_not_intro hzero.1), if_pos hzero]
      dsimp only
      rw [lightChanged_light, if_neg hi]
  · intro _ hlast i
    rw [hlight]
    split
    · rfl
    · next hbehind =>
      push Not at hbehind
      obtain ⟨j, hj, hn⟩ := hbehind
      exact not_not.mp (hlast j hn i hj)

/-- `LIGHTS_STATE` for partition 1. -/
def lightsStateFrame (lights : UInt8) : Buffer := fun k =>
  if k = 0 then 0x23 else if k = 1 then 0x01 else if k = 2 then 1 else if k = 4 then lights else 0

/-- Lights 0 and 1 are off, light 0 having been on before, and the report has both on. -/
theorem lights_report_two :
    let self := (daemonMachine.run (daemonInit ⟨1, .ok⟩) [.frame (lightsStateFrame 1) 6,
      .frame (lightsStateFrame 0) 6]).inst
    let light :=
      ((concorddHandleSubcmd2 ⟨1, .ok⟩ self (lightsStateFrame 3)).state.partition 1).light
    (LightNotified self 1 3 0 →
        (light 0).lightState = true ∧ ∀ i ≠ 0, light i = (self.partition 1).light i) ∧
      (¬ LightNotified self 1 3 0 →
        (∀ i, LightNotified self 1 3 i → ∀ j, i < j → ¬ LightDiffers self 1 3 j) →
          ∀ i, (light i).lightState = (3 : UInt16).toNat.testBit i.val) :=
  lights_report ⟨1, .ok⟩ _ 1 (lightsStateFrame 3) (by decide) (by decide)

/-- The same with a callback for lights: light 1 stays off. -/
theorem lights_report_stops :
    ¬ ∀ (env : Env) (steps : List DaemonStep) (p : Fin 8) (b : Buffer),
      GeRs232PtaSubcmd2.ofByte (b 1) = .lightsState → (b 2).toNat = p.val → ∀ i : Fin 10,
        (((concorddHandleSubcmd2 env (daemonMachine.run (daemonInit env) steps).inst
          b).state.partition p).light i).lightState =
            (word16 (b 5) (b 4)).toNat.testBit i.val := by
  intro h
  have hlight := h ⟨1, .ok⟩ [.install { lightInfoChangedFunc := true },
    .frame (lightsStateFrame 1) 6, .frame (lightsStateFrame 0) 6] 1 (lightsStateFrame 3)
    (by decide) (by decide) 1
  revert hlight
  decide

end Concordd
