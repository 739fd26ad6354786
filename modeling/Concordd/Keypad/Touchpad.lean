import Concordd.Keypad.Messages

/-! A client of the touchpad of a partition: it misses the set-up of a siren that is to repeat. -/
namespace Concordd

/-- A set-up with a repeat count, which is stored without a call. -/
def SetsSirenSilently (p : Fin 8) (self : ConcorddInstance) (b : Buffer) : Prop :=
  (IsSubcmd b .sirenSetup ∧ (b 2).toNat = p.val) ∧ b 4 ≠ 0 ∧
    ((b 4).toUInt32 ≠ (self.partition p).sirenRepeat ∨
      word32 (b 5) (b 6) (b 7) (b 8) ≠ (self.partition p).sirenCadence)

instance (p : Fin 8) (self : ConcorddInstance) (b : Buffer) :
    Decidable (SetsSirenSilently p self b) := inferInstanceAs (Decidable (_ ∧ _))

variable {before : UInt8} {env : Env} {self : ConcorddInstance} {b : Buffer} {n : ℕ} {p q : Fin 8}
  {s : Daemon} {i : DaemonStep} {touchpad : Touchpad} {old new : ConcorddPartition}
  {changed : UInt32}

/-! One callback. -/

/-- The touchpad is up to date after a call with a flag for each field that is new. -/
theorem copy_touchpad
    (htext : changed &&& concorddPartitionTouchpadTextChanged = 0 →
      new.touchpadAscii before = old.touchpadAscii before)
    (hlevel : changed &&& concorddPartitionArmLevelChanged = 0 → new.armLevel = old.armLevel)
    (hrepeat : changed &&& concorddPartitionSirenRepeatChanged = 0 →
      new.sirenRepeat = old.sirenRepeat)
    (hcadence : changed &&& concorddPartitionSirenCadenceChanged = 0 →
      new.sirenCadence = old.sirenCadence) :
    (old.touchpad before).copy before new changed = new.touchpad before := by
  rw [Touchpad.copy, Touchpad.mk.injEq]
  refine ⟨?_, ?_, ?_, ?_⟩
  · split
    · rfl
    · next h => simp only [ConcorddPartition.touchpad, htext (not_not.mp h)]
  · split
    · rfl
    · next h => simp only [ConcorddPartition.touchpad, hlevel (not_not.mp h)]
  · split
    · rfl
    · next h => simp only [ConcorddPartition.touchpad, hrepeat (not_not.mp h)]
  · split
    · rfl
    · next h => simp only [ConcorddPartition.touchpad, hcadence (not_not.mp h)]

theorem partition_heard (hf : self.callbacks.partitionInfoChangedFunc = true) (q : Fin 8)
    (changed : UInt32) :
    (concorddPartitionInfoChanged self q changed).foldl (touchpadHear before p) touchpad =
      if q = p then touchpad.copy before (self.partition q) changed else touchpad := by
  rw [concorddPartitionInfoChanged, if_pos hf]
  rfl

theorem setPartition_heard (hf : self.callbacks.partitionInfoChangedFunc = true)
    (hcopy : ((self.partition q).touchpad before).copy before new changed = new.touchpad before) :
    (concorddPartitionInfoChanged (self.setPartition q new) q changed).foldl
        (touchpadHear before p) ((self.partition p).touchpad before) =
      ((self.setPartition q new).partition p).touchpad before := by
  rw [partition_heard (by exact hf), setPartition_partition, setPartition_partition, if_pos rfl]
  by_cases hq : q = p
  · subst hq
    rw [if_pos rfl, if_pos rfl]
    exact hcopy
  · rw [if_neg hq, if_neg (Ne.symm hq)]

theorem sirenCadenceText_inj {c d : UInt32} : sirenCadenceText c = sirenCadenceText d ↔ c = d := by
  refine ⟨?_, fun h => h ▸ rfl⟩
  intro h
  rw [sirenCadenceText, sirenCadenceText, List.map_inj_left] at h
  apply UInt32.toNat_inj.mp
  apply Nat.eq_of_testBit_eq
  intro k
  by_cases hk : k < 32
  · have hbit := h (31 - k) (List.mem_range.mpr (by omega))
    rw [show 31 - (31 - k) = k by omega] at hbit
    revert hbit
    cases c.toNat.testBit k <;> cases d.toNat.testBit k <;> decide
  · have hpow : 2 ^ 32 ≤ 2 ^ k := Nat.pow_le_pow_right two_pos (by omega)
    rw [Nat.testBit_lt_two_pow (c.toNat_lt.trans_le hpow),
      Nat.testBit_lt_two_pow (d.toNat_lt.trans_le hpow)]

/-! Frames. -/

/-- The client of partition `p` has what a frame leaves. -/
def FrameHeard (before : UInt8) (env : Env) (self : ConcorddInstance) (b : Buffer) (n : ℕ)
    (p : Fin 8) : Prop :=
  (concorddHandleFrame env self b n).out.foldl (touchpadHear before p)
      ((self.partition p).touchpad before) =
    ((concorddHandleFrame env self b n).state.partition p).touchpad before

theorem not_setsSirenSilently (h : ¬ IsSubcmd b .sirenSetup) : ¬ SetsSirenSilently p self b :=
  fun hs => h hs.1.1

theorem sirenSetup_heard (h : IsSubcmd b .sirenSetup)
    (hf : self.callbacks.partitionInfoChangedFunc = true) :
    FrameHeard before env self b n p ↔ ¬ SetsSirenSilently p self b := by
  unfold FrameHeard
  rw [handleFrame_of_sirenSetup h]
  unfold concorddHandleSirenSetup
  cases hq : concorddGetPartition (b 2).toNat with
  | none =>
    refine iff_of_true rfl ?_
    rintro ⟨⟨-, hp⟩, -⟩
    rw [getPartition_of_eq hp] at hq
    cases hq
  | some q =>
    have hqb := getPartition_eq_some hq
    dsimp only
    by_cases hzero : b 4 = 0
    · rw [if_pos hzero]
      refine iff_of_true ?_ fun hs => hs.2.1 hzero
      refine setPartition_heard hf
        (copy_touchpad (fun _ => rfl) (fun _ => rfl) ?_ ?_)
      · intro hflag
        exact absurd hflag (by decide)
      · intro hflag
        exact absurd hflag (by decide)
    · rw [if_neg hzero, List.foldl_nil, setPartition_partition]
      by_cases hqp : p = q
      · subst hqp
        rw [if_pos rfl]
        simp only [ConcorddPartition.touchpad, ConcorddPartition.touchpadAscii, Touchpad.mk.injEq,
          true_and, sirenCadenceText_inj, SetsSirenSilently, h, hqb, hzero, ne_eq,
          not_false_eq_true, not_or, not_not, eq_comm]
      · rw [if_neg hqp]
        refine iff_of_true rfl ?_
        rintro ⟨⟨-, hp⟩, -⟩
        exact hqp (Fin.ext (hp.symm.trans hqb))

theorem sirenStop_heard (h : IsSubcmd b .sirenStop)
    (hf : self.callbacks.partitionInfoChangedFunc = true) : FrameHeard before env self b n p := by
  unfold FrameHeard
  rw [handleFrame_of_sirenStop h]
  unfold concorddHandleSirenStop
  cases concorddGetPartition (b 2).toNat with
  | none => rfl
  | some q =>
    refine setPartition_heard hf (copy_touchpad (fun _ => rfl) (fun _ => rfl) (fun _ => rfl) ?_)
    intro hflag
    exact absurd hflag (by decide)

theorem sirenGo_heard (h : IsSubcmd b .sirenGo)
    (hf : self.callbacks.partitionInfoChangedFunc = true) : FrameHeard before env self b n p := by
  unfold FrameHeard
  rw [handleFrame_of_sirenGo h]
  unfold concorddHandleSirenGo
  cases concorddGetPartition self.sirenGoPartitionId.toNat with
  | none => rfl
  | some q =>
    dsimp only
    split
    · rw [partition_heard hf]
      split
      · next hq =>
        rw [hq]
        exact copy_touchpad (fun _ => rfl) (fun _ => rfl) (fun _ => rfl) (fun _ => rfl)
      · rfl
    · rfl

theorem touchpadDisplay_heard (h : IsSubcmd b .touchpadDisplay)
    (hf : self.callbacks.partitionInfoChangedFunc = true) (hfit : CopiesFit b n) :
    FrameHeard before env self b n p := by
  unfold FrameHeard
  rw [handleFrame_of_touchpadDisplay h]
  unfold concorddHandleTouchpadDisplay
  cases hq : concorddGetPartition (b 2).toNat with
  | none => rfl
  | some q =>
    have hn := hfit.1 h (by rw [getPartition_eq_some hq]; exact q.isLt)
    dsimp only
    rw [List.foldl_cons, overrun_eq_nil hn.2, write_nil]
    split
    · next hsame =>
      refine (setPartition_keeps self (·.touchpad before) ?_ p).symm
      obtain ⟨hlen, hbytes, -⟩ := hsame
      have hcopy := copyFrom_of_sameBytes hbytes
      have hlen' : UInt8.ofInt (n - 5) = (self.partition q).encodedTouchpadTextLen := by
        rw [hlen, ofInt_toNat]
      simp [ConcorddPartition.touchpad, ConcorddPartition.touchpadAscii, hcopy, hlen']
    · refine setPartition_heard hf (copy_touchpad ?_ (fun _ => rfl) (fun _ => rfl) (fun _ => rfl))
      intro hflag
      exact absurd hflag (by decide)

theorem level_heard (h : IsSubcmd b .level)
    (hf : self.callbacks.partitionInfoChangedFunc = true) : FrameHeard before env self b n p := by
  unfold FrameHeard
  rw [handleFrame_of_level h]
  unfold concorddHandleLevel
  cases concorddGetPartition (b 2).toNat with
  | none => rfl
  | some q =>
    refine setPartition_heard hf (copy_touchpad (fun _ => rfl) ?_ (fun _ => rfl) (fun _ => rfl))
    intro hflag
    exact absurd hflag (by decide)

theorem partitionData_heard (h : IsPta b .equipListPartitionData)
    (hf : self.callbacks.partitionInfoChangedFunc = true) : FrameHeard before env self b n p := by
  unfold FrameHeard
  rw [handleFrame_of_equipListPartitionData h]
  unfold concorddHandleEquipListPartitionData
  cases concorddGetPartition (b 1).toNat with
  | none => rfl
  | some q =>
    dsimp only
    split
    · refine setPartition_heard hf (copy_touchpad (fun _ => rfl) ?_ (fun _ => rfl) (fun _ => rfl))
      intro hflag
      exact absurd hflag (by decide)
    · next hsame =>
      refine (setPartition_keeps self (·.touchpad before) ?_ p).symm
      simp only [ConcorddPartition.touchpad, ← not_not.mp hsame]
      rfl

theorem featureState_heard (h : IsSubcmd b .featureState)
    (hf : self.callbacks.partitionInfoChangedFunc = true) : FrameHeard before env self b n p := by
  unfold FrameHeard
  rw [handleFrame_of_featureState h]
  unfold concorddHandleFeatureState
  cases concorddGetPartition (b 2).toNat with
  | none => rfl
  | some q =>
    dsimp only
    split
    · exact setPartition_heard hf
        (copy_touchpad (fun _ => rfl) (fun _ => rfl) (fun _ => rfl) (fun _ => rfl))
    · refine (setPartition_keeps self (·.touchpad before) ?_ p).symm
      rfl

theorem PartitionUpdate.touchpad_eq (h : PartitionUpdate env b n p old new)
    (hsetup : ¬ IsSubcmd b .sirenSetup) (hstop : ¬ IsSubcmd b .sirenStop)
    (htouchpad : ¬ IsSubcmd b .touchpadDisplay) (hlevel : ¬ IsSubcmd b .level)
    (hdata : ¬ IsPta b .equipListPartitionData) : new.touchpad before = old.touchpad before := by
  cases h with
  | sirenSetup h => exact (hsetup h).elim
  | sirenStop h => exact (hstop h).elim
  | touchpadDisplay h => exact (htouchpad h).elim
  | level h => exact (hlevel h).elim
  | partitionData h => exact (hdata h).elim
  | _ => rfl

theorem touchpad_mirrors (before : UInt8) (p : Fin 8) :
    Mirrors (touchpadHear before p) (fun self => (self.partition p).touchpad before)
      (·.partitionInfoChangedFunc) (fun _ b n => CopiesFit b n) (SetsSirenSilently p) where
  link _ _ := rfl
  rest _ _ _ := rfl
  deactivate _ := rfl
  queue _ _ _ := Iff.rfl
  guard _ _ _ _ := id
  frame env self b n hf hfit := by
    by_cases hsetup : IsSubcmd b .sirenSetup
    · exact sirenSetup_heard hsetup hf
    refine iff_of_true ?_ (not_setsSirenSilently hsetup)
    by_cases hstop : IsSubcmd b .sirenStop
    · exact sirenStop_heard hstop hf
    by_cases hgo : IsSubcmd b .sirenGo
    · exact sirenGo_heard hgo hf
    by_cases htouchpad : IsSubcmd b .touchpadDisplay
    · exact touchpadDisplay_heard htouchpad hf hfit
    by_cases hlevel : IsSubcmd b .level
    · exact level_heard hlevel hf
    by_cases hdata : IsPta b .equipListPartitionData
    · exact partitionData_heard hdata hf
    by_cases hfeature : IsSubcmd b .featureState
    · exact featureState_heard hfeature hf
    · rw [foldl_hear_eq]
      · exact ((handleFrame_partition env self hfit p).touchpad_eq hsetup hstop htouchpad hlevel
          hdata).symm
      · intro e he t
        have hcall := handleFrame_calls env self b n e he
        cases e with
        | partitionInfoChanged q partition changed =>
          rcases hcall with h | h | h | h | h | h | h
          · exact (hdata h).elim
          · exact (hsetup h).elim
          · exact (hstop h).elim
          · exact (hgo h).elim
          · exact (htouchpad h).elim
          · exact (hlevel h).elim
          · exact (hfeature h).elim
        | _ => rfl

end Concordd
