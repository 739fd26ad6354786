import Concordd.Instance.Calls
import Concordd.Instance.Runs

/-! The copies a frame causes, and the lengths they leave in the tables. -/
namespace Concordd

def NoCopy (out : List InstanceEvent) : Prop :=
  ∀ capacity len, InstanceEvent.copy capacity len ∉ out

variable {env : Env} {self : ConcorddInstance} {frameBytes : Buffer} {frameLen : ℕ}

theorem noCopy_nil : NoCopy [] := by simp [NoCopy]

theorem noCopy_partitionInfoChanged (i : Fin 8) (changed : UInt32) :
    NoCopy (concorddPartitionInfoChanged self i changed) := by
  unfold concorddPartitionInfoChanged
  split <;> simp [NoCopy]

theorem noCopy_zoneInfoChanged (i : Fin 96) (changed : UInt32) :
    NoCopy (concorddZoneInfoChanged self i changed) := by
  unfold concorddZoneInfoChanged
  split <;> simp [NoCopy]

theorem noCopy_ite {c : Prop} [Decidable c] {out : List InstanceEvent} (h : NoCopy out) :
    NoCopy (if c then out else []) := by
  split
  · exact h
  · exact noCopy_nil

theorem copy_mem_cons {out : List InstanceEvent} {capacity capacity' : ℕ} {len len' : ℤ}
    (h : NoCopy out) :
    InstanceEvent.copy capacity len ∈ .copy capacity' len' :: out ↔
      capacity = capacity' ∧ len = len' := by
  simp [h capacity len]

theorem handleTouchpadDisplay_copies {capacity : ℕ} {len : ℤ} :
    .copy capacity len ∈ (concorddHandleTouchpadDisplay self frameBytes frameLen).out ↔
      (frameBytes 2).toNat < 8 ∧ capacity = 32 ∧ len = frameLen - 5 := by
  unfold concorddHandleTouchpadDisplay
  split
  · next hp =>
    have hp := tableIndex_eq_none.mp hp
    simp
    omega
  · next p hp =>
    have hp : ((frameBytes 2).toNat : ℤ) = p.val := tableIndex_eq_some.mp hp
    dsimp only
    rw [← ite_not, copy_mem_cons (noCopy_ite (noCopy_partitionInfoChanged _ _))]
    omega

theorem handleEquipListZoneData_copies {capacity : ℕ} {len : ℤ} :
    .copy capacity len ∈ (concorddHandleEquipListZoneData self frameBytes frameLen).out ↔
      (word16 (frameBytes 4) (frameBytes 5)).toNat < 96 ∧ capacity = 16 ∧ len = frameLen - 8 := by
  unfold concorddHandleEquipListZoneData
  split
  · next hz =>
    have hz := tableIndex_eq_none.mp hz
    simp
    omega
  · next z hz =>
    have hz : ((word16 (frameBytes 4) (frameBytes 5)).toNat : ℤ) = z.val :=
      tableIndex_eq_some.mp hz
    dsimp only
    rw [copy_mem_cons (noCopy_ite (noCopy_zoneInfoChanged _ _))]
    omega

theorem handleEquipListOutputData_copies {capacity : ℕ} {len : ℤ} :
    .copy capacity len ∈ (concorddHandleEquipListOutputData self frameBytes frameLen).out ↔
      (frameBytes 2 &&& ~~~ 0x40).toNat < 71 ∧
        (capacity = 5 ∧ len = 5 ∨ capacity = 16 ∧ len = frameLen - 9) := by
  unfold concorddHandleEquipListOutputData
  split
  · next ho =>
    have ho := tableIndex_eq_none.mp ho
    simp only [List.not_mem_nil, false_iff]
    omega
  · next o ho =>
    have ho : ((frameBytes 2 &&& ~~~ 0x40).toNat : ℤ) = o.val := tableIndex_eq_some.mp ho
    simp only [List.mem_cons, InstanceEvent.copy.injEq, List.not_mem_nil, or_false]
    omega

/-- The copies a frame makes, each into an array of `capacity` bytes. -/
def FrameCopies (frameBytes : Buffer) (frameLen capacity : ℕ) (len : ℤ) : Prop :=
  IsSubcmd frameBytes .touchpadDisplay ∧ (frameBytes 2).toNat < 8 ∧
      capacity = 32 ∧ len = frameLen - 5 ∨
    IsPta frameBytes .equipListZoneData ∧ (word16 (frameBytes 4) (frameBytes 5)).toNat < 96 ∧
      capacity = 16 ∧ len = frameLen - 8 ∨
    IsPta frameBytes .equipListOutputData ∧ (frameBytes 2 &&& ~~~ 0x40).toNat < 71 ∧
      (capacity = 5 ∧ len = 5 ∨ capacity = 16 ∧ len = frameLen - 9)

theorem noCopy_handleFrame (ht : ¬ IsSubcmd frameBytes .touchpadDisplay)
    (hz : ¬ IsPta frameBytes .equipListZoneData) (ho : ¬ IsPta frameBytes .equipListOutputData) :
    NoCopy (concorddHandleFrame env self frameBytes frameLen).out := by
  intro capacity len hm
  rcases handleFrame_calls env self frameBytes frameLen _ hm with h | h | h
  · exact ht h
  · exact hz h
  · exact ho h

theorem handleFrame_copies {capacity : ℕ} {len : ℤ} :
    .copy capacity len ∈ (concorddHandleFrame env self frameBytes frameLen).out ↔
      FrameCopies frameBytes frameLen capacity len := by
  by_cases ht : IsSubcmd frameBytes .touchpadDisplay
  · have h0 : GeRs232Pta.ofByte (frameBytes 0) = .subcmd := ht.1
    have h1 : GeRs232PtaSubcmd.ofByte (frameBytes 1) = .touchpadDisplay := ht.2
    simp only [concorddHandleFrame, h0, concorddHandleSubcmd, h1]
    rw [handleTouchpadDisplay_copies]
    simp [FrameCopies, ht, IsPta, h0]
  by_cases hz : IsPta frameBytes .equipListZoneData
  · have h0 : GeRs232Pta.ofByte (frameBytes 0) = .equipListZoneData := hz
    simp only [concorddHandleFrame, h0]
    rw [handleEquipListZoneData_copies]
    simp [FrameCopies, IsSubcmd, IsPta, h0]
  by_cases ho : IsPta frameBytes .equipListOutputData
  · have h0 : GeRs232Pta.ofByte (frameBytes 0) = .equipListOutputData := ho
    simp only [concorddHandleFrame, h0]
    rw [handleEquipListOutputData_copies]
    simp [FrameCopies, IsSubcmd, IsPta, h0]
  · simp [FrameCopies, ht, hz, ho, noCopy_handleFrame ht hz ho capacity len]

/-- The copies of one frame stay in bounds exactly when its length suits its type. -/
theorem handleFrame_copies_fit (env : Env) (self : ConcorddInstance) :
    (∀ (capacity : ℕ) (len : ℤ),
        .copy capacity len ∈ (concorddHandleFrame env self frameBytes frameLen).out →
          0 ≤ len ∧ len ≤ capacity) ↔ CopiesFit frameBytes frameLen := by
  simp only [handleFrame_copies]
  constructor
  · intro h
    refine ⟨fun ht hp => ?_, fun hz hi => ?_, fun ho hi => ?_⟩
    · have := h 32 (frameLen - 5) (.inl ⟨ht, hp, rfl, rfl⟩)
      omega
    · have := h 16 (frameLen - 8) (.inr (.inl ⟨hz, hi, rfl, rfl⟩))
      omega
    · have := h 16 (frameLen - 9) (.inr (.inr ⟨ho, hi, .inr ⟨rfl, rfl⟩⟩))
      omega
  · rintro ⟨ht, hz, ho⟩ capacity len
      (⟨h, hi, rfl, rfl⟩ | ⟨h, hi, rfl, rfl⟩ | ⟨h, hi, ⟨rfl, rfl⟩ | ⟨rfl, rfl⟩⟩)
    · have := ht h hi
      omega
    · have := hz h hi
      omega
    · omega
    · have := ho h hi
      omega

/-! The lengths in the tables. -/

structure TextsFit (inst : ConcorddInstance) : Prop where
  touchpadText : ∀ i, (inst.partition i).encodedTouchpadTextLen ≤ 32
  zoneName : ∀ i, (inst.zone i).encodedNameLen ≤ 16
  outputName : ∀ i, (inst.output i).encodedNameLen ≤ 16

theorem ofInt_le {len : ℤ} {capacity : UInt8} (h : 0 ≤ len) (hc : len ≤ capacity.toNat) :
    UInt8.ofInt len ≤ capacity := by
  have := capacity.toNat_lt
  rw [UInt8.le_iff_toNat_le, UInt8.ofInt, UInt8.toNat_ofNat']
  omega

theorem PartitionUpdate.text_fits {i : Fin 8} {old new : ConcorddPartition}
    (h : PartitionUpdate env frameBytes frameLen i old new) (hf : CopiesFit frameBytes frameLen)
    (hold : old.encodedTouchpadTextLen ≤ 32) : new.encodedTouchpadTextLen ≤ 32 := by
  cases h with
  | touchpadDisplay ht hi =>
    have := hf.1 ht (by omega)
    exact ofInt_le (by omega) (by simp; omega)
  | _ => exact hold

theorem ZoneUpdate.name_fits {i : Fin 96} {old new : ConcorddZone}
    (h : ZoneUpdate env frameBytes frameLen i old new) (hf : CopiesFit frameBytes frameLen)
    (hold : old.encodedNameLen ≤ 16) : new.encodedNameLen ≤ 16 := by
  cases h with
  | data hz hi =>
    have := hf.2.1 hz (by omega)
    exact ofInt_le (by omega) (by simp; omega)
  | _ => exact hold

theorem OutputUpdate.name_fits {i : Fin 71} {old new : ConcorddOutput}
    (h : OutputUpdate env frameBytes frameLen i old new) (hf : CopiesFit frameBytes frameLen)
    (hold : old.encodedNameLen ≤ 16) : new.encodedNameLen ≤ 16 := by
  cases h with
  | data ho hi =>
    have := hf.2.2 ho (by omega)
    exact ofInt_le (by omega) (by simp; omega)
  | _ => exact hold

/-- Past the end of its table, the output count of device `33 + 2 * o` is the length of the name
of output `o`. -/
def CountFits (self : ConcorddInstance) (frameBytes : Buffer) : Prop :=
  IsPta frameBytes .equipListSuperbusCapData → frameBytes 4 = 0x0B → ∀ o : Fin 71,
    concorddGetDevice self (word24 (frameBytes 1) (frameBytes 2) (frameBytes 3)) =
      some (33 + 2 * o.val) → frameBytes 5 ≤ 16

theorem handleSuperbusDevData_nameLen (o : Fin 71) :
    ((concorddHandleEquipListSuperbusDevData self frameBytes).state.output o).encodedNameLen =
      (self.output o).encodedNameLen := by
  unfold concorddHandleEquipListSuperbusDevData
  dsimp only
  split
  · dsimp only
    rw [write_nameLen]
    refine stored_of_ne fun w hw => ?_
    obtain ⟨k, hk, rfl⟩ := List.mem_map.mp hw
    have hlow : k ≤ 8 := by
      simp only [List.mem_cons, List.not_mem_nil, or_false] at hk
      omega
    unfold deviceAddress outputAddress
    omega
  · rfl

/-- A capability reaches the length of a name only as an output count. -/
theorem handleSuperbusCapData_nameLen (o : Fin 71) :
    ((concorddHandleEquipListSuperbusCapData self frameBytes).state.output o).encodedNameLen =
      if frameBytes 4 = 0x0B ∧
          concorddGetDevice self (word24 (frameBytes 1) (frameBytes 2) (frameBytes 3)) =
            some (33 + 2 * o.val) then frameBytes 5
      else (self.output o).encodedNameLen := by
  unfold concorddHandleEquipListSuperbusCapData
  dsimp only
  cases concorddGetDevice self (word24 (frameBytes 1) (frameBytes 2) (frameBytes 3)) with
  | none => simp
  | some i =>
    dsimp only
    cases ht : tableIndex 32 i with
    | some d =>
      have hd := tableIndex_eq_some.mp ht
      have hlt := d.isLt
      rw [if_neg]
      rintro ⟨-, hi⟩
      have := Option.some.inj hi
      omega
    | none =>
      dsimp only
      rw [write_nameLen]
      by_cases ho : i = 33 + 2 * o.val
      · have haddress : outputAddress o.val + 37 = deviceAddress i + 17 := by
          unfold deviceAddress outputAddress
          omega
        rw [haddress, stored_deviceWrites]
        by_cases hcap : frameBytes 4 = 0x0B
        · simp [hcap, ho, capOffsets, ConcorddDevice.byte, ConcorddDevice.addCap]
        · have hno : 17 ∉ capOffsets (frameBytes 4) := by
            unfold capOffsets
            rw [if_neg hcap]
            split <;> simp
          rw [if_neg hno, if_neg fun h => hcap h.1]
      · rw [if_neg fun h => ho (Option.some.inj h.2)]
        refine stored_of_ne fun w hw => ?_
        obtain ⟨k, hk, rfl⟩ := List.mem_map.mp hw
        have hrange := mem_capOffsets hk
        unfold deviceAddress outputAddress
        omega

/-- A frame whose copies fit leaves a length too large only as the count of a device past the end
of its table. -/
theorem handleFrame_nameLen (env : Env) (h : TextsFit self) (hf : CopiesFit frameBytes frameLen) :
    (∀ o, ((concorddHandleFrame env self frameBytes frameLen).state.output o).encodedNameLen ≤ 16) ↔
      CountFits self frameBytes := by
  by_cases hcap : IsPta frameBytes .equipListSuperbusCapData
  · rw [handleFrame_of_equipListSuperbusCapData hcap]
    constructor
    · intro hle _ h4 o ho
      have hlen := hle o
      rwa [handleSuperbusCapData_nameLen, if_pos ⟨h4, ho⟩] at hlen
    · intro hcount o
      rw [handleSuperbusCapData_nameLen]
      split
      · next hi => exact hcount hcap hi.1 o hi.2
      · exact h.outputName o
  refine iff_of_true ?_ fun hc => (hcap hc).elim
  by_cases hdev : IsPta frameBytes .equipListSuperbusDevData
  · intro o
    rw [handleFrame_of_equipListSuperbusDevData hdev, handleSuperbusDevData_nameLen]
    exact h.outputName o
  · have hin : FrameInside self frameBytes frameLen :=
      ⟨hf, fun hd => (hdev hd).elim, fun hc => (hcap hc).elim⟩
    intro o
    exact ((handleFrame_inside env hin).output_update o).name_fits hf (h.outputName o)

theorem handleFrame_texts (env : Env) (h : TextsFit self) (hf : CopiesFit frameBytes frameLen) :
    TextsFit (concorddHandleFrame env self frameBytes frameLen).state ↔
      CountFits self frameBytes := by
  rw [← handleFrame_nameLen env h hf]
  constructor
  · exact fun hfits => hfits.outputName
  · intro hnames
    exact ⟨fun i => (handleFrame_partition env self hf i).text_fits hf (h.touchpadText i),
      fun i => (handleFrame_zone env self hf i).name_fits hf (h.zoneName i), hnames⟩

/-! Runs. -/

def CopiesInBounds (out : List DaemonEvent) : Prop :=
  ∀ (capacity : ℕ) (len : ℤ), .calls (.copy capacity len) ∈ out → 0 ≤ len ∧ len ≤ capacity

/-- The texts of the frame fit, and so does an output count that is stored as a text's length. -/
def LengthsFit (s : Daemon) (frameBytes : Buffer) (frameLen : ℕ) : Prop :=
  CopiesFit frameBytes frameLen ∧ CountFits s.inst frameBytes

variable {s : Daemon} {out : List DaemonEvent}

theorem linkCalls_copiesInBounds (events : List LinkEvent) (out : List DaemonEvent) :
    CopiesInBounds (linkCalls events ++ out) ↔ CopiesInBounds out := by
  simp [CopiesInBounds, linkCalls]

theorem Quiet.copiesInBounds {i : DaemonStep} (h : Quiet i out) : CopiesInBounds out := by
  rcases h with ⟨events, rfl | ⟨status, rfl⟩⟩
  · simp [CopiesInBounds, linkCalls]
  · simp [CopiesInBounds, linkCalls]

theorem handle_copies_iff (s : Daemon) (frameBytes : Buffer) (frameLen : ℕ) :
    CopiesInBounds (s.handle frameBytes frameLen).2 ↔ CopiesFit frameBytes frameLen := by
  rw [← handleFrame_copies_fit s.env s.inst]
  simp [CopiesInBounds, Daemon.handle]

/-- Where the lengths fit, a step keeps to the arrays exactly when its frame does. -/
theorem step_texts_iff (h : TextsFit s.inst) (i : DaemonStep) :
    CopiesInBounds (daemonMachine.step s i).2 ∧ TextsFit (daemonMachine.step s i).1.inst ↔
      FramesMeet LengthsFit s i := by
  rcases daemon_step_cases s i with ⟨q, callbacks, env, hs, ho⟩ | ⟨q, hs, ho⟩ |
    ⟨q, b, n, events, hs, ho⟩
  · refine iff_of_true ⟨ho.copiesInBounds, ?_⟩ (framesMeet_of_noFrame ho.noFrame)
    rw [hs]
    exact ⟨h.touchpadText, h.zoneName, h.outputName⟩
  · refine iff_of_true ⟨ho.copiesInBounds, ?_⟩ (framesMeet_of_noFrame ho.noFrame)
    rw [hs]
    exact ⟨h.touchpadText, h.zoneName, h.outputName⟩
  · have htexts : TextsFit (s.withQueue q).inst := ⟨h.touchpadText, h.zoneName, h.outputName⟩
    rw [framesMeet_handle ho, hs, ho, linkCalls_copiesInBounds, handle_copies_iff]
    exact and_congr_right fun hb => handleFrame_texts s.env htexts hb

/-- In every run, all copies stay in bounds and all stored lengths within their arrays exactly
when the texts and counts of the frames fit. -/
theorem copies_in_bounds_iff (env : Env) (is : List DaemonStep) :
    daemonMachine.Along (fun s i => CopiesInBounds (daemonMachine.step s i).2 ∧
        TextsFit (daemonMachine.step s i).1.inst) (daemonInit env) is ↔
      daemonMachine.Along (FramesMeet LengthsFit) (daemonInit env) is :=
  Machine.along_iff_of_inv (I := fun s => TextsFit s.inst) (D := fun _ _ => True)
    (fun _ i h _ => step_texts_iff h i) (fun _ i h _ hg => ((step_texts_iff h i).mpr hg).2)
    ⟨fun _ => UInt8.zero_le, fun _ => UInt8.zero_le, fun _ => UInt8.zero_le⟩ Machine.along_true

/-- A touchpad text of 50 bytes. -/
def longTouchpadDisplay : Buffer := fun k =>
  if k = 0 then 0x22 else if k = 1 then 0x09 else if k = 2 then 1 else 0x41

/-- The text's length ends up overwritten by one of its own bytes. -/
theorem touchpad_text_overruns :
    ¬ ∀ (env : Env) (is : List DaemonStep) (frameBytes : Buffer) (frameLen : ℕ),
      1 ≤ frameLen → frameLen ≤ 55 →
        CopiesInBounds ((daemonMachine.run (daemonInit env) is).handle frameBytes frameLen).2 ∧
          TextsFit ((daemonMachine.run (daemonInit env) is).handle frameBytes frameLen).1.inst := by
  intro h
  have hfits := (h ⟨0, .ok⟩ [] longTouchpadDisplay 55 (by decide) (by decide)).2.touchpadText 1
  revert hfits
  decide +kernel

end Concordd
