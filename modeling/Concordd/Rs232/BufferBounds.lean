import Concordd.Rs232.Receiver

/-! The receive buffer is never overrun, whatever bytes arrive between whatever sends. -/
namespace Concordd

variable {rs : GeRs232} {byte : UInt8}

/-- The fields a receiver indexes its buffer with: it still waits for the length, or it has an
admitted length and room before it. -/
structure InBounds (rs : GeRs232) : Prop where
  room : rs.readingMessage = true →
    rs.messageLen = 255 ∧ rs.currentByte = 0 ∨
      2 ≤ rs.messageLen ∧ rs.messageLen.toNat ≤ geRs232MaxMessageSize ∧
        rs.currentByte < rs.messageLen

instance (rs : GeRs232) : Decidable (InBounds rs) :=
  decidable_of_iff _ ⟨InBounds.mk, InBounds.room⟩

/-- The assignment `buffer[current_byte++] = value` that `byte` causes, if it causes one. -/
def bufferWrite (rs : GeRs232) (byte : UInt8) : Option (UInt8 × UInt8) :=
  if byte ≠ geRs232StartOfMessage ∧ ¬ Intercepted rs byte ∧ rs.readingMessage = true ∧
      rs.nibbleBuffer ≠ 0 ∧ rs.messageLen ≠ 255 then
    some (rs.currentByte, hexValue rs.nibbleBuffer byte)
  else none

theorem finishValue_buffer (rs : GeRs232) (value : UInt8) :
    (geRs232FinishValue rs value).state.buffer = rs.buffer := by
  unfold geRs232FinishValue
  split
  · split <;> rfl
  · rfl

/-- The buffer is written by that assignment and nowhere else. -/
theorem receiveByte_buffer (rs : GeRs232) (byte : UInt8) :
    (geRs232ReceiveByte rs byte).state.buffer =
      (bufferWrite rs byte).elim rs.buffer (fun w => rs.buffer.write w.1 w.2) := by
  by_cases hlf : byte = geRs232StartOfMessage
  · simp [geRs232ReceiveByte, bufferWrite, hlf]
  by_cases hi : Intercepted rs byte
  · simp [receiveByte_answer hi, bufferWrite, hi]
  rw [receiveByte_of_not_intercepted hlf hi]
  by_cases hm : rs.readingMessage = true
  · by_cases hn : rs.nibbleBuffer = 0
    · simp [bufferWrite, hm, hn]
    · rw [if_pos hm, if_neg hn, geRs232ReceiveValue]
      by_cases hl : rs.messageLen = 255
      · simp only [hl, if_true]
        split
        · simp [finishValue_buffer, bufferWrite, hl]
        · simp [bufferWrite, hl]
      · simp [finishValue_buffer, bufferWrite, hlf, hi, hm, hn, hl]
  · simp [bufferWrite, hm]

/-! One byte. -/

theorem inBounds_of_sameReceiver {a b : GeRs232} (hs : SameReceiver a b) (hb : InBounds b) :
    InBounds a := by
  obtain ⟨hm, hc, hl, -⟩ := hs
  refine ⟨?_⟩
  rw [hm, hc, hl]
  exact hb.room

theorem inBounds_of_idle (h : rs.readingMessage = false) : InBounds rs :=
  ⟨fun hm => by simp [h] at hm⟩

/-- Either the frame is over, or the index is still short of the length it was compared with. -/
theorem inBounds_finishValue {value : UInt8} (h2 : 2 ≤ rs.messageLen)
    (hmax : rs.messageLen.toNat ≤ geRs232MaxMessageSize) :
    InBounds (geRs232FinishValue rs value).state := by
  unfold geRs232FinishValue
  by_cases hle : rs.messageLen ≤ rs.currentByte
  · rw [if_pos hle]
    split <;> exact inBounds_of_idle rfl
  · rw [if_neg hle]
    exact ⟨fun _ => .inr ⟨h2, hmax, UInt8.not_le.mp hle⟩⟩

theorem inBounds_receiveValue {value : UInt8} (hb : InBounds rs)
    (hm : rs.readingMessage = true) : InBounds (geRs232ReceiveValue rs value).state := by
  unfold geRs232ReceiveValue
  obtain ⟨hl, -⟩ | ⟨h2, hmax, -⟩ := hb.room hm
  · rw [if_pos hl]
    split
    · rename_i hv
      obtain ⟨h2, hmax⟩ := admitted_bounds.mp hv
      exact inBounds_finishValue (UInt8.le_iff_toNat_le.mpr h2) hmax
    · exact inBounds_of_idle rfl
  · have hl : rs.messageLen ≠ 255 := by
      intro he
      rw [he] at hmax
      exact absurd hmax (by decide)
    rw [if_neg hl]
    exact inBounds_finishValue h2 hmax

theorem inBounds_receiveByte (hb : InBounds rs) :
    InBounds (geRs232ReceiveByte rs byte).state := by
  by_cases hlf : byte = geRs232StartOfMessage
  · subst hlf
    exact ⟨fun _ => .inl (by simp [geRs232ReceiveByte])⟩
  by_cases hi : Intercepted rs byte
  · rw [receiveByte_answer hi]
    exact ⟨hb.room⟩
  rw [receiveByte_of_not_intercepted hlf hi]
  by_cases hm : rs.readingMessage = true
  · rw [if_pos hm]
    by_cases hn : rs.nibbleBuffer = 0
    · rw [if_pos hn]
      exact ⟨hb.room⟩
    · rw [if_neg hn]
      exact inBounds_receiveValue ⟨hb.room⟩ hm
  · rw [if_neg hm]
    exact hb

/-- A write happens only once a length is known, and the index is below it. -/
theorem bufferWrite_index_lt {index value : UInt8} (hb : InBounds rs)
    (hw : bufferWrite rs byte = some (index, value)) : index.toNat < geRs232MaxMessageSize := by
  unfold bufferWrite at hw
  split at hw
  · rename_i h
    obtain ⟨-, -, hm, -, hl⟩ := h
    simp only [Option.some.injEq, Prod.mk.injEq] at hw
    obtain ⟨rfl, -⟩ := hw
    obtain ⟨he, -⟩ | ⟨-, hmax, hlt⟩ := hb.room hm
    · exact absurd he hl
    · exact (UInt8.lt_iff_toNat_lt.mp hlt).trans_le hmax
  · simp at hw

theorem finishValue_len {value len : UInt8} {buffer : Buffer}
    (hd : .receivedMessage buffer len ∈ (geRs232FinishValue rs value).out) :
    len = rs.messageLen - 1 ∧ rs.messageLen ≤ rs.currentByte := by
  unfold geRs232FinishValue at hd
  by_cases hle : rs.messageLen ≤ rs.currentByte
  · rw [if_pos hle] at hd
    split at hd
    · simp only [List.mem_cons, reduceCtorEq, false_or, List.not_mem_nil, or_false,
        LinkEvent.receivedMessage.injEq] at hd
      exact ⟨hd.2, hle⟩
    · simp at hd
  · simp [hle] at hd

theorem length_sub_one {length : UInt8} (h2 : 2 ≤ length)
    (hmax : length.toNat ≤ geRs232MaxMessageSize) :
    1 ≤ (length - 1).toNat ∧ (length - 1).toNat ≤ 55 := by
  have h2' : 2 ≤ length.toNat := UInt8.le_iff_toNat_le.mp h2
  have h1 : (1 : UInt8) ≤ length := by
    rw [UInt8.le_iff_toNat_le]
    simp
    omega
  rw [UInt8.toNat_sub_of_le _ _ h1]
  unfold geRs232MaxMessageSize at hmax
  simp
  omega

theorem receiveValue_len {value len : UInt8} {buffer : Buffer} (hb : InBounds rs)
    (hm : rs.readingMessage = true)
    (hd : .receivedMessage buffer len ∈ (geRs232ReceiveValue rs value).out) :
    1 ≤ len.toNat ∧ len.toNat ≤ 55 := by
  unfold geRs232ReceiveValue at hd
  by_cases hl : rs.messageLen = 255
  · rw [if_pos hl] at hd
    split at hd
    · rename_i hv
      obtain ⟨rfl, -⟩ := finishValue_len hd
      obtain ⟨h2, hmax⟩ := admitted_bounds.mp hv
      exact length_sub_one (UInt8.le_iff_toNat_le.mpr h2) hmax
    · simp at hd
  · rw [if_neg hl] at hd
    obtain ⟨rfl, -⟩ := finishValue_len hd
    obtain ⟨he, -⟩ | ⟨h2, hmax, -⟩ := hb.room hm
    · exact absurd he hl
    · exact length_sub_one h2 hmax

theorem receiveByte_len {len : UInt8} {buffer : Buffer} (hb : InBounds rs)
    (hd : .receivedMessage buffer len ∈ (geRs232ReceiveByte rs byte).out) :
    1 ≤ len.toNat ∧ len.toNat ≤ 55 := by
  by_cases hlf : byte = geRs232StartOfMessage
  · subst hlf
    simp [geRs232ReceiveByte] at hd
  by_cases hi : Intercepted rs byte
  · rw [receiveByte_answer hi] at hd
    dsimp only at hd
    split at hd <;> simp at hd
  rw [receiveByte_of_not_intercepted hlf hi] at hd
  by_cases hm : rs.readingMessage = true
  · rw [if_pos hm] at hd
    by_cases hn : rs.nibbleBuffer = 0
    · simp [hn] at hd
    · rw [if_neg hn] at hd
      have hcleared : InBounds { rs with nibbleBuffer := 0 } := ⟨hb.room⟩
      exact receiveValue_len hcleared hm hd
  · simp [hm] at hd

/-! Whole runs. -/

theorem inBounds_step {s : GeRs232 × Heard} (i : ReceiverStep) (hb : InBounds s.1) :
    InBounds (receiverMachine.step s i).1.1 := by
  cases i with
  | receive byte => exact inBounds_receiveByte hb
  | send env data => exact inBounds_of_sameReceiver (sameReceiver_sendMessage env s.1 data) hb
  | outside other =>
    exact inBounds_of_sameReceiver
      (by simp [receiverMachine, SameReceiver, GeRs232.withOutside]) hb

/-- What a byte does with the buffer: it writes at one index at most, inside the array, and it
delivers no frame longer than what was stored. -/
structure KeepsBuffer (rs : GeRs232) (byte : UInt8) : Prop where
  written : (geRs232ReceiveByte rs byte).state.buffer =
    (bufferWrite rs byte).elim rs.buffer (fun w => rs.buffer.write w.1 w.2)
  inside : ∀ index value, bufferWrite rs byte = some (index, value) →
    index.toNat < geRs232MaxMessageSize
  delivered : ∀ buffer len, .receivedMessage buffer len ∈ (geRs232ReceiveByte rs byte).out →
    1 ≤ len.toNat ∧ len.toNat ≤ 55

/-- The bounds hold in every state, and every byte in any interleaving writes inside them. -/
theorem receiver_buffer_in_bounds (steps : List ReceiverStep) :
    receiverMachine.Always (fun s => InBounds s.1) (geRs232Init, ⟨none, []⟩) steps ∧
      receiverMachine.Along (fun s i => ∀ byte, i = .receive byte → KeepsBuffer s.1 byte)
        (geRs232Init, ⟨none, []⟩) steps := by
  have hinit : InBounds geRs232Init := inBounds_of_idle rfl
  have hstep : ∀ (s : GeRs232 × Heard) i, InBounds s.1 → True →
      InBounds (receiverMachine.step s i).1.1 := fun s i hb _ => inBounds_step i hb
  refine ⟨⟨hinit, ?_⟩, ?_⟩
  · exact Machine.along_of_inv (I := fun s => InBounds s.1) hstep
      (fun s i hb _ => inBounds_step i hb) hinit Machine.along_true
  · refine Machine.along_of_inv (I := fun s => InBounds s.1) hstep ?_ hinit Machine.along_true
    rintro s i hb - byte rfl
    exact ⟨receiveByte_buffer s.1 byte, fun index value => bufferWrite_index_lt hb,
      fun buffer len => receiveByte_len hb⟩

end Concordd
