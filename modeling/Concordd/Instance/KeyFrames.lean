import Concordd.Instance.Keys
import Concordd.Rs232.Framing

/-! Which payloads fit the sender's frame buffer and the receiver's length check. -/
namespace Concordd

/-- The frame stays inside `buffer[GE_RS232_MAX_MESSAGE_SIZE+7]`, and the receiver would admit the
length it carries. -/
def FrameFits (bytes : List UInt8) : Prop :=
  (∀ k < bytes.length, k < geRs232MaxMessageSize + 7) ∧
    Admitted (hexValue (bytes.getD 1 0) (bytes.getD 2 0))

/-- Whatever `ge_rs232_send_message` sends for the payload fits. -/
def SendsWithinLimits (env : Env) (self : GeRs232) (data : List UInt8) : Prop :=
  ∀ bytes, LinkEvent.sendBytes bytes ∈ (geRs232SendMessage env self data).out → FrameFits bytes

theorem mem_sendMessage_out {env : Env} {self : GeRs232} {data bytes : List UInt8} :
    LinkEvent.sendBytes bytes ∈ (geRs232SendMessage env self data).out ↔
      (1 ≤ data.length ∧ data.length ≤ 56) ∧ bytes = geRs232Frame data := by
  unfold geRs232SendMessage geRs232WriteFrame geRs232MaxMessageSize
  split
  · simp
    omega
  · split
    · simp
      omega
    · have hlen : 1 ≤ data.length ∧ data.length ≤ 56 := by omega
      dsimp only
      split <;> simp [hlen]

theorem frameFits_iff {data : List UInt8} (h : 1 ≤ data.length ∧ data.length ≤ 56) :
    FrameFits (geRs232Frame data) ↔ data.length ≤ 29 := by
  have hbyte : hexValue ((geRs232Frame data).getD 1 0) ((geRs232Frame data).getD 2 0) =
      wireLength data := by
    simp [frame_eq, wireValues, hexPair, hexValue_intToHexDigit]
  have hl : (wireLength data).toNat = data.length + 1 := by
    simp [wireLength, UInt8.toNat_add]
    omega
  unfold FrameFits geRs232MaxMessageSize
  rw [hbyte, admitted_bounds, length_frame, hl]
  constructor
  · rintro ⟨hk, -⟩
    have := hk (2 * data.length + 4) (by omega)
    omega
  · intro hd
    exact ⟨fun k hk => by omega, by omega, by omega⟩

theorem sendsWithinLimits_iff (env : Env) (self : GeRs232) (data : List UInt8) :
    SendsWithinLimits env self data ↔ data.length ≤ 29 ∨ 56 < data.length := by
  constructor
  · intro h
    by_cases hd : 1 ≤ data.length ∧ data.length ≤ 56
    · exact .inl ((frameFits_iff hd).mp (h _ (mem_sendMessage_out.mpr ⟨hd, rfl⟩)))
    · omega
  · intro h bytes hm
    obtain ⟨hd, rfl⟩ := mem_sendMessage_out.mp hm
    exact (frameFits_iff hd).mpr (by omega)

/-! The length of the message built from a key string. -/

theorem length_markLongPress {msg : List UInt8} (h : msg ≠ []) :
    (markLongPress msg).length = msg.length := by
  obtain ⟨init, last, rfl⟩ := List.eq_nil_or_concat msg |>.resolve_left h
  simp [markLongPress]

theorem length_marked {msg : List UInt8} (h : msg ≠ []) (c : Prop) [Decidable c] :
    (if c then markLongPress msg else msg).length = msg.length := by
  split
  · exact length_markLongPress h
  · rfl

/-- Keys only make the message longer, and never longer than the buffer. -/
theorem length_pressKeysLoop {msg out : List UInt8} {skip : ℕ} {keys : List UInt8}
    (hne : msg ≠ []) (hmax : msg.length ≤ geRs232MaxMessageSize)
    (h : pressKeysLoop msg skip keys = .ok out) :
    msg.length ≤ out.length ∧ out.length ≤ geRs232MaxMessageSize := by
  fun_induction pressKeysLoop msg skip keys with
  | case1 | case3 =>
    obtain rfl := Except.ok.inj h
    exact ⟨le_rfl, hmax⟩
  | case2 msg skip c keys ih => exact ih hne hmax h
  | case4 msg c =>
    obtain rfl := Except.ok.inj h
    have hmarked := length_marked hne (c = 0x21)
    exact ⟨hmarked.ge, hmarked.trans_le hmax⟩
  | case5 msg c keys hroom _ marked _ code _ new ih =>
    have hmarked : marked.length = msg.length := length_marked hne _
    have hpos : 0 < msg.length := List.length_pos_iff.mpr hne
    obtain ⟨hge, hle⟩ : msg.length ≤ new.length ∧ new.length ≤ geRs232MaxMessageSize := by
      simp only [new]
      split
      · exact ⟨hmarked.ge, hmarked.trans_le hmax⟩
      · rw [List.length_append, List.length_singleton]
        omega
    obtain ⟨hge', hle'⟩ := ih (List.length_pos_iff.mp (hpos.trans_le hge)) hle h
    exact ⟨hge.trans hge', hle'⟩
  | case7 msg c keys hroom _ code _ ih =>
    have hlen : (msg ++ [code]).length = msg.length + 1 := List.length_append
    obtain ⟨hge, hle⟩ := ih (by simp) (by omega) h
    exact ⟨by omega, hle⟩
  | case6 | case8 => cases h

theorem length_pressKeysMessage {partition : ℤ} {keys msg : List UInt8}
    (h : pressKeysMessage partition keys = .ok msg) : 3 ≤ msg.length ∧ msg.length ≤ 56 :=
  length_pressKeysLoop (by simp) (by simp [geRs232MaxMessageSize]) h

/-- What is sent fits the frame buffer and the receiver's limits exactly for payloads of up to
29 bytes, also among the messages made from key strings. -/
theorem frame_limits_iff (env : Env) (self : GeRs232) (data : List UInt8) :
    (SendsWithinLimits env self data ↔ data.length ≤ 29 ∨ 56 < data.length) ∧
      ∀ (partition : ℤ) (keys : List UInt8), pressKeysMessage partition keys = .ok data →
        (SendsWithinLimits env self data ↔ data.length ≤ 29) := by
  refine ⟨sendsWithinLimits_iff env self data, ?_⟩
  intro partition keys h
  have hlen := length_pressKeysMessage h
  rw [sendsWithinLimits_iff]
  omega

/-- Three keys. -/
theorem frame_limits_short :
    SendsWithinLimits ⟨0, .ok⟩ geRs232Init [0x40, 1, 0, 7, 7, 0] ↔
      [0x40, 1, 0, 7, 7, (0 : UInt8)].length ≤ 29 :=
  (frame_limits_iff ⟨0, .ok⟩ geRs232Init _).2 1 [0x37, 0x37, 0x30] (by decide)

/-- Twenty-seven keys make a frame of 65 characters. -/
theorem key_string_overruns_frame :
    ∃ msg, pressKeysMessage 1 (List.replicate 27 0x35) = .ok msg ∧ msg.length = 30 ∧
      (geRs232Frame msg).length = 65 ∧ ¬ SendsWithinLimits ⟨0, .ok⟩ geRs232Init msg := by
  refine ⟨0x40 :: 1 :: 0 :: List.replicate 27 5, by decide +kernel, by decide +kernel,
    by decide +kernel, ?_⟩
  intro h
  have hfit := h _ (mem_sendMessage_out.mpr ⟨by decide +kernel, rfl⟩)
  exact absurd (hfit.1 64 (by decide +kernel)) (by decide)

end Concordd
