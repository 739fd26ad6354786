import Concordd.Library.Machine
import Concordd.Rs232.Model

/-! The receiver accepts exactly its frame grammar, from any interleaving of bytes and sends. -/
namespace Concordd

/-- A byte string read as pairs of characters: the bytes the pairs stand for, and a
character that still waits for its partner. -/
structure Reading where
  values : List UInt8
  pending : Option UInt8

def Reading.push (r : Reading) (byte : UInt8) : Reading :=
  match r.pending with
  | none => ⟨r.values, some byte⟩
  | some a => ⟨r.values ++ [hexValue a byte], none⟩

def reading (w : List UInt8) : Reading := w.foldl Reading.push ⟨[], none⟩

/-- The lengths a receiver admits. -/
def Admitted (length : UInt8) : Prop := geRs232LengthStatus length = .ok

instance (length : UInt8) : Decidable (Admitted length) :=
  inferInstanceAs (Decidable (_ = _))

/-- `w` reads as a length, a payload that fits it, and one more byte. -/
def IsFrame (w : List UInt8) (length : UInt8) (payload : List UInt8) (check : UInt8) : Prop :=
  reading w = ⟨length :: (payload ++ [check]), none⟩ ∧ Admitted length ∧
    payload.length + 1 = length.toNat

/-- A byte the receiver takes as the panel's answer instead of as part of a frame. -/
def Intercepted (self : GeRs232) (byte : UInt8) : Prop :=
  (byte = geRs232Ack ∨ byte = geRs232Nak) ∧ self.lastResponse = 0

instance (self : GeRs232) (byte : UInt8) : Decidable (Intercepted self byte) :=
  inferInstanceAs (Decidable (_ ∧ _))

/-- The receive fields agree; the rest belongs to the sender and the callbacks. -/
def SameReceiver (a b : GeRs232) : Prop :=
  a.readingMessage = b.readingMessage ∧ a.currentByte = b.currentByte ∧
    a.messageLen = b.messageLen ∧ a.nibbleBuffer = b.nibbleBuffer ∧
    a.bufferSum = b.bufferSum ∧ a.buffer = b.buffer

/-- The receiver `rs` is where the bytes `r` since the last start of message put it. -/
def Tracks (rs : GeRs232) (r : Reading) : Prop :=
  (∀ a, r.pending = some a → a ≠ 0) ∧
  match r.values with
  | [] => rs.readingMessage = true ∧ rs.messageLen = 255 ∧ rs.bufferSum = 0 ∧
      rs.nibbleBuffer = r.pending.getD 0
  | length :: data =>
    if Admitted length ∧ data.length < length.toNat then
      rs.readingMessage = true ∧ rs.messageLen = length ∧ rs.currentByte.toNat = data.length ∧
        rs.bufferSum = (length :: data).sum ∧ rs.nibbleBuffer = r.pending.getD 0 ∧
        ∀ (k : Fin geRs232MaxMessageSize) (hk : k.val < data.length), rs.buffer k = data[k.val]
    else rs.readingMessage = false

/-! Reading a byte string pair by pair. -/

theorem reading_snoc (w : List UInt8) (byte : UInt8) :
    reading (w ++ [byte]) = (reading w).push byte := by
  simp [reading]

theorem reading_values_prefix (w u : List UInt8) :
    (reading w).values <+: (reading (w ++ u)).values := by
  induction u using List.reverseRecOn with
  | nil => simp
  | append_singleton u byte ih =>
    rw [← List.append_assoc, reading_snoc]
    refine ih.trans ?_
    unfold Reading.push
    cases (reading (w ++ u)).pending <;> simp

theorem length_eq_reading (w : List UInt8) :
    w.length = 2 * (reading w).values.length + (reading w).pending.toList.length := by
  induction w using List.reverseRecOn with
  | nil => rfl
  | append_singleton w byte ih =>
    rw [reading_snoc, List.length_append, ih]
    unfold Reading.push
    cases (reading w).pending <;> simp
    omega

theorem IsFrame.length_eq {w payload : List UInt8} {length check : UInt8}
    (h : IsFrame w length payload check) : w.length = 2 * (length.toNat + 1) := by
  obtain ⟨hr, -, hl⟩ := h
  rw [length_eq_reading, hr]
  simp
  omega

/-- A frame has no other frame before its last character. -/
theorem IsFrame.eq_of_prefix {u w p q : List UInt8} {l m c d : UInt8}
    (hu : IsFrame u l p c) (hw : IsFrame w m q d) (hp : u <+: w) : u = w := by
  obtain ⟨v, rfl⟩ := hp
  have hv := reading_values_prefix u v
  rw [hu.1, hw.1] at hv
  obtain ⟨rfl, -⟩ := List.cons_prefix_cons.mp hv
  have hlen := hw.length_eq
  rw [List.length_append, hu.length_eq] at hlen
  have : v = [] := List.length_eq_zero_iff.mp (by omega)
  simp [this]

theorem admitted_bounds {length : UInt8} :
    Admitted length ↔ 2 ≤ length.toNat ∧ length.toNat ≤ 56 := by
  unfold Admitted geRs232LengthStatus geRs232MaxMessageSize
  split
  · simp; omega
  · split
    · simp; omega
    · simp; omega

/-! One byte. -/

theorem receiveByte_startOfMessage (rs : GeRs232) :
    Tracks (geRs232ReceiveByte rs geRs232StartOfMessage).state ⟨[], none⟩ ∧
      (geRs232ReceiveByte rs geRs232StartOfMessage).out = [] := by
  simp [geRs232ReceiveByte, Tracks]

/-- Bytes other than a start of message and the panel's answers go to the frame being read. -/
theorem receiveByte_of_not_intercepted {rs : GeRs232} {byte : UInt8}
    (hlf : byte ≠ geRs232StartOfMessage) (hi : ¬ Intercepted rs byte) :
    geRs232ReceiveByte rs byte =
      if rs.readingMessage then
        if rs.nibbleBuffer = 0 then ⟨{ rs with nibbleBuffer := byte }, [], .ok⟩
        else geRs232ReceiveValue { rs with nibbleBuffer := 0 } (hexValue rs.nibbleBuffer byte)
      else ⟨rs, [], .junk⟩ := by
  have ha : ¬ (byte = geRs232Ack ∧ rs.lastResponse = 0) := fun h => hi ⟨.inl h.1, h.2⟩
  have hn : ¬ (byte = geRs232Nak ∧ rs.lastResponse = 0) := fun h => hi ⟨.inr h.1, h.2⟩
  simp only [geRs232ReceiveByte, if_neg hlf, if_neg ha, if_neg hn]

/-- An answer is recorded, and reaches the hook if there is one. -/
theorem receiveByte_answer {rs : GeRs232} {byte : UInt8} (hi : Intercepted rs byte) :
    geRs232ReceiveByte rs byte =
      ⟨{ rs with lastResponse := byte },
        if rs.gotResponse then [.gotResponse (byte == geRs232Ack)] else [], .ok⟩ := by
  obtain ⟨rfl | rfl, h0⟩ := hi
  · simp [geRs232ReceiveByte, geRs232Ack, geRs232StartOfMessage, h0]
  · simp [geRs232ReceiveByte, geRs232Ack, geRs232Nak, geRs232StartOfMessage, h0]

/-- The calls a byte other than an answer can make: none, a refusal, or a delivery. -/
def LineCalls (out : List LinkEvent) : Prop :=
  out = [] ∨ out = [.sendBytes [geRs232Nak]] ∨
    ∃ buffer len, out = [.sendBytes [geRs232Ack], .receivedMessage buffer len]

/-- Receiving touches no field that belongs to sending. -/
def SameSender (a b : GeRs232) : Prop :=
  a.lastResponse = b.lastResponse ∧ a.lastSent = b.lastSent ∧
    a.outputBuffer = b.outputBuffer ∧ a.outputAttemptCount = b.outputAttemptCount ∧
    a.gotResponse = b.gotResponse

theorem finishValue_calls (rs : GeRs232) (value : UInt8) :
    SameSender (geRs232FinishValue rs value).state rs ∧
      LineCalls (geRs232FinishValue rs value).out := by
  unfold geRs232FinishValue
  split
  · split <;> simp [SameSender, LineCalls]
  · simp [SameSender, LineCalls]

theorem receiveValue_calls (rs : GeRs232) (value : UInt8) :
    SameSender (geRs232ReceiveValue rs value).state rs ∧
      LineCalls (geRs232ReceiveValue rs value).out := by
  unfold geRs232ReceiveValue
  split
  · split
    · exact finishValue_calls _ _
    · simp [SameSender, LineCalls]
  · exact finishValue_calls _ _

theorem receiveByte_calls {rs : GeRs232} {byte : UInt8} (hi : ¬ Intercepted rs byte) :
    SameSender (geRs232ReceiveByte rs byte).state rs ∧
      LineCalls (geRs232ReceiveByte rs byte).out := by
  by_cases hlf : byte = geRs232StartOfMessage
  · subst hlf
    simp [geRs232ReceiveByte, SameSender, LineCalls]
  · rw [receiveByte_of_not_intercepted hlf hi]
    split
    · split
      · simp [SameSender, LineCalls]
      · exact receiveValue_calls _ _
    · simp [SameSender, LineCalls]

theorem Tracks.of_sameReceiver {a b : GeRs232} {r : Reading} (hs : SameReceiver a b)
    (h : Tracks b r) : Tracks a r := by
  obtain ⟨h1, h2, h3, h4, h5, h6⟩ := hs
  simp only [Tracks, h1, h2, h3, h4, h5, h6] at h ⊢
  exact h

/-- The first character of a pair is kept for later. -/
theorem receiveByte_first {rs : GeRs232} {values : List UInt8} {byte : UInt8}
    (h : Tracks rs ⟨values, none⟩) (h0 : byte ≠ 0) (hlf : byte ≠ geRs232StartOfMessage)
    (hi : ¬ Intercepted rs byte) :
    Tracks (geRs232ReceiveByte rs byte).state ⟨values, some byte⟩ ∧
      (geRs232ReceiveByte rs byte).out = [] := by
  rw [receiveByte_of_not_intercepted hlf hi]
  obtain ⟨-, h⟩ := h
  cases values with
  | nil => simp_all [Tracks]
  | cons length data =>
    by_cases hr : Admitted length ∧ data.length < length.toNat
    · simp only [if_pos hr] at h
      obtain ⟨hm, hl, hc, hs, hn, hb⟩ := h
      simp only [Option.getD_none] at hn
      simp [Tracks, hm, hl, hc, hs, hn, hr, h0]
      exact hb
    · simp only [if_neg hr] at h
      simp [Tracks, h, hr, h0]

theorem Tracks.pending_ne {rs : GeRs232} {values : List UInt8} {a : UInt8}
    (h : Tracks rs ⟨values, some a⟩) : a ≠ 0 := h.1 a rfl

/-- The second character of a pair completes a value. -/
theorem receiveByte_second {rs : GeRs232} {a byte : UInt8} (hlf : byte ≠ geRs232StartOfMessage)
    (hi : ¬ Intercepted rs byte) (hm : rs.readingMessage = true) (hn : rs.nibbleBuffer = a)
    (ha : a ≠ 0) :
    geRs232ReceiveByte rs byte =
      geRs232ReceiveValue { rs with nibbleBuffer := 0 } (hexValue a byte) := by
  rw [receiveByte_of_not_intercepted hlf hi, if_pos hm, if_neg (by rw [hn]; exact ha), hn]

/-- The first pair after a start of message is the length. -/
theorem receiveByte_length {rs : GeRs232} {a byte : UInt8}
    (h : Tracks rs ⟨[], some a⟩) (hlf : byte ≠ geRs232StartOfMessage)
    (hi : ¬ Intercepted rs byte) :
    Tracks (geRs232ReceiveByte rs byte).state ⟨[hexValue a byte], none⟩ ∧
      (geRs232ReceiveByte rs byte).out = [] := by
  have ha := h.pending_ne
  obtain ⟨-, hm, hl, hs, hn⟩ := h
  simp only [Option.getD_some] at hn
  rw [receiveByte_second hlf hi hm hn ha, geRs232ReceiveValue, if_pos hl]
  by_cases hv : Admitted (hexValue a byte)
  · have hb := admitted_bounds.mp hv
    have hlt : ¬ hexValue a byte ≤ 0 := by
      rw [UInt8.le_iff_toNat_le]
      simp
      omega
    rw [if_pos (show geRs232LengthStatus _ = _ from hv), geRs232FinishValue, if_neg hlt]
    refine ⟨⟨by simp, ?_⟩, rfl⟩
    simp only [List.length_nil]
    rw [if_pos ⟨hv, by omega⟩]
    simp [hm, hs]
  · rw [if_neg (show ¬ geRs232LengthStatus _ = _ from hv)]
    simp [Tracks, hv]

/-- A completed pair inside an admitted frame is stored at the next index before it is checked. -/
theorem receiveByte_stored {rs : GeRs232} {length a byte : UInt8} {data : List UInt8}
    (h : Tracks rs ⟨length :: data, some a⟩) (hr : Admitted length ∧ data.length < length.toNat)
    (hlf : byte ≠ geRs232StartOfMessage) (hi : ¬ Intercepted rs byte) :
    ∃ stored : GeRs232,
      geRs232ReceiveByte rs byte = geRs232FinishValue stored (hexValue a byte) ∧
      stored.readingMessage = true ∧ stored.messageLen = length ∧
      stored.currentByte.toNat = data.length + 1 ∧
      stored.bufferSum = (length :: data).sum ∧ stored.nibbleBuffer = 0 ∧
      ∀ (k : Fin geRs232MaxMessageSize) (hk : k.val < (data ++ [hexValue a byte]).length),
        stored.buffer k = (data ++ [hexValue a byte])[k.val] := by
  have hb := admitted_bounds.mp hr.1
  have ha := h.pending_ne
  obtain ⟨-, h⟩ := h
  simp only [if_pos hr, Option.getD_some] at h
  obtain ⟨hm, hl, hc, hs, hn, hbuf⟩ := h
  have h255 : rs.messageLen ≠ 255 := by
    intro he
    rw [← hl, he] at hb
    exact absurd hb.2 (by decide)
  refine ⟨{ rs with
      nibbleBuffer := 0
      buffer := rs.buffer.write rs.currentByte (hexValue a byte)
      currentByte := rs.currentByte + 1 }, ?_, hm, hl, ?_, hs, rfl, ?_⟩
  · rw [receiveByte_second hlf hi hm hn ha, geRs232ReceiveValue, if_neg h255]
  · rw [UInt8.toNat_add, hc]
    simp
    omega
  · intro k hk
    simp only [Buffer.write, hc]
    by_cases hkd : k.val = data.length
    · simp [hkd]
    · simp only [List.length_append, List.length_singleton] at hk
      rw [if_neg hkd, List.getElem_append_left (by omega)]
      exact hbuf k (by omega)

theorem sum_snoc (length value : UInt8) (data : List UInt8) :
    (length :: (data ++ [value])).sum = (length :: data).sum + value := by
  simp [add_assoc]

/-- A pair inside an admitted frame, before its last one, joins the running sum. -/
theorem receiveByte_data {rs : GeRs232} {length a byte : UInt8} {data : List UInt8}
    (h : Tracks rs ⟨length :: data, some a⟩) (hl : Admitted length)
    (hlt : data.length + 1 < length.toNat) (hlf : byte ≠ geRs232StartOfMessage)
    (hi : ¬ Intercepted rs byte) :
    Tracks (geRs232ReceiveByte rs byte).state ⟨length :: (data ++ [hexValue a byte]), none⟩ ∧
      (geRs232ReceiveByte rs byte).out = [] := by
  have hr : Admitted length ∧ data.length < length.toNat := ⟨hl, by omega⟩
  obtain ⟨stored, hst, hm, hml, hcur, hs, hn, hbuf⟩ := receiveByte_stored h hr hlf hi
  have hle : ¬ stored.messageLen ≤ stored.currentByte := by
    rw [UInt8.le_iff_toNat_le, hcur, hml]
    omega
  rw [hst, geRs232FinishValue, if_neg hle]
  refine ⟨⟨by simp, ?_⟩, rfl⟩
  dsimp only
  rw [if_pos ⟨hl, by simpa using hlt⟩, sum_snoc]
  exact ⟨hm, hml, by simpa using hcur, by rw [hs], hn, hbuf⟩

theorem framePayload_eq {buffer : Buffer} {data : List UInt8} {len : UInt8}
    (hl : len.toNat = data.length) (hd : data.length ≤ geRs232MaxMessageSize)
    (hb : ∀ (k : Fin geRs232MaxMessageSize) (hk : k.val < data.length), buffer k = data[k.val]) :
    framePayload buffer len = data := by
  apply List.ext_getElem
  · simp [framePayload, hl]
    omega
  · intro k h1 h2
    simp only [framePayload, List.getElem_take, List.getElem_ofFn]
    exact hb ⟨k, by omega⟩ h2

/-- The last pair of an admitted frame is compared with the sum of those before it. -/
theorem receiveByte_last {rs : GeRs232} {length a byte : UInt8} {data : List UInt8}
    (h : Tracks rs ⟨length :: data, some a⟩) (hl : Admitted length)
    (heq : data.length + 1 = length.toNat) (hlf : byte ≠ geRs232StartOfMessage)
    (hi : ¬ Intercepted rs byte) :
    Tracks (geRs232ReceiveByte rs byte).state ⟨length :: (data ++ [hexValue a byte]), none⟩ ∧
      if (length :: data).sum = hexValue a byte then
        ∃ buffer, (geRs232ReceiveByte rs byte).out =
            [.sendBytes [geRs232Ack], .receivedMessage buffer (length - 1)] ∧
          framePayload buffer (length - 1) = data
      else
        (geRs232ReceiveByte rs byte).out = [.sendBytes [geRs232Nak]] ∧
          (geRs232ReceiveByte rs byte).status = .badChecksum := by
  have hr : Admitted length ∧ data.length < length.toNat := ⟨hl, by omega⟩
  have hb := admitted_bounds.mp hl
  obtain ⟨stored, hst, hm, hml, hcur, hs, hn, hbuf⟩ := receiveByte_stored h hr hlf hi
  have hle : stored.messageLen ≤ stored.currentByte := by
    rw [UInt8.le_iff_toNat_le, hcur, hml]
    omega
  have hdone : ¬ (Admitted length ∧ (data ++ [hexValue a byte]).length < length.toNat) := by
    simp
    omega
  rw [hst, geRs232FinishValue, if_pos hle]
  simp only [hs]
  by_cases hsum : (length :: data).sum = hexValue a byte
  · simp only [if_pos hsum]
    refine ⟨⟨by simp, by simp only [if_neg hdone]⟩, _, by rw [hml], ?_⟩
    apply framePayload_eq
    · rw [UInt8.toNat_sub_of_le _ _ (by rw [UInt8.le_iff_toNat_le]; simp; omega)]
      simp
      omega
    · unfold geRs232MaxMessageSize
      omega
    · intro k hk
      rw [hbuf k (by simp; omega), List.getElem_append_left hk]
  · simp only [if_neg hsum]
    exact ⟨⟨by simp, by simp only [if_neg hdone]⟩, trivial, trivial⟩

/-- Outside an admitted frame, or past its end, nothing happens up to the next start. -/
theorem receiveByte_idle {rs : GeRs232} {length a byte : UInt8} {data : List UInt8}
    (h : Tracks rs ⟨length :: data, some a⟩) (hr : ¬ (Admitted length ∧ data.length < length.toNat))
    (hlf : byte ≠ geRs232StartOfMessage) (hi : ¬ Intercepted rs byte) :
    Tracks (geRs232ReceiveByte rs byte).state ⟨length :: (data ++ [hexValue a byte]), none⟩ ∧
      (geRs232ReceiveByte rs byte).out = [] := by
  rw [receiveByte_of_not_intercepted hlf hi]
  obtain ⟨-, h⟩ := h
  simp only [if_neg hr] at h
  have hdone : ¬ (Admitted length ∧ (data ++ [hexValue a byte]).length < length.toNat) := by
    intro hc
    simp only [List.length_append, List.length_singleton] at hc
    exact hr ⟨hc.1, by omega⟩
  rw [if_neg (by simp [h])]
  exact ⟨⟨by simp, by simp only [if_neg hdone, h]⟩, rfl⟩

/-! Runs of the receiver. -/

/-- What the line has carried: the bytes since the last start of message without the panel's
answers, `none` before the first one, and what this string was at the earlier bytes. -/
structure Heard where
  w : Option (List UInt8)
  earlier : List (List UInt8)

def Heard.hear (h : Heard) (self : GeRs232) (byte : UInt8) : Heard :=
  if byte = geRs232StartOfMessage then ⟨some [], []⟩
  else if Intercepted self byte then ⟨h.w, h.w.toList ++ h.earlier⟩
  else ⟨h.w.map (· ++ [byte]), h.w.toList ++ h.earlier⟩

/-- Everything but the receive fields, taken from `other`. -/
def GeRs232.withOutside (self other : GeRs232) : GeRs232 :=
  { other with
    readingMessage := self.readingMessage
    currentByte := self.currentByte
    messageLen := self.messageLen
    nibbleBuffer := self.nibbleBuffer
    bufferSum := self.bufferSum
    buffer := self.buffer }

/-- A byte, a send, or whatever a callback or the queue does to the other fields. -/
inductive ReceiverStep
  | receive (byte : UInt8)
  | send (env : Env) (data : List UInt8)
  | outside (other : GeRs232)

def receiverMachine : Machine (GeRs232 × Heard) ReceiverStep LinkEvent where
  step s
    | .receive byte =>
      (((geRs232ReceiveByte s.1 byte).state, s.2.hear s.1 byte), (geRs232ReceiveByte s.1 byte).out)
    | .send env data =>
      (((geRs232SendMessage env s.1 data).state, s.2), (geRs232SendMessage env s.1 data).out)
    | .outside other => ((s.1.withOutside other, s.2), [])

/-- The string is a frame now and was none at any earlier byte. -/
def FirstFrame (h : Heard) (length : UInt8) (payload : List UInt8) (check : UInt8) : Prop :=
  ∃ w, h.w = some w ∧ IsFrame w length payload check ∧
    ∀ u ∈ h.earlier, ∀ l p c, ¬ IsFrame u l p c

/-- The string is past a frame, or past a length the receiver does not admit. -/
def Ended (u : List UInt8) : Prop :=
  (∃ l p c, IsFrame u l p c) ∨ ∃ l rest pending, reading u = ⟨l :: rest, pending⟩ ∧ ¬ Admitted l

def Delivered (out : List LinkEvent) (payload : List UInt8) : Prop :=
  ∃ buffer len, .receivedMessage buffer len ∈ out ∧ framePayload buffer len = payload

/-- Nothing is delivered and nothing is sent. -/
def Silent (out : List LinkEvent) : Prop := ∀ e ∈ out, ∃ didAck, e = .gotResponse didAck

/-- What the receiver does with a byte, in terms of the string `h` the byte leads to. -/
structure FrameVerdict (h : Heard) (r : Outcome GeRs232 LinkEvent) : Prop where
  delivers : ∀ p, Delivered r.out p ↔ ∃ l c, FirstFrame h l p c ∧ c = (l :: p).sum
  acks : ∀ l p c, FirstFrame h l p c → c = (l :: p).sum →
    ∃ buffer, r.out = [.sendBytes [geRs232Ack], .receivedMessage buffer (l - 1)]
  naks : ∀ l p c, FirstFrame h l p c → c ≠ (l :: p).sum →
    r.out = [.sendBytes [geRs232Nak]] ∧ r.status = .badChecksum
  badLength : ∀ w l rest pending, h.w = some w → reading w = ⟨l :: rest, pending⟩ →
    ¬ Admitted l → Silent r.out
  afterwards : ∀ u ∈ h.earlier, Ended u → Silent r.out

/-- The receiver is where the string heard so far puts it. -/
def TracksHeard (s : GeRs232 × Heard) : Prop :=
  match s.2.w with
  | none => s.1.readingMessage = false ∧ s.2.earlier = []
  | some w => Tracks s.1 (reading w) ∧ ∀ u ∈ s.2.earlier, u <+: w

theorem silent_not_delivered {out : List LinkEvent} (h : Silent out) (p : List UInt8) :
    ¬ Delivered out p := by
  rintro ⟨buffer, len, hm, -⟩
  obtain ⟨d, hd⟩ := h _ hm
  cases hd

theorem verdict_of_silent {h : Heard} {r : Outcome GeRs232 LinkEvent} (hs : Silent r.out)
    (hf : ∀ l p c, ¬ FirstFrame h l p c) : FrameVerdict h r where
  delivers p := by
    constructor
    · intro hd
      exact (silent_not_delivered hs p hd).elim
    · rintro ⟨l, c, hff, -⟩
      exact (hf l p c hff).elim
  acks l p c hff := (hf l p c hff).elim
  naks l p c hff := (hf l p c hff).elim
  badLength _ _ _ _ _ _ _ := hs
  afterwards _ _ _ := hs

theorem silent_nil : Silent [] := by
  simp [Silent]

/-- A start of message begins an empty string. -/
theorem verdict_startOfMessage (s : GeRs232 × Heard) :
    FrameVerdict (s.2.hear s.1 geRs232StartOfMessage)
      (geRs232ReceiveByte s.1 geRs232StartOfMessage) := by
  apply verdict_of_silent
  · rw [(receiveByte_startOfMessage s.1).2]
    exact silent_nil
  · rintro l p c ⟨w, hw, ⟨hr, -⟩, -⟩
    simp only [Heard.hear, if_true, Option.some.injEq] at hw
    subst hw
    simp [reading] at hr

/-- An answer of the panel is no part of the string, so the string is not new. -/
theorem verdict_intercepted {s : GeRs232 × Heard} {byte : UInt8}
    (hlf : byte ≠ geRs232StartOfMessage) (hi : Intercepted s.1 byte) :
    FrameVerdict (s.2.hear s.1 byte) (geRs232ReceiveByte s.1 byte) := by
  apply verdict_of_silent
  · rw [receiveByte_answer hi]
    intro e he
    dsimp only at he
    split at he
    · exact ⟨_, List.mem_singleton.mp he⟩
    · simp at he
  · rintro l p c ⟨w, hw, hfr, hno⟩
    simp only [Heard.hear, if_neg hlf, if_pos hi] at hw hno
    exact hno w (by simp [hw]) l p c hfr

/-- No prefix of a string that is one character short of a frame is past anything. -/
theorem not_ended_of_short {u v data : List UInt8} {length a : UInt8}
    (hr : reading u = ⟨length :: data, some a⟩) (hl : Admitted length)
    (heq : data.length + 1 = length.toNat) (hv : v <+: u) : ¬ Ended v := by
  rintro (⟨l, p, c, hf⟩ | ⟨l, rest, pending, hrv, hna⟩)
  · have hframe : IsFrame (u ++ [0x30]) length data (hexValue a 0x30) := by
      refine ⟨?_, hl, heq⟩
      rw [reading_snoc, hr]
      rfl
    have hlen := hv.length_le
    rw [hf.eq_of_prefix hframe (hv.trans (List.prefix_append u _))] at hlen
    simp at hlen
  · obtain ⟨x, rfl⟩ := hv
    have hvp := reading_values_prefix v x
    rw [hrv, hr] at hvp
    exact hna ((List.cons_prefix_cons.mp hvp).1 ▸ hl)

theorem firstFrame_iff {h : Heard} {w data : List UInt8} {length check : UInt8}
    (hw : h.w = some w) (hf : IsFrame w length data check) (he : ∀ v ∈ h.earlier, ¬ Ended v)
    (l : UInt8) (p : List UInt8) (c : UInt8) :
    FirstFrame h l p c ↔ l = length ∧ p = data ∧ c = check := by
  constructor
  · rintro ⟨w', hw', ⟨hr', -⟩, -⟩
    obtain rfl := Option.some.inj (hw.symm.trans hw')
    rw [hf.1] at hr'
    simp only [Reading.mk.injEq, List.cons.injEq, and_true] at hr'
    obtain ⟨rfl, happ⟩ := hr'
    obtain ⟨rfl, hc⟩ := List.append_inj' happ rfl
    simp only [List.cons.injEq, and_true] at hc
    exact ⟨rfl, rfl, hc.symm⟩
  · rintro ⟨rfl, rfl, rfl⟩
    exact ⟨w, hw, hf, fun v hv l p c hfv => he v hv (.inl ⟨l, p, c, hfv⟩)⟩

/-- What the last character of a frame must do, as one comparison of the check byte. -/
theorem verdict_of_frame {h : Heard} {r : Outcome GeRs232 LinkEvent} {w data : List UInt8}
    {length check : UInt8} (hw : h.w = some w) (hf : IsFrame w length data check)
    (he : ∀ v ∈ h.earlier, ¬ Ended v)
    (hout : if (length :: data).sum = check then
        ∃ buffer, r.out = [.sendBytes [geRs232Ack], .receivedMessage buffer (length - 1)] ∧
          framePayload buffer (length - 1) = data
      else r.out = [.sendBytes [geRs232Nak]] ∧ r.status = .badChecksum) :
    FrameVerdict h r := by
  have hfirst := firstFrame_iff hw hf he
  refine ⟨fun p => ⟨?_, ?_⟩, ?_, ?_, ?_, fun v hv hend => (he v hv hend).elim⟩
  · rintro ⟨buffer', len', hm, hp⟩
    by_cases hsum : (length :: data).sum = check
    · rw [if_pos hsum] at hout
      obtain ⟨buffer, hout, hpay⟩ := hout
      rw [hout] at hm
      simp only [List.mem_cons, reduceCtorEq, false_or, List.not_mem_nil, or_false,
        LinkEvent.receivedMessage.injEq] at hm
      obtain ⟨rfl, rfl⟩ := hm
      exact ⟨length, check, (hfirst ..).mpr ⟨rfl, hp.symm.trans hpay, rfl⟩,
        by rw [← hp, hpay, hsum]⟩
    · rw [if_neg hsum] at hout
      simp [hout.1] at hm
  · rintro ⟨l, c, hff, hc⟩
    obtain ⟨rfl, rfl, rfl⟩ := (hfirst ..).mp hff
    rw [if_pos hc.symm] at hout
    obtain ⟨buffer, hout, hpay⟩ := hout
    exact ⟨buffer, _, by simp [hout], hpay⟩
  · intro l p c hff hc
    obtain ⟨rfl, rfl, rfl⟩ := (hfirst ..).mp hff
    rw [if_pos hc.symm] at hout
    obtain ⟨buffer, hout, -⟩ := hout
    exact ⟨buffer, hout⟩
  · intro l p c hff hne
    obtain ⟨rfl, rfl, rfl⟩ := (hfirst ..).mp hff
    rwa [if_neg (fun hc => hne hc.symm)] at hout
  · intro w' l rest pending hw' hr' hna
    obtain rfl := Option.some.inj (hw.symm.trans hw')
    rw [hf.1] at hr'
    simp only [Reading.mk.injEq, List.cons.injEq] at hr'
    exact (hna (hr'.1.1 ▸ hf.2.1)).elim

/-- The byte that completes a frame. -/
theorem verdict_last {rs : GeRs232} {h : Heard} {u data : List UInt8} {length a byte : UInt8}
    (ht : Tracks rs (reading u)) (hu : h.w = some u) (he : ∀ v ∈ h.earlier, v <+: u)
    (hr : reading u = ⟨length :: data, some a⟩) (hl : Admitted length)
    (heq : data.length + 1 = length.toNat) (hlf : byte ≠ geRs232StartOfMessage)
    (hi : ¬ Intercepted rs byte) :
    FrameVerdict (h.hear rs byte) (geRs232ReceiveByte rs byte) := by
  have hw : reading (u ++ [byte]) = ⟨length :: (data ++ [hexValue a byte]), none⟩ := by
    rw [reading_snoc, hr]
    rfl
  have hhear : h.hear rs byte = ⟨some (u ++ [byte]), u :: h.earlier⟩ := by
    simp [Heard.hear, hlf, hi, hu]
  have hopen : ∀ v ∈ u :: h.earlier, ¬ Ended v := by
    intro v hv
    apply not_ended_of_short hr hl heq
    rcases List.mem_cons.mp hv with rfl | hv
    · exact List.prefix_refl v
    · exact he v hv
  rw [hr] at ht
  rw [hhear]
  exact verdict_of_frame rfl ⟨hw, hl, heq⟩ hopen (receiveByte_last ht hl heq hlf hi).2

/-- A byte that leaves the string short of a frame, or past its end. -/
theorem verdict_inside {rs : GeRs232} {h : Heard} {u : List UInt8} {byte : UInt8}
    (hu : h.w = some u) (hlf : byte ≠ geRs232StartOfMessage) (hi : ¬ Intercepted rs byte)
    (hout : (geRs232ReceiveByte rs byte).out = [])
    (hno : ∀ l p c, ¬ IsFrame (u ++ [byte]) l p c) :
    FrameVerdict (h.hear rs byte) (geRs232ReceiveByte rs byte) := by
  apply verdict_of_silent
  · rw [hout]
    exact silent_nil
  · rintro l p c ⟨w, hw, hfr, -⟩
    simp only [Heard.hear, if_neg hlf, if_neg hi, hu, Option.map_some, Option.some.injEq] at hw
    exact hno l p c (hw ▸ hfr)

/-- A byte joined to the string: the state follows the longer string, only the end of a frame
makes calls, and the verdict holds. -/
theorem receive_joined {rs : GeRs232} {h : Heard} {u : List UInt8} {byte : UInt8}
    (ht : Tracks rs (reading u)) (hu : h.w = some u) (he : ∀ v ∈ h.earlier, v <+: u)
    (h0 : byte ≠ 0) (hlf : byte ≠ geRs232StartOfMessage) (hi : ¬ Intercepted rs byte) :
    Tracks (geRs232ReceiveByte rs byte).state (reading (u ++ [byte])) ∧
      ((∀ l p c, ¬ IsFrame (u ++ [byte]) l p c) → (geRs232ReceiveByte rs byte).out = []) ∧
      FrameVerdict (h.hear rs byte) (geRs232ReceiveByte rs byte) := by
  rcases hr : reading u with ⟨values, _ | a⟩
  · have hw : reading (u ++ [byte]) = ⟨values, some byte⟩ := by rw [reading_snoc, hr]; rfl
    obtain ⟨hst, hout⟩ := receiveByte_first (hr ▸ ht) h0 hlf hi
    refine ⟨hw ▸ hst, fun _ => hout, verdict_inside hu hlf hi hout ?_⟩
    rintro l p c ⟨hf, -⟩
    simp [hw] at hf
  · have hw : reading (u ++ [byte]) = ⟨values ++ [hexValue a byte], none⟩ := by
      rw [reading_snoc, hr]
      rfl
    cases values with
    | nil =>
      obtain ⟨hst, hout⟩ := receiveByte_length (hr ▸ ht) hlf hi
      refine ⟨hw ▸ hst, fun _ => hout, verdict_inside hu hlf hi hout ?_⟩
      rintro l p c ⟨hf, -⟩
      simp [hw] at hf
    | cons length data =>
      -- a frame ends here exactly when the length is admitted and this is its last pair
      have hend : ∀ l p c, IsFrame (u ++ [byte]) l p c →
          Admitted length ∧ data.length + 1 = length.toNat := by
        rintro l p c ⟨hf, hl, hlen⟩
        simp only [hw, List.cons_append, Reading.mk.injEq, List.cons.injEq, and_true] at hf
        obtain ⟨rfl, hf⟩ := hf
        obtain ⟨rfl, -⟩ := List.append_inj' hf rfl
        exact ⟨hl, hlen⟩
      by_cases hl : Admitted length ∧ data.length < length.toNat
      · by_cases heq : data.length + 1 = length.toNat
        · obtain ⟨hst, -⟩ := receiveByte_last (hr ▸ ht) hl.1 heq hlf hi
          refine ⟨hw ▸ hst, fun hno => ?_, verdict_last ht hu he hr hl.1 heq hlf hi⟩
          exact (hno length data _ ⟨hw, hl.1, heq⟩).elim
        · obtain ⟨hst, hout⟩ := receiveByte_data (hr ▸ ht) hl.1 (by omega) hlf hi
          exact ⟨hw ▸ hst, fun _ => hout,
            verdict_inside hu hlf hi hout fun l p c hf => heq (hend l p c hf).2⟩
      · obtain ⟨hst, hout⟩ := receiveByte_idle (hr ▸ ht) hl hlf hi
        refine ⟨hw ▸ hst, fun _ => hout, verdict_inside hu hlf hi hout fun l p c hf => ?_⟩
        obtain ⟨hla, heq⟩ := hend l p c hf
        exact hl ⟨hla, by omega⟩

/-- Before the first start of message every byte is an answer or junk. -/
theorem receive_unstarted {rs : GeRs232} {h : Heard} {byte : UInt8}
    (hm : rs.readingMessage = false) (hu : h.w = none) (hlf : byte ≠ geRs232StartOfMessage)
    (hi : ¬ Intercepted rs byte) :
    (geRs232ReceiveByte rs byte).state = rs ∧
      FrameVerdict (h.hear rs byte) (geRs232ReceiveByte rs byte) := by
  rw [receiveByte_of_not_intercepted hlf hi, if_neg (by simp [hm])]
  refine ⟨rfl, verdict_of_silent silent_nil ?_⟩
  rintro l p c ⟨w, hw, -⟩
  simp [Heard.hear, hlf, hi, hu] at hw

theorem sameReceiver_sendMessage (env : Env) (self : GeRs232) (data : List UInt8) :
    SameReceiver (geRs232SendMessage env self data).state self := by
  unfold geRs232SendMessage geRs232WriteFrame
  split
  · simp [SameReceiver]
  · split
    · simp [SameReceiver]
    · dsimp only
      split <;> simp [SameReceiver]

theorem TracksHeard.of_sameReceiver {a b : GeRs232} {h : Heard} (hs : SameReceiver a b)
    (ht : TracksHeard (b, h)) : TracksHeard (a, h) := by
  rcases hw : h.w with _ | w
  · simp only [TracksHeard, hw] at ht ⊢
    exact ⟨hs.1.trans ht.1, ht.2⟩
  · simp only [TracksHeard, hw] at ht ⊢
    exact ⟨ht.1.of_sameReceiver hs, ht.2⟩

/-- One byte: the state goes on following the string heard, and the verdict holds. -/
theorem receive_step {s : GeRs232 × Heard} {byte : UInt8} (ht : TracksHeard s) (h0 : byte ≠ 0) :
    TracksHeard (receiverMachine.step s (.receive byte)).1 ∧
      FrameVerdict (s.2.hear s.1 byte) (geRs232ReceiveByte s.1 byte) := by
  obtain ⟨rs, h⟩ := s
  by_cases hlf : byte = geRs232StartOfMessage
  · subst hlf
    refine ⟨?_, verdict_startOfMessage (rs, h)⟩
    simp only [receiverMachine, TracksHeard, Heard.hear, if_true]
    exact ⟨(receiveByte_startOfMessage rs).1, by simp⟩
  by_cases hi : Intercepted rs byte
  · refine ⟨?_, verdict_intercepted (s := (rs, h)) hlf hi⟩
    have hs : SameReceiver (geRs232ReceiveByte rs byte).state rs := by
      simp [receiveByte_answer hi, SameReceiver]
    apply TracksHeard.of_sameReceiver hs
    rcases hw : h.w with _ | w
    · simpa [TracksHeard, Heard.hear, hlf, hi, hw] using ht
    · simp only [TracksHeard, hw] at ht
      simp only [TracksHeard, Heard.hear, if_neg hlf, if_pos hi, hw]
      simpa using ht
  rcases hw : h.w with _ | w
  · simp only [TracksHeard, hw] at ht
    obtain ⟨hst, hv⟩ := receive_unstarted ht.1 hw hlf hi
    refine ⟨?_, hv⟩
    simp [receiverMachine, TracksHeard, Heard.hear, hlf, hi, hw, hst, ht]
  · simp only [TracksHeard, hw] at ht
    obtain ⟨hst, -, hv⟩ := receive_joined ht.1 hw ht.2 h0 hlf hi
    refine ⟨?_, hv⟩
    simp only [receiverMachine, TracksHeard, Heard.hear, if_neg hlf, if_neg hi, hw,
      Option.map_some, Option.toList_some, List.mem_append, List.mem_singleton]
    refine ⟨hst, ?_⟩
    rintro v (rfl | hv)
    · exact List.prefix_append v _
    · exact (ht.2 v hv).trans (List.prefix_append w _)

theorem tracksHeard_step {s : GeRs232 × Heard} {i : ReceiverStep} (ht : TracksHeard s)
    (h0 : i ≠ .receive 0) : TracksHeard (receiverMachine.step s i).1 := by
  cases i with
  | receive byte => exact (receive_step ht (by simpa using h0)).1
  | send env data => exact TracksHeard.of_sameReceiver (sameReceiver_sendMessage env s.1 data) ht
  | outside other =>
    exact TracksHeard.of_sameReceiver (by simp [SameReceiver, GeRs232.withOutside]) ht

/-- Whatever is interleaved with the bytes, the receiver delivers a payload exactly when the
string since the last start of message is, for the first time, a frame with a correct sum. -/
theorem receiver_accepts_exactly_frames (steps : List ReceiverStep)
    (h0 : ReceiverStep.receive 0 ∉ steps) :
    receiverMachine.Along
      (fun s i => ∀ byte, i = .receive byte →
        FrameVerdict (s.2.hear s.1 byte) (geRs232ReceiveByte s.1 byte))
      (geRs232Init, ⟨none, []⟩) steps := by
  have hsteps : receiverMachine.Along (fun _ i => i ≠ .receive 0) (geRs232Init, ⟨none, []⟩)
      steps := by
    generalize (geRs232Init, (⟨none, []⟩ : Heard)) = s
    induction steps generalizing s with
    | nil => trivial
    | cons i steps ih =>
      simp only [List.mem_cons, not_or] at h0
      exact ⟨fun he => h0.1 he.symm, ih h0.2 _⟩
  have hstep : ∀ s i, TracksHeard s → i ≠ .receive 0 → TracksHeard (receiverMachine.step s i).1 :=
    fun s i => tracksHeard_step
  refine Machine.along_of_inv hstep ?_ (by simp [TracksHeard, geRs232Init]) hsteps
  rintro s i ht hi byte rfl
  exact (receive_step ht (by simpa using hi)).2

/-- A one-byte payload whose frame the panel's answer to an earlier send interrupts. -/
theorem receiver_accepts_interrupted_frame :
    receiverMachine.Along
      (fun s i => ∀ byte, i = .receive byte →
        FrameVerdict (s.2.hear s.1 byte) (geRs232ReceiveByte s.1 byte))
      (geRs232Init, ⟨none, []⟩)
      [.send ⟨7, .ok⟩ [0x02], .receive 0x0A, .receive 0x30, .receive 0x32, .receive 0x06,
        .receive 0x30, .receive 0x38, .receive 0x30, .receive 0x41] :=
  receiver_accepts_exactly_frames _ (by simp)

end Concordd
