import Concordd.Rs232.Receiver

/-! What the sender writes for a payload, and how the receiver takes it back. -/
namespace Concordd

def hexPair (v : UInt8) : List UInt8 := [intToHexDigit (v >>> 4), intToHexDigit v]

/-- The length byte `ge_rs232_send_message` puts on the wire. -/
def wireLength (data : List UInt8) : UInt8 := UInt8.ofNat data.length + 1

/-- The values a frame carries: the length, the payload and the checksum. -/
def wireValues (data : List UInt8) : List UInt8 :=
  wireLength data :: (data ++ [(wireLength data :: data).sum])

theorem writeData_eq (checksum : UInt8) (data : List UInt8) :
    geRs232WriteData checksum data = ((checksum :: data).sum, data.flatMap hexPair) := by
  induction data generalizing checksum with
  | nil => simp [geRs232WriteData]
  | cons b data ih => simp [geRs232WriteData, ih, hexPair, add_assoc]

/-- A frame is a start of message and two digits for each value. -/
theorem frame_eq (data : List UInt8) :
    geRs232Frame data = geRs232StartOfMessage :: (wireValues data).flatMap hexPair := by
  simp [geRs232Frame, writeData_eq, wireValues, wireLength, hexPair]

theorem length_hexPairs (values : List UInt8) :
    (values.flatMap hexPair).length = 2 * values.length := by
  induction values with
  | nil => rfl
  | cons v values ih =>
    simp only [List.flatMap_cons, List.length_append, ih, List.length_cons]
    simp [hexPair]
    omega

theorem length_frame (data : List UInt8) : (geRs232Frame data).length = 2 * data.length + 5 := by
  rw [frame_eq, List.length_cons, length_hexPairs]
  simp [wireValues]
  omega

theorem reading_hexPairs (values : List UInt8) :
    reading (values.flatMap hexPair) = ⟨values, none⟩ := by
  induction values using List.reverseRecOn with
  | nil => rfl
  | append_singleton values v ih =>
    have hv : (values ++ [v]).flatMap hexPair =
        values.flatMap hexPair ++ [intToHexDigit (v >>> 4)] ++ [intToHexDigit v] := by
      simp [hexPair]
    rw [hv, reading_snoc, reading_snoc, ih]
    simp [Reading.push, hexValue_intToHexDigit]

/-- A digit is neither zero nor one of the bytes with a meaning of their own. -/
def IsDigit (c : UInt8) : Prop :=
  c ≠ 0 ∧ c ≠ geRs232StartOfMessage ∧ c ≠ geRs232Ack ∧ c ≠ geRs232Nak

theorem isDigit_intToHexDigit (x : UInt8) : IsDigit (intToHexDigit x) := by
  have h : ∀ x, intToHexDigit x ≠ 0 ∧ intToHexDigit x ≠ 0x0A ∧ intToHexDigit x ≠ 0x06 ∧
      intToHexDigit x ≠ 0x15 := by decide +kernel
  exact h x

theorem isDigit_hexPairs {values : List UInt8} {c : UInt8} (h : c ∈ values.flatMap hexPair) :
    IsDigit c := by
  obtain ⟨v, -, hc⟩ := List.mem_flatMap.mp h
  simp only [hexPair, List.mem_cons, List.not_mem_nil, or_false] at hc
  rcases hc with rfl | rfl <;> exact isDigit_intToHexDigit _

theorem IsDigit.not_intercepted {c : UInt8} (h : IsDigit c) (rs : GeRs232) :
    ¬ Intercepted rs c := by
  rintro ⟨rfl | rfl, -⟩
  · exact h.2.2.1 rfl
  · exact h.2.2.2 rfl

/-- The digits of a payload of 1 to 55 bytes are a frame with the right sum. -/
theorem isFrame_wire {data : List UInt8} (h1 : 1 ≤ data.length) (h2 : data.length ≤ 55) :
    IsFrame ((wireValues data).flatMap hexPair) (wireLength data) data
      (wireLength data :: data).sum := by
  have hl : (wireLength data).toNat = data.length + 1 := by
    simp [wireLength, UInt8.toNat_add]
    omega
  refine ⟨reading_hexPairs _, admitted_bounds.mpr ?_, hl.symm⟩
  omega

/-! Feeding bytes while callbacks run. -/

/-- The bytes are received in turn. The callbacks a byte causes may then change anything but
the receive fields. -/
inductive Feed : GeRs232 → List UInt8 → List LinkEvent → GeRs232 → Prop
  | nil {s} : Feed s [] [] s
  | cons {s s' t byte bytes out} (hs : SameReceiver s' (geRs232ReceiveByte s byte).state)
      (hq : (geRs232ReceiveByte s byte).out = [] → s' = (geRs232ReceiveByte s byte).state)
      (h : Feed s' bytes out t) :
      Feed s (byte :: bytes) ((geRs232ReceiveByte s byte).out ++ out) t

/-- The payloads passed to `received_message`. -/
def deliveries (out : List LinkEvent) : List (List UInt8) :=
  out.filterMap fun
    | .receivedMessage buffer len => some (framePayload buffer len)
    | _ => none

/-- What was handed to `send_bytes`. -/
def transmissions (out : List LinkEvent) : List (List UInt8) :=
  out.filterMap fun
    | .sendBytes bytes => some bytes
    | _ => none

/-- The calls of `got_response`. -/
def responses (out : List LinkEvent) : List Bool :=
  out.filterMap fun
    | .gotResponse didAck => some didAck
    | _ => none

/-- One acknowledgement, then the delivery of `data`. -/
def Accepted (data : List UInt8) (out : List LinkEvent) : Prop :=
  ∃ buffer len, out = [.sendBytes [geRs232Ack], .receivedMessage buffer len] ∧
    framePayload buffer len = data

/-- The byte that completes a string to a frame completes no other, and none before it did. -/
theorem firstFrame_last {data u : List UInt8} {byte : UInt8} {s : GeRs232} (hd : IsDigit byte)
    (hframe : IsFrame (u ++ [byte]) (wireLength data) data (wireLength data :: data).sum) :
    FirstFrame (Heard.hear ⟨some u, []⟩ s byte) (wireLength data) data
      (wireLength data :: data).sum := by
  refine ⟨u ++ [byte], ?_, hframe, ?_⟩
  · simp [Heard.hear, hd.2.1, hd.not_intercepted s]
  · intro w hw l p c hfw
    simp only [Heard.hear, if_neg hd.2.1, if_neg (hd.not_intercepted s), Option.toList_some,
      List.append_nil, List.mem_singleton] at hw
    subst hw
    have hle := hfw.eq_of_prefix hframe (List.prefix_append w [byte])
    simp at hle

theorem accepted_of_verdict {data : List UInt8} {h : Heard}
    {r : Outcome GeRs232 LinkEvent} (hv : FrameVerdict h r)
    (hfirst : FirstFrame h (wireLength data) data (wireLength data :: data).sum) :
    Accepted data r.out := by
  obtain ⟨buffer, hacc⟩ := hv.acks _ _ _ hfirst rfl
  refine ⟨buffer, _, hacc, ?_⟩
  obtain ⟨b, l, hm, hpay⟩ := (hv.delivers data).mpr ⟨_, _, hfirst, rfl⟩
  rw [hacc] at hm
  simp only [List.mem_cons, reduceCtorEq, false_or, List.not_mem_nil, or_false,
    LinkEvent.receivedMessage.injEq] at hm
  rw [← hm.1, ← hm.2, hpay]

/-- The outputs of digits fed after the string `u`, up to the string `u ++ v`: the frame's last
digit makes the receiver accept it, and no other digit makes a call. -/
theorem feed_digits {data u v : List UInt8} {s t : GeRs232} {out : List LinkEvent}
    (h1 : 1 ≤ data.length) (h2 : data.length ≤ 55) (ht : Tracks s (reading u))
    (hp : u ++ v <+: (wireValues data).flatMap hexPair) (hf : Feed s v out t) :
    Tracks t (reading (u ++ v)) ∧
      if v ≠ [] ∧ u ++ v = (wireValues data).flatMap hexPair then Accepted data out
      else out = [] := by
  have hframe := isFrame_wire h1 h2
  induction hf generalizing u with
  | nil => simpa using ht
  | @cons s s' t byte bytes out hs hq hf ih =>
    have hp' : u ++ [byte] ++ bytes <+: (wireValues data).flatMap hexPair := by simpa using hp
    have hpre : u ++ [byte] <+: (wireValues data).flatMap hexPair :=
      (List.prefix_append _ bytes).trans hp'
    have hd : IsDigit byte := isDigit_hexPairs (hpre.subset (by simp))
    obtain ⟨hst, hquiet, hv⟩ := receive_joined (h := ⟨some u, []⟩) ht rfl (by simp)
      hd.1 hd.2.1 (hd.not_intercepted s)
    obtain ⟨htr, hout⟩ := ih (hst.of_sameReceiver hs) hp'
    refine ⟨by simpa using htr, ?_⟩
    by_cases hlast : u ++ [byte] = (wireValues data).flatMap hexPair
    · have hnil : bytes = [] := by
        have hle := hp'.length_le
        rw [List.length_append, hlast] at hle
        exact List.length_eq_zero_iff.mp (by omega)
      subst hnil
      rw [if_neg (by simp)] at hout
      rw [if_pos ⟨by simp, hlast⟩, hout, List.append_nil]
      exact accepted_of_verdict hv (firstFrame_last hd (hlast ▸ hframe))
    · have hno : ∀ l p c, ¬ IsFrame (u ++ [byte]) l p c :=
        fun l p c hfw => hlast (hfw.eq_of_prefix hframe hpre)
      rw [hquiet hno, List.nil_append]
      simp only [List.append_assoc, List.singleton_append] at hout
      by_cases hb : bytes = []
      · subst hb
        rw [if_neg (fun hc => hlast hc.2)]
        simpa using hout
      · simpa [hb] using hout

/-! Decoding undoes encoding. -/

/-- The calls of one accepted frame, and of the panel's answers that came with it. -/
structure Exchange (data : List UInt8) (answers : List Bool) (out : List LinkEvent) : Prop where
  delivered : deliveries out = [data]
  sent : transmissions out = [[geRs232Ack]]
  answered : responses out = answers

theorem Accepted.exchange_append {data : List UInt8} {out : List LinkEvent} {answers : List Bool}
    (h : Accepted data out) :
    Exchange data answers (out ++ answers.map .gotResponse) := by
  obtain ⟨buffer, len, rfl, hp⟩ := h
  constructor
  · simp [deliveries, hp, List.filterMap_map]
  · simp [transmissions]
  · simp [responses]

theorem Accepted.exchange_after {data : List UInt8} {out : List LinkEvent} {answers : List Bool}
    (h : Accepted data out) :
    Exchange data answers (answers.map .gotResponse ++ out) := by
  obtain ⟨buffer, len, rfl, hp⟩ := h
  constructor
  · simp [deliveries, hp]
  · simp [transmissions]
  · simp [responses]

/-- A start of message puts any receiver at the beginning of a string. -/
theorem feed_startOfMessage {a : List UInt8} {s mid : GeRs232} {out : List LinkEvent}
    (hf : Feed s (geRs232StartOfMessage :: a) out mid) :
    ∃ s', Tracks s' (reading []) ∧ Feed s' a out mid := by
  obtain ⟨htr, hout⟩ := receiveByte_startOfMessage s
  cases hf with
  | cons hs hq hf =>
    rw [hout, List.nil_append]
    exact ⟨_, htr.of_sameReceiver hs, hf⟩

/-- At most one answer of the panel: the receiver keeps its place, and the hook hears of it. -/
theorem feed_answer {r b : List UInt8} {mid t : GeRs232} {rd : Reading} {out : List LinkEvent}
    (hr : r = [] ∨ r = [geRs232Ack] ∨ r = [geRs232Nak]) (h0 : r ≠ [] → mid.lastResponse = 0)
    (ht : Tracks mid rd) (hf : Feed mid (r ++ b) out t) :
    ∃ mid' out', Tracks mid' rd ∧ Feed mid' b out' t ∧
      out = (if mid.gotResponse then r.map (· == geRs232Ack) else []).map .gotResponse ++ out' ∧
      ∀ x, r = [x] → (geRs232ReceiveByte mid x).state.lastResponse = x := by
  by_cases hnil : r = []
  · subst hnil
    exact ⟨mid, out, ht, hf, by simp, by simp⟩
  · obtain ⟨x, rfl, hx⟩ : ∃ x, r = [x] ∧ (x = geRs232Ack ∨ x = geRs232Nak) := by
      rcases hr with rfl | rfl | rfl
      · exact (hnil rfl).elim
      · exact ⟨_, rfl, .inl rfl⟩
      · exact ⟨_, rfl, .inr rfl⟩
    have hans := receiveByte_answer (⟨hx, h0 hnil⟩ : Intercepted mid x)
    have hsame : SameReceiver (geRs232ReceiveByte mid x).state mid := by
      simp [hans, SameReceiver]
    cases hf with
    | @cons _ s' _ _ _ out' hs hq hf =>
      refine ⟨s', out', (ht.of_sameReceiver hsame).of_sameReceiver hs, hf, ?_, ?_⟩
      · rw [hans]
        cases mid.gotResponse <;> simp
      · rintro y hy
        obtain rfl := List.singleton_inj.mp hy
        rw [hans]

/-- From any state of the receiver, the frame of a payload of 1 to 55 bytes, with at most one
answer of the panel after its first byte, is received as that payload and acknowledged once;
the answer is recorded, and the hook is called for it once if it is set. -/
theorem receive_frame_of_send {data a b r : List UInt8} {s mid t : GeRs232}
    {out₁ out₂ : List LinkEvent} (h1 : 1 ≤ data.length) (h2 : data.length ≤ 55)
    (hsplit : geRs232Frame data = geRs232StartOfMessage :: (a ++ b))
    (hr : r = [] ∨ r = [geRs232Ack] ∨ r = [geRs232Nak])
    (hf₁ : Feed s (geRs232StartOfMessage :: a) out₁ mid)
    (h0 : r ≠ [] → mid.lastResponse = 0) (hf₂ : Feed mid (r ++ b) out₂ t) :
    Exchange data (if mid.gotResponse then r.map (· == geRs232Ack) else []) (out₁ ++ out₂) ∧
      ∀ x, r = [x] → (geRs232ReceiveByte mid x).state.lastResponse = x := by
  rw [frame_eq] at hsplit
  obtain ⟨-, hab⟩ := List.cons.inj hsplit
  obtain ⟨s', htr, hfa⟩ := feed_startOfMessage hf₁
  obtain ⟨hmid, hout₁⟩ := feed_digits h1 h2 htr (by simp [hab]) hfa
  obtain ⟨mid', out', hmid', hfb, hout₂, hlast⟩ := feed_answer hr h0 hmid hf₂
  obtain ⟨-, hout'⟩ := feed_digits h1 h2 hmid' (by simp [hab]) hfb
  simp only [List.nil_append] at hout₁ hout'
  refine ⟨?_, hlast⟩
  by_cases hb : b = []
  · subst hb
    have ha : a ≠ [] := by
      rintro rfl
      simp [wireValues, hexPair] at hab
    rw [if_pos ⟨ha, by simp [hab]⟩] at hout₁
    rw [if_neg (by simp)] at hout'
    rw [hout₂, hout', List.append_nil]
    exact hout₁.exchange_append
  · have ha : a ≠ (wireValues data).flatMap hexPair := by
      rw [hab]
      simpa using hb
    rw [if_neg (fun hc => ha hc.2)] at hout₁
    rw [if_pos ⟨hb, hab.symm⟩] at hout'
    rw [hout₁, hout₂, List.nil_append]
    exact hout'.exchange_after

/-- Bytes received in turn, with callbacks that leave the interface alone. -/
def receiveBytes : GeRs232 → List UInt8 → GeRs232 × List LinkEvent
  | self, [] => (self, [])
  | self, byte :: bytes =>
    let r := geRs232ReceiveByte self byte
    let rest := receiveBytes r.state bytes
    (rest.1, r.out ++ rest.2)

theorem feed_receiveBytes (self : GeRs232) (bytes : List UInt8) :
    Feed self bytes (receiveBytes self bytes).2 (receiveBytes self bytes).1 := by
  induction bytes generalizing self with
  | nil => exact .nil
  | cons byte bytes ih => exact .cons (by simp [SameReceiver]) (fun _ => rfl) (ih _)

/-- A receiver with half a byte of another frame pending, waiting for an answer. -/
def interruptedReceiver : GeRs232 :=
  { geRs232Init with
    readingMessage := true, messageLen := 9, nibbleBuffer := 0x33, lastResponse := 0,
    gotResponse := true }

theorem receive_frame_of_send_interrupted :
    Exchange [0x02] [true]
      ((receiveBytes interruptedReceiver [0x0A, 0x30, 0x32]).2 ++
        (receiveBytes (receiveBytes interruptedReceiver [0x0A, 0x30, 0x32]).1
          ([0x06] ++ [0x30, 0x32, 0x30, 0x34])).2) :=
  (receive_frame_of_send (by decide) (by decide) (by decide) (by decide)
    (feed_receiveBytes interruptedReceiver [0x0A, 0x30, 0x32]) (fun _ => rfl)
    (feed_receiveBytes _ ([0x06] ++ [0x30, 0x32, 0x30, 0x34]))).1

end Concordd
