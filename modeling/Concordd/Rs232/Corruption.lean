import Concordd.Rs232.Framing

/-! One wrong character in the body of a frame. -/
namespace Concordd

/-! Reading two strings that differ in one character. -/

section

variable {u v a b w : List UInt8} {c d l m check : UInt8} {p q values : List UInt8}

theorem reading_append (h : (reading u).pending = none) (v : List UInt8) :
    reading (u ++ v) = ⟨(reading u).values ++ (reading v).values, (reading v).pending⟩ := by
  induction v using List.reverseRecOn with
  | nil =>
    have hnil : reading [] = ⟨[], none⟩ := rfl
    rw [List.append_nil, hnil, List.append_nil, ← h]
  | append_singleton v byte ih =>
    rw [← List.append_assoc, reading_snoc, reading_snoc, ih]
    unfold Reading.push
    cases (reading v).pending <;> simp

/-- The character belongs to one pair, so at most one value is another. -/
theorem reading_replaced (h : (reading (a ++ d :: b)).pending = none) (c : UInt8) :
    ∃ x y rest, reading (a ++ d :: b) = ⟨(reading a).values ++ x :: rest, none⟩ ∧
      reading (a ++ c :: b) = ⟨(reading a).values ++ y :: rest, none⟩ := by
  cases hp : (reading a).pending with
  | none =>
    cases b with
    | nil =>
      rw [reading_snoc, Reading.push, hp] at h
      cases h
    | cons e b =>
      have hread : ∀ c, reading (a ++ c :: e :: b) =
          ⟨(reading a).values ++ hexValue c e :: (reading b).values, (reading b).pending⟩ := by
        intro c
        have hone : reading (a ++ [c]) = ⟨(reading a).values, some c⟩ := by
          rw [reading_snoc, Reading.push, hp]
        have hpair : reading (a ++ [c] ++ [e]) = ⟨(reading a).values ++ [hexValue c e], none⟩ := by
          rw [reading_snoc, hone]
          rfl
        have hsplit : a ++ c :: e :: b = a ++ [c] ++ [e] ++ b := by simp
        rw [hsplit, reading_append (by rw [hpair]), hpair]
        simp
      rw [hread] at h
      exact ⟨_, _, _, by rw [hread, h], by rw [hread, h]⟩
  | some f =>
    have hread : ∀ c, reading (a ++ c :: b) =
        ⟨(reading a).values ++ hexValue f c :: (reading b).values, (reading b).pending⟩ := by
      intro c
      have hpair : reading (a ++ [c]) = ⟨(reading a).values ++ [hexValue f c], none⟩ := by
        rw [reading_snoc, Reading.push, hp]
      have hsplit : a ++ c :: b = a ++ [c] ++ b := by simp
      rw [hsplit, reading_append (by rw [hpair]), hpair]
      simp
    rw [hread] at h
    exact ⟨_, _, _, by rw [hread, h], by rw [hread, h]⟩

/-- With the right sum before and after, one value cannot have changed. -/
theorem sum_replaced {x y last last' : UInt8} {pre rest init init' : List UInt8}
    (h : pre ++ x :: rest = init ++ [last]) (h' : pre ++ y :: rest = init' ++ [last'])
    (hsum : init.sum = last) (hsum' : init'.sum = last') : init = init' := by
  rcases List.eq_nil_or_concat' rest with rfl | ⟨mid, z, rfl⟩
  · obtain ⟨rfl, -⟩ := List.append_inj' h rfl
    obtain ⟨rfl, -⟩ := List.append_inj' h' rfl
    rfl
  · rw [← List.cons_append, ← List.append_assoc] at h h'
    obtain ⟨rfl, hz⟩ := List.append_inj' h rfl
    obtain ⟨rfl, hz'⟩ := List.append_inj' h' rfl
    obtain rfl := List.singleton_inj.mp hz
    obtain rfl := List.singleton_inj.mp hz'
    have hxy : x = y := by
      have hboth := hsum.trans hsum'.symm
      simpa using hboth
    rw [hxy]

/-- Two frames with the right sums that differ in one character, after the length, carry the same
payload. -/
theorem payload_replaced (h : IsFrame (a ++ d :: b) l p (l :: p).sum)
    (h' : IsFrame (a ++ c :: b) m q (m :: q).sum) : p = q := by
  obtain ⟨x, y, rest, hx, hy⟩ := reading_replaced (by rw [h.1]) c
  have hvalues : (reading a).values ++ x :: rest = (l :: p) ++ [(l :: p).sum] :=
    congrArg Reading.values (hx.symm.trans h.1)
  have hvalues' : (reading a).values ++ y :: rest = (m :: q) ++ [(m :: q).sum] :=
    congrArg Reading.values (hy.symm.trans h'.1)
  have hsame := sum_replaced hvalues hvalues' rfl rfl
  exact (List.cons.inj hsame).2

end

/-! What a string delivers. -/

section

variable {rs s t : GeRs232} {u v : List UInt8} {byte : UInt8} {out : List LinkEvent}

/-- Nothing, or the payload of the string when it is a frame with the right sum. -/
def DeliversFrame (w : List UInt8) (out : List LinkEvent) : Prop :=
  deliveries out = [] ∨ ∃ l p, IsFrame w l p (l :: p).sum ∧ deliveries out = [p]

theorem receive_deliversFrame (ht : Tracks rs (reading u)) (h0 : byte ≠ 0)
    (hlf : byte ≠ geRs232StartOfMessage) (hi : ¬ Intercepted rs byte) :
    Tracks (geRs232ReceiveByte rs byte).state (reading (u ++ [byte])) ∧
      DeliversFrame (u ++ [byte]) (geRs232ReceiveByte rs byte).out := by
  obtain ⟨hst, -, hv⟩ := receive_joined (h := ⟨some u, []⟩) ht rfl (by simp) h0 hlf hi
  refine ⟨hst, ?_⟩
  rcases (receiveByte_calls hi).2 with hout | hout | ⟨buffer, len, hout⟩
  · exact .inl (by rw [hout]; rfl)
  · exact .inl (by rw [hout]; rfl)
  · right
    obtain ⟨l, c, ⟨w, hw, hframe, -⟩, rfl⟩ := (hv.delivers (framePayload buffer len)).mp
      ⟨buffer, len, by simp [hout], rfl⟩
    simp only [Heard.hear, if_neg hlf, if_neg hi, Option.map_some, Option.some.injEq] at hw
    subst hw
    exact ⟨l, _, hframe, by rw [hout]; rfl⟩

theorem deliveries_append (out out' : List LinkEvent) :
    deliveries (out ++ out') = deliveries out ++ deliveries out' := List.filterMap_append ..

/-- Every frame that begins with `u` has `n` characters. -/
def FramesOfLength (u : List UInt8) (n : ℕ) : Prop :=
  ∀ w l p c, u <+: w → IsFrame w l p c → w.length = n

theorem FramesOfLength.mono {n : ℕ} (h : FramesOfLength u n) (v : List UInt8) :
    FramesOfLength (u ++ v) n :=
  fun w l p c hw => h w l p c ((List.prefix_append u v).trans hw)

/-- The frame, if there is one, comes with the last character. -/
theorem deliversFrame_append {n : ℕ} {bytes : List UInt8} {out' : List LinkEvent}
    (hu : FramesOfLength u n) (hn : (u ++ byte :: bytes).length ≤ n)
    (hone : DeliversFrame (u ++ [byte]) out) (hnil : bytes = [] → out' = [])
    (hrest : DeliversFrame (u ++ [byte] ++ bytes) out') :
    DeliversFrame (u ++ byte :: bytes) (out ++ out') := by
  by_cases hb : bytes = []
  · rw [hnil hb, List.append_nil, hb]
    exact hone
  · have hpos := List.length_pos_of_ne_nil hb
    have hquiet : deliveries out = [] := by
      rcases hone with hq | ⟨l, p, hframe, -⟩
      · exact hq
      · have hlen := hu _ _ _ _ (List.prefix_append u [byte]) hframe
        simp only [List.length_append, List.length_cons, List.length_nil] at hlen hn
        omega
    have hsplit : u ++ [byte] ++ bytes = u ++ byte :: bytes := by simp
    unfold DeliversFrame at hrest ⊢
    rwa [deliveries_append, hquiet, List.nil_append, ← hsplit]

theorem feed_nil (hf : Feed s [] out t) : out = [] := by
  cases hf
  rfl

/-- Digits fed after `u`, no more than a frame takes. -/
theorem feed_deliversFrame {n : ℕ} (ht : Tracks s (reading u)) (hu : FramesOfLength u n)
    (hv : ∀ byte ∈ v, IsDigit byte) (hn : (u ++ v).length ≤ n) (hf : Feed s v out t) :
    DeliversFrame (u ++ v) out := by
  induction hf generalizing u with
  | nil => exact .inl rfl
  | @cons s s' t byte bytes out hs hq hf ih =>
    obtain ⟨h0, hlf, -⟩ := hv byte List.mem_cons_self
    obtain ⟨hst, hone⟩ := receive_deliversFrame ht h0 hlf
      ((hv byte List.mem_cons_self).not_intercepted s)
    refine deliversFrame_append hu hn hone ?_ (ih (hst.of_sameReceiver hs) (hu.mono [byte])
      (fun b hb => hv b (List.mem_cons_of_mem byte hb)) (by simpa using hn))
    rintro rfl
    exact feed_nil hf

theorem feed_append {v w : List UInt8} (hf : Feed s (v ++ w) out t) :
    ∃ mid out₁ out₂, Feed s v out₁ mid ∧ Feed mid w out₂ t ∧ out = out₁ ++ out₂ := by
  induction v generalizing s out with
  | nil => exact ⟨s, [], out, .nil, hf, rfl⟩
  | cons byte v ih =>
    cases hf with
    | cons hs hq hf =>
      obtain ⟨mid, out₁, out₂, h₁, h₂, rfl⟩ := ih hf
      exact ⟨mid, _, out₂, .cons hs hq h₁, h₂, (List.append_assoc ..).symm⟩

/-- The wrong character and the digits after it: an answer of the panel shortens the string, and
anything else leaves it one frame long. -/
theorem feed_replaced {n : ℕ} {c : UInt8} {b : List UInt8} (ht : Tracks s (reading u))
    (hu : FramesOfLength u n) (hb : ∀ byte ∈ b, IsDigit byte) (hn : (u ++ c :: b).length ≤ n)
    (h0 : c ≠ 0) (hlf : c ≠ geRs232StartOfMessage) (hf : Feed s (c :: b) out t) :
    DeliversFrame (u ++ c :: b) out := by
  cases hf with
  | @cons _ s' _ _ _ out hs hq hf =>
    by_cases hi : Intercepted s c
    · have hans := receiveByte_answer hi
      have hsame : SameReceiver (geRs232ReceiveByte s c).state s := by
        simp [hans, SameReceiver]
      have hshort : (u ++ b).length < n := by
        simp only [List.length_append, List.length_cons] at hn ⊢
        omega
      left
      rw [deliveries_append, hans]
      rcases feed_deliversFrame ((ht.of_sameReceiver hsame).of_sameReceiver hs) hu hb hshort.le hf
        with hrest | ⟨l, p, hframe, -⟩
      · rw [hrest]
        dsimp only
        split <;> rfl
      · have hlen := hu _ _ _ _ (List.prefix_append u b) hframe
        omega
    · obtain ⟨hst, hone⟩ := receive_deliversFrame ht h0 hlf hi
      refine deliversFrame_append hu hn hone ?_ (feed_deliversFrame (hst.of_sameReceiver hs)
        (hu.mono [c]) hb (by simpa using hn) hf)
      rintro rfl
      exact feed_nil hf

end

/-- Strings that begin with the two digits of a length. -/
theorem framesOfLength_hexPair {length : UInt8} {u : List UInt8} (h : hexPair length <+: u) :
    FramesOfLength u (2 * (length.toNat + 1)) := by
  intro w l p c hu hframe
  obtain ⟨v, rfl⟩ := h.trans hu
  have hpair : reading (hexPair length) = ⟨[length], none⟩ := by
    have := reading_hexPairs [length]
    simpa using this
  have hvalues := reading_values_prefix (hexPair length) v
  rw [hpair, hframe.1] at hvalues
  obtain ⟨rfl, -⟩ := List.cons_prefix_cons.mp hvalues
  exact hframe.length_eq

/-- A character of the body, with the digits before and after it. -/
theorem frame_set {data : List UInt8} {k : ℕ} (hk : 3 ≤ k)
    (hlen : k < (geRs232Frame data).length) (c : UInt8) :
    ∃ a d b, (wireValues data).flatMap hexPair = a ++ d :: b ∧ hexPair (wireLength data) <+: a ∧
      (geRs232Frame data).set k c = geRs232StartOfMessage :: (a ++ c :: b) := by
  have hwire : (wireValues data).flatMap hexPair =
      hexPair (wireLength data) ++ (data ++ [(wireLength data :: data).sum]).flatMap hexPair := rfl
  rw [frame_eq] at hlen ⊢
  obtain ⟨j, rfl⟩ : ∃ j, k = j + 1 := ⟨k - 1, by omega⟩
  generalize (wireValues data).flatMap hexPair = w at hwire hlen ⊢
  have hj : j < w.length := by simpa using hlen
  refine ⟨w.take j, w[j], w.drop (j + 1), by simp, ?_, ?_⟩
  · refine List.prefix_of_prefix_length_le ⟨_, hwire.symm⟩ (List.take_prefix j w) ?_
    rw [List.length_take]
    simp only [hexPair, List.length_cons, List.length_nil]
    omega
  · rw [List.set_cons_succ, List.set_eq_take_append_cons_drop, if_pos hj]

/-- From any state of the receiver, the frame of a payload of 1 to 55 bytes with one character
after its length digits replaced is delivered as that payload, or not at all. -/
theorem corrupted_frame_not_misread (data : List UInt8) (h1 : 1 ≤ data.length)
    (h2 : data.length ≤ 55) {k : ℕ} (hk : 3 ≤ k) (hlen : k < (geRs232Frame data).length)
    {c : UInt8} (h0 : c ≠ 0) (hlf : c ≠ geRs232StartOfMessage) {s t : GeRs232}
    {out : List LinkEvent} (hf : Feed s ((geRs232Frame data).set k c) out t) :
    deliveries out = [] ∨ deliveries out = [data] := by
  obtain ⟨a, d, b, hwire, hpair, hset⟩ := frame_set hk hlen c
  have hframe := isFrame_wire h1 h2
  rw [hwire] at hframe
  have hfull := hframe.length_eq
  rw [hset] at hf
  obtain ⟨s', hs', hf'⟩ := feed_startOfMessage hf
  obtain ⟨mid, out₁, out₂, hbefore, hafter, rfl⟩ := feed_append hf'
  -- nothing is delivered before the wrong character
  obtain ⟨hmid, hquiet⟩ := feed_digits (u := []) h1 h2 hs' (by rw [hwire]; simp) hbefore
  rw [List.nil_append] at hmid hquiet
  rw [if_neg (by rw [hwire]; simp)] at hquiet
  have hb : ∀ byte ∈ b, IsDigit byte := by
    intro byte hm
    have hmem : byte ∈ (wireValues data).flatMap hexPair := by
      rw [hwire]
      simp [hm]
    exact isDigit_hexPairs hmem
  rw [hquiet, List.nil_append]
  rcases feed_replaced hmid (framesOfLength_hexPair hpair) hb (by simpa using hfull.le) h0 hlf
    hafter with hnone | ⟨l, p, hother, hp⟩
  · exact .inl hnone
  · rw [hp, payload_replaced hframe hother]
    exact .inr rfl

/-- The payload "2" with its last digit in the wrong case. -/
theorem corrupted_frame_lower_case :
    deliveries (receiveBytes interruptedReceiver [0x0A, 0x30, 0x32, 0x30, 0x38, 0x30, 0x61]).2 =
        [] ∨
      deliveries (receiveBytes interruptedReceiver [0x0A, 0x30, 0x32, 0x30, 0x38, 0x30, 0x61]).2 =
        [[0x08]] :=
  corrupted_frame_not_misread [0x08] (by decide) (by decide) (k := 6) (c := 0x61)
    (by decide) (by decide) (by decide) (by decide) (feed_receiveBytes interruptedReceiver _)

end Concordd
