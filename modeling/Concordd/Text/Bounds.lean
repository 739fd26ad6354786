import Concordd.Text.Rendering

/-! When decoding a text stays inside its input and its buffer; it then spells the tokens. -/
namespace Concordd

open Ascii

variable {oneLine last : Bool} {s s' : GeText} {r : Rendering} {t : TextToken}
  {ts : List TextToken} {bytes : List UInt8} {code before : UInt8}

/-! Indexing the buffer. -/

/-- `ret` has not been indexed before its first character. -/
def GeText.Indexes (s : GeText) : Prop := ∀ i ∈ s.indexed, 0 ≤ i

theorem Spells.indexes_of (h : Spells s s') (hs : s'.Indexes) : s.Indexes :=
  fun i hi => hs i (h.indexed.subset hi)

theorem indexes_index (i : ℤ) : (s.index i).Indexes ↔ s.Indexes ∧ 0 ≤ i := by
  simp only [GeText.Indexes, GeText.index, List.mem_append, List.mem_singleton]
  constructor
  · exact fun h => ⟨fun j hj => h j (.inl hj), h i (.inr rfl)⟩
  · rintro ⟨h, hi⟩ j (hj | rfl)
    · exact h j hj
    · exact hi

theorem indexes_indexLast : s.indexLast.Indexes ↔ s.Indexes ∧ s.ret ≠ [] := by
  rw [GeText.indexLast, indexes_index, ne_eq, ← List.length_eq_zero_iff]
  refine and_congr_right fun _ => ?_
  omega

theorem cutLast_of_ne (h : s.ret ≠ []) :
    s.cutLast = { s.indexLast with ret := s.ret.dropLast } := by
  unfold GeText.cutLast
  exact if_neg h

/-- A string that is not empty ends in the character the buffer is asked for. -/
theorem lastIsSpace_of_ne (h : s.ret ≠ []) : s.lastIsSpace = endsInSpace s.ret := by
  unfold GeText.lastIsSpace endsInSpace
  rw [List.getLast?_eq_some_getLast h]
  rfl

/-- Where blinking ends, the last character is looked at. -/
theorem stopBlinking_spec (s : GeText) :
    (s.stopBlinking.Indexes ↔ s.Indexes ∧ s.ret ≠ []) ∧
      (s.ret ≠ [] → s.stopBlinking.ret =
        if endsInSpace s.ret then strlcat s.ret.dropLast (text "> ") 1024
        else strlcat s.ret (text ">") 1024) := by
  unfold GeText.stopBlinking
  by_cases h : s.ret = []
  · have hno : ∀ {s' : GeText}, Spells s.indexLast s' → ¬ s'.Indexes := fun hs hi =>
      (indexes_indexLast.mp (hs.indexes_of hi)).2 h
    simp only [h, ne_eq, not_true_eq_false, and_false, iff_false, false_imp_iff, and_true]
    split
    · exact hno ((spells_cutLast _).trans (spells_append _ _))
    · exact hno (spells_append _ _)
  · rw [lastIsSpace_of_ne h]
    simp only [h, ne_eq, not_false_eq_true, and_true, true_imp_iff]
    split
    · rw [cutLast_of_ne (s := s.indexLast) h]
      have htwice : s.indexLast.indexLast.Indexes ↔ s.Indexes := by
        rw [indexes_indexLast, indexes_indexLast, and_iff_left h]
        exact and_iff_left h
      exact ⟨htwice, rfl⟩
    · exact ⟨indexes_indexLast.trans (and_iff_left h), rfl⟩

/-- A backspace checks for a character before it takes one back. -/
theorem backspace_spec (oneLine : Bool) (s : GeText) :
    ((s.put oneLine geTextBackspace).Indexes ↔ s.Indexes) ∧
      (s.put oneLine geTextBackspace).ret = s.ret.dropLast ∧
      (s.put oneLine geTextBackspace).blinkNextToken = s.blinkNextToken := by
  have hzero : (s.index 0).Indexes ↔ s.Indexes := by
    rw [indexes_index]
    exact and_iff_left le_rfl
  rw [put_backspace rfl]
  by_cases h : s.ret = []
  · rw [if_neg (not_not.mpr h)]
    exact ⟨hzero, by simp [GeText.index, h], rfl⟩
  · have hne : (s.index 0).ret ≠ [] := h
    rw [if_pos h, cutLast_of_ne hne]
    exact ⟨(indexes_indexLast.trans (and_iff_left hne)).trans hzero, rfl, rfl⟩

/-- Where a line ends before the text does, the last character is looked at. -/
theorem newline_spec (s : GeText) (hline : IsNewline code) (hlast : last = true ↔ s.len = 0) :
    ((s.put true code).Indexes ↔ s.Indexes ∧ (last = false → s.ret ≠ [])) ∧
      ((last = false → s.ret ≠ []) → (s.put true code).ret =
        if last then s.ret
        else strlcat s.ret (if endsInSpace s.ret then text "| " else text " | ") 1024) ∧
      (s.put true code).blinkNextToken = s.blinkNextToken := by
  rw [put_newline hline]
  cases last with
  | true =>
    rw [if_neg (not_not.mpr (hlast.mp rfl))]
    exact ⟨(and_iff_left fun h => (nomatch h)).symm, fun _ => rfl, rfl⟩
  | false =>
    rw [if_pos fun h0 => Bool.false_ne_true (hlast.mpr h0)]
    simp only [true_imp_iff]
    refine ⟨indexes_indexLast, fun h => ?_, rfl⟩
    rw [lastIsSpace_of_ne h]
    rfl

/-- The state of the decoder stands for the rendering. -/
structure StandsFor (s : GeText) (r : Rendering) : Prop where
  written : s.ret = r.written
  blinking : s.blinkNextToken = r.blinking

theorem switch_spec (hf : StandsFor s r) (blinks : Bool) :
    ((s.switch blinks).Indexes ↔
        s.Indexes ∧ (r.blinking = true → blinks = false → r.written ≠ [])) ∧
      ((r.blinking = true → blinks = false → r.written ≠ []) →
        StandsFor (s.switch blinks) (r.switch blinks)) := by
  obtain ⟨hw, hb⟩ := hf
  obtain ⟨hindexes, hret⟩ := stopBlinking_spec s
  unfold GeText.switch Rendering.switch
  rw [← hw, ← hb]
  cases hsb : s.blinkNextToken <;> cases blinks
  · exact ⟨by simp; rfl, fun _ => ⟨rfl, rfl⟩⟩
  · exact ⟨by simp; rfl, fun _ => ⟨rfl, rfl⟩⟩
  · simp only [if_true, true_imp_iff]
    exact ⟨hindexes, fun h => ⟨hret h, rfl⟩⟩
  · exact ⟨by simp; rfl, fun _ => ⟨rfl, rfl⟩⟩

theorem put_spec (oneLine : Bool) (hf : StandsFor s r) (code : UInt8)
    (hlast : last = true ↔ s.len = 0) :
    ((s.put oneLine code).Indexes ↔ s.Indexes ∧
        (oneLine = true → IsNewline code → last = false → r.written ≠ [])) ∧
      ((oneLine = true → IsNewline code → last = false → r.written ≠ []) →
        StandsFor (s.put oneLine code) (r.put oneLine last code)) := by
  obtain ⟨hw, hb⟩ := hf
  unfold Rendering.put
  rw [← hw, ← hb]
  by_cases hback : code = geTextBackspace
  · subst hback
    have hno : oneLine = true → IsNewline geTextBackspace → last = false → s.ret ≠ [] :=
      fun _ h => absurd h (by decide)
    obtain ⟨hindexes, hret, hblink⟩ := backspace_spec oneLine s
    rw [if_pos rfl]
    exact ⟨hindexes.trans (and_iff_left hno).symm, fun _ => ⟨hret, hblink⟩⟩
  rw [if_neg hback]
  by_cases hline : oneLine = true ∧ IsNewline code
  · obtain ⟨rfl, hline⟩ := hline
    obtain ⟨hindexes, hret, hblink⟩ := newline_spec s hline hlast
    rw [if_pos ⟨rfl, hline⟩]
    simp only [hline, true_imp_iff]
    exact ⟨hindexes, fun h => ⟨hret h, hblink⟩⟩
  · have hno : oneLine = true → IsNewline code → last = false → s.ret ≠ [] :=
      fun h1 h2 => (hline ⟨h1, h2⟩).elim
    rw [put_other hback hline, if_neg hline]
    exact ⟨(and_iff_left hno).symm, fun _ => ⟨rfl, rfl⟩⟩

/-- A token indexes the buffer inside exactly when there is a character to look at. -/
theorem token_spec (oneLine : Bool) (hf : StandsFor s r) (t : TextToken)
    (hlast : last = true ↔ s.len = 0) :
    ((s.token oneLine t).Indexes ↔ s.Indexes ∧ r.Looks oneLine last t) ∧
      (r.Looks oneLine last t → StandsFor (s.token oneLine t) (r.token oneLine last t)) := by
  obtain ⟨hswitch, hfollows⟩ := switch_spec hf t.blinks
  have hlast' : last = true ↔ (s.switch t.blinks).len = 0 := by
    rw [(spells_switch s t.blinks).len]
    exact hlast
  unfold GeText.token Rendering.token Rendering.Looks
  by_cases h : r.blinking = true → t.blinks = false → r.written ≠ []
  · obtain ⟨hput, hnext⟩ := put_spec oneLine (hfollows h) t.code hlast'
    rw [hput, hswitch, and_assoc]
    exact ⟨Iff.rfl, fun hl => hnext hl.2⟩
  · refine ⟨iff_of_false ?_ fun hl => h hl.2.1, fun hl => (h hl.1).elim⟩
    intro hi
    exact h (hswitch.mp ((spells_put _ _).indexes_of hi)).2

/-! The whole function. -/

theorem textTokens_eq_nil (h : textTokens bytes = some ts) : bytes = [] ↔ ts = [] := by
  cases bytes using textTokens_cases with
  | nil =>
    obtain rfl := Option.some.inj h
    simp
  | lone => cases h
  | blink code rest =>
    rw [textTokens_blink] at h
    obtain ⟨ts', -, rfl⟩ := Option.map_eq_some_iff.mp h
    simp
  | plain code rest hcode =>
    rw [textTokens_plain hcode] at h
    obtain ⟨ts', -, rfl⟩ := Option.map_eq_some_iff.mp h
    simp

/-- What follows the loop. -/
def GeText.finish (self : GeText) : GeText :=
  if self.blinkNextToken then self.stopBlinking else self

theorem spells_finish (s : GeText) : Spells s s.finish := by
  unfold GeText.finish
  split
  · exact spells_stopBlinking s
  · exact ⟨rfl, rfl, rfl, List.prefix_rfl⟩

/-- From any state, the rest of the loop and the end of blinking stay inside the buffer exactly
when the tokens do, and then they spell what these stand for. -/
theorem loop_spec (oneLine : Bool) (ts : List TextToken) {bytes : List UInt8} {s : GeText}
    {r : Rendering} (hf : StandsFor s r) (h : textTokens bytes = some ts)
    (hlen : s.len.toNat = bytes.length) (hs' : geTextLoop oneLine bytes s = .ok s') :
    (s'.finish.Indexes ↔ s.Indexes ∧ r.InBounds oneLine ts) ∧
      (r.InBounds oneLine ts → s'.finish.ret = (render oneLine r ts).written) := by
  induction ts generalizing bytes s r with
  | nil =>
    obtain rfl := (textTokens_eq_nil h).mpr rfl
    rw [geTextLoop, if_pos (show s.len = 0 from UInt8.toNat_inj.mp hlen)] at hs'
    obtain rfl := Except.ok.inj hs'
    have hc : StandsFor s.countDown r := ⟨hf.written, hf.blinking⟩
    obtain ⟨hindexes, hfollows⟩ := switch_spec hc false
    simp only [true_imp_iff] at hindexes hfollows
    exact ⟨hindexes, fun h => (hfollows h).written⟩
  | cons t ts ih =>
    obtain ⟨rest, n, hrest, hn, u, hu, hur, hub, hui, -, -, hloop⟩ :=
      loop_token oneLine hlen h
    rw [hloop] at hs'
    have huf : StandsFor u r := ⟨hur.trans hf.written, hub.trans hf.blinking⟩
    have hlast : ts.isEmpty = true ↔ u.len = 0 := by
      rw [List.isEmpty_iff, ← textTokens_eq_nil hrest, ← List.length_eq_zero_iff, ← hu]
      exact UInt8.toNat_inj (b := 0)
    obtain ⟨hindexes, hfollows⟩ := token_spec oneLine huf t hlast
    have hsu : u.Indexes ↔ s.Indexes := by
      unfold GeText.Indexes
      rw [hui]
    have hlen' : (u.token oneLine t).len.toNat = rest.length := by
      rw [(spells_token oneLine u t).len]
      exact hu
    unfold Rendering.InBounds render
    by_cases hl : r.Looks oneLine ts.isEmpty t
    · obtain ⟨hiff, hret⟩ := ih (hfollows hl) hrest hlen' hs'
      rw [hiff, hindexes, hsu, and_assoc]
      exact ⟨Iff.rfl, fun hb => hret hb.2⟩
    · refine ⟨iff_of_false ?_ fun hb => hl hb.2.1, fun hb => (hl hb.1).elim⟩
      -- an index before the buffer stays on record
      intro hi
      obtain ⟨s'', hs'', -, hbefore⟩ := loop_reads oneLine ts hrest hlen'
      rw [hs', Except.ok.injEq] at hs''
      subst hs''
      have hsub : (u.token oneLine t).Indexes := fun i hmem =>
        (spells_finish s').indexes_of hi i (hbefore.subset hmem)
      exact hl (hindexes.mp hsub).2

/-- The trimming reads and writes inside the buffer. -/
theorem trim_touches (len : ℕ) (s : GeText) :
    (geTextTrim len s).reads = s.reads ∧ ((geTextTrim len s).Indexes ↔ s.Indexes) := by
  induction len generalizing s with
  | zero => exact ⟨rfl, Iff.rfl⟩
  | succ len ih =>
    have hindex : ∀ s : GeText, (s.index len).Indexes ↔ s.Indexes := fun s => by
      rw [indexes_index]
      exact and_iff_left (Int.natCast_nonneg len)
    unfold geTextTrim
    split
    · obtain ⟨hreads, hindexes⟩ :=
        ih { (s.index len).index len with ret := s.ret.take len }
      exact ⟨hreads, hindexes.trans ((hindex (s.index len)).trans (hindex s))⟩
    · exact ⟨rfl, hindex s⟩

/-- A call reads the bytes it was given, each of them once and no others, and indexes its buffer
nowhere before the first character. -/
def StaysInside (bytes : List UInt8) (result : Except GeText GeText) : Prop :=
  ∃ s, result = .ok s ∧ s.reads = List.range bytes.length ∧ s.Indexes

/-- The text has a reading, in which there is always a character to look at. -/
def HasReading (oneLine : Bool) (bytes : List UInt8) : Prop :=
  ∃ ts, textTokens bytes = some ts ∧ Rendering.InBounds oneLine ⟨[], false⟩ ts

theorem decode_overruns (oneLine : Bool) (before : UInt8) (h : textTokens bytes = none)
    (hlen : bytes.length < 256) : ∃ s, geTextDecode oneLine before bytes = .error s := by
  obtain ⟨s, hs⟩ := loop_overruns oneLine
    (s := GeText.index { len := UInt8.ofNat bytes.length, before := before } 0) h
    (UInt8.toNat_ofNat_of_lt hlen)
  exact ⟨s, by rw [geTextDecode, hs]; rfl⟩

theorem decode_spec (oneLine : Bool) (before : UInt8) (h : textTokens bytes = some ts)
    (hlen : bytes.length < 256) :
    ∃ s, geTextDecode oneLine before bytes = .ok s ∧ s.reads = List.range bytes.length ∧
      (s.Indexes ↔ Rendering.InBounds oneLine ⟨[], false⟩ ts) ∧
      (Rendering.InBounds oneLine ⟨[], false⟩ ts →
        s.ret = (render oneLine ⟨[], false⟩ ts).written) := by
  let start : GeText := GeText.index { len := UInt8.ofNat bytes.length, before := before } 0
  have hstart : start.len.toNat = bytes.length := UInt8.toNat_ofNat_of_lt hlen
  have hzero : start.Indexes := by
    rw [indexes_index]
    exact ⟨fun i hi => (nomatch hi), le_rfl⟩
  obtain ⟨s, hs, hreads, -⟩ := loop_reads oneLine ts h hstart
  obtain ⟨hindexes, hret⟩ := loop_spec oneLine ts (r := ⟨[], false⟩) ⟨rfl, rfl⟩ h hstart hs
  refine ⟨s.finish, by rw [geTextDecode, hs]; rfl, ?_, hindexes.trans (and_iff_right hzero), hret⟩
  rw [(spells_finish s).reads, hreads, List.range_eq_range']
  rfl

theorem staysInside_iff (oneLine : Bool) (before : UInt8) (hlen : bytes.length < 256) :
    StaysInside bytes ((geTextDecode oneLine before bytes).map GeText.trimmed) ↔
      HasReading oneLine bytes := by
  cases hts : textTokens bytes with
  | none =>
    obtain ⟨s, hs⟩ := decode_overruns oneLine before hts hlen
    rw [hs]
    refine iff_of_false ?_ ?_
    · rintro ⟨s', hs', -⟩
      cases hs'
    · rintro ⟨ts, hts', -⟩
      rw [hts] at hts'
      cases hts'
  | some ts =>
    obtain ⟨s, hs, hreads, hindexes, -⟩ := decode_spec oneLine before hts hlen
    obtain ⟨htrim, htouch⟩ := trim_touches (UInt8.ofNat s.ret.length).toNat s
    rw [hs]
    constructor
    · rintro ⟨s', hs', -, hi⟩
      obtain rfl := Except.ok.inj hs'
      exact ⟨ts, hts, hindexes.mp (htouch.mp hi)⟩
    · rintro ⟨ts', hts', hb⟩
      obtain rfl := Option.some.inj (hts.symm.trans hts')
      exact ⟨s.trimmed, rfl, htrim.trans hreads, htouch.mpr (hindexes.mpr hb)⟩

/-- The two functions stay inside their input and their buffer exactly for the texts that have a
reading, whatever lies before the buffer. -/
theorem text_in_bounds_iff (bytes : List UInt8) (hlen : bytes.length ≤ 255) (before : UInt8) :
    (StaysInside bytes (geTextToAsciiOneLine before bytes) ↔ HasReading true bytes) ∧
      (StaysInside bytes (geTextToAscii before bytes) ↔ HasReading false bytes) :=
  ⟨staysInside_iff true before (by omega), staysInside_iff false before (by omega)⟩

/-- `"ARM"`, a new line, and a blinking `"OFF"`. -/
theorem text_in_bounds_blinking :
    (StaysInside [0x35, 0xF9, 0xFE, 0x97] (geTextToAsciiOneLine 0 [0x35, 0xF9, 0xFE, 0x97]) ↔
        HasReading true [0x35, 0xF9, 0xFE, 0x97]) ∧
      (StaysInside [0x35, 0xF9, 0xFE, 0x97] (geTextToAscii 0 [0x35, 0xF9, 0xFE, 0x97]) ↔
        HasReading false [0x35, 0xF9, 0xFE, 0x97]) :=
  text_in_bounds_iff [0x35, 0xF9, 0xFE, 0x97] (by decide) 0

/-- A blink token alone is read past, and a text that begins with a new line, or takes its `<`
back, is looked at before its first character. -/
theorem text_out_of_bounds :
    (¬ StaysInside [0xFE] (geTextToAsciiOneLine 0 [0xFE]) ∧
        ¬ StaysInside [0xFE] (geTextToAscii 0 [0xFE])) ∧
      ¬ StaysInside [0xF9, 0x0F] (geTextToAsciiOneLine 0 [0xF9, 0x0F]) ∧
      ¬ StaysInside [0xFE, 0xFD] (geTextToAscii 0 [0xFE, 0xFD]) := by
  refine ⟨⟨?_, ?_⟩, ?_, ?_⟩
  · rintro ⟨s, hs, -⟩
    cases hs
  · rintro ⟨s, hs, -⟩
    cases hs
  · rintro ⟨s, hs, -, hi⟩
    obtain rfl := Except.ok.inj hs
    exact absurd (hi (-1) (by decide)) (by decide)
  · rintro ⟨s, hs, -, hi⟩
    obtain rfl := Except.ok.inj hs
    exact absurd (hi (-1) (by decide)) (by decide)

end Concordd
