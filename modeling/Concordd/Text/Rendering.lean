import Concordd.Text.Model

/-! What a sequence of text tokens stands for, and how the loop of the decoder reads it. -/
namespace Concordd

open Ascii

/-- A code, and whether it is to blink. -/
structure TextToken where
  blinks : Bool
  code : UInt8

/-- The tokens of a text. A blink token takes the byte after it, whatever that is, and there is
no reading of one that is last. -/
def textTokens : List UInt8 → Option (List TextToken)
  | [] => some []
  | code :: rest =>
    if code = geTextBlinkToken then
      match rest with
      | [] => none
      | code :: rest => (textTokens rest).map (⟨true, code⟩ :: ·)
    else (textTokens rest).map (⟨false, code⟩ :: ·)

/-- The two newlines. -/
def IsNewline (code : UInt8) : Prop := code = 0xF9 ∨ code = 0xFB

instance (code : UInt8) : Decidable (IsNewline code) := inferInstanceAs (Decidable (_ ∨ _))

def geTextBackspace : UInt8 := 0xFD

/-- A code with no text of its own is spelled `?`. -/
def spelling (code : UInt8) : List UInt8 := (geRs232TextTokenLookup code).getD (text "?")

/-- The characters written and not taken back, and whether they end in blinking ones. -/
structure Rendering where
  written : List UInt8
  blinking : Bool

def endsInSpace (written : List UInt8) : Bool := isSpace (written.getLast?.getD 0)

/-- Blinking begins with `<` and ends with `>`, which goes before a white-space character. -/
def Rendering.switch (r : Rendering) (blinks : Bool) : Rendering where
  blinking := blinks
  written := match r.blinking, blinks with
    | false, true => strlcat r.written (text "<") 1024
    | true, false =>
      if endsInSpace r.written then strlcat r.written.dropLast (text "> ") 1024
      else strlcat r.written (text ">") 1024
    | _, _ => r.written

/-- A code takes back a character, or ends a line unless it is the last one, or is spelled. -/
def Rendering.put (r : Rendering) (oneLine last : Bool) (code : UInt8) : Rendering where
  blinking := r.blinking
  written :=
    if code = geTextBackspace then r.written.dropLast
    else if oneLine ∧ IsNewline code then
      if last then r.written
      else strlcat r.written (if endsInSpace r.written then text "| " else text " | ") 1024
    else strlcat r.written (spelling code) 1024

def Rendering.token (r : Rendering) (oneLine last : Bool) (t : TextToken) : Rendering :=
  (r.switch t.blinks).put oneLine last t.code

def render (oneLine : Bool) : Rendering → List TextToken → Rendering
  | r, [] => r.switch false
  | r, t :: ts => render oneLine (r.token oneLine ts.isEmpty t) ts

/-- Some character is left that was written before, where one is looked at. -/
def Rendering.Looks (r : Rendering) (oneLine last : Bool) (t : TextToken) : Prop :=
  (r.blinking = true → t.blinks = false → r.written ≠ []) ∧
    (oneLine = true → IsNewline t.code → last = false → (r.switch t.blinks).written ≠ [])

/-- There is always a character to look at: when blinking ends, and at each newline but a last
one, if lines are joined. -/
def Rendering.InBounds (oneLine : Bool) : Rendering → List TextToken → Prop
  | r, [] => r.blinking = true → r.written ≠ []
  | r, t :: ts =>
    r.Looks oneLine ts.isEmpty t ∧ Rendering.InBounds oneLine (r.token oneLine ts.isEmpty t) ts

instance (r : Rendering) (oneLine last : Bool) (t : TextToken) :
    Decidable (r.Looks oneLine last t) := inferInstanceAs (Decidable (_ ∧ _))

instance Rendering.decidableInBounds (oneLine : Bool) :
    ∀ (r : Rendering) ts, Decidable (r.InBounds oneLine ts)
  | _, [] => inferInstanceAs (Decidable (_ → _))
  | r, t :: ts =>
    have := Rendering.decidableInBounds oneLine (r.token oneLine ts.isEmpty t) ts
    inferInstanceAs (Decidable (_ ∧ _))

variable {oneLine last : Bool} {s s' u : GeText} {r : Rendering} {t : TextToken}
  {ts : List TextToken} {bytes rest : List UInt8} {code : UInt8}

/-! Tokens. -/

theorem textTokens_blink :
    textTokens (geTextBlinkToken :: code :: rest) =
      (textTokens rest).map (⟨true, code⟩ :: ·) := by
  rw [textTokens.eq_def]
  exact if_pos rfl

theorem textTokens_plain (h : code ≠ geTextBlinkToken) :
    textTokens (code :: rest) = (textTokens rest).map (⟨false, code⟩ :: ·) := by
  rw [textTokens.eq_def]
  exact if_neg h

/-- A text is empty, or it is a lone blink token, or it begins with a token. -/
theorem textTokens_cases {P : List UInt8 → Prop} (nil : P []) (lone : P [geTextBlinkToken])
    (blink : ∀ code rest, P rest → P (geTextBlinkToken :: code :: rest))
    (plain : ∀ code rest, code ≠ geTextBlinkToken → P rest → P (code :: rest)) (bytes) :
    P bytes := by
  induction bytes using textTokens.induct with
  | case1 => exact nil
  | case2 => exact lone
  | case3 code rest ih => exact blink code rest ih
  | case4 code rest hcode ih => exact plain code rest hcode ih

/-! The table. -/

/-- A character that neither ends a line nor takes one back, and is no mark for blinking. -/
def isPlain (c : UInt8) : Bool := c != 0x0A && c != 0x08 && c != 0x3C && c != 0x3E

def plainText : List UInt8 → Bool
  | [] => false
  | c :: str => isPlain c && str.all isPlain

theorem plainText_iff {str : List UInt8} :
    plainText str = true ↔ str ≠ [] ∧ ∀ c ∈ str, isPlain c = true := by
  cases str with
  | nil => simp [plainText]
  | cons c str => simp [plainText]

theorem texts_plain : ((textDigits ++ textWords).all fun s => plainText (text s)) = true := by
  decide +kernel

theorem plain_of_getElem? {texts : List String} {i : ℕ} {str : List UInt8}
    (hsub : texts ⊆ textDigits ++ textWords) (h : texts[i]?.map text = some str) :
    plainText str = true := by
  obtain ⟨s, hs, rfl⟩ := Option.map_eq_some_iff.mp h
  exact List.all_eq_true.mp texts_plain s (hsub (List.mem_of_getElem? hs))

/-- The codes that are more than their text. -/
theorem lookup_cases (code : UInt8) :
    IsNewline code ∧ geRs232TextTokenLookup code = some [0x0A] ∨
      code = geTextBackspace ∧ geRs232TextTokenLookup code = some [0x08] ∨
      code = geTextBlinkToken ∧ geRs232TextTokenLookup code = some [] ∨
      ¬ IsNewline code ∧ code ≠ geTextBackspace ∧ plainText (spelling code) = true := by
  by_cases hline : IsNewline code
  · exact .inl ⟨hline, if_pos hline⟩
  by_cases hback : code = geTextBackspace
  · exact .inr (.inl ⟨hback, hback ▸ rfl⟩)
  by_cases hblink : code = geTextBlinkToken
  · exact .inr (.inr (.inl ⟨hblink, hblink ▸ rfl⟩))
  refine .inr (.inr (.inr ⟨hline, hback, ?_⟩))
  have hother : ¬ (code = 0xF9 ∨ code = 0xFB) := hline
  have hback' : code ≠ 0xFD := hback
  have hblink' : code ≠ 0xFE := hblink
  have hplain : ∀ str, geRs232TextTokenLookup code = some str → plainText str = true := by
    intro str hl
    rw [geRs232TextTokenLookup, if_neg hother] at hl
    by_cases hspace : code = 0xFA
    · rw [if_pos hspace, Option.some.injEq] at hl
      rw [← hl]
      rfl
    rw [if_neg hspace, if_neg hback', if_neg hblink'] at hl
    by_cases hdigit : code < 0x0C
    · rw [if_pos hdigit] at hl
      exact plain_of_getElem? (List.subset_append_left ..) hl
    · rw [if_neg hdigit] at hl
      exact plain_of_getElem? (List.subset_append_right ..) hl
  unfold spelling
  cases hl : geRs232TextTokenLookup code with
  | none => decide +kernel
  | some str => exact hplain str hl

theorem put_backspace (h : code = geTextBackspace) :
    s.put oneLine code = if s.ret ≠ [] then (s.index 0).cutLast else s.index 0 := by
  subst h
  cases oneLine <;> rfl

theorem put_newline (h : IsNewline code) :
    s.put true code =
      if s.len ≠ 0 then s.indexLast.append (if s.lastIsSpace then text "| " else text " | ")
      else s := by
  obtain rfl | rfl := h <;> rfl

theorem put_other (hback : code ≠ geTextBackspace) (hline : ¬ (oneLine = true ∧ IsNewline code)) :
    s.put oneLine code = s.append (spelling code) := by
  have hhead : ∀ str, geRs232TextTokenLookup code = some str →
      ¬ (oneLine = true ∧ str.head? = some 0x0A) ∧ ¬ str.head? = some 0x08 := by
    intro str hl
    rcases lookup_cases code with ⟨hn, h⟩ | ⟨hb, -⟩ | ⟨-, h⟩ | ⟨-, -, hplain⟩
    · obtain rfl := Option.some.inj (hl.symm.trans h)
      exact ⟨fun hc => hline ⟨hc.1, hn⟩, by decide⟩
    · exact (hback hb).elim
    · obtain rfl := Option.some.inj (hl.symm.trans h)
      exact ⟨fun hc => (nomatch hc.2), by decide⟩
    · rw [spelling, hl, Option.getD_some, plainText_iff] at hplain
      exact ⟨fun hc => absurd (hplain.2 _ (List.mem_of_mem_head? hc.2)) (by decide),
        fun hc => absurd (hplain.2 _ (List.mem_of_mem_head? hc)) (by decide)⟩
  unfold GeText.put spelling
  cases hl : geRs232TextTokenLookup code with
  | none => rfl
  | some str =>
    obtain ⟨hnew, hbs⟩ := hhead str hl
    dsimp only
    rw [if_neg hnew, if_neg hbs]
    rfl

/-! What the loop does besides reading. -/

/-- No byte is read, and what has been indexed is remembered. -/
structure Spells (a b : GeText) : Prop where
  len : b.len = a.len
  pos : b.pos = a.pos
  reads : b.reads = a.reads
  indexed : a.indexed <+: b.indexed

theorem Spells.trans {a b c : GeText} (h : Spells a b) (h' : Spells b c) : Spells a c :=
  ⟨h'.len.trans h.len, h'.pos.trans h.pos, h'.reads.trans h.reads, h.indexed.trans h'.indexed⟩

theorem spells_append (s : GeText) (str : List UInt8) : Spells s (s.append str) :=
  ⟨rfl, rfl, rfl, List.prefix_rfl⟩

theorem spells_index (s : GeText) (i : ℤ) : Spells s (s.index i) :=
  ⟨rfl, rfl, rfl, List.prefix_append ..⟩

theorem spells_cutLast (s : GeText) : Spells s s.cutLast := by
  unfold GeText.cutLast
  dsimp only
  split <;> exact ⟨rfl, rfl, rfl, List.prefix_append ..⟩

theorem spells_stopBlinking (s : GeText) : Spells s s.stopBlinking := by
  unfold GeText.stopBlinking
  split
  · exact (spells_index s _).trans ((spells_cutLast _).trans (spells_append _ _))
  · exact (spells_index s _).trans (spells_append _ _)

theorem spells_put (s : GeText) (code : UInt8) : Spells s (s.put oneLine code) := by
  by_cases hback : code = geTextBackspace
  · rw [put_backspace hback]
    split
    · exact (spells_index s 0).trans (spells_cutLast _)
    · exact spells_index s 0
  by_cases hline : oneLine = true ∧ IsNewline code
  · obtain ⟨rfl, hline⟩ := hline
    rw [put_newline hline]
    split
    · exact (spells_index s _).trans (spells_append _ _)
    · exact ⟨rfl, rfl, rfl, List.prefix_rfl⟩
  · rw [put_other hback hline]
    exact spells_append _ _

/-- The part of the loop that starts or ends blinking. -/
def GeText.switch (self : GeText) : Bool → GeText
  | true =>
    { (if self.blinkNextToken then self else self.append (text "<")) with blinkNextToken := true }
  | false =>
    { (if self.blinkNextToken then self.stopBlinking else self) with blinkNextToken := false }

def GeText.token (oneLine : Bool) (self : GeText) (t : TextToken) : GeText :=
  (self.switch t.blinks).put oneLine t.code

theorem spells_switch (s : GeText) (blinks : Bool) : Spells s (s.switch blinks) := by
  cases blinks with
  | true =>
    unfold GeText.switch
    dsimp only
    split <;> exact ⟨rfl, rfl, rfl, List.prefix_rfl⟩
  | false =>
    unfold GeText.switch
    dsimp only
    split
    · exact (spells_stopBlinking s).trans ⟨rfl, rfl, rfl, List.prefix_rfl⟩
    · exact ⟨rfl, rfl, rfl, List.prefix_rfl⟩

theorem spells_token (oneLine : Bool) (s : GeText) (t : TextToken) : Spells s (s.token oneLine t) :=
  (spells_switch s _).trans (spells_put _ _)

/-! The steps of the loop. -/

theorem toNat_countDown {n : ℕ} (h : s.len.toNat = n + 1) : (s.len - 1).toNat = n := by
  have h1 : (1 : UInt8) ≤ s.len := by
    rw [UInt8.le_iff_toNat_le]
    simp
    omega
  rw [UInt8.toNat_sub_of_le _ _ h1, h]
  rfl

theorem len_ne_zero {n : ℕ} (h : s.len.toNat = n + 1) : s.len ≠ 0 := by
  intro h0
  rw [h0] at h
  cases h

/-- A byte that does not start blinking is a token. -/
theorem loop_plain (hcode : code ≠ geTextBlinkToken) (hlen : s.len.toNat = rest.length + 1) :
    geTextLoop oneLine (code :: rest) s =
      geTextLoop oneLine rest (s.countDown.read.token oneLine ⟨false, code⟩) := by
  rw [geTextLoop, if_neg (len_ne_zero hlen)]
  dsimp only
  rw [if_neg hcode]
  rfl

/-- A byte that starts blinking and the one after it are a token. -/
theorem loop_blink (hlen : s.len.toNat = rest.length + 2) :
    geTextLoop oneLine (geTextBlinkToken :: code :: rest) s =
      geTextLoop oneLine rest (s.countDown.read.countDown.read.token oneLine ⟨true, code⟩) := by
  have hne : s.len - 1 ≠ 0 := len_ne_zero (s := s.countDown) (toNat_countDown hlen)
  -- the `<` is written between the two reads
  cases hb : s.blinkNextToken with
  | true =>
    simp [geTextLoop, len_ne_zero hlen, hne, hb, GeText.countDown, GeText.read, GeText.token,
      GeText.switch]
  | false =>
    simp [geTextLoop, len_ne_zero hlen, hne, hb, GeText.countDown, GeText.read, GeText.token,
      GeText.switch, GeText.append]

/-- The loop takes one token, of one byte or of two. -/
theorem loop_token (oneLine : Bool) (hlen : s.len.toNat = bytes.length)
    (h : textTokens bytes = some (t :: ts)) :
    ∃ rest n, textTokens rest = some ts ∧ bytes.length = rest.length + (n + 1) ∧
      ∃ u : GeText, u.len.toNat = rest.length ∧ u.ret = s.ret ∧
        u.blinkNextToken = s.blinkNextToken ∧ u.indexed = s.indexed ∧
        u.pos = s.pos + (n + 1) ∧ u.reads = s.reads ++ List.range' s.pos (n + 1) ∧
        geTextLoop oneLine bytes s = geTextLoop oneLine rest (u.token oneLine t) := by
  cases bytes using textTokens_cases with
  | nil => cases h
  | lone => cases h
  | blink code rest =>
    rw [textTokens_blink] at h
    obtain ⟨ts', hts, he⟩ := Option.map_eq_some_iff.mp h
    obtain ⟨rfl, rfl⟩ := List.cons.inj he
    refine ⟨rest, 1, hts, rfl, s.countDown.read.countDown.read, ?_, rfl, rfl, rfl, rfl, ?_,
      loop_blink hlen⟩
    · exact toNat_countDown (s := s.countDown) (toNat_countDown hlen)
    · simp [GeText.read, GeText.countDown, List.range']
  | plain code rest hcode =>
    rw [textTokens_plain hcode] at h
    obtain ⟨ts', hts, he⟩ := Option.map_eq_some_iff.mp h
    obtain ⟨rfl, rfl⟩ := List.cons.inj he
    exact ⟨rest, 0, hts, rfl, s.countDown.read, toNat_countDown hlen, rfl, rfl, rfl, rfl, rfl,
      loop_plain hcode hlen⟩

/-- Where every blink token has a byte to blink, the loop reads each byte once and ends. -/
theorem loop_reads (oneLine : Bool) (ts : List TextToken) {bytes : List UInt8} {s : GeText}
    (h : textTokens bytes = some ts) (hlen : s.len.toNat = bytes.length) :
    ∃ s', geTextLoop oneLine bytes s = .ok s' ∧
      s'.reads = s.reads ++ List.range' s.pos bytes.length ∧ s.indexed <+: s'.indexed := by
  induction ts generalizing bytes s with
  | nil =>
    obtain rfl : bytes = [] := by
      cases bytes using textTokens_cases with
      | nil => rfl
      | lone => cases h
      | blink code rest =>
        rw [textTokens_blink] at h
        simp at h
      | plain code rest hcode =>
        rw [textTokens_plain hcode] at h
        simp at h
    have h0 : s.len = 0 := UInt8.toNat_inj.mp hlen
    exact ⟨s.countDown, by rw [geTextLoop, if_pos h0], by simp [GeText.countDown],
      List.prefix_rfl⟩
  | cons t ts ih =>
    obtain ⟨rest, n, hrest, hn, u, hu, -, -, hui, hup, hur, hloop⟩ :=
      loop_token oneLine hlen h
    have hspell := spells_token oneLine u t
    obtain ⟨s', hs', hreads, hindexed⟩ := ih hrest (hspell.len ▸ hu)
    refine ⟨s', hloop.trans hs', ?_, ?_⟩
    · rw [hreads, hspell.reads, hspell.pos, hur, hup, hn, List.append_assoc,
        List.range'_append_1, add_comm rest.length]
    · exact (hui ▸ hspell.indexed).trans hindexed

/-- A blink token that comes last makes the loop read on. -/
theorem loop_overruns (oneLine : Bool) {bytes : List UInt8} {s : GeText}
    (h : textTokens bytes = none) (hlen : s.len.toNat = bytes.length) :
    ∃ s', geTextLoop oneLine bytes s = .error s' := by
  induction bytes using textTokens_cases generalizing s with
  | nil => cases h
  | lone =>
    have h1 : (s.len - 1).toNat = 0 := toNat_countDown hlen
    have h0 : s.len - 1 = 0 := UInt8.toNat_inj.mp h1
    cases hb : s.blinkNextToken with
    | true =>
      exact ⟨_, by
        simp [geTextLoop, len_ne_zero hlen, hb, h0, GeText.countDown, GeText.read]
        rfl⟩
    | false =>
      exact ⟨_, by
        simp [geTextLoop, len_ne_zero hlen, hb, h0, GeText.countDown, GeText.read, GeText.append]
        rfl⟩
  | blink code rest ih =>
    rw [textTokens_blink, Option.map_eq_none_iff] at h
    rw [loop_blink hlen]
    refine ih h ?_
    rw [(spells_token oneLine _ _).len]
    exact toNat_countDown (s := s.countDown) (toNat_countDown hlen)
  | plain code rest hcode ih =>
    rw [textTokens_plain hcode, Option.map_eq_none_iff] at h
    rw [loop_plain hcode hlen]
    refine ih h ?_
    rw [(spells_token oneLine _ _).len]
    exact toNat_countDown hlen

end Concordd
