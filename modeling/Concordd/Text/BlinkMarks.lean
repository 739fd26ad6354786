import Concordd.Text.Bounds
import Concordd.Text.Trimming

/-! In a short text without backspaces the marks for blinking come in pairs. -/
namespace Concordd

open Ascii

variable {r : Rendering} {t : TextToken} {ts : List TextToken} {bytes s : List UInt8}
  {last : Bool} {code : UInt8} {k : ℕ}

/-- `<`. -/
def blinkOn : UInt8 := 0x3C

/-- `>`. -/
def blinkOff : UInt8 := 0x3E

def blinkMarks (s : List UInt8) : List UInt8 := s.filter fun c => c = blinkOn ∨ c = blinkOff

def blinkPairs (k : ℕ) : List UInt8 := (List.replicate k [blinkOn, blinkOff]).flatten

/-- What `touchpad_display_draw` makes of a character: whether it blinks from there on. -/
def touchpadSees (on : Bool) (c : UInt8) : Bool :=
  if c = blinkOn then true else if c = blinkOff then false else on

def touchpadBlinks (s : List UInt8) : Bool := s.foldl touchpadSees false

/-! Marks. -/

@[simp] theorem blinkMarks_append (s u : List UInt8) :
    blinkMarks (s ++ u) = blinkMarks s ++ blinkMarks u := List.filter_append ..

/-- White space is no mark. -/
theorem blinkMarks_of_space (h : ∀ c ∈ s, isSpace c = true) : blinkMarks s = [] := by
  have hmark : ∀ c, isSpace c = true → ¬ (c = blinkOn ∨ c = blinkOff) := by decide +kernel
  rw [blinkMarks, List.filter_eq_nil_iff]
  intro c hc
  simpa using hmark c (h c hc)

theorem blinkMarks_spelling (hback : code ≠ geTextBackspace) : blinkMarks (spelling code) = [] := by
  rcases lookup_cases code with ⟨-, h⟩ | ⟨hb, -⟩ | ⟨-, h⟩ | ⟨-, -, hplain⟩
  · rw [spelling, h]
    rfl
  · exact (hback hb).elim
  · rw [spelling, h]
    rfl
  · rw [blinkMarks, List.filter_eq_nil_iff]
    intro c hc
    have hchar := (plainText_iff.mp hplain).2 c hc
    simp only [isPlain, Bool.and_eq_true, bne_iff_ne] at hchar
    rw [decide_eq_true_eq]
    rintro (hon | hoff)
    · exact hchar.1.2 hon
    · exact hchar.2 hoff

theorem blinkMarks_trimRight (s : List UInt8) : blinkMarks (trimRight s) = blinkMarks s := by
  have hrest : blinkMarks (s.rtakeWhile isSpace) = [] :=
    blinkMarks_of_space fun c hc => List.mem_rtakeWhile_imp hc
  have hs : trimRight s ++ s.rtakeWhile isSpace = s := List.rdropWhile_append_rtakeWhile
  rw [← List.append_nil (blinkMarks (trimRight s)), ← hrest, ← blinkMarks_append, hs]

/-- The character that a `>` replaces is white space. -/
theorem blinkMarks_dropLast (h : endsInSpace s = true) : blinkMarks s.dropLast = blinkMarks s := by
  by_cases hs : s = []
  · rw [hs]
    rfl
  · have hc : isSpace (s.getLast hs) = true := by
      rw [endsInSpace, List.getLast?_eq_some_getLast hs] at h
      exact h
    have hlast : blinkMarks [s.getLast hs] = [] := by
      apply blinkMarks_of_space
      simpa using hc
    have hsplit : s.dropLast ++ [s.getLast hs] = s := List.dropLast_append_getLast hs
    rw [← List.append_nil (blinkMarks s.dropLast), ← hlast, ← blinkMarks_append, hsplit]

/-- The touchpad looks at nothing but the marks. -/
theorem foldl_blinkMarks (s : List UInt8) (on : Bool) :
    (blinkMarks s).foldl touchpadSees on = s.foldl touchpadSees on := by
  induction s generalizing on with
  | nil => rfl
  | cons c s ih =>
    unfold blinkMarks at ih ⊢
    rw [List.filter_cons]
    split
    · exact ih _
    · next hc =>
      have hno : touchpadSees on c = on := by
        simp only [decide_eq_true_eq, not_or] at hc
        simp [touchpadSees, hc]
      rw [List.foldl_cons, hno]
      exact ih on

theorem foldl_blinkPairs (k : ℕ) : (blinkPairs k).foldl touchpadSees false = false := by
  induction k with
  | zero => rfl
  | succ k ih =>
    rw [blinkPairs, List.replicate_succ, List.flatten_cons, List.foldl_append]
    exact ih

/-- A client that has seen nothing but pairs of marks is not blinking. -/
theorem touchpadBlinks_of_pairs (h : blinkMarks s = blinkPairs k) : touchpadBlinks s = false := by
  rw [touchpadBlinks, ← foldl_blinkMarks, h, foldl_blinkPairs]

/-! One token. -/

/-- The marks come in pairs, up to the one that opened the blinking that goes on. -/
def PairedMarks (r : Rendering) : Prop :=
  ∃ k, blinkMarks r.written = blinkPairs k ++ if r.blinking then [blinkOn] else []

theorem blinkPairs_succ (k : ℕ) : blinkPairs (k + 1) = blinkPairs k ++ [blinkOn] ++ [blinkOff] := by
  rw [blinkPairs, List.replicate_succ', List.flatten_append, List.append_assoc]
  rfl

theorem blinkMarks_opening : blinkMarks (text "<") = [blinkOn] := by decide +kernel

theorem blinkMarks_closing :
    blinkMarks (text "> ") = [blinkOff] ∧ blinkMarks (text ">") = [blinkOff] := by
  decide +kernel

/-- As long as nothing is cut off, each mark opens or closes the blinking. -/
theorem switch_paired (hp : PairedMarks r) (blinks : Bool)
    (hshort : (r.switch blinks).written.length < 1023) : PairedMarks (r.switch blinks) := by
  obtain ⟨k, hk⟩ := hp
  unfold PairedMarks
  unfold Rendering.switch at hshort ⊢
  cases hb : r.blinking <;> cases blinks <;> simp only [hb] at hk hshort ⊢
  · exact ⟨k, hk⟩
  · refine ⟨k, ?_⟩
    rw [strlcat_of_length_lt hshort, blinkMarks_append, hk, blinkMarks_opening]
    simp
  · refine ⟨k + 1, ?_⟩
    rw [blinkPairs_succ, ← show blinkMarks r.written = blinkPairs k ++ [blinkOn] from hk]
    split
    · next hspace =>
      rw [if_pos hspace] at hshort
      rw [strlcat_of_length_lt hshort, blinkMarks_append, blinkMarks_dropLast hspace,
        blinkMarks_closing.1]
      simp
    · next hspace =>
      rw [if_neg hspace] at hshort
      rw [strlcat_of_length_lt hshort, blinkMarks_append, blinkMarks_closing.2]
      simp
  · exact ⟨k, hk⟩

theorem put_paired (hp : PairedMarks r) (hback : code ≠ geTextBackspace)
    (hshort : (r.put true last code).written.length < 1023) :
    PairedMarks (r.put true last code) := by
  obtain ⟨k, hk⟩ := hp
  refine ⟨k, ?_⟩
  unfold Rendering.put at hshort ⊢
  dsimp only at hshort ⊢
  rw [← hk]
  rw [if_neg hback] at hshort ⊢
  by_cases hline : true = true ∧ IsNewline code
  · rw [if_pos hline] at hshort ⊢
    cases last with
    | true => rfl
    | false =>
      simp only [Bool.false_eq_true, if_false] at hshort ⊢
      rw [strlcat_of_length_lt hshort, blinkMarks_append]
      split <;> exact List.append_nil _
  · rw [if_neg hline] at hshort ⊢
    rw [strlcat_of_length_lt hshort, blinkMarks_append, blinkMarks_spelling hback, List.append_nil]

/-! Without backspaces a text only grows. -/

/-- The second text is no shorter, and still fits. -/
def Grows (a b : List UInt8) : Prop := a.length ≤ b.length ∧ b.length ≤ 1023

theorem Grows.trans {a b c : List UInt8} (h : Grows a b) (h' : Grows b c) : Grows a c :=
  ⟨h.1.trans h'.1, h'.2⟩

theorem grows_strlcat (h : s.length ≤ 1023) (u : List UInt8) : Grows s (strlcat s u 1024) :=
  ⟨length_le_strlcat h, length_strlcat_le⟩

theorem grows_switch (h : r.written.length ≤ 1023) (blinks : Bool) :
    Grows r.written (r.switch blinks).written := by
  unfold Rendering.switch
  cases r.blinking <;> cases blinks <;> dsimp only
  · exact ⟨le_rfl, h⟩
  · exact grows_strlcat h _
  · split
    · refine ⟨?_, length_strlcat_le⟩
      have hlen : (text "> ").length = 2 := by decide +kernel
      rw [strlcat, List.length_take, List.length_append, List.length_dropLast, hlen]
      omega
    · exact grows_strlcat h _
  · exact ⟨le_rfl, h⟩

theorem grows_put (last : Bool) (h : r.written.length ≤ 1023) (hback : code ≠ geTextBackspace) :
    Grows r.written (r.put true last code).written := by
  unfold Rendering.put
  dsimp only
  rw [if_neg hback]
  split
  · split
    · exact ⟨le_rfl, h⟩
    · exact grows_strlcat h _
  · exact grows_strlcat h _

theorem grows_token (last : Bool) (h : r.written.length ≤ 1023) (hback : t.code ≠ geTextBackspace) :
    Grows r.written (r.token true last t).written :=
  have hswitch := grows_switch h t.blinks
  hswitch.trans (grows_put last hswitch.2 hback)

theorem grows_render (h : r.written.length ≤ 1023) (hback : ∀ t ∈ ts, t.code ≠ geTextBackspace) :
    Grows r.written (render true r ts).written := by
  induction ts generalizing r with
  | nil => exact grows_switch h false
  | cons t ts ih =>
    have htoken := grows_token ts.isEmpty h (hback t List.mem_cons_self)
    exact htoken.trans (ih htoken.2 fun u hu => hback u (List.mem_cons_of_mem t hu))

theorem ne_nil_of_grows {a b : List UInt8} (h : Grows a b) (ha : a ≠ []) : b ≠ [] := by
  have hpos := List.length_pos_iff.mpr ha
  exact List.length_pos_iff.mp (hpos.trans_le h.1)

/-- Once something is written there is always a character to look at. -/
theorem inBounds_of_written (hne : r.written ≠ []) (h : r.written.length ≤ 1023)
    (hback : ∀ t ∈ ts, t.code ≠ geTextBackspace) : r.InBounds true ts := by
  induction ts generalizing r with
  | nil => exact fun _ => hne
  | cons t ts ih =>
    have htoken := grows_token ts.isEmpty h (hback t List.mem_cons_self)
    refine ⟨⟨fun _ _ => hne, fun _ _ _ => ne_nil_of_grows (grows_switch h _) hne⟩, ?_⟩
    exact ih (ne_nil_of_grows htoken hne) htoken.2 fun u hu => hback u (List.mem_cons_of_mem t hu)

/-- In the end the blinking is over, and the marks of a short text are all paired. -/
theorem render_paired (hp : PairedMarks r) (h : r.written.length ≤ 1023)
    (hback : ∀ t ∈ ts, t.code ≠ geTextBackspace)
    (hshort : (render true r ts).written.length < 256) :
    ∃ k, blinkMarks (render true r ts).written = blinkPairs k := by
  induction ts generalizing r with
  | nil =>
    obtain ⟨k, hk⟩ := switch_paired hp false (by exact hshort.trans (by decide))
    exact ⟨k, hk.trans (List.append_nil _)⟩
  | cons t ts ih =>
    have hmem := hback t List.mem_cons_self
    have hrest : ∀ u ∈ ts, u.code ≠ geTextBackspace :=
      fun u hu => hback u (List.mem_cons_of_mem t hu)
    have hswitch := grows_switch h t.blinks
    have hput := grows_put ts.isEmpty hswitch.2 hmem
    have hend : Grows (r.token true ts.isEmpty t).written (render true r (t :: ts)).written :=
      grows_render hput.2 hrest
    have hbound : (r.token true ts.isEmpty t).written.length < 1023 :=
      (hend.1.trans_lt hshort).trans (by decide)
    have hpaired := switch_paired hp t.blinks (hput.1.trans_lt hbound)
    exact ih (put_paired hpaired hmem hbound) hput.2 hrest hshort

/-! The first token. -/

theorem textTokens_codes (h : textTokens bytes = some ts) : ∀ t ∈ ts, t.code ∈ bytes := by
  induction bytes using textTokens_cases generalizing ts with
  | nil =>
    obtain rfl := Option.some.inj h
    simp
  | lone => cases h
  | blink code rest ih =>
    rw [textTokens_blink] at h
    obtain ⟨ts', hts, rfl⟩ := Option.map_eq_some_iff.mp h
    intro t ht
    rcases List.mem_cons.mp ht with rfl | ht
    · simp
    · exact List.mem_cons_of_mem _ (List.mem_cons_of_mem _ (ih hts t ht))
  | plain code rest hcode ih =>
    rw [textTokens_plain hcode] at h
    obtain ⟨ts', hts, rfl⟩ := Option.map_eq_some_iff.mp h
    intro t ht
    rcases List.mem_cons.mp ht with rfl | ht
    · simp
    · exact List.mem_cons_of_mem _ (ih hts t ht)

/-- Only a blink token has an empty text. -/
theorem spelling_ne_nil (h : code ≠ geTextBlinkToken) : spelling code ≠ [] := by
  rcases lookup_cases code with ⟨-, hl⟩ | ⟨-, hl⟩ | ⟨hb, -⟩ | ⟨-, -, hplain⟩
  · simp [spelling, hl]
  · simp [spelling, hl]
  · exact (h hb).elim
  · exact (plainText_iff.mp hplain).1

theorem written_of_first (last : Bool) (h : textTokens bytes = some (t :: ts))
    (hback : geTextBackspace ∉ bytes)
    (hfirst : ∀ c, bytes.head? = some c → ¬ IsNewline c) :
    Rendering.Looks ⟨[], false⟩ true last t ∧
      (Rendering.token ⟨[], false⟩ true last t).written ≠ [] := by
  have hcode : t.code ≠ geTextBackspace := fun he =>
    hback (he ▸ textTokens_codes h t List.mem_cons_self)
  cases bytes using textTokens_cases with
  | nil => cases h
  | lone => cases h
  | blink code rest =>
    rw [textTokens_blink] at h
    obtain ⟨ts', -, he⟩ := Option.map_eq_some_iff.mp h
    obtain ⟨rfl, -⟩ := List.cons.inj he
    have hopen : (Rendering.switch ⟨[], false⟩ true).written ≠ [] := by decide +kernel
    refine ⟨⟨fun hb => (nomatch hb), fun _ _ _ => hopen⟩, ?_⟩
    have hfits := (grows_switch (r := ⟨[], false⟩) (by decide) true).2
    exact ne_nil_of_grows (grows_put last hfits hcode) hopen
  | plain code rest hplain =>
    rw [textTokens_plain hplain] at h
    obtain ⟨ts', -, he⟩ := Option.map_eq_some_iff.mp h
    obtain ⟨rfl, -⟩ := List.cons.inj he
    have hline : ¬ IsNewline code := hfirst code rfl
    refine ⟨⟨fun hb => (nomatch hb), fun _ hn => (hline hn).elim⟩, ?_⟩
    show (Rendering.put ⟨[], false⟩ true last code).written ≠ []
    unfold Rendering.put
    dsimp only
    rw [if_neg hcode, if_neg fun hn => hline hn.2]
    intro hnil
    rw [strlcat, List.nil_append, List.take_eq_nil_iff] at hnil
    exact hnil.elim (by decide) (spelling_ne_nil hplain)

/-- In a text without backspaces that does not begin with a newline, where each blink token has a
byte to blink and the spelling is short, a client sees blinking switched on and off in turn. -/
theorem blink_marks_balanced (bytes : List UInt8) (hlen : bytes.length ≤ 255) (before : UInt8)
    (hback : geTextBackspace ∉ bytes) (hblink : (textTokens bytes).isSome = true)
    (hfirst : ∀ c, bytes.head? = some c → ¬ IsNewline c)
    (hshort : ∀ s, geTextDecode true before bytes = .ok s → s.ret.length < 256) :
    ∃ s, geTextToAsciiOneLine before bytes = .ok s ∧
      (∃ k, blinkMarks s.ret = blinkPairs k) ∧ touchpadBlinks s.ret = false := by
  obtain ⟨ts, hts⟩ := Option.isSome_iff_exists.mp hblink
  have hcodes : ∀ t ∈ ts, t.code ≠ geTextBackspace := fun t ht he =>
    hback (he ▸ textTokens_codes hts t ht)
  have hin : Rendering.InBounds true ⟨[], false⟩ ts := by
    cases ts with
    | nil => exact fun h => (nomatch h)
    | cons t ts =>
      obtain ⟨hlooks, hne⟩ := written_of_first ts.isEmpty hts hback hfirst
      have htoken := grows_token (r := ⟨[], false⟩) ts.isEmpty (by decide)
        (hcodes t List.mem_cons_self)
      exact ⟨hlooks, inBounds_of_written hne htoken.2 fun u hu =>
        hcodes u (List.mem_cons_of_mem t hu)⟩
  obtain ⟨s, hs, -, -, hret⟩ := decode_spec true before hts (by omega)
  have hrender := hret hin
  obtain ⟨k, hk⟩ := render_paired (r := ⟨[], false⟩) ⟨0, rfl⟩ (by decide) hcodes
    (hrender ▸ hshort s hs)
  have htrim : s.trimmed.ret = trimRight s.ret := (trimmed_iff s).mpr (.inl (hshort s hs))
  have hmarks : blinkMarks s.trimmed.ret = blinkPairs k := by
    rw [htrim, blinkMarks_trimRight, hrender, hk]
  exact ⟨s.trimmed, returned_of_decode hs, ⟨k, hmarks⟩, touchpadBlinks_of_pairs hmarks⟩

/-- A blinking `"ALARM "`, and `"OFF "`. -/
theorem blink_marks_balanced_alarm :
    ∃ s, geTextToAsciiOneLine 0 [0xFE, 0x33, 0x97] = .ok s ∧
      (∃ k, blinkMarks s.ret = blinkPairs k) ∧ touchpadBlinks s.ret = false := by
  have htext : textOf (geTextDecode true 0 [0xFE, 0x33, 0x97]) = some (text "<ALARM> OFF ") := by
    decide +kernel
  refine blink_marks_balanced [0xFE, 0x33, 0x97] (by decide) 0 (by decide) (by decide) ?_ ?_
  · intro c hc
    obtain rfl := Option.some.inj hc
    decide
  · intro s hs
    rw [hs] at htext
    rw [show s.ret = _ from Option.some.inj htext]
    decide +kernel

end Concordd
