import Concordd.Keypad.Mirror
import Concordd.Text.BlinkMarks

/-! What the keypad emulator draws is what the panel has sent. -/
namespace Concordd

open Ascii

/-! `touchpad_display_draw` on an ANSI terminal, without its list of zones. -/

/-- What is printed: characters, line ends and the `ANSI_*` sequences. -/
inductive AnsiOutput
  | el1 | cr | cupZero | ed2 | sgrReset | sgrYellow | sgrMagenta | sgrReverse | sgrBlink | newline
  | char (c : UInt8)
  deriving DecidableEq

/-- The loop over `touchpad_text`. A space after a bar is left out. -/
def drawText : Bool → List UInt8 → List AnsiOutput
  | _, [] => []
  | skip, c :: text =>
    if skip ∧ c = 0x20 then drawText false text
    else if c = blinkOn then .sgrBlink :: drawText false text
    else if c = blinkOff then .sgrReset :: drawText false text
    else if c = 0x7C then .newline :: drawText true text
    else .char c :: drawText false text

/-- `lines` after the loop. -/
def textLines (text : List UInt8) : ℕ := 1 + text.count 0x7C

/-- The siren is sounding. -/
def Touchpad.sounding (self : Touchpad) : Bool :=
  self.touchpadSirenRepeat = 0 ∧ (strstr (cLiteral "1") self.touchpadSirenCadence).isSome

def levelColour (armlevel : UInt32) : List AnsiOutput :=
  if armlevel = 2 then [.sgrYellow] else if armlevel = 3 then [.sgrMagenta] else []

def touchpadDisplayDraw (self : Touchpad) : List AnsiOutput :=
  let text := self.touchpadText.getD []
  [.el1, .cr, .cupZero, .ed2, .sgrReset] ++ levelColour self.touchpadArmlevel ++
    (if self.sounding then [.sgrReverse] else []) ++ drawText false text ++
    List.replicate (3 - textLines text) .newline ++ [.sgrReset, .newline]

/-! What is to be seen on the terminal. -/

inductive Colour
  | default | yellow | magenta
  deriving DecidableEq

/-- The attributes a character is printed with. -/
structure Sgr where
  blink : Bool := false
  reverse : Bool := false
  colour : Colour := .default
  deriving DecidableEq

/-- A line end, or a character that is no white space. -/
inductive Seen
  | newline
  | char (c : UInt8) (sgr : Sgr)
  deriving DecidableEq

def seen : Sgr → List AnsiOutput → List Seen
  | _, [] => []
  | _, .sgrReset :: out => seen {} out
  | sgr, .sgrYellow :: out => seen { sgr with colour := .yellow } out
  | sgr, .sgrMagenta :: out => seen { sgr with colour := .magenta } out
  | sgr, .sgrReverse :: out => seen { sgr with reverse := true } out
  | sgr, .sgrBlink :: out => seen { sgr with blink := true } out
  | sgr, .newline :: out => .newline :: seen sgr out
  | sgr, .char c :: out => if isSpace c then seen sgr out else .char c sgr :: seen sgr out
  | sgr, .el1 :: out | sgr, .cr :: out | sgr, .cupZero :: out | sgr, .ed2 :: out => seen sgr out

/-! What the panel means. -/

/-- The end of a blinking passage is the end of all attributes. -/
def Sgr.switch (sgr : Sgr) (blinks : Bool) : Sgr :=
  if sgr.blink ∧ ¬ blinks then {} else { sgr with blink := blinks }

/-- A line end or the letters of a word. -/
def codeSeen (sgr : Sgr) (code : UInt8) : List Seen :=
  if IsNewline code then [.newline]
  else ((spelling code).filter fun c => ¬ isSpace c).map fun c => .char c sgr

/-- A line end that comes last is not shown. -/
def tokensSeen : Sgr → List TextToken → List Seen
  | _, [] => []
  | sgr, t :: ts =>
    let sgr := sgr.switch t.blinks
    (if ts = [] ∧ IsNewline t.code then [] else codeSeen sgr t.code) ++ tokensSeen sgr ts

/-! The text as the emulator reads it. -/

/-- The attributes after a character of the text. -/
def Sgr.read (sgr : Sgr) (c : UInt8) : Sgr :=
  if c = blinkOn then { sgr with blink := true } else if c = blinkOff then {} else sgr

/-- What is to be seen of a character of the text. -/
def charSeen (sgr : Sgr) (c : UInt8) : List Seen :=
  if c = blinkOn ∨ c = blinkOff then []
  else if c = 0x7C then [.newline]
  else if isSpace c then []
  else [.char c sgr]

def textSeen : Sgr → List UInt8 → List Seen
  | _, [] => []
  | sgr, c :: text => charSeen sgr c ++ textSeen (sgr.read c) text

/-- What the panel has sent for the touchpad. -/
def ConcorddPartition.touchpadBytes (partition : ConcorddPartition) : List UInt8 :=
  (List.ofFn partition.encodedTouchpadText).take partition.encodedTouchpadTextLen.toNat

/-- Yellow while someone is at home, magenta while no one is, reverse as long as the siren
sounds. -/
def ConcorddPartition.sgr (partition : ConcorddPartition) : Sgr where
  reverse := partition.sirenRepeat = 0 ∧ partition.sirenCadence ≠ 0
  colour :=
    if partition.armLevel = 2 then .yellow
    else if partition.armLevel = 3 then .magenta
    else .default

variable {sgr : Sgr} {s u : List UInt8} {code : UInt8} {out : List AnsiOutput}
  {r : Rendering} {t : TextToken} {ts : List TextToken} {last : Bool}

theorem seen_drawText (skip : Bool) :
    seen sgr (drawText skip s ++ out) = textSeen sgr s ++ seen (s.foldl Sgr.read sgr) out := by
  induction s generalizing sgr skip with
  | nil => rfl
  | cons c s ih =>
    rw [drawText, textSeen, List.foldl_cons]
    by_cases hskip : skip ∧ c = 0x20
    · obtain ⟨-, rfl⟩ := id hskip
      rw [if_pos hskip, ih]
      rfl
    rw [if_neg hskip]
    by_cases hon : c = blinkOn
    · subst hon
      rw [if_pos rfl, List.cons_append, seen, ih]
      rfl
    rw [if_neg hon]
    by_cases hoff : c = blinkOff
    · subst hoff
      rw [if_pos rfl, List.cons_append, seen, ih]
      rfl
    rw [if_neg hoff]
    have hread : sgr.read c = sgr := by rw [Sgr.read, if_neg hon, if_neg hoff]
    have hmark : ¬ (c = blinkOn ∨ c = blinkOff) := not_or.mpr ⟨hon, hoff⟩
    rw [hread, charSeen, if_neg hmark]
    by_cases hbar : c = 0x7C
    · rw [if_pos hbar, if_pos hbar, List.cons_append, seen, ih]
      rfl
    · rw [if_neg hbar, if_neg hbar, List.cons_append, seen, ih]
      split <;> rfl

@[simp] theorem textSeen_append : textSeen sgr (s ++ u) =
    textSeen sgr s ++ textSeen (s.foldl Sgr.read sgr) u := by
  induction s generalizing sgr with
  | nil => rfl
  | cons c s ih => simp [textSeen, ih]

/-- White space is not seen, and changes nothing. -/
theorem space_read (h : isSpace c = true) (sgr : Sgr) : charSeen sgr c = [] ∧ sgr.read c = sgr := by
  have hother : ∀ c, isSpace c = true → c ≠ blinkOn ∧ c ≠ blinkOff ∧ c ≠ 0x7C := by decide +kernel
  obtain ⟨hon, hoff, hbar⟩ := hother c h
  simp [charSeen, Sgr.read, hon, hoff, hbar, h]

theorem spaces_read (h : ∀ c ∈ s, isSpace c = true) (sgr : Sgr) :
    textSeen sgr s = [] ∧ s.foldl Sgr.read sgr = sgr := by
  induction s generalizing sgr with
  | nil => exact ⟨rfl, rfl⟩
  | cons c s ih =>
    obtain ⟨hseen, hread⟩ := space_read (h c List.mem_cons_self) sgr
    have hrest := ih (fun d hd => h d (List.mem_cons_of_mem c hd)) sgr
    rw [textSeen, List.foldl_cons, hseen, hread]
    exact hrest

theorem textSeen_trimRight (sgr : Sgr) (s : List UInt8) :
    textSeen sgr (trimRight s) = textSeen sgr s := by
  have hrest := spaces_read (s := s.rtakeWhile isSpace)
    (fun c hc => List.mem_rtakeWhile_imp hc) ((trimRight s).foldl Sgr.read sgr)
  have hsplit : trimRight s ++ s.rtakeWhile isSpace = s :=
    List.rdropWhile_append_rtakeWhile
  conv_rhs => rw [← hsplit, textSeen_append, hrest.1, List.append_nil]

/-- The character that a mark replaces is white space. -/
theorem dropLast_read (h : endsInSpace s = true) (sgr : Sgr) :
    textSeen sgr s.dropLast = textSeen sgr s ∧
      s.dropLast.foldl Sgr.read sgr = s.foldl Sgr.read sgr := by
  by_cases hne : s = []
  · rw [hne]
    exact ⟨rfl, rfl⟩
  · have hlast : isSpace (s.getLast hne) = true := by
      rw [endsInSpace, List.getLast?_eq_some_getLast hne] at h
      exact h
    have hspace := spaces_read (s := [s.getLast hne]) (by simpa using hlast)
      (s.dropLast.foldl Sgr.read sgr)
    have hsplit : s.dropLast ++ [s.getLast hne] = s := List.dropLast_append_getLast hne
    constructor
    · conv_rhs => rw [← hsplit, textSeen_append, hspace.1, List.append_nil]
    · conv_rhs => rw [← hsplit, List.foldl_append, hspace.2]

/-! Words. -/

theorem bar_notMem_spelling (code : UInt8) : 0x7C ∉ spelling code := by
  revert code
  decide +kernel

/-- The letters of a word have the attributes it begins with. -/
theorem letters_read (h : ∀ c ∈ s, c ≠ blinkOn ∧ c ≠ blinkOff ∧ c ≠ 0x7C) (sgr : Sgr) :
    textSeen sgr s = (s.filter fun c => ¬ isSpace c).map (fun c => .char c sgr) ∧
      s.foldl Sgr.read sgr = sgr := by
  induction s with
  | nil => exact ⟨rfl, rfl⟩
  | cons c s ih =>
    obtain ⟨hon, hoff, hbar⟩ := h c List.mem_cons_self
    obtain ⟨hseen, hread⟩ := ih fun d hd => h d (List.mem_cons_of_mem c hd)
    have hc : sgr.read c = sgr := by rw [Sgr.read, if_neg hon, if_neg hoff]
    rw [textSeen, List.foldl_cons, hc, hseen, charSeen, if_neg (not_or.mpr ⟨hon, hoff⟩),
      if_neg hbar]
    refine ⟨?_, hread⟩
    cases hspace : isSpace c <;> simp [hspace]

theorem spelling_read (hback : code ≠ geTextBackspace) (hline : ¬ IsNewline code) (sgr : Sgr) :
    textSeen sgr (spelling code) = codeSeen sgr code ∧
      (spelling code).foldl Sgr.read sgr = sgr := by
  rw [codeSeen, if_neg hline]
  apply letters_read
  intro c hc
  have hbar : c ≠ 0x7C := fun he => bar_notMem_spelling code (he ▸ hc)
  rcases lookup_cases code with ⟨hn, -⟩ | ⟨hb, -⟩ | ⟨-, hl⟩ | ⟨-, -, hplain⟩
  · exact (hline hn).elim
  · exact (hback hb).elim
  · rw [spelling, hl] at hc
    cases hc
  · have hchar := (plainText_iff.mp hplain).2 c hc
    simp only [isPlain, Bool.and_eq_true, bne_iff_ne] at hchar
    exact ⟨hchar.1.2, hchar.2, hbar⟩

/-! Tokens. -/

theorem switch_blink (sgr : Sgr) (blinks : Bool) : (sgr.switch blinks).blink = blinks := by
  unfold Sgr.switch
  split
  · next h =>
    cases blinks with
    | false => rfl
    | true => exact absurd rfl h.2
  · rfl

theorem opening_read (sgr : Sgr) :
    textSeen sgr (text "<") = [] ∧ (text "<").foldl Sgr.read sgr = { sgr with blink := true } :=
  ⟨rfl, rfl⟩

theorem closing_read (sgr : Sgr) :
    (text "> ").foldl Sgr.read sgr = {} ∧ (text ">").foldl Sgr.read sgr = {} :=
  ⟨rfl, rfl⟩

/-- Where nothing is cut off, the marks say how the attributes change. -/
theorem switch_seen {sgr₀ : Sgr} (hread : r.written.foldl Sgr.read sgr₀ = sgr)
    (hb : sgr.blink = r.blinking) (blinks : Bool)
    (hshort : (r.switch blinks).written.length < 1023) :
    textSeen sgr₀ (r.switch blinks).written = textSeen sgr₀ r.written ∧
      (r.switch blinks).written.foldl Sgr.read sgr₀ = sgr.switch blinks := by
  unfold Rendering.switch at hshort ⊢
  unfold Sgr.switch
  rw [hb]
  cases hblinking : r.blinking <;> cases blinks <;> simp only [hblinking] at hshort ⊢
  · refine ⟨trivial, hread.trans ?_⟩
    rw [← hblinking, ← hb]
    simp
  · rw [strlcat_of_length_lt hshort, textSeen_append, List.foldl_append, hread]
    exact ⟨List.append_nil _, by simp [opening_read]⟩
  · split
    · next hspace =>
      rw [if_pos hspace] at hshort
      obtain ⟨hseen, hlast⟩ := dropLast_read hspace sgr₀
      rw [strlcat_of_length_lt hshort, textSeen_append, List.foldl_append, hseen, hlast, hread]
      exact ⟨List.append_nil _, by simp [closing_read]⟩
    · next hspace =>
      rw [if_neg hspace] at hshort
      rw [strlcat_of_length_lt hshort, textSeen_append, List.foldl_append, hread]
      exact ⟨List.append_nil _, by simp [closing_read]⟩
  · refine ⟨trivial, hread.trans ?_⟩
    rw [← hblinking, ← hb]
    simp

/-- As far as nothing is cut off, a code is seen as itself. -/
theorem put_seen {sgr₀ : Sgr} (hread : r.written.foldl Sgr.read sgr₀ = sgr)
    (hback : code ≠ geTextBackspace) (hshort : (r.put true last code).written.length < 1023) :
    textSeen sgr₀ (r.put true last code).written = textSeen sgr₀ r.written ++
        (if last = true ∧ IsNewline code then [] else codeSeen sgr code) ∧
      (r.put true last code).written.foldl Sgr.read sgr₀ = sgr := by
  unfold Rendering.put at hshort ⊢
  dsimp only at hshort ⊢
  rw [if_neg hback] at hshort ⊢
  by_cases hline : IsNewline code
  · rw [if_pos ⟨rfl, hline⟩] at hshort ⊢
    cases last with
    | true => exact ⟨by simp [hline], hread⟩
    | false =>
      simp only [Bool.false_eq_true, if_false] at hshort ⊢
      rw [strlcat_of_length_lt hshort, textSeen_append, List.foldl_append, hread, codeSeen,
        if_pos hline]
      split <;> exact ⟨rfl, rfl⟩
  · rw [if_neg fun h => hline h.2] at hshort ⊢
    obtain ⟨hseen, hsgr⟩ := spelling_read hback hline sgr
    rw [strlcat_of_length_lt hshort, textSeen_append, List.foldl_append, hread, hseen, hsgr,
      if_neg fun h => hline h.2]
    exact ⟨rfl, rfl⟩

/-- What is seen of the text is what the tokens mean. -/
theorem render_seen {sgr₀ : Sgr} (hread : r.written.foldl Sgr.read sgr₀ = sgr)
    (hb : sgr.blink = r.blinking) (h : r.written.length ≤ 1023)
    (hback : ∀ t ∈ ts, t.code ≠ geTextBackspace)
    (hshort : (render true r ts).written.length < 256) :
    textSeen sgr₀ (render true r ts).written = textSeen sgr₀ r.written ++ tokensSeen sgr ts := by
  induction ts generalizing r sgr with
  | nil =>
    have hswitch := switch_seen hread hb false (by exact hshort.trans (by decide))
    rw [tokensSeen, List.append_nil]
    exact hswitch.1
  | cons t ts ih =>
    have hmem := hback t List.mem_cons_self
    have hrest : ∀ u ∈ ts, u.code ≠ geTextBackspace :=
      fun u hu => hback u (List.mem_cons_of_mem t hu)
    have hgrown := grows_switch h t.blinks
    have hput := grows_put ts.isEmpty hgrown.2 hmem
    have hend : Grows (r.token true ts.isEmpty t).written (render true r (t :: ts)).written :=
      grows_render hput.2 hrest
    have hbound : (r.token true ts.isEmpty t).written.length < 1023 :=
      (hend.1.trans_lt hshort).trans (by decide)
    obtain ⟨hseen, hsgr⟩ := switch_seen hread hb t.blinks (hput.1.trans_lt hbound)
    obtain ⟨hcode, hafter⟩ := put_seen hsgr hmem hbound
    have htoken := ih hafter (switch_blink sgr t.blinks) hput.2 hrest hshort
    rw [hseen] at hcode
    have hlast : ts.isEmpty = true ↔ ts = [] := List.isEmpty_iff
    rw [tokensSeen, ← List.append_assoc, ← if_congr (and_congr_left' hlast) rfl rfl]
    exact htoken.trans (congrArg (· ++ _) hcode)

/-- Each bar of the text is a line end. -/
theorem count_bars (s : List UInt8) (sgr : Sgr) :
    (textSeen sgr s).count .newline = s.count 0x7C := by
  induction s generalizing sgr with
  | nil => rfl
  | cons c s ih =>
    rw [textSeen, List.count_append, ih, List.count_cons, charSeen, Nat.add_comm]
    congr 1
    by_cases hmark : c = blinkOn ∨ c = blinkOff
    · rw [if_pos hmark]
      rcases hmark with rfl | rfl <;> rfl
    · rw [if_neg hmark]
      by_cases hbar : c = 0x7C
      · rw [if_pos hbar, hbar]
        rfl
      · have hc : ¬ (c == 0x7C) = true := by simpa using hbar
        rw [if_neg hbar, if_neg hc]
        split <;> rfl

/-! What comes before the text. -/

theorem strstr_isSome (c : UInt8) (s : List UInt8) : (strstr [c] s).isSome = true ↔ c ∈ s := by
  induction s with
  | nil => simp [strstr]
  | cons d s ih =>
    rw [strstr, List.mem_cons, ← ih]
    by_cases h : c = d
    · simp [h, strhasprefix]
    · simp [h, strhasprefix]

theorem one_mem_sirenCadenceText (cadence : UInt32) :
    0x31 ∈ sirenCadenceText cadence ↔ cadence ≠ 0 := by
  constructor
  · rintro h rfl
    exact absurd h (by decide)
  · intro hne
    have hpos : cadence.toNat ≠ 0 := fun h => hne (UInt32.toNat_inj.mp h)
    obtain ⟨k, hk⟩ := Nat.exists_testBit_of_ne_zero hpos
    have hlt : k < 32 := by
      by_contra hge
      have hpow : 2 ^ 32 ≤ 2 ^ k := Nat.pow_le_pow_right two_pos (by omega)
      rw [Nat.testBit_lt_two_pow (cadence.toNat_lt.trans_le hpow)] at hk
      cases hk
    refine List.mem_map.mpr ⟨31 - k, List.mem_range.mpr (by omega), ?_⟩
    rw [show 31 - (31 - k) = k by omega, if_pos hk]

theorem sounding_iff (before : UInt8) (partition : ConcorddPartition) :
    (partition.touchpad before).sounding = partition.sgr.reverse := by
  have hone : cLiteral "1" = [0x31] := by decide
  unfold Touchpad.sounding ConcorddPartition.sgr
  rw [hone]
  apply decide_eq_decide.mpr
  apply and_congr_right
  intro _
  rw [strstr_isSome]
  exact one_mem_sirenCadenceText partition.sirenCadence

theorem levelColour_seen (armLevel : UInt8) : seen {} (levelColour armLevel.toUInt32 ++ out) =
    seen { colour := if armLevel = 2 then .yellow else if armLevel = 3 then .magenta else .default }
      out := by
  have htwo : armLevel.toUInt32 = 2 ↔ armLevel = 2 := by
    revert armLevel
    decide +kernel
  have hthree : armLevel.toUInt32 = 3 ↔ armLevel = 3 := by
    revert armLevel
    decide +kernel
  unfold levelColour
  simp only [htwo, hthree]
  split
  · rfl
  · split <;> rfl

/-- The attributes before the text. -/
theorem seen_draw (before : UInt8) (partition : ConcorddPartition) {s : List UInt8}
    (h : partition.touchpadAscii before = some s) :
    seen {} (touchpadDisplayDraw (partition.touchpad before)) =
      seen partition.sgr (drawText false s ++
        (List.replicate (3 - textLines s) .newline ++ [.sgrReset, .newline])) := by
  have htext : (partition.touchpad before).touchpadText.getD [] = s := by
    rw [ConcorddPartition.touchpad, h]
    rfl
  have hreverse : ∀ (colour : Colour) (b : Bool) (out : List AnsiOutput),
      seen { colour := colour } ((if b then [.sgrReverse] else []) ++ out) =
        seen { colour := colour, reverse := b } out := by
    intro colour b out
    cases b <;> rfl
  unfold touchpadDisplayDraw
  rw [htext, sounding_iff]
  simp only [List.append_assoc, List.cons_append, List.nil_append, seen]
  rw [show (partition.touchpad before).touchpadArmlevel = partition.armLevel.toUInt32 from rfl,
    levelColour_seen, hreverse]
  rfl

theorem seen_newlines (k : ℕ) (sgr : Sgr) : seen sgr (List.replicate k .newline ++ out) =
    List.replicate k .newline ++ seen sgr out := by
  induction k with
  | zero => rfl
  | succ k ih =>
    rw [List.replicate_succ, List.cons_append, seen, ih]
    rfl

/-- What is decoded is what the tokens stand for. -/
theorem decode_render (hlen : s.length ≤ 255) (before : UInt8) (hts : textTokens s = some ts)
    (hback : geTextBackspace ∉ s) (hfirst : ∀ c, s.head? = some c → ¬ IsNewline c) :
    ∃ r, geTextDecode true before s = .ok r ∧ r.ret = (render true ⟨[], false⟩ ts).written := by
  have hin : Rendering.InBounds true ⟨[], false⟩ ts := by
    cases ts with
    | nil => exact fun h => (nomatch h)
    | cons t ts =>
      have hcodes : ∀ u ∈ t :: ts, u.code ≠ geTextBackspace := fun u hu he =>
        hback (he ▸ textTokens_codes hts u hu)
      obtain ⟨hlooks, hne⟩ := written_of_first ts.isEmpty hts hback hfirst
      have htoken := grows_token (r := ⟨[], false⟩) ts.isEmpty (by decide)
        (hcodes t List.mem_cons_self)
      exact ⟨hlooks, inBounds_of_written hne htoken.2 fun u hu =>
        hcodes u (List.mem_cons_of_mem t hu)⟩
  obtain ⟨r, hr, -, -, hret⟩ := decode_spec true before hts (by omega)
  exact ⟨r, hr, hret hin⟩

/-- What is seen of the text in one line. -/
theorem oneLine_seen (hlen : s.length ≤ 255) (before : UInt8) (hts : textTokens s = some ts)
    (hback : geTextBackspace ∉ s) (hfirst : ∀ c, s.head? = some c → ¬ IsNewline c)
    (hshort : ∀ r, geTextDecode true before s = .ok r → r.ret.length < 256)
    (hsgr : sgr.blink = false) :
    ∃ r, geTextToAsciiOneLine before s = .ok r ∧ textSeen sgr r.ret = tokensSeen sgr ts := by
  have hcodes : ∀ t ∈ ts, t.code ≠ geTextBackspace := fun t ht he =>
    hback (he ▸ textTokens_codes hts t ht)
  obtain ⟨r, hr, hret⟩ := decode_render hlen before hts hback hfirst
  have htrim : r.trimmed.ret = trimRight r.ret := (trimmed_iff r).mpr (.inl (hshort r hr))
  refine ⟨r.trimmed, returned_of_decode hr, ?_⟩
  rw [htrim, textSeen_trimRight, hret]
  exact render_seen (r := ⟨[], false⟩) rfl hsgr (by decide) hcodes (hret ▸ hshort r hr)

/-- What is drawn of a partition whose text has a short spelling. -/
theorem partition_draws (before : UInt8) (partition : ConcorddPartition)
    (hlen : partition.encodedTouchpadTextLen.toNat ≤ 32)
    (hts : textTokens partition.touchpadBytes = some ts)
    (hback : geTextBackspace ∉ partition.touchpadBytes)
    (hfirst : ∀ c, partition.touchpadBytes.head? = some c → ¬ IsNewline c)
    (hshort : ∀ r, geTextDecode true before partition.touchpadBytes = .ok r → r.ret.length < 256) :
    seen {} (touchpadDisplayDraw (partition.touchpad before)) =
      let shown := tokensSeen partition.sgr ts
      shown ++ List.replicate (max 1 (3 - shown.count .newline)) .newline := by
  have hbytes : partition.touchpadBytes.length ≤ 255 := by
    rw [ConcorddPartition.touchpadBytes, List.length_take]
    omega
  obtain ⟨r, hr, hseen⟩ := oneLine_seen hbytes before hts hback hfirst hshort
    (show partition.sgr.blink = false from rfl)
  have htext : partition.touchpadAscii before = some r.ret := by
    unfold ConcorddPartition.touchpadBytes at hr
    rw [ConcorddPartition.touchpadAscii, if_pos hlen, hr]
    rfl
  have hlines : textLines r.ret = 1 + (tokensSeen partition.sgr ts).count .newline := by
    rw [textLines, ← count_bars r.ret partition.sgr, hseen]
  have hmax : ∀ k : ℕ, max 1 (3 - k) = 3 - (1 + k) + 1 := by omega
  rw [seen_draw before partition htext, seen_drawText, hseen, seen_newlines, hlines]
  dsimp only
  rw [hmax, List.replicate_succ']
  rfl

theorem length_of_fits {before : UInt8} {partition : ConcorddPartition}
    (h : FitsTouchpad before partition) : partition.encodedTouchpadTextLen.toNat ≤ 32 := by
  obtain ⟨str, htext, -⟩ := h
  by_contra hlen
  rw [ConcorddPartition.touchpadAscii, if_neg hlen] at htext
  cases htext

/-- After a run as `emulator_shows_iff` has them, in which nothing is lost on the emulator: if the
daemon's text has no backspaces, does not begin with a newline, has a byte to blink after each blink
token and is spelled in less than 200 characters, then the keypad shows the words in their order,
each blinking where the panel says so, and at least three lines. A word has the colour of the arming
level, and is reverse while the siren sounds, until the first blinking is over. -/
theorem keypad_draws (before : UInt8) (p : Fin 8) (s : Daemon) (steps : List DaemonStep)
    (hpartition : s.inst.callbacks.partitionInfoChangedFunc = true)
    (hzone : s.inst.callbacks.zoneInfoChangedFunc = true)
    (hfits : FitsTouchpad before (s.inst.partition p))
    (hzones : ∀ z, z ≠ 0 → (s.inst.zone z).active = true ∨ s.inst.zoneBits z = 0)
    (hk : daemonMachine.Along KeepsFuncs s steps)
    (hfit : daemonMachine.Along FramesFit s steps)
    (hkeeps : daemonMachine.Along (KeepsEmulator before p) s steps)
    (partition : ConcorddPartition)
    (hrun : (daemonMachine.run s steps).inst.partition p = partition)
    (hts : textTokens partition.touchpadBytes = some ts)
    (hback : geTextBackspace ∉ partition.touchpadBytes)
    (hfirst : ∀ c, partition.touchpadBytes.head? = some c → ¬ IsNewline c)
    (hshort : ∀ r, geTextDecode true before partition.touchpadBytes = .ok r → r.ret.length < 200) :
    ∃ emulator ∈ ((emulatorMachine before p).run (s, emulatorInit before p s) steps).2,
      seen {} (touchpadDisplayDraw emulator.touchpad) =
        let shown := tokensSeen partition.sgr ts
        shown ++ List.replicate (max 1 (3 - shown.count .newline)) .newline := by
  have hinv := emulatorInv_run (emulatorInv_init hpartition hzone hfits hzones) hk hfit hkeeps
  have hdaemon : ((emulatorMachine before p).run (s, emulatorInit before p s) steps).1 =
      daemonMachine.run s steps := emulator_run before p
  obtain ⟨emulator, hemulator, hfollows⟩ := hinv.follows
  have hlast := hinv.fits
  have htouchpad := hfollows.touchpad
  rw [hdaemon, hrun] at hlast htouchpad
  refine ⟨emulator, hemulator, ?_⟩
  rw [htouchpad]
  exact partition_draws before partition (length_of_fits hlast) hts hback hfirst
    fun r hr => (hshort r hr).trans (by decide)

/-- `TOUCHPAD_DISPLAY` for partition 1: `"ALARM"`, and on the next line a blinking `"ALARM"` and
`"OFF"`. -/
def alarmTextFrame : Buffer := fun k =>
  if k = 0 then 0x22 else if k = 1 then 0x09 else if k = 2 then 1 else if k = 4 then 1
  else if k = 5 then 0x33 else if k = 6 then 0xF9 else if k = 7 then 0xFE else if k = 8 then 0x33
  else if k = 9 then 0x97 else 0

/-- The partition is armed at level 2 and sends its text. -/
def alarmSteps : List DaemonStep := [.frame levelFrame 7, .frame alarmTextFrame 10]

theorem keypad_draws_alarm :
    ∃ emulator ∈ ((emulatorMachine 0 1).run (watchedKeypad, emulatorInit 0 1 watchedKeypad)
        alarmSteps).2,
      seen {} (touchpadDisplayDraw emulator.touchpad) =
        let shown := tokensSeen { colour := .yellow }
          [⟨false, 0x33⟩, ⟨false, 0xF9⟩, ⟨true, 0x33⟩, ⟨false, 0x97⟩]
        shown ++ List.replicate (max 1 (3 - shown.count .newline)) .newline := by
  have hbytes : ((daemonMachine.run watchedKeypad alarmSteps).inst.partition 1).touchpadBytes =
      [0x33, 0xF9, 0xFE, 0x33, 0x97] := by decide +kernel
  have htext : textOf (geTextDecode true 0 [0x33, 0xF9, 0xFE, 0x33, 0x97]) =
      some (text "ALARM | <ALARM> OFF ") := by decide +kernel
  have hbits : ∀ z, watchedKeypad.inst.zoneBits z = 0 := fun z => UInt8.zero_and
  have hcolour : ((daemonMachine.run watchedKeypad alarmSteps).inst.partition 1).sgr =
      { colour := .yellow } := by decide +kernel
  rw [← hcolour]
  refine keypad_draws 0 1 watchedKeypad alarmSteps rfl rfl (by decide +kernel)
    (fun z _ => .inr (hbits z)) ⟨⟨trivial, trivial⟩, ⟨trivial, trivial⟩, trivial⟩
    (by decide +kernel) (by decide +kernel) _ rfl ?_ ?_ ?_ ?_
  · rw [hbytes]
    rfl
  · rw [hbytes]
    decide
  · intro c hc
    rw [hbytes] at hc
    obtain rfl := Option.some.inj hc
    decide
  · intro r hr
    rw [hbytes] at hr
    rw [hr] at htext
    rw [show r.ret = _ from Option.some.inj htext]
    decide +kernel

end Concordd
