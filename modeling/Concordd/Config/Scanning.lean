import Concordd.Config.NextArg

/-! What one call of `get_next_arg` reads, writes and returns. -/
namespace Concordd

variable {mem text post value : List UInt8} {buf p : ℕ} {c d : UInt8} {s t u : ArgScan}

/-! ### What the loop writes and what it leaves alone -/

/-- From `s` to `t`, the loop has written `value` and nothing it had still to read. -/
structure ArgScan.Writes (s t : ArgScan) (value : List UInt8) : Prop where
  written : t.mem.take t.writeIter = s.mem.take s.writeIter ++ value
  iter : t.writeIter = s.writeIter + value.length
  unread : t.mem.drop t.buf = s.mem.drop t.buf
  le : s.buf ≤ t.buf

theorem ArgScan.Writes.trans {value' : List UInt8} (h : s.Writes t value)
    (h' : t.Writes u value') : s.Writes u (value ++ value') where
  written := by rw [h'.written, h.written, List.append_assoc]
  iter := by
    have h1 := h.iter
    have h2 := h'.iter
    rw [List.length_append]
    omega
  unread := h'.unread.trans (drop_eq_of_le h.unread h'.le)
  le := h.le.trans h'.le

theorem ArgScan.Writes.skip (buf : ℕ) (quoteType : UInt8) (h : s.buf ≤ buf) :
    s.Writes { s with buf := buf, quoteType := quoteType } [] where
  written := (List.append_nil _).symm
  iter := rfl
  unread := rfl
  le := h

theorem ArgScan.writes_set {q : ℕ} (c : UInt8) (hle : s.writeIter ≤ s.buf)
    (hlt : s.buf < s.mem.length) (hq : s.buf < q) :
    s.Writes { s with
      mem := s.mem.set s.writeIter c, buf := q, writeIter := s.writeIter + 1 } [c] where
  written := take_set_succ (by omega)
  iter := rfl
  unread := List.drop_set_of_lt (by show s.writeIter < q; omega)
  le := hq.le

/-- Where reading is: `text` is left before the end of the string, and writing is behind. -/
structure ArgScan.Reads (s : ArgScan) (quote : Option UInt8) (text post : List UInt8) :
    Prop where
  unread : s.mem.drop s.buf = text ++ 0 :: post
  nul : 0 ∉ text
  le : s.writeIter ≤ s.buf
  quoteType : s.quoteType = quote.getD 0
  isQuote : ∀ q ∈ quote, quoting.quote q = true

/-- The loop has written a word, and stopped with the cell for its terminator read. -/
structure ArgScan.Ends (s t : ArgScan) (post : List UInt8) (word : List UInt8 × List UInt8) :
    Prop where
  writes : s.Writes t word.1
  left : t.mem.drop t.buf = word.2 ++ 0 :: post
  le : t.writeIter ≤ t.buf
  lt : word.2 ≠ [] → t.writeIter < t.buf

theorem ArgScan.Writes.ends {word : List UInt8 × List UInt8} (h : s.Writes t value)
    (h' : t.Ends u post word) : s.Ends u post (value ++ word.1, word.2) :=
  ⟨h.trans h'.writes, h'.left, h'.le, h'.lt⟩

section
variable {quote : Option UInt8}

theorem ArgScan.Reads.charAt (h : s.Reads quote (c :: text) post) :
    charAt s.mem s.buf = c ∧ c ≠ 0 :=
  ⟨charAt_of_drop h.unread, fun h0 => h.nul (h0 ▸ .head _)⟩

theorem ArgScan.Reads.lt_length (h : s.Reads quote (c :: text) post) : s.buf < s.mem.length :=
  lt_length_of_drop h.unread

/-- One step further in the text. -/
theorem ArgScan.Reads.skip (h : s.Reads quote (c :: text) post) (quote' : Option UInt8)
    (hquote : ∀ q ∈ quote', quoting.quote q = true) :
    ArgScan.Reads { s with quoteType := quote'.getD 0, buf := s.buf + 1 } quote' text post where
  unread := drop_succ h.unread
  nul hc := h.nul (.tail _ hc)
  le := by
    have := h.le
    show s.writeIter ≤ s.buf + 1
    omega
  quoteType := rfl
  isQuote := hquote

/-- A character that stands for itself is copied. -/
theorem ArgScan.Reads.copy_plain (h : s.Reads quote (c :: text) post)
    (hc : c = 0x5C → text = []) : s.Writes s.copy [c] ∧ s.copy.Reads quote text post := by
  have hcopy : s.copy = { s with
      mem := s.mem.set s.writeIter c, buf := s.buf + 1, writeIter := s.writeIter + 1 } := by
    have hif : ¬ (Concordd.charAt s.mem s.buf = 0x5C ∧ Concordd.charAt s.mem (s.buf + 1) ≠ 0) := by
      rintro ⟨he, hnext⟩
      rw [h.charAt.1] at he
      obtain rfl := hc he
      exact hnext (charAt_of_drop (drop_succ h.unread))
    rw [ArgScan.copy, if_neg hif, h.charAt.1]
  rw [hcopy]
  have hle := h.le
  refine ⟨ArgScan.writes_set c h.le h.lt_length (Nat.lt_succ_self _), ?_,
    fun hc => h.nul (.tail _ hc), Nat.succ_le_succ hle, h.quoteType, h.isQuote⟩
  show (s.mem.set s.writeIter c).drop (s.buf + 1) = _
  rw [List.drop_set_of_lt (by omega)]
  exact drop_succ h.unread

/-- The character behind an escape is copied. -/
theorem ArgScan.Reads.copy_escaped (h : s.Reads quote (0x5C :: d :: text) post) :
    s.Writes s.copy [d] ∧ s.copy.Reads quote text post := by
  have hd : Concordd.charAt s.mem (s.buf + 1) = d := charAt_of_drop (drop_succ h.unread)
  have hcopy : s.copy = { s with
      mem := s.mem.set s.writeIter d, buf := s.buf + 2, writeIter := s.writeIter + 1 } := by
    have hd0 : d ≠ 0 := fun h0 => h.nul (h0 ▸ .tail _ (.head _))
    rw [ArgScan.copy, if_pos ⟨h.charAt.1, by rw [hd]; exact hd0⟩, hd]
  rw [hcopy]
  have hle := h.le
  refine ⟨ArgScan.writes_set d h.le h.lt_length (by omega), ?_,
    fun hc => h.nul (.tail _ (.tail _ hc)), by show _ + 1 ≤ _ + 2; omega, h.quoteType, h.isQuote⟩
  show (s.mem.set s.writeIter d).drop (s.buf + 2) = _
  rw [List.drop_set_of_lt (by omega)]
  exact drop_succ (drop_succ h.unread)

/-- At the end of the string there is nothing to read. -/
theorem ArgScan.Reads.ends (h : s.Reads quote [] post) : s.Ends s post ([], []) :=
  ⟨.skip s.buf s.quoteType le_rfl, h.unread, h.le, fun h => absurd rfl h⟩

/-- A character that means nothing by itself: one character is copied, and scanned. -/
theorem ArgScan.Reads.copy (h : s.Reads quote (c :: text) post) (hc : quoting.Copied quote c) :
    ∃ d text', s.Writes s.copy [d] ∧ s.copy.Reads quote text' post ∧
      text'.length ≤ text.length ∧
      Words.scan quoting quote (c :: text) =
        (d :: (Words.scan quoting quote text').1, (Words.scan quoting quote text').2) := by
  rw [Words.scan_copied hc]
  split
  case isFalse he =>
    obtain ⟨hw, hr⟩ := h.copy_plain fun h' => absurd h' he
    exact ⟨c, text, hw, hr, le_rfl, rfl⟩
  case isTrue he =>
    cases text with
    | nil =>
      obtain ⟨hw, hr⟩ := h.copy_plain fun _ => rfl
      exact ⟨c, [], hw, hr, le_rfl, rfl⟩
    | cons d ds =>
      subst he
      obtain ⟨hw, hr⟩ := h.copy_escaped
      exact ⟨d, ds, hw, hr, Nat.le_succ _, rfl⟩

/-- The loop scans a word. -/
theorem argLoop_scan (fuel : ℕ) (h : s.Reads quote text post) (hfuel : text.length ≤ fuel) :
    s.Ends (argLoop fuel s) post (Words.scan quoting quote text) := by
  induction fuel generalizing s quote text with
  | zero =>
    obtain rfl := List.length_eq_zero_iff.mp (Nat.le_zero.mp hfuel)
    exact h.ends
  | succ fuel ih =>
    cases text with
    | nil =>
      rw [argLoop, if_pos (charAt_of_drop h.unread)]
      exact h.ends
    | cons c cs =>
      have hcs : cs.length ≤ fuel := Nat.le_of_succ_le_succ hfuel
      have hcopied (hc : quoting.Copied quote c) :
          s.Ends (argLoop fuel s.copy) post (Words.scan quoting quote (c :: cs)) := by
        obtain ⟨d, text', hw, hr, hlen, hscan⟩ := h.copy hc
        rw [hscan]
        exact hw.ends (ih hr (hlen.trans hcs))
      rw [argLoop, h.charAt.1, if_neg h.charAt.2, h.quoteType]
      cases quote with
      | none =>
        rw [Option.getD_none, if_neg (not_not.mpr rfl)]
        split_ifs with hquote hspace
        · have hc : quoting.quote c = true := decide_eq_true hquote
          rw [Words.scan_opening hc]
          exact (ArgScan.Writes.skip (s.buf + 1) c (Nat.le_succ _)).ends
            (ih (h.skip (some c) (by simpa using hc)) hcs)
        · rw [Words.scan_space hspace]
          exact ⟨.skip (s.buf + 1) 0 (Nat.le_succ _), drop_succ h.unread,
            Nat.le_succ_of_le h.le, fun _ => Nat.lt_succ_of_le h.le⟩
        · exact hcopied ⟨eq_false_of_ne_true hspace, decide_eq_false hquote⟩
      | some q =>
        have hq : q ≠ 0 := by
          rintro rfl
          exact absurd (h.isQuote 0 rfl) (by decide)
        rw [Option.getD_some, if_pos hq]
        split_ifs with hc
        · subst hc
          rw [Words.scan_closing]
          exact (ArgScan.Writes.skip (s.buf + 1) 0 (Nat.le_succ _)).ends
            (ih (h.skip none (by simp)) hcs)
        · exact hcopied hc

end

/-! ### One call -/

theorem skipWhile_stays {f : UInt8 → Bool} (fuel : ℕ) (h : f (charAt mem buf) = false) :
    skipWhile f mem fuel buf = buf := by
  cases fuel with
  | zero => rfl
  | succ fuel => rw [skipWhile, h, if_neg Bool.false_ne_true]

theorem skipWhile_dropWhile {f : UInt8 → Bool} (fuel : ℕ) (hf : f 0 = false)
    (h : mem.drop buf = text ++ 0 :: post) (hfuel : text.length ≤ fuel) :
    mem.drop (skipWhile f mem fuel buf) = text.dropWhile f ++ 0 :: post ∧
      buf ≤ skipWhile f mem fuel buf := by
  induction fuel generalizing buf text with
  | zero =>
    obtain rfl := List.length_eq_zero_iff.mp (Nat.le_zero.mp hfuel)
    exact ⟨h, le_rfl⟩
  | succ fuel ih =>
    cases text with
    | nil =>
      rw [skipWhile_stays _ (by rw [charAt_of_drop h, hf])]
      exact ⟨h, le_rfl⟩
    | cons c cs =>
      rw [skipWhile, charAt_of_drop h]
      split
      case isTrue hc =>
        obtain ⟨h1, h2⟩ := ih (drop_succ h) (Nat.le_of_succ_le_succ hfuel)
        rw [List.dropWhile_cons_of_pos hc]
        exact ⟨h1, (Nat.le_succ buf).trans h2⟩
      case isFalse hc =>
        rw [List.dropWhile_cons_of_neg hc]
        exact ⟨h, le_rfl⟩

/-- The end of the string is no white space anyway. -/
theorem ne_zero_and_isSpace : (fun c : UInt8 => c ≠ 0 && isSpace c) = isSpace := by
  funext c
  by_cases hc : c = 0
  · subst hc
    rfl
  · simp [hc]

/-- Where the first loop of a call stops. -/
def argStart (mem : List UInt8) (buf : ℕ) : ℕ := skipWhile isSpace mem mem.length buf

theorem getNextArg_eq (mem : List UInt8) (buf : ℕ) :
    getNextArg mem buf =
      if charAt mem (argStart mem buf) = 0 ∨ charAt mem (argStart mem buf) = 0x23 then
        ⟨mem, none, argStart mem buf⟩
      else
        let s := argLoop mem.length ⟨mem, argStart mem (argStart mem buf), argStart mem buf, 0⟩
        ⟨s.mem.set s.writeIter 0, some (argStart mem buf), s.buf⟩ := by
  rw [getNextArg, ne_zero_and_isSpace]
  rfl

/-- The string at `buf`, and what is behind its terminator. -/
structure TextAt (mem : List UInt8) (buf : ℕ) (text post : List UInt8) : Prop where
  drop : mem.drop buf = text ++ 0 :: post
  nul : 0 ∉ text

theorem TextAt.length_le (h : TextAt mem buf text post) : text.length ≤ mem.length := by
  have hlen := congrArg List.length h.drop
  rw [List.length_drop, List.length_append] at hlen
  omega

theorem TextAt.start (h : TextAt mem buf text post) :
    TextAt mem (argStart mem buf) (text.dropWhile isSpace) post ∧ buf ≤ argStart mem buf := by
  obtain ⟨h1, h2⟩ := skipWhile_dropWhile mem.length (f := isSpace) rfl h.drop h.length_le
  exact ⟨⟨h1, fun hc => h.nul ((List.dropWhile_suffix _).mem hc)⟩, h2⟩

/-- A call writes neither before the pointer it starts from nor what it has not read. -/
structure NextArg.Frame (r : NextArg) (mem : List UInt8) (buf : ℕ) : Prop where
  unread : r.mem.drop r.rest = mem.drop r.rest
  before : r.mem.take buf = mem.take buf
  le : buf ≤ r.rest

/-- What a call leaves behind that finds no word: nothing to find for the next one either. -/
structure NextArg.Stops (r : NextArg) (mem : List UInt8) (buf : ℕ) (post : List UInt8) : Prop
    extends r.Frame mem buf where
  ret : r.ret = none
  same : r.mem = mem
  left : ∃ text, TextAt r.mem r.rest text post ∧ Words.next quoting text = none

/-- What a call leaves behind that finds a word. -/
structure NextArg.Returns (r : NextArg) (mem : List UInt8) (buf p : ℕ)
    (value text post : List UInt8) : Prop extends r.Frame mem buf where
  ret : r.ret = some p
  string : HoldsString r.mem p value
  left : TextAt r.mem r.rest text post
  lt : text ≠ [] → p + value.length < r.rest

theorem getNextArg_none (h : TextAt mem buf text post)
    (hnext : Words.next quoting text = none) : (getNextArg mem buf).Stops mem buf post := by
  obtain ⟨hstart, hle⟩ := h.start
  have hstop : charAt mem (argStart mem buf) = 0 ∨ charAt mem (argStart mem buf) = 0x23 := by
    rcases Words.next_eq_none hnext with hd | ⟨cs, hd⟩
    · exact .inl (charAt_of_drop (hd ▸ hstart.drop))
    · exact .inr (charAt_of_drop (hd ▸ hstart.drop))
  rw [getNextArg_eq, if_pos hstop]
  exact ⟨⟨rfl, rfl, hle⟩, rfl, rfl, _, hstart, (Words.next_dropWhile text).trans hnext⟩

/-- The terminator goes where the loop stopped writing, over a character already read or over the
terminator of the text. -/
theorem ArgScan.Ends.drop_set {word : List UInt8 × List UInt8} (h : s.Ends t post word) :
    (t.mem.set t.writeIter 0).drop t.buf = t.mem.drop t.buf := by
  rcases h.le.lt_or_eq with hlt | heq
  · exact List.drop_set_of_lt hlt
  · have hnil : word.2 = [] := by
      by_contra hne
      have := h.lt hne
      omega
    rw [List.drop_set, if_neg (by omega), h.left, hnil, heq, Nat.sub_self]
    rfl

theorem ArgScan.Ends.lt_length {word : List UInt8 × List UInt8} (h : s.Ends t post word) :
    t.writeIter < t.mem.length := by
  have hcell : t.buf < t.mem.length := by
    by_contra hout
    have hnil := List.drop_eq_nil_of_le (not_lt.mp hout)
    rw [h.left] at hnil
    exact absurd hnil (by simp)
  exact h.le.trans_lt hcell

theorem ArgScan.Writes.length_take (h : s.Writes t value) (hlt : t.writeIter ≤ t.mem.length) :
    (s.mem.take s.writeIter).length = s.writeIter := by
  have hcount := congrArg List.length h.written
  have hiter := h.iter
  rw [List.length_take, min_eq_left hlt, List.length_append] at hcount
  omega

theorem ArgScan.Ends.terminated {left : List UInt8} (h : s.Ends t post (value, left))
    (hnul : 0 ∉ left) (hle : s.writeIter ≤ s.buf) (hbuf : buf ≤ s.writeIter) :
    NextArg.Returns ⟨t.mem.set t.writeIter 0, some s.writeIter, t.buf⟩ s.mem buf s.writeIter
      value left post := by
  have hiter : t.writeIter = s.writeIter + value.length := h.writes.iter
  have hwritten : t.mem.take t.writeIter = s.mem.take s.writeIter ++ value := h.writes.written
  have hlen : (s.mem.take s.writeIter).length = s.writeIter := h.writes.length_take h.lt_length.le
  refine ⟨⟨?unread, ?before, ?le⟩, rfl, ?string, ⟨?left, hnul⟩, ?lt⟩
  case string =>
    have hend : s.writeIter + (value.length + 1) = t.writeIter + 1 := by omega
    rw [HoldsString, List.take_drop, hend, take_set_succ h.lt_length, hwritten, List.append_assoc]
    exact List.drop_left' hlen
  case left => rw [h.drop_set, h.left]
  case unread => exact h.drop_set.trans h.writes.unread
  case before =>
    have hcut := congrArg (List.take buf) hwritten
    rw [List.take_take, min_eq_left (by omega), List.take_append_of_le_length (by omega),
      List.take_take, min_eq_left hbuf] at hcut
    exact (List.take_set_of_le (by omega)).trans hcut
  case le => exact (hbuf.trans hle).trans h.writes.le
  case lt =>
    intro hne
    have := h.lt hne
    show s.writeIter + value.length < t.buf
    omega

/-- A call returns the word the text begins with. -/
theorem getNextArg_some {left : List UInt8} (h : TextAt mem buf text post)
    (hnext : Words.next quoting text = some (value, left)) :
    ∃ p, (getNextArg mem buf).Returns mem buf p value left post := by
  obtain ⟨hstart, hle⟩ := h.start
  obtain ⟨c, cs, hd, hspace, hc, hscan⟩ := Words.next_eq_some hnext
  rw [show text.dropWhile isSpace = c :: cs from hd] at hstart
  have hread : charAt mem (argStart mem buf) = c := charAt_of_drop hstart.drop
  have hc0 : c ≠ 0 := fun h0 => hstart.nul (h0 ▸ .head _)
  have hstay : argStart mem (argStart mem buf) = argStart mem buf :=
    skipWhile_stays mem.length (by rw [hread]; exact hspace)
  have hreads : ArgScan.Reads ⟨mem, argStart mem buf, argStart mem buf, 0⟩ none (c :: cs) post :=
    ⟨hstart.drop, hstart.nul, le_rfl, rfl, by simp⟩
  have hends := argLoop_scan mem.length hreads hstart.length_le
  rw [hscan] at hends
  rw [getNextArg_eq, if_neg (by rw [hread]; exact not_or.mpr ⟨hc0, hc⟩), hstay]
  exact ⟨_, hends.terminated (fun h0 => h.nul ((Words.next_mem hnext).2 0 h0)) le_rfl hle⟩

theorem getNextArg_frame (h : TextAt mem buf text post) :
    (getNextArg mem buf).Frame mem buf ∧
      ∃ left, TextAt (getNextArg mem buf).mem (getNextArg mem buf).rest left post := by
  cases hnext : Words.next quoting text with
  | none =>
    have hstops := getNextArg_none h hnext
    obtain ⟨left, hleft, -⟩ := hstops.left
    exact ⟨hstops.toFrame, left, hleft⟩
  | some word =>
    obtain ⟨p, hreturns⟩ := getNextArg_some h hnext
    exact ⟨hreturns.toFrame, word.2, hreturns.left⟩

end Concordd
