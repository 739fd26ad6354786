import Concordd.Config.Scanning

/-! Calling `get_next_arg` until the string is used up returns what was quoted in it. -/
namespace Concordd

open Words

/-- The calls `get_next_arg(buf, &buf)` on one buffer. -/
def argCall (mem : List UInt8) (buf : ℕ) : ℕ → NextArg
  | 0 => getNextArg mem buf
  | n + 1 => getNextArg (argCall mem buf n).mem (argCall mem buf n).rest

variable {mem text post : List UInt8} {values : List (List UInt8)} {buf p : ℕ}

theorem argCall_succ (mem : List UInt8) (buf n : ℕ) :
    argCall mem buf (n + 1) =
      argCall (getNextArg mem buf).mem (getNextArg mem buf).rest n := by
  induction n with
  | zero => rfl
  | succ n ih => rw [argCall, ih, argCall]

/-- Over all the calls, too, nothing is overwritten before it is read. -/
theorem argCall_frame (h : TextAt mem buf text post) (n : ℕ) :
    (argCall mem buf n).Frame mem buf := by
  induction n generalizing mem buf text with
  | zero => exact (getNextArg_frame h).1
  | succ n ih =>
    obtain ⟨hframe, left, hleft⟩ := getNextArg_frame h
    rw [argCall_succ]
    have hlater := ih hleft
    have hbefore := congrArg (List.take buf) hlater.before
    rw [List.take_take, List.take_take, min_eq_left hframe.le] at hbefore
    exact ⟨hlater.unread.trans (drop_eq_of_le hframe.unread hlater.le),
      hbefore.trans hframe.before, hframe.le.trans hlater.le⟩

/-- Once no word is left, no call changes anything. -/
theorem argCall_none (h : TextAt mem buf text post) (hnext : next quoting text = none) (n : ℕ) :
    (argCall mem buf n).mem = mem ∧ (argCall mem buf n).ret = none := by
  induction n generalizing mem buf text with
  | zero =>
    have hstops := getNextArg_none h hnext
    exact ⟨hstops.same, hstops.ret⟩
  | succ n ih =>
    have hstops := getNextArg_none h hnext
    obtain ⟨left, hleft, hnone⟩ := hstops.left
    obtain ⟨hmem, hret⟩ := ih hleft hnone
    rw [argCall_succ]
    exact ⟨hmem.trans hstops.same, hret⟩

/-- A returned string outlives all the later calls. -/
theorem NextArg.Returns.string_later {r : NextArg} {value left : List UInt8}
    (h : r.Returns mem buf p value left post) (n : ℕ) :
    HoldsString (argCall r.mem r.rest n).mem p value := by
  by_cases hleft : left = []
  · have hnone : next quoting left = none := by
      subst hleft
      rfl
    rw [(argCall_none h.left hnone n).1]
    exact h.string
  · exact h.string.of_take (h.lt hleft) (argCall_frame h.left n).before

/-- A line of words without a zero, as it stands in the buffer. -/
structure LineAt (mem : List UInt8) (buf : ℕ) (values : List (List UInt8))
    (text post : List UInt8) : Prop where
  drop : mem.drop buf = text ++ 0 :: post
  line : Line quoting text values
  nul : ∀ value ∈ values, 0 ∉ value

theorem LineAt.textAt (h : LineAt mem buf values text post) : TextAt mem buf text post where
  drop := h.drop
  nul h0 := by
    obtain ⟨value, hv, h0⟩ := h.line.mem h0 rfl rfl (by decide)
    exact h.nul value hv h0

/-- Every list of strings without a zero can be quoted. -/
theorem exists_lineAt (hnul : ∀ value ∈ values, 0 ∉ value) :
    ∃ text, LineAt (text ++ [0]) 0 values text [] := by
  obtain ⟨text, hline⟩ := exists_line (L := quoting) (q := 0x27) (c := 0x20) rfl (by decide) rfl
    values
  exact ⟨text, rfl, hline, hnul⟩

/-- One call reads the first word and leaves a line of the others. -/
theorem LineAt.step {value : List UInt8} (h : LineAt mem buf (value :: values) text post) :
    ∃ p left, (getNextArg mem buf).Returns mem buf p value left post ∧
      LineAt (getNextArg mem buf).mem (getNextArg mem buf).rest values left post := by
  obtain ⟨left, hnext, hline⟩ := h.line.next_eq_some
  obtain ⟨p, hreturns⟩ := getNextArg_some h.textAt hnext
  exact ⟨p, left, hreturns, hreturns.left.drop, hline, fun v hv => h.nul v (.tail _ hv)⟩

theorem argCall_values (h : LineAt mem buf values text post) {i : ℕ} {value : List UInt8}
    (hvalue : values[i]? = some value) :
    ∃ p, (argCall mem buf i).ret = some p ∧
      ∀ j, i ≤ j → stringAt (argCall mem buf j).mem p = value := by
  induction values generalizing mem buf text i with
  | nil => cases hvalue
  | cons v values ih =>
    obtain ⟨p, left, hreturns, hrest⟩ := h.step
    cases i with
    | zero =>
      obtain rfl : v = value := Option.some.inj hvalue
      have hnul : 0 ∉ v := h.nul v (.head _)
      refine ⟨p, hreturns.ret, fun j _ => ?_⟩
      cases j with
      | zero => exact hreturns.string.stringAt_eq hnul
      | succ j =>
        rw [argCall_succ]
        exact (hreturns.string_later j).stringAt_eq hnul
    | succ i =>
      obtain ⟨q, hret, hstays⟩ := ih hrest hvalue
      rw [argCall_succ]
      refine ⟨q, hret, fun j hij => ?_⟩
      cases j with
      | zero => omega
      | succ j =>
        rw [argCall_succ]
        exact hstays j (Nat.le_of_succ_le_succ hij)

theorem argCall_end (h : LineAt mem buf values text post) {i : ℕ} (hi : values.length ≤ i) :
    (argCall mem buf i).ret = none := by
  induction values generalizing mem buf text i with
  | nil => exact (argCall_none h.textAt h.line.next_eq_none i).2
  | cons v values ih =>
    obtain ⟨p, left, -, hrest⟩ := h.step
    cases i with
    | zero => simp at hi
    | succ i =>
      rw [argCall_succ]
      exact ih hrest (Nat.le_of_succ_le_succ hi)

/-- However a list of strings is quoted, the calls return its strings in order and then no more,
and none of them overwrites what is still to be read. -/
theorem arguments_read_back (h : LineAt mem buf values text post) :
    (∀ i value, values[i]? = some value → ∃ p, (argCall mem buf i).ret = some p ∧
      ∀ j, i ≤ j → stringAt (argCall mem buf j).mem p = value) ∧
    (∀ i, values.length ≤ i → (argCall mem buf i).ret = none) ∧
    ∀ i, (argCall mem buf i).mem.drop (argCall mem buf i).rest =
      mem.drop (argCall mem buf i).rest :=
  ⟨fun _ _ => argCall_values h, fun _ => argCall_end h,
    fun i => (argCall_frame h.textAt i).unread⟩

/-- The words of `a\ b '' "#"`. -/
theorem quoted_line :
    LineAt [0x61, 0x5C, 0x20, 0x62, 0x20, 0x27, 0x27, 0x20, 0x22, 0x23, 0x22, 0] 0
      [[0x61, 0x20, 0x62], [], [0x23]]
      [0x61, 0x5C, 0x20, 0x62, 0x20, 0x27, 0x27, 0x20, 0x22, 0x23, 0x22] [] := by
  have hescaped : Word quoting [0x61, 0x5C, 0x20, 0x62] [0x61, 0x20, 0x62] :=
    ⟨.plain 0x61 ⟨rfl, rfl⟩ (by decide)
      (.escaped 0x20 (.plain 0x62 ⟨rfl, rfl⟩ (by decide) .done)), nofun, by decide⟩
  have hempty : Word quoting [0x27, 0x27] [] :=
    ⟨.opening 0x27 rfl (.closing .done), nofun, by decide⟩
  have hcomment : Word quoting [0x22, 0x23, 0x22] [0x23] :=
    ⟨.opening 0x22 rfl (.plain 0x23 (show (0x23 : UInt8) ≠ 0x22 by decide) (by decide)
      (.closing .done)), nofun, by decide⟩
  have hspace : Gap quoting [0x20] := by
    intro c hc
    obtain rfl := List.mem_singleton.mp hc
    rfl
  have hnone : Gap quoting [] := nofun
  have hend : SetOff quoting [] := nofun
  have hset (text : List UInt8) : SetOff quoting (0x20 :: text) := by
    intro c hc
    obtain rfl := Option.some.inj hc
    rfl
  exact
    { drop := rfl
      line := .word hnone hescaped (hset _)
        (.word hspace hempty (hset _) (.word hspace hcomment hend (.blank hnone)))
      nul := by decide }

theorem arguments_read_back_quoted :
    LineAt [0x61, 0x5C, 0x20, 0x62, 0x20, 0x27, 0x27, 0x20, 0x22, 0x23, 0x22, 0] 0
      [[0x61, 0x20, 0x62], [], [0x23]]
      [0x61, 0x5C, 0x20, 0x62, 0x20, 0x27, 0x27, 0x20, 0x22, 0x23, 0x22] [] ∧
    (argCall [0x61, 0x5C, 0x20, 0x62, 0x20, 0x27, 0x27, 0x20, 0x22, 0x23, 0x22, 0] 0 3).ret =
      none :=
  ⟨quoted_line, (arguments_read_back quoted_line).2.1 3 le_rfl⟩

end Concordd
