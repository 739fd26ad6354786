import Mathlib

/-! Words of a text, written with quotes and escapes as in shells and configuration files. -/
namespace Words

/-- The characters that mean something to a reader of words. -/
structure Quoting (α : Type*) where
  space : α → Bool
  quote : α → Bool
  escape : α
  comment : α
  quote_not_space : ∀ c, quote c = true → space c = false
  escape_not_space : space escape = false
  escape_not_quote : quote escape = false

/-- Whether a character stands for itself, or escapes the next one, inside or outside quotes. -/
def Quoting.Copied {α : Type*} (L : Quoting α) : Option α → α → Prop
  | none, c => L.space c = false ∧ L.quote c = false
  | some q, c => c ≠ q

variable {α : Type*} (L : Quoting α)

section
variable [DecidableEq α]

/-- The word a text begins with, and the text after it. Inside quotes, the first argument is the
character that closes them. -/
def scan : Option α → List α → List α × List α
  | _, [] => ([], [])
  | quote, c :: cs =>
    if quote = some c then scan none cs
    else if quote = none ∧ L.quote c then scan (some c) cs
    else if quote = none ∧ L.space c then ([], cs)
    else if c = L.escape then
      match cs with
      | [] => ([c], [])
      | d :: ds => (d :: (scan quote ds).1, (scan quote ds).2)
    else (c :: (scan quote cs).1, (scan quote cs).2)

/-- The next word and the text after it. A comment hides the words behind it. -/
def next (text : List α) : Option (List α × List α) :=
  match text.dropWhile L.space with
  | [] => none
  | c :: cs => if c = L.comment then none else some (scan L none (c :: cs))

end

/-- `Spells quote text value`: the text is a way to write the value, from inside `quote` on. -/
inductive Spells : Option α → List α → List α → Prop
  | done : Spells none [] []
  | escaped {quote text value} (c : α) :
      Spells quote text value → Spells quote (L.escape :: c :: text) (c :: value)
  | plain {quote text value} (c : α) : L.Copied quote c → c ≠ L.escape →
      Spells quote text value → Spells quote (c :: text) (c :: value)
  | opening {text value} (c : α) : L.quote c = true →
      Spells (some c) text value → Spells none (c :: text) value
  | closing {text value q} : Spells none text value → Spells (some q) (q :: text) value

/-- A word as it stands in a text. -/
structure Word (text value : List α) : Prop where
  spells : Spells L none text value
  ne_nil : text ≠ []
  no_comment : text.head? ≠ some L.comment

/-- White space only. -/
def Gap (text : List α) : Prop := ∀ c ∈ text, L.space c = true

/-- Empty, or set off by white space from what it follows. -/
def SetOff (text : List α) : Prop := ∀ c ∈ text.head?, L.space c = true

/-- The text of a list of words, with white space between them and on either side. -/
inductive Line : List α → List (List α) → Prop
  | blank {gap} : Gap L gap → Line gap []
  | word {gap text value rest values} : Gap L gap → Word L text value → SetOff L rest →
      Line rest values → Line (gap ++ (text ++ rest)) (value :: values)

variable {L} {quote : Option α} {c d q : α} {text value rest gap : List α}
  {values : List (List α)}

theorem copied_escape (hquote : ∀ q ∈ quote, L.quote q = true) : L.Copied quote L.escape := by
  cases quote with
  | none => exact ⟨L.escape_not_space, L.escape_not_quote⟩
  | some q =>
    intro he
    have hq := hquote q rfl
    rw [← he, L.escape_not_quote] at hq
    cases hq

theorem Word.cons (h : Word L text value) :
    ∃ c cs, text = c :: cs ∧ L.space c = false ∧ c ≠ L.comment := by
  obtain ⟨hs, hne, hcomment⟩ := h
  cases hs with
  | done => exact absurd rfl hne
  | escaped c _ => exact ⟨_, _, rfl, L.escape_not_space, fun h => hcomment (congrArg some h)⟩
  | plain c hc _ _ => exact ⟨_, _, rfl, hc.1, fun h => hcomment (congrArg some h)⟩
  | opening c hc _ =>
    exact ⟨_, _, rfl, L.quote_not_space c hc, fun h => hcomment (congrArg some h)⟩

theorem dropWhile_gap (h : Gap L gap) (text : List α) :
    (gap ++ text).dropWhile L.space = text.dropWhile L.space :=
  List.dropWhile_append_of_pos h

theorem Line.tail (h : Line L text values) (hset : SetOff L text) : Line L text.tail values := by
  cases h with
  | blank hgap => exact .blank fun c hc => hgap c (List.mem_of_mem_tail hc)
  | @word gap word _ rest _ hgap hword hrest hline =>
    cases gap with
    | nil =>
      obtain ⟨c, cs, rfl, hspace, -⟩ := hword.cons
      have hc : L.space c = true := hset c rfl
      rw [hspace] at hc
      cases hc
    | cons c gap => exact .word (fun d hd => hgap d (.tail c hd)) hword hrest hline

/-! ### The characters of a line -/

theorem Spells.mem (h : Spells L quote text value) (hquote : ∀ q ∈ quote, L.quote q = true)
    (hc : c ∈ text) : c ∈ value ∨ c = L.escape ∨ L.quote c = true := by
  induction h with
  | done => cases hc
  | escaped d _ ih =>
    rcases List.mem_cons.mp hc with rfl | hc
    · exact .inr (.inl rfl)
    · rcases List.mem_cons.mp hc with rfl | hc
      · exact .inl (.head _)
      · exact (ih hquote hc).imp_left (.tail d)
  | plain d _ _ _ ih =>
    rcases List.mem_cons.mp hc with rfl | hc
    · exact .inl (.head _)
    · exact (ih hquote hc).imp_left (.tail d)
  | opening d hd _ ih =>
    rcases List.mem_cons.mp hc with rfl | hc
    · exact .inr (.inr hd)
    · exact ih (by simpa using hd) hc
  | closing _ ih =>
    rcases List.mem_cons.mp hc with rfl | hc
    · exact .inr (.inr (hquote c rfl))
    · exact ih (by simp) hc

/-- A character that means nothing in a line is in one of its words. -/
theorem Line.mem (h : Line L text values) (hc : c ∈ text) (hspace : L.space c = false)
    (hquote : L.quote c = false) (he : c ≠ L.escape) : ∃ value ∈ values, c ∈ value := by
  induction h with
  | blank hgap => simp [hgap c hc] at hspace
  | word hgap hword _ _ ih =>
    rcases List.mem_append.mp hc with hc | hc
    · simp [hgap c hc] at hspace
    · rcases List.mem_append.mp hc with hc | hc
      · rcases hword.spells.mem (by simp) hc with hv | hv | hv
        · exact ⟨_, .head _, hv⟩
        · exact absurd hv he
        · simp [hv] at hquote
      · obtain ⟨value, hv, hcv⟩ := ih hc
        exact ⟨value, .tail _ hv, hcv⟩

/-! ### Every list of words has a line -/

theorem spells_quoted (q : α) (value : List α) :
    Spells L (some q) (value.flatMap (fun c => [L.escape, c]) ++ [q]) value := by
  induction value with
  | nil => exact .closing .done
  | cons c value ih => exact .escaped c ih

theorem exists_word (hquote : L.quote q = true) (hcomment : q ≠ L.comment) (value : List α) :
    ∃ text, Word L text value :=
  ⟨_, .opening q hquote (spells_quoted q value), List.cons_ne_nil _ _,
    fun h => hcomment (Option.some.inj h)⟩

theorem Line.space (hc : L.space c = true) (h : Line L text values) :
    Line L (c :: text) values := by
  have hgap {gap : List α} (h : Gap L gap) : Gap L (c :: gap) := by
    intro d hd
    rcases List.mem_cons.mp hd with rfl | hd
    · exact hc
    · exact h d hd
  cases h with
  | blank h => exact .blank (hgap h)
  | word h hword hrest hline => exact .word (hgap h) hword hrest hline

theorem exists_line (hquote : L.quote q = true) (hcomment : q ≠ L.comment)
    (hspace : L.space c = true) (values : List (List α)) : ∃ text, Line L text values := by
  induction values with
  | nil => exact ⟨[], .blank nofun⟩
  | cons value values ih =>
    obtain ⟨text, hword⟩ := exists_word hquote hcomment value
    obtain ⟨rest, hline⟩ := ih
    refine ⟨[] ++ (text ++ (c :: rest)), .word nofun hword ?_ (hline.space hspace)⟩
    intro d hd
    obtain rfl := Option.some.inj hd
    exact hspace

/-! ### Scanning one character -/

variable [DecidableEq α]

theorem scan_cons (quote : Option α) (c : α) (cs : List α) :
    scan L quote (c :: cs) =
      if quote = some c then scan L none cs
      else if quote = none ∧ L.quote c then scan L (some c) cs
      else if quote = none ∧ L.space c then ([], cs)
      else if c = L.escape then
        match cs with
        | [] => ([c], [])
        | d :: ds => (d :: (scan L quote ds).1, (scan L quote ds).2)
      else (c :: (scan L quote cs).1, (scan L quote cs).2) := by
  rw [scan.eq_def]

theorem scan_closing : scan L (some q) (q :: text) = scan L none text := by
  rw [scan_cons, if_pos rfl]

theorem scan_opening (hc : L.quote c = true) :
    scan L none (c :: text) = scan L (some c) text := by
  rw [scan_cons, if_neg (by simp), if_pos ⟨rfl, hc⟩]

theorem scan_space (hc : L.space c = true) : scan L none (c :: text) = ([], text) := by
  have hq : ¬ L.quote c = true := by
    intro hq
    rw [L.quote_not_space c hq] at hc
    cases hc
  rw [scan_cons, if_neg (by simp), if_neg (by simp [hq]), if_pos ⟨rfl, hc⟩]

theorem scan_copied (hc : L.Copied quote c) :
    scan L quote (c :: text) =
      if c = L.escape then
        match text with
        | [] => ([c], [])
        | d :: ds => (d :: (scan L quote ds).1, (scan L quote ds).2)
      else (c :: (scan L quote text).1, (scan L quote text).2) := by
  cases quote with
  | none => rw [scan_cons, if_neg (by simp), if_neg (by simp [hc.2]), if_neg (by simp [hc.1])]
  | some q =>
    have hopen : some q ≠ some c := fun h => hc (Option.some.inj h).symm
    rw [scan_cons, if_neg hopen, if_neg (by simp), if_neg (by simp)]

theorem scan_escaped (hquote : ∀ q ∈ quote, L.quote q = true) :
    scan L quote (L.escape :: c :: text) =
      (c :: (scan L quote text).1, (scan L quote text).2) := by
  rw [scan_copied (copied_escape hquote), if_pos rfl]

theorem scan_plain (hc : L.Copied quote c) (he : c ≠ L.escape) :
    scan L quote (c :: text) = (c :: (scan L quote text).1, (scan L quote text).2) := by
  rw [scan_copied hc, if_neg he]

/-! ### Scanning a word -/

theorem scan_setOff (h : SetOff L rest) : scan L none rest = ([], rest.tail) := by
  cases rest with
  | nil => rfl
  | cons c cs => exact scan_space (h c rfl)

/-- However a word is written, it is read back. -/
theorem scan_spells (h : Spells L quote text value) (hquote : ∀ q ∈ quote, L.quote q = true)
    (hrest : SetOff L rest) : scan L quote (text ++ rest) = (value, rest.tail) := by
  induction h with
  | done => exact scan_setOff hrest
  | escaped c _ ih =>
    rw [List.cons_append, List.cons_append, scan_escaped hquote, ih hquote]
  | plain c hc he _ ih =>
    rw [List.cons_append, scan_plain hc he, ih hquote]
  | opening c hc _ ih =>
    rw [List.cons_append, scan_opening hc]
    exact ih (by simpa using hc)
  | closing _ ih =>
    rw [List.cons_append, scan_closing]
    exact ih (by simp)

/-! ### Looking for a word -/

theorem next_eq_none (h : next L text = none) :
    text.dropWhile L.space = [] ∨ ∃ cs, text.dropWhile L.space = L.comment :: cs := by
  unfold next at h
  cases hd : text.dropWhile L.space with
  | nil => exact .inl rfl
  | cons c cs =>
    rw [hd] at h
    dsimp only at h
    split_ifs at h with hc
    exact .inr ⟨cs, by rw [hc]⟩

theorem next_eq_some {word : List α × List α} (h : next L text = some word) :
    ∃ c cs, text.dropWhile L.space = c :: cs ∧ L.space c = false ∧ c ≠ L.comment ∧
      scan L none (c :: cs) = word := by
  unfold next at h
  cases hd : text.dropWhile L.space with
  | nil =>
    rw [hd] at h
    cases h
  | cons c cs =>
    have hspace : L.space ((text.dropWhile L.space).head (by simp [hd])) = false :=
      List.head_dropWhile_not L.space _
    rw [hd] at h
    dsimp only at h
    split_ifs at h with hc
    exact ⟨c, cs, rfl, by simpa [hd] using hspace, hc, Option.some.inj h⟩

theorem next_dropWhile (text : List α) : next L (text.dropWhile L.space) = next L text := by
  rw [next, next, List.dropWhile_idempotent]

/-! ### Reading a line -/

theorem next_gap (h : Gap L text) : next L text = none := by
  rw [next, List.dropWhile_eq_nil_iff.mpr h]

theorem next_word (hgap : Gap L gap) (h : Word L text value) (hrest : SetOff L rest) :
    next L (gap ++ (text ++ rest)) = some (value, rest.tail) := by
  obtain ⟨c, cs, rfl, hspace, hcomment⟩ := h.cons
  rw [next, dropWhile_gap hgap, List.cons_append, List.dropWhile_cons_of_neg (by simp [hspace])]
  simp only [if_neg hcomment]
  exact congrArg some (scan_spells h.spells (by simp) hrest)

theorem Line.next_eq_none (h : Line L text []) : next L text = none := by
  cases h with
  | blank hgap => exact next_gap hgap

theorem Line.next_eq_some (h : Line L text (value :: values)) :
    ∃ left, next L text = some (value, left) ∧ Line L left values := by
  cases h with
  | word hgap hword hrest hline => exact ⟨_, next_word hgap hword hrest, hline.tail hrest⟩

/-- What is read and what is left come from the text. -/
theorem scan_mem (quote : Option α) (text : List α) :
    (∀ c ∈ (scan L quote text).1, c ∈ text) ∧ ∀ c ∈ (scan L quote text).2, c ∈ text := by
  fun_induction scan L quote text with
  | case1 => exact ⟨nofun, nofun⟩
  | case2 _ _ ih | case3 _ _ _ _ _ ih =>
    exact ⟨fun d hd => .tail _ (ih.1 d hd), fun d hd => .tail _ (ih.2 d hd)⟩
  | case4 => exact ⟨nofun, fun d hd => .tail _ hd⟩
  | case5 => exact ⟨fun d hd => hd, nofun⟩
  | case6 quote d ds _ _ _ ih =>
    refine ⟨fun e he => ?_, fun e he => .tail _ (.tail _ (ih.2 e he))⟩
    rcases List.mem_cons.mp he with rfl | he
    · exact .tail _ (.head _)
    · exact .tail _ (.tail _ (ih.1 e he))
  | case7 quote c cs _ _ _ _ ih =>
    refine ⟨fun e he => ?_, fun e he => .tail _ (ih.2 e he)⟩
    rcases List.mem_cons.mp he with rfl | he
    · exact .head _
    · exact .tail _ (ih.1 e he)

theorem next_mem (h : next L text = some (value, rest)) :
    (∀ c ∈ value, c ∈ text) ∧ ∀ c ∈ rest, c ∈ text := by
  obtain ⟨c, cs, hd, -, -, hscan⟩ := next_eq_some h
  have hsub : ∀ d ∈ c :: cs, d ∈ text := by
    rw [← hd]
    exact fun d hd => (List.dropWhile_suffix _).mem hd
  obtain ⟨h1, h2⟩ := scan_mem (L := L) none (c :: cs)
  rw [hscan] at h1 h2
  exact ⟨fun d hd => hsub d (h1 d hd), fun d hd => hsub d (h2 d hd)⟩

end Words
