import Concordd.Config.Arguments
import Concordd.Config.Params

/-! Which parameters `read_config` passes on without a value. -/
namespace Concordd

open Words

/-- The parameter in a line: its first word, and its second one, if there is one. -/
def lineParam (line : List UInt8) : Option ParamCall :=
  (next quoting (line.takeWhile (· ≠ 0))).map fun word =>
    ⟨some word.1, (next quoting word.2).map Prod.fst⟩

/-- The parameters in a file. -/
def fileParams (content : List UInt8) : List ParamCall := (fileLines content).filterMap lineParam

variable {σ : Type*} {setter : ConfigParamSetFunc σ} {s : ReadConfig σ} {context : σ}
  {mem text post line : List UInt8} {call : ParamCall} {params : List ParamCall} {buf : ℕ}

/-- Whether the setter takes all the parameters, one after the other. -/
def Accepts (setter : ConfigParamSetFunc σ) : σ → List ParamCall → Prop
  | _, [] => True
  | context, call :: params =>
    match setter context call.key call.value with
    | none => False
    | some (ret, context) => ret = 0 ∧ Accepts setter context params

/-- The calls a setter gets of a list of parameters: they end with the first it does not take. -/
def callsMade (setter : ConfigParamSetFunc σ) : σ → List ParamCall → List ParamCall
  | _, [] => []
  | context, call :: params =>
    call :: match setter context call.key call.value with
      | none => []
      | some (ret, context) => if ret = 0 then callsMade setter context params else []

theorem accepts_cons {first : ParamCall} : Accepts setter context (first :: params) ↔
    ∃ context', setter context first.key first.value = some (0, context') ∧
      Accepts setter context' params := by
  rw [Accepts]
  cases setter context first.key first.value with
  | none => simp
  | some result =>
    obtain ⟨ret, context'⟩ := result
    simp

theorem mem_callsMade : call ∈ callsMade setter context params ↔
    ∃ before after, params = before ++ call :: after ∧ Accepts setter context before := by
  induction params generalizing context with
  | nil => simp [callsMade]
  | cons first params ih =>
    rw [callsMade, List.mem_cons]
    constructor
    · rintro (rfl | hcall)
      · exact ⟨[], params, rfl, trivial⟩
      · cases hset : setter context first.key first.value with
        | none => simp [hset] at hcall
        | some result =>
          obtain ⟨ret, context'⟩ := result
          simp only [hset] at hcall
          split_ifs at hcall with hret
          · obtain ⟨before, after, rfl, haccepts⟩ := ih.mp hcall
            subst hret
            exact ⟨first :: before, after, rfl, accepts_cons.mpr ⟨context', hset, haccepts⟩⟩
          · cases hcall
    · rintro ⟨before, after, hparams, haccepts⟩
      cases before with
      | nil => exact .inl (List.cons.inj hparams).1.symm
      | cons first' before =>
        obtain ⟨rfl, rfl⟩ := List.cons.inj hparams
        obtain ⟨context', hset, haccepts⟩ := accepts_cons.mp haccepts
        simp only [hset, if_true]
        exact .inr (ih.mpr ⟨before, after, rfl, haccepts⟩)

/-! ### One line -/

/-- The buffer holds the line up to its first zero. -/
theorem fgetln_textAt (s : ReadConfig σ) (line : List UInt8) :
    ∃ post, TextAt (s.fgetln line) 0 (line.takeWhile (· ≠ 0)) post := by
  have hnul : 0 ∉ line.takeWhile (· ≠ 0) := fun h0 => by simpa using List.mem_takeWhile_imp h0
  have hline : line.takeWhile (· ≠ 0) ++ line.dropWhile (· ≠ 0) = line :=
    List.takeWhile_append_dropWhile
  cases hd : line.dropWhile (· ≠ 0) with
  | nil =>
    rw [hd, List.append_nil] at hline
    exact ⟨_, by rw [ReadConfig.fgetln, hline]; rfl, hnul⟩
  | cons c cs =>
    have hc : c = 0 := by
      have hhead := List.head_dropWhile_not (fun c : UInt8 => decide (c ≠ 0)) (l := line)
        (by rw [hd]; exact List.cons_ne_nil c cs)
      simp only [hd, List.head_cons] at hhead
      simpa using hhead
    rw [hd, hc] at hline
    refine ⟨cs ++ 0 :: s.linep.drop (line.length + 1), ?_, hnul⟩
    rw [List.drop_zero, ReadConfig.fgetln]
    nth_rewrite 1 [← hline]
    rw [List.append_assoc, List.cons_append]

/-- The string a call returns, if it finds a word. -/
theorem getNextArg_string (h : TextAt mem buf text post) :
    (getNextArg mem buf).ret.map (stringAt (getNextArg mem buf).mem) =
      (next quoting text).map Prod.fst := by
  cases hnext : next quoting text with
  | none =>
    rw [(getNextArg_none h hnext).ret]
    rfl
  | some word =>
    obtain ⟨p, hreturns⟩ := getNextArg_some h hnext
    have hnul : 0 ∉ word.1 := fun h0 => h.nul ((next_mem hnext).1 0 h0)
    rw [hreturns.ret, Option.map_some, hreturns.string.stringAt_eq hnul]
    rfl

theorem line_of_none (setter : ConfigParamSetFunc σ) (s : ReadConfig σ)
    (h : lineParam line = none) :
    ∃ linep, s.line setter line = { s with linep := linep } := by
  obtain ⟨post, htext⟩ := fgetln_textAt s line
  have hstops := getNextArg_none htext (Option.map_eq_none_iff.mp h)
  rw [ReadConfig.line]
  simp only [hstops.ret, Option.isNone_none, if_true]
  exact ⟨_, rfl⟩

/-- The key is still there when the value has been read behind it. -/
theorem line_of_some (setter : ConfigParamSetFunc σ) (s : ReadConfig σ)
    (h : lineParam line = some call) :
    ∃ linep, s.line setter line = { s with linep := linep }.set setter call := by
  obtain ⟨post, htext⟩ := fgetln_textAt s line
  obtain ⟨word, hnext, rfl⟩ := Option.map_eq_some_iff.mp h
  obtain ⟨p, hreturns⟩ := getNextArg_some htext hnext
  have hnul : 0 ∉ word.1 := fun h0 => htext.nul ((next_mem hnext).1 0 h0)
  have hkey := (hreturns.string_later 0).stringAt_eq hnul
  have hvalue := getNextArg_string hreturns.left
  rw [ReadConfig.line]
  simp only [hreturns.ret, Option.isNone_some, Option.map_some, hvalue]
  rw [if_neg Bool.false_ne_true, ← hkey]
  exact ⟨_, rfl⟩

/-! ### The file -/

theorem set_calls (s : ReadConfig σ) (call : ParamCall) :
    (s.set setter call).calls = s.calls ++ [call] := by
  rw [ReadConfig.set]
  split <;> rfl

theorem readConfigLoop_calls (lines : List (List UInt8)) (s : ReadConfig σ) :
    (readConfigLoop setter lines s).calls = s.calls ++
      if s.ret = some 0 then callsMade setter s.context (lines.filterMap lineParam) else [] := by
  induction lines generalizing s with
  | nil => simp [readConfigLoop, callsMade]
  | cons line lines ih =>
    rw [readConfigLoop]
    by_cases hret : s.ret = some 0
    · rw [if_pos hret, if_pos hret, ih]
      cases hparam : lineParam line with
      | none =>
        obtain ⟨linep, hline⟩ := line_of_none setter s hparam
        rw [hline, List.filterMap_cons_none hparam, if_pos hret]
      | some call =>
        obtain ⟨linep, hline⟩ := line_of_some setter s hparam
        rw [hline, set_calls, List.filterMap_cons_some hparam, callsMade, List.append_assoc,
          List.singleton_append, ReadConfig.set]
        cases setter s.context call.key call.value with
        | none => rfl
        | some result => simp only [Option.some.injEq]
    · rw [if_neg hret, if_neg hret, List.append_nil]

theorem readConfig_calls (content : List UInt8) (context : σ) :
    (readConfig setter (some content) context).calls =
      callsMade setter context (fileParams content) :=
  (readConfigLoop_calls _ _).trans (List.nil_append _)

theorem key_of_mem_fileParams {content : List UInt8} (h : call ∈ fileParams content) :
    ∃ key, call.key = some key := by
  obtain ⟨line, -, hparam⟩ := List.mem_filterMap.mp h
  obtain ⟨word, -, rfl⟩ := Option.map_eq_some_iff.mp hparam
  exact ⟨word.1, rfl⟩

/-- Every call has a key and a value exactly when no line with a key alone comes behind lines whose
parameters were all taken. -/
theorem config_values_present_iff (setter : ConfigParamSetFunc σ) (file : Option (List UInt8))
    (context : σ) :
    (∀ call ∈ (readConfig setter file context).calls, call.key ≠ none ∧ call.value ≠ none) ↔
      ∀ content ∈ file, ∀ before key after,
        fileParams content = before ++ ⟨some key, none⟩ :: after →
          ¬ Accepts setter context before := by
  constructor
  · rintro h content rfl before key after hparams haccepts
    have hcall : ⟨some key, none⟩ ∈ (readConfig setter (some content) context).calls := by
      rw [readConfig_calls]
      exact mem_callsMade.mpr ⟨before, after, hparams, haccepts⟩
    exact (h _ hcall).2 rfl
  · intro h call hcall
    cases file with
    | none => cases hcall
    | some content =>
      rw [readConfig_calls] at hcall
      obtain ⟨before, after, hparams, haccepts⟩ := mem_callsMade.mp hcall
      obtain ⟨key, hkey⟩ := key_of_mem_fileParams (show call ∈ fileParams content by simp [hparams])
      refine ⟨by simp [hkey], fun hvalue => h content rfl before key after ?_ haccepts⟩
      rw [hparams, ← hkey, ← hvalue]

/-- `"SocketBaud\n"`: the setter is called without a value. -/
theorem config_value_missing :
    ¬ ∀ (creates : List UInt8 → Bool) (content : List UInt8) (settings : Settings),
      ∀ call ∈ (readConfig (setConfigParam creates) (some content) settings).calls,
        call.key ≠ none ∧ call.value ≠ none := by
  intro h
  have hcalls : (readConfig (setConfigParam fun _ => true) (some (cLiteral "SocketBaud" ++ [0x0A]))
      ⟨9600, fun _ => none, none⟩).calls = [⟨some (cLiteral "SocketBaud"), none⟩] := by
    decide +kernel
  have hcall := h (fun _ => true) (cLiteral "SocketBaud" ++ [0x0A]) ⟨9600, fun _ => none, none⟩
  rw [hcalls] at hcall
  exact (hcall _ (.head _)).2 rfl

end Concordd
