import Concordd.Instance.Calls
import Concordd.Instance.Effects
import Concordd.Instance.KeyTokens
import Concordd.Instance.Runs

/-! The keys each command types, against the target it was given. -/
namespace Concordd

/-! What each command is for. -/

/-- The digits of a number, the first one first. -/
def decimalDigits (n : ℕ) : List UInt8 :=
  if n = 0 then [0] else (Nat.digits 10 n).reverse.map UInt8.ofNat

/-- The code of the user a bypass is made for, as digits. -/
def codeDigits (self : ConcorddInstance) (useri : ℤ) : List UInt8 :=
  match concorddGetUser (if useri = -1 then geRs232UserSystem else useri) with
  | some u => (cString (self.user u).codeStr).map (· - 0x30)
  | none => []

def armLevelCode (armLevel : ℤ) : UInt8 :=
  if armLevel = 1 then 0x20 else if armLevel = 2 then 0x28 else 0x27

/-- The message that types the keys of the command's own target. -/
def DaemonStep.targetMessage (self : ConcorddInstance) : DaemonStep → List UInt8
  | .setLight partition light state _ =>
    [0x40, UInt8.ofInt partition, 0, if state then 0x10 else 0x11, UInt8.ofInt light]
  | .setOutput output _ _ => [0x40, 1, 0, 7, 7] ++ decimalDigits output.toNat
  | .setZoneBypass zone _ user _ =>
    match concorddGetZone zone with
    | some z => [0x40, (self.zone z).partitionId, 0, 0x0B] ++ (codeDigits self user ++
        [UInt8.ofNat (z / 10), UInt8.ofNat (z % 10)])
    | none => []
  | .setArmLevel partition armLevel _ => [0x40, UInt8.ofInt partition, 0, armLevelCode armLevel]
  | _ => []

/-- The commands with a target. -/
def DaemonStep.HasTarget : DaemonStep → Prop
  | .setLight _ _ _ _ | .setZoneBypass _ _ _ _ | .setOutput _ _ _ | .setArmLevel _ _ _ => True
  | _ => False

/-- The command that types the code of a user. -/
def DaemonStep.TypesCode : DaemonStep → Prop
  | .setZoneBypass _ _ _ _ => True
  | _ => False

/-- A command that succeeds has enqueued the message of its target and no other; one that fails
has enqueued nothing. -/
def TypesTarget (s : Daemon) (i : DaemonStep) : Prop :=
  let out := (daemonMachine.step s i).2
  (DaemonEvent.returns i .ok ∈ out → enqueuedBy out = [i.targetMessage s.inst]) ∧
    (DaemonEvent.returns i .ok ∉ out → enqueuedBy out = [])

/-- The digit of the output is no digit but names a key, or is a '[' at the end. -/
def MisreadDigit (outputi : ℤ) : Prop :=
  (17 ≤ outputi ∧ outputi ≤ 22) ∨ outputi = 43 ∨ (49 ≤ outputi ∧ outputi ≤ 54)

instance (outputi : ℤ) : Decidable (MisreadDigit outputi) :=
  inferInstanceAs (Decidable (_ ∨ _ ∨ _))

/-- A change of an output that every check lets through, with such a digit. -/
def TypesMisread (self : ConcorddInstance) : DaemonStep → Prop
  | .setOutput output state _ => MisreadDigit output ∧ self.refreshPending = false ∧
      (self.partition 1).programmingMode = false ∧
      ∃ o, concorddGetOutput output = some o ∧ (self.output o).active = true ∧
        (self.output o).outputState ≠ (if state then 1 else 0)
  | _ => False

/-! The request decides it. -/

variable {env : Env} {self : ConcorddInstance} {s : Daemon} {i : DaemonStep}

theorem returns_ok_command {r : Outcome ConcorddInstance InstanceEvent} :
    DaemonEvent.returns i .ok ∈ (s.command i r).2 ↔ r.status = .ok := by
  simp only [Daemon.command, List.mem_append, List.mem_map, reduceCtorEq, and_false, exists_false,
    List.mem_singleton, DaemonEvent.returns.injEq, true_and, false_or]
  exact eq_comm

theorem hasTarget_isCommand (h : i.HasTarget) : i.IsCommand := by
  cases i <;> trivial

theorem typesTarget_iff (hroom : ¬ s.inst.geQueue.Full) (h : i.HasTarget) :
    TypesTarget s i ↔ ∀ m, i.request s.inst = some m → m.data = i.targetMessage s.inst := by
  obtain ⟨self, r, hqueue, hasks, hstep⟩ := step_asks s (hasTarget_isCommand h)
  unfold TypesTarget
  rw [hstep]
  dsimp only
  rw [returns_ok_command, enqueuedBy_command]
  cases hm : i.request s.inst with
  | none =>
    rw [hm] at hasks
    obtain ⟨status, hok, -, rfl⟩ := hasks
    refine iff_of_true ⟨fun hs => absurd hs hok, fun _ => rfl⟩ ?_
    intro m hsome
    cases hsome
  | some m =>
    rw [hm] at hasks
    obtain rfl : r = _ := hasks
    have hroom' : ¬ self.geQueue.Full := by rwa [hqueue]
    have hone := queueMessage_enqueues s.env hroom' m.data m.finished
    constructor
    · rintro ⟨hok, -⟩ m' hm'
      obtain rfl := Option.some.inj hm'
      have := hok hone.status
      rw [hone.once] at this
      exact (List.cons.inj this).1
    · intro hdata
      refine ⟨fun _ => ?_, fun hno => absurd hone.status hno⟩
      rw [hone.once, hdata m rfl]

/-! Lights and arm levels, as tokens. -/

theorem guarded_data {c : Prop} [Decidable c] {partition : ℤ} {keys : List UInt8}
    {finished : Option ℕ} {m : Unfinished}
    (h : (if c then keysRequest partition keys finished else none) = some m) :
    c ∧ pressKeysMessage partition keys = .ok m.data := by
  by_cases hc : c
  · refine ⟨hc, ?_⟩
    rw [if_pos hc, keysRequest] at h
    split at h
    · next hm =>
      obtain rfl := Option.some.inj h
      exact hm
    · cases h
  · rw [if_neg hc] at h
    cases h

theorem lightRequest_data {partition light : ℤ} {state : Bool} {finished : Option ℕ}
    {m : Unfinished} (h : lightRequest self partition light state finished = some m) :
    m.data = [0x40, UInt8.ofInt partition, 0, if state then 0x10 else 0x11, UInt8.ofInt light] := by
  obtain ⟨⟨-, -, h0, h9⟩, hm⟩ := guarded_data h
  have hkeys : ∀ (l : Fin 10) (on : Bool), setLightKeys l on =
      keyText [.long ⟨1, false⟩ ⟨if on then 0 else 1, false⟩, .digit l] := by decide
  have hcodes : ∀ (l : Fin 10) (on : Bool),
      keyCodesSent [.long ⟨1, false⟩ ⟨if on then 0 else 1, false⟩, .digit l] =
        [if on then 0x10 else 0x11, UInt8.ofInt l] := by decide
  obtain ⟨l, rfl⟩ : ∃ l : Fin 10, light = l := ⟨⟨light.toNat, by omega⟩, by simp; omega⟩
  rw [hkeys, pressKeysMessage_tokens partition (by simp), hcodes] at hm
  exact (Except.ok.inj hm).symm

theorem armLevelKeys_tokens {armLevel : ℤ} {keys : List UInt8}
    (h : armLevelKeys armLevel = some keys) :
    ∃ x y, keys = keyText [.long x y] ∧ keyCodesSent [.long x y] = [armLevelCode armLevel] := by
  unfold armLevelKeys at h
  split at h
  · next hl =>
    subst hl
    obtain rfl := Option.some.inj h
    exact ⟨⟨2, false⟩, ⟨0, false⟩, by decide, by decide⟩
  · split at h
    · next hl =>
      subst hl
      obtain rfl := Option.some.inj h
      exact ⟨⟨2, false⟩, ⟨8, false⟩, by decide, by decide⟩
    · split at h
      · next hl =>
        subst hl
        obtain rfl := Option.some.inj h
        exact ⟨⟨2, false⟩, ⟨7, false⟩, by decide, by decide⟩
      · cases h

theorem armLevelRequest_data {partition armLevel : ℤ} {finished : Option ℕ} {m : Unfinished}
    (h : armLevelRequest self partition armLevel finished = some m) :
    m.data = [0x40, UInt8.ofInt partition, 0, armLevelCode armLevel] := by
  unfold armLevelRequest at h
  split at h
  · next hk =>
    obtain ⟨x, y, rfl, hcode⟩ := armLevelKeys_tokens hk
    obtain ⟨-, hm⟩ := guarded_data h
    rw [pressKeysMessage_tokens partition (by simp), hcode] at hm
    exact (Except.ok.inj hm).symm
  · cases h

/-! Zones, with the user's code. -/

/-- Characters without brackets or '!' are keys one by one. -/
theorem pressKeysLoop_chars {msg s out : List UInt8} (hs : ∀ c ∈ s, c ≠ 0x21 ∧ c ≠ 0x5B)
    (hlen : msg.length + s.length ≤ geRs232MaxMessageSize) (h : pressKeysLoop msg 0 s = .ok out) :
    (∀ c ∈ s, (keyCode c).isSome) ∧ out = msg ++ s.filterMap keyCode := by
  induction s generalizing msg with
  | nil =>
    obtain rfl := Except.ok.inj h
    exact ⟨fun _ hc => (nomatch hc), (List.append_nil msg).symm⟩
  | cons c s ih =>
    rw [List.length_cons] at hlen
    have hroom : msg.length < geRs232MaxMessageSize := by omega
    cases hcode : keyCode c with
    | none =>
      have hc := hs c List.mem_cons_self
      rw [pressKeysLoop, if_neg (Nat.not_le.mpr hroom), if_neg (by tauto), hcode] at h
      cases h
    | some code =>
      rw [pressKeysLoop_plain hroom hcode] at h
      obtain ⟨hall, hout⟩ := ih (fun d hd => hs d (List.mem_cons_of_mem c hd))
        (by rw [List.length_append, List.length_singleton]; omega) h
      refine ⟨?_, ?_⟩
      · intro d hd
        rcases List.mem_cons.mp hd with rfl | hd
        · rw [hcode]
          rfl
        · exact hall d hd
      · rw [hout, List.filterMap_cons, hcode, List.append_assoc]
        rfl

/-- A code made of two bytes of a frame, a nibble to a character; the empty one is no code. -/
def CodeString (codeStr : Fin 7 → UInt8) : Prop :=
  codeStr 0 = 0 ∨ (∀ i : Fin 7, i < 4 → 0x30 ≤ codeStr i ∧ codeStr i ≤ 0x3F) ∧ codeStr 4 = 0

theorem nibble_char (v : UInt8) :
    (0x30 ≤ v >>> (4 : UInt8) + 0x30 ∧ v >>> (4 : UInt8) + 0x30 ≤ 0x3F) ∧
      0x30 ≤ (v &&& 0xF) + 0x30 ∧ (v &&& 0xF) + 0x30 ≤ 0x3F := by
  revert v
  decide +kernel

theorem userCode_codeString (codeStr : Fin 7 → UInt8) (hi lo : UInt8) :
    CodeString (userCode codeStr hi lo) := by
  by_cases hz : hi = 0 ∧ lo = 0
  · left
    simp [userCode, hz]
  · right
    refine ⟨?_, by simp [userCode]⟩
    intro i hi4
    obtain ⟨hh, hl⟩ := nibble_char hi
    obtain ⟨lh, ll⟩ := nibble_char lo
    have hcases : i = 0 ∨ i = 1 ∨ i = 2 ∨ i = 3 := by omega
    rcases hcases with rfl | rfl | rfl | rfl
    · simpa [userCode, hz] using hh
    · simpa [userCode] using hl
    · simpa [userCode] using lh
    · simpa [userCode] using ll

def CodesKept (s : Daemon) : Prop := ∀ u, CodeString (s.inst.user u).codeStr

theorem UserUpdate.codeString {b : Buffer} {u : Fin 252} {old new : ConcorddUser}
    (h : UserUpdate b u old new) (hold : CodeString old.codeStr) : CodeString new.codeStr := by
  cases h with
  | keep => exact hold
  | data => exact userCode_codeString ..

theorem codes_step {s : Daemon} {i : DaemonStep} (h : CodesKept s) (hin : FramesInside s i) :
    CodesKept (daemonMachine.step s i).1 := by
  rcases daemon_step_cases s i with ⟨q, callbacks, env, hs, -⟩ | ⟨q, hs, -⟩ |
    ⟨q, b, n, events, hs, ho⟩
  · rw [hs]
    exact h
  · rw [hs]
    exact h
  · have hframe : FrameInside (s.withQueue q).inst b n := (framesMeet_handle ho).mp hin
    rw [hs]
    intro u
    exact ((handleFrame_inside s.env hframe).user_update u).codeString (h u)

/-- A run that stays inside its tables gives users nothing but codes. -/
theorem codes_run {env : Env} {steps : List DaemonStep}
    (hin : daemonMachine.Along FramesInside (daemonInit env) steps) :
    CodesKept (daemonMachine.run (daemonInit env) steps) :=
  Machine.inv_run (fun _ _ => codes_step) (fun _ => .inl rfl) hin

theorem cString_code {codeStr : Fin 7 → UInt8} (h : CodeString codeStr) (h0 : codeStr 0 ≠ 0) :
    cString codeStr = [codeStr 0, codeStr 1, codeStr 2, codeStr 3] ∧
      ∀ c ∈ cString codeStr, 0x30 ≤ c ∧ c ≤ 0x3F := by
  obtain ⟨hrange, h4⟩ := h.resolve_left h0
  have hne : ∀ i : Fin 7, i < 4 → codeStr i ≠ 0 := by
    intro i hi hz
    have := (hrange i hi).1
    rw [hz] at this
    exact absurd this (by decide)
  have hstring : cString codeStr = [codeStr 0, codeStr 1, codeStr 2, codeStr 3] := by
    simp [cString, List.ofFn, Fin.foldr_succ, hne, h4]
  refine ⟨hstring, ?_⟩
  rw [hstring]
  simp only [List.mem_cons, List.not_mem_nil, or_false]
  rintro c (rfl | rfl | rfl | rfl)
  · exact hrange 0 (by decide)
  · exact hrange 1 (by decide)
  · exact hrange 2 (by decide)
  · exact hrange 3 (by decide)

/-- A character of a code is a digit or names no key. -/
theorem keyCode_codeChar {c : UInt8} (h : 0x30 ≤ c ∧ c ≤ 0x3F) :
    (c ≠ 0x21 ∧ c ≠ 0x5B) ∧ ((keyCode c).isSome → keyCode c = some (c - 0x30)) := by
  revert c
  decide +kernel

theorem zoneDigits_keyCode (z : Fin 96) :
    keyCode (0x30 + UInt8.ofNat (z / 10)) = some (UInt8.ofNat (z / 10)) ∧
      keyCode (0x30 + UInt8.ofNat (z % 10)) = some (UInt8.ofNat (z % 10)) := by
  revert z
  decide

theorem zoneBypassKeys_data {partition : ℤ} {codeStr : Fin 7 → UInt8} (h : CodeString codeStr)
    (h0 : codeStr 0 ≠ 0) (z : Fin 96) {data : List UInt8}
    (hm : pressKeysMessage partition (zoneBypassKeys codeStr z) = .ok data) :
    data = keysHead partition ++ 0x0B :: ((cString codeStr).map (· - 0x30) ++
      [UInt8.ofNat (z / 10), UInt8.ofNat (z % 10)]) := by
  obtain ⟨hstring, hrange⟩ := cString_code h h0
  obtain ⟨htens, hones⟩ := zoneDigits_keyCode z
  have hkeys : zoneBypassKeys codeStr z = 0x23 :: (cString codeStr ++
      [0x30 + UInt8.ofNat (z / 10), 0x30 + UInt8.ofNat (z % 10)]) := by
    simp [zoneBypassKeys, hstring]
  have hplain : ∀ c ∈ zoneBypassKeys codeStr z, c ≠ 0x21 ∧ c ≠ 0x5B := by
    rw [hkeys]
    simp only [List.mem_cons, List.mem_append, List.not_mem_nil, or_false]
    rintro c (rfl | hc | rfl | rfl)
    · exact ⟨by decide, by decide⟩
    · exact (keyCode_codeChar (hrange c hc)).1
    · exact keyCode_plain htens
    · exact keyCode_plain hones
  have hlen : (keysHead partition).length + (zoneBypassKeys codeStr z).length ≤
      geRs232MaxMessageSize := by
    rw [hkeys, hstring, length_keysHead]
    exact Nat.le_add_right 10 46
  obtain ⟨hall, rfl⟩ := pressKeysLoop_chars hplain hlen hm
  have hcode : (cString codeStr).filterMap keyCode = (cString codeStr).map (· - 0x30) := by
    rw [← List.filterMap_eq_map]
    apply List.filterMap_congr
    intro c hc
    exact (keyCode_codeChar (hrange c hc)).2 (hall c (by simp [hkeys, hc]))
  have hhash : keyCode 0x23 = some 0x0B := rfl
  rw [hkeys, List.filterMap_cons, hhash, List.filterMap_append, hcode]
  simp [htens, hones]

theorem bypassCode_eq_some {useri : ℤ} {codeStr : Fin 7 → UInt8}
    (h : bypassCode self useri = some codeStr) :
    (∃ u, codeStr = (self.user u).codeStr) ∧ codeStr 0 ≠ 0 ∧
      codeDigits self useri = (cString codeStr).map (· - 0x30) := by
  unfold bypassCode at h
  unfold codeDigits
  cases hu : concorddGetUser (if useri = -1 then geRs232UserSystem else useri) with
  | none =>
    rw [hu] at h
    cases h
  | some u =>
    rw [hu] at h
    dsimp only at h
    split at h
    · next hc =>
      obtain rfl := Option.some.inj h
      exact ⟨⟨u, rfl⟩, hc.2, rfl⟩
    · cases h

theorem bypassRequest_data {zone useri : ℤ} {bypass : Bool} {finished : Option ℕ} {m : Unfinished}
    (hcodes : ∀ u, CodeString (self.user u).codeStr)
    (h : bypassRequest self zone bypass useri finished = some m) :
    m.data = (DaemonStep.setZoneBypass zone bypass useri finished).targetMessage self := by
  unfold bypassRequest at h
  split at h
  · next z codeStr hz hcode =>
    obtain ⟨⟨u, rfl⟩, h0, hdigits⟩ := bypassCode_eq_some hcode
    obtain ⟨-, hm⟩ := guarded_data h
    have hdata := zoneBypassKeys_data (hcodes u) h0 z hm
    rw [hdata, DaemonStep.targetMessage, hz]
    simp only [hdigits, keysHead, ofInt_natCast, UInt8.ofNat_toNat]
    rfl
  · cases h

/-! Outputs, with one character for the number. -/

theorem decimalDigits_of_lt {n : ℕ} (h : n < 10) : decimalDigits n = [UInt8.ofNat n] := by
  unfold decimalDigits
  split
  · next hz =>
    subst hz
    rfl
  · next hz => simp [Nat.digits_of_lt 10 n hz h]

theorem length_decimalDigits {n : ℕ} (h : 10 ≤ n) : 2 ≤ (decimalDigits n).length := by
  have hdigits : Nat.digits 10 n = n % 10 :: Nat.digits 10 (n / 10) :=
    Nat.digits_def' (by decide) (by omega)
  have hrest : Nat.digits 10 (n / 10) = n / 10 % 10 :: Nat.digits 10 (n / 10 / 10) :=
    Nat.digits_def' (by decide) (by omega)
  rw [decimalDigits, if_neg (by omega), hdigits, hrest]
  simp

/-- Every output of the table: numbers up to 9 are typed, and the rest is misread or refused. -/
theorem setOutputKeys_message (o : Fin 71) :
    pressKeysMessage 1 (setOutputKeys o) =
      if o.val < 10 then .ok [0x40, 1, 0, 7, 7, UInt8.ofNat o]
      else if MisreadDigit o then
        .ok ([0x40, 1, 0, 7, 7] ++ (keyCode (0x30 + UInt8.ofNat o)).toList)
      else .error .error := by
  revert o
  decide

theorem setOutputKeys_iff (o : Fin 71) :
    (∀ data, pressKeysMessage 1 (setOutputKeys o) = .ok data →
        data = [0x40, 1, 0, 7, 7] ++ decimalDigits o) ↔ ¬ MisreadDigit o := by
  rw [setOutputKeys_message]
  by_cases hlt : o.val < 10
  · have hread : ¬ MisreadDigit o := by
      unfold MisreadDigit
      omega
    rw [if_pos hlt, decimalDigits_of_lt hlt]
    refine iff_of_true ?_ hread
    rintro data hdata
    exact (Except.ok.inj hdata).symm
  · rw [if_neg hlt]
    by_cases hread : MisreadDigit o
    · rw [if_pos hread]
      refine iff_of_false ?_ (not_not_intro hread)
      intro h
      have hdata := congrArg List.length (h _ rfl)
      have hlen := length_decimalDigits (Nat.le_of_not_lt hlt)
      have hone : (keyCode (0x30 + UInt8.ofNat o)).toList.length ≤ 1 := Option.length_toList_le
      simp only [List.length_append, List.length_cons, List.length_nil] at hdata
      omega
    · rw [if_neg hread]
      exact iff_of_true (fun _ h => nomatch h) hread

theorem outputRequest_data {output : ℤ} {state : Bool} {finished : Option ℕ} :
    (∀ m, outputRequest self output state finished = some m →
        m.data = (DaemonStep.setOutput output state finished).targetMessage self) ↔
      ¬ TypesMisread self (.setOutput output state finished) := by
  unfold outputRequest TypesMisread
  cases ho : concorddGetOutput output with
  | none =>
    refine iff_of_true (fun m h => nomatch h) ?_
    rintro ⟨-, -, -, o, h, -⟩
    rw [ho] at h
    cases h
  | some o =>
    obtain rfl := tableIndex_eq_some.mp ho
    dsimp only
    by_cases hc : self.refreshPending = false ∧ (self.output o).active = true ∧
        (self.output o).outputState ≠ (if state then 1 else 0) ∧
        (self.partition 1).programmingMode = false
    · obtain ⟨hpending, hactive, hstate, hmode⟩ := hc
      have hmisread : (MisreadDigit o ∧ self.refreshPending = false ∧
          (self.partition 1).programmingMode = false ∧ ∃ o', concorddGetOutput o = some o' ∧
            (self.output o').active = true ∧
            (self.output o').outputState ≠ (if state then 1 else 0)) ↔ MisreadDigit o :=
        and_iff_left ⟨hpending, hmode, o, ho, hactive, hstate⟩
      rw [if_pos ⟨hpending, hactive, hstate, hmode⟩, hmisread, ← setOutputKeys_iff, keysRequest]
      cases pressKeysMessage 1 (setOutputKeys o) with
      | ok data =>
        constructor
        · intro h data' hd
          obtain rfl := Except.ok.inj hd
          exact h _ rfl
        · intro h m hm
          obtain rfl := Option.some.inj hm
          exact h data rfl
      | error status => exact iff_of_true (fun m h => nomatch h) (fun data h => nomatch h)
    · rw [if_neg hc]
      refine iff_of_true (fun m h => nomatch h) ?_
      rintro ⟨-, hpending, hmode, o', ho', hactive, hstate⟩
      obtain rfl := Option.some.inj (ho.symm.trans ho')
      exact hc ⟨hpending, hactive, hstate, hmode⟩

/-- In every reachable state with room in the queue each command types the keys of its own
target, except an output whose number comes out as another key. Where a user's code is typed,
nothing has been stored past the end of an array or of the table of bus devices. -/
theorem command_types_target_iff (env : Env) (steps : List DaemonStep) (i : DaemonStep)
    (htarget : i.HasTarget)
    (hin : i.TypesCode → daemonMachine.Along FramesInside (daemonInit env) steps)
    (hroom : ¬ (daemonMachine.run (daemonInit env) steps).inst.geQueue.Full) :
    TypesTarget (daemonMachine.run (daemonInit env) steps) i ↔
      ¬ TypesMisread (daemonMachine.run (daemonInit env) steps).inst i := by
  rw [typesTarget_iff hroom htarget]
  cases i with
  | setLight => exact iff_of_true (fun m h => lightRequest_data h) id
  | setZoneBypass =>
    have hcodes := codes_run (hin trivial)
    exact iff_of_true (fun m h => bypassRequest_data hcodes h) id
  | setArmLevel => exact iff_of_true (fun m h => armLevelRequest_data h) id
  | setOutput => exact outputRequest_data
  | _ => exact htarget.elim

/-- `EQUIP_LIST_OUTPUT_DATA` for an output that is off. -/
def listedOutputFrame (output : UInt8) : Buffer := fun k =>
  if k = 0 then 0x07 else if k = 2 then output else 0

/-- Output 5 is asked for as 7, 7, 5. -/
theorem command_types_output_five :
    TypesTarget (daemonMachine.run (daemonInit ⟨0, .ok⟩) [.frame (listedOutputFrame 5) 9])
        (.setOutput 5 true none) ↔
      ¬ TypesMisread (daemonMachine.run (daemonInit ⟨0, .ok⟩)
        [.frame (listedOutputFrame 5) 9]).inst (.setOutput 5 true none) :=
  command_types_target_iff ⟨0, .ok⟩ [.frame (listedOutputFrame 5) 9] (.setOutput 5 true none)
    trivial (fun h => h.elim) (by decide)

/-- Output 20 is asked for as 7, 7, D. -/
theorem output_twenty_misread :
    ¬ ∀ (env : Env) (steps : List DaemonStep) (i : DaemonStep), i.HasTarget →
      ¬ (daemonMachine.run (daemonInit env) steps).inst.geQueue.Full →
        TypesTarget (daemonMachine.run (daemonInit env) steps) i := by
  intro h
  have hroom : ¬ (daemonMachine.run (daemonInit ⟨0, .ok⟩)
      [.frame (listedOutputFrame 20) 9]).inst.geQueue.Full := by decide
  have htypes := h ⟨0, .ok⟩ [.frame (listedOutputFrame 20) 9] (.setOutput 20 true none)
    trivial hroom
  rw [command_types_target_iff _ _ (.setOutput 20 true none) trivial (fun h => h.elim) hroom]
    at htypes
  exact htypes ⟨by decide, by decide, by decide, 20, by decide, by decide, by decide⟩

end Concordd
