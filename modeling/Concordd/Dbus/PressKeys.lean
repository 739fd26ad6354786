import Concordd.Dbus.Server
import Concordd.Instance.KeyTokens

/-! Key presses over D-Bus, and the partition they reach. -/
namespace Concordd

/-! The partition byte of a message of keys. -/

/-- The bytes before the area are as they were. -/
def KeepsHead (msg new : List UInt8) : Prop := 3 ≤ new.length ∧ new.take 2 = msg.take 2

theorem keepsHead_mark {msg : List UInt8} (h : 3 ≤ msg.length) (c : Prop) [Decidable c] :
    KeepsHead msg (if c then markLongPress msg else msg) := by
  split
  · have hne : msg ≠ [] := by
      rintro rfl
      cases h
    refine ⟨by rwa [length_markLongPress hne], ?_⟩
    rw [markLongPress, List.take_append_of_le_length (by rw [List.length_dropLast]; omega),
      List.dropLast_eq_take, List.take_take, Nat.min_eq_left (by omega)]
  · exact ⟨h, rfl⟩

theorem keepsHead_concat {msg : List UInt8} (h : 3 ≤ msg.length) (code : UInt8) :
    KeepsHead msg (msg ++ [code]) :=
  ⟨by rw [List.length_append]; omega, List.take_append_of_le_length (by omega)⟩

/-- The keys come after the head of the message. -/
theorem keepsHead_pressKeysLoop {msg out keys : List UInt8} {skip : ℕ} (hlen : 3 ≤ msg.length)
    (h : pressKeysLoop msg skip keys = .ok out) : KeepsHead msg out := by
  fun_induction pressKeysLoop msg skip keys with
  | case1 | case3 =>
    obtain rfl := Except.ok.inj h
    exact ⟨hlen, rfl⟩
  | case2 msg skip c keys ih => exact ih hlen h
  | case4 =>
    obtain rfl := Except.ok.inj h
    exact keepsHead_mark hlen _
  | case5 msg c keys _ _ marked _ code _ new ih =>
    obtain ⟨hlen', hhead⟩ : KeepsHead msg marked := keepsHead_mark hlen _
    obtain ⟨hnew, hhead'⟩ : KeepsHead marked new := by
      simp only [new]
      split
      · exact ⟨hlen', rfl⟩
      · exact keepsHead_concat hlen' _
    obtain ⟨hout, htake⟩ := ih hnew h
    exact ⟨hout, htake.trans (hhead'.trans hhead)⟩
  | case7 msg c keys _ _ code _ ih =>
    obtain ⟨hnew, hhead⟩ := keepsHead_concat hlen code
    obtain ⟨hout, htake⟩ := ih hnew h
    exact ⟨hout, htake.trans hhead⟩
  | case6 | case8 => cases h

theorem partitionByte {partition : ℤ} {keys msg : List UInt8}
    (h : pressKeysMessage partition keys = .ok msg) : msg[1]? = some (UInt8.ofInt partition) := by
  have hloop : pressKeysLoop (keysHead partition) 0 keys = .ok msg := h
  obtain ⟨hlen, htake⟩ := keepsHead_pressKeysLoop (length_keysHead partition).ge hloop
  have hbyte := congrArg (fun l => l[1]?) htake
  simpa [List.getElem?_take, keysHead] using hbyte

/-! The handler. -/

/-- The messages a method call gives to `ge_queue_message`. -/
def callEnqueued (out : List DbusEvent) : List (List UInt8) :=
  enqueuedBy (out.filterMap fun e => match e with
    | .daemon event => some event
    | _ => none)

theorem callEnqueued_call (helper : ℕ) (out : List DaemonEvent) (c : Prop) [Decidable c]
    (status : GeRs232Status) :
    callEnqueued (.helperNew helper :: (out.map .daemon ++
      if c then [.helper helper status] else [])) = enqueuedBy out := by
  have hout : ∀ out : List DaemonEvent, (out.map DbusEvent.daemon).filterMap (fun e => match e with
      | .daemon event => some event
      | _ => none) = out := by
    intro out
    induction out with
    | nil => rfl
    | cons e out ih => rw [List.map_cons, List.filterMap_cons, ih]
  simp only [callEnqueued, List.filterMap_cons, List.filterMap_append, hout]
  split <;> simp

/-- The path of a partition of the table. -/
def partitionPath (p : Fin 8) : List UInt8 := concorddDbusPathPartition ++ [0x30 + UInt8.ofNat p]

/-- Keys that reach the queue are typed into the partition the path names. -/
def PressesNamed (s : DbusServer) (path keys : List UInt8) : Prop :=
  ∀ data ∈ callEnqueued (s.methodCall path (.pressKeys keys)).2,
    ∃ p : Fin 8, path = partitionPath p ∧ data[1]? = some (UInt8.ofNat p)

/-- The path is a partition's and the number after the prefix is not negative as an `int`. -/
def PathHandled (path : List UInt8) : Prop :=
  strhasprefix path concorddDbusPathPartition = true ∧
    0 ≤ strtol10 (path.drop concorddDbusPathPartition.length)

instance (path : List UInt8) : Decidable (PathHandled path) :=
  inferInstanceAs (Decidable (_ ∧ _))

variable {s : DbusServer} {path keys : List UInt8}

theorem handler_pressKeys (path keys : List UInt8) (helper : ℕ) :
    dbusMessageHandler path (.pressKeys keys) helper =
      if PathHandled path then
        some (.pressKeys (strtol10 (path.drop concorddDbusPathPartition.length)) keys (some helper))
      else none := by
  unfold dbusMessageHandler PathHandled concorddPartitionIndexFromDbusPath indexFromDbusPath
    concorddDbusPathIsPartition
  by_cases hpre : strhasprefix path concorddDbusPathPartition = true <;> simp [hpre]

theorem callEnqueued_of_unhandled (h : ¬ PathHandled path) :
    callEnqueued (s.methodCall path (.pressKeys keys)).2 = [] := by
  rw [DbusServer.methodCall, handler_pressKeys, if_neg h]
  rfl

theorem callEnqueued_of_handled (h : PathHandled path) :
    callEnqueued (s.methodCall path (.pressKeys keys)).2 =
      enqueued (concorddPressKeys s.daemon.env s.daemon.inst
        (strtol10 (path.drop concorddDbusPathPartition.length)) keys (some s.nextHelper)).out := by
  rw [DbusServer.methodCall, handler_pressKeys, if_pos h]
  exact (callEnqueued_call ..).trans (enqueuedBy_command ..)

/-- What a handled call enqueues. -/
theorem mem_callEnqueued_iff (s : DbusServer) (keys data : List UInt8) (h : PathHandled path) :
    data ∈ callEnqueued (s.methodCall path (.pressKeys keys)).2 ↔
      pressKeysMessage (strtol10 (path.drop concorddDbusPathPartition.length)) keys = .ok data := by
  rw [callEnqueued_of_handled h]
  rcases pressKeys_cases s.daemon.env s.daemon.inst
    (strtol10 (path.drop concorddDbusPathPartition.length)) keys (some s.nextHelper) with
    ⟨msg, hm, hr⟩ | ⟨hm, hr⟩
  · rw [hr, hm, queueMessage_enqueued, List.mem_singleton, Except.ok.injEq]
    exact eq_comm
  · rw [hr, hm]
    exact iff_of_false (List.not_mem_nil) (fun h => nomatch h)

theorem strtol10_partitionPath (p : Fin 8) :
    strtol10 ((partitionPath p).drop concorddDbusPathPartition.length) = p := by
  rw [partitionPath, List.drop_left]
  revert p
  decide

/-- Keys reach the partition the path names unless the path is read as some number all the
same. -/
theorem press_keys_named_iff (s : DbusServer) (path keys : List UInt8) :
    PressesNamed s path keys ↔
      ¬ PathHandled path ∨ ¬ Readable 53 keys ∨ ∃ p : Fin 8, path = partitionPath p := by
  by_cases hpath : PathHandled path
  · have hmem := fun data => mem_callEnqueued_iff s keys data hpath
    have hok := pressKeysMessage_ok_iff
      (strtol10 (path.drop concorddDbusPathPartition.length)) keys
    constructor
    · intro h
      by_cases hread : Readable 53 keys
      · obtain ⟨data, hdata⟩ := hok.mpr hread
        obtain ⟨p, hp, -⟩ := h data ((hmem data).mpr hdata)
        exact .inr (.inr ⟨p, hp⟩)
      · exact .inr (.inl hread)
    · rintro (h | h | ⟨p, rfl⟩) data hdata
      · exact absurd hpath h
      · exact absurd (hok.mp ⟨data, (hmem data).mp hdata⟩) h
      · have hbyte := partitionByte ((hmem data).mp hdata)
        rw [strtol10_partitionPath, ofInt_natCast p.val] at hbyte
        exact ⟨p, rfl, hbyte⟩
  · refine iff_of_true ?_ (.inl hpath)
    intro data hdata
    rw [callEnqueued_of_unhandled hpath] at hdata
    cases hdata

/-- "/partition/9" types into partition 9. -/
theorem press_keys_beyond_table :
    ¬ ∀ (s : DbusServer) (path keys : List UInt8), PressesNamed s path keys := by
  intro h
  have hnamed := h (dbusInit ⟨0, .ok⟩) (concorddDbusPathPartition ++ [0x39]) [0x31]
  rw [press_keys_named_iff] at hnamed
  rcases hnamed with hpath | hread | ⟨p, hp⟩
  · exact hpath ⟨by decide, by decide⟩
  · exact hread ⟨[.plain 0x31 rfl], [], rfl, .inr (.inl rfl)⟩
  · have hdigit := List.append_cancel_left hp
    revert p
    decide

end Concordd
