import Concordd.Dbus.Server
import Concordd.Library.Decimal

/-! Object paths: what is printed into one is what the server reads out of it. -/
namespace Concordd

open Ascii

/-- What a path can name, by the numbers in it. -/
inductive DbusObject
  | system
  | partition (p : ℤ)
  | zone (z : ℤ)
  | output (o : ℤ)
  | light (p l : ℤ)
  deriving DecidableEq

def concorddDbusLightDir : List UInt8 := cLiteral "/light/"

/-- The path of an object, as the server and its clients print it. -/
def DbusObject.path : DbusObject → List UInt8
  | .system => concorddDbusPathRoot
  | .partition p => concorddDbusPathPartition ++ decimalInt p
  | .zone z => concorddDbusPathZone ++ decimalInt z
  | .output o => concorddDbusPathOutput ++ decimalInt o
  | .light p l => concorddDbusPathPartition ++ decimalInt p ++ concorddDbusLightDir ++ decimalInt l

/-- The kinds of path in the order in which `dbus_message_handler` tries them for `get_info`, each
with the numbers its functions read. -/
def DbusObject.ofPath (path : List UInt8) : Option DbusObject :=
  if strhasprefix path concorddDbusPathOutput then
    some (.output (concorddOutputIndexFromDbusPath path))
  else if strhasprefix path concorddDbusPathZone then
    some (.zone (concorddZoneIndexFromDbusPath path))
  else if concorddDbusPathIsLight path then
    some (.light (concorddPartitionIndexFromDbusPath path) (concorddLightIndexFromDbusPath path))
  else if concorddDbusPathIsPartition path then
    some (.partition (concorddPartitionIndexFromDbusPath path))
  else if path = concorddDbusPathRoot then some .system
  else none

/-- The numbers are ones that `%d` prints. -/
def DbusObject.Printable : DbusObject → Prop
  | .system => True
  | .partition n | .zone n | .output n => IsInt n
  | .light p l => IsInt p ∧ IsInt l

/-- What a method call on the path of an object becomes. A light's path is also one of its
partition. -/
def DbusObject.command (helper : ℕ) : DbusObject → DbusMethod → Option DaemonStep
  | .partition p, .setArmLevel armLevel | .light p _, .setArmLevel armLevel =>
    if 0 ≤ p then some (.setArmLevel p armLevel (some helper)) else none
  | .partition p, .pressKeys keys | .light p _, .pressKeys keys =>
    if 0 ≤ p then some (.pressKeys p keys (some helper)) else none
  | .output o, .setValue state =>
    if 0 ≤ o ∧ o < 71 then some (.setOutput o state (some helper)) else none
  | .light p l, .setValue state =>
    if (0 ≤ p ∧ p < 8) ∧ 0 ≤ l ∧ l < 10 then some (.setLight p l state (some helper)) else none
  | .zone z, .setBypassed state user =>
    if 0 ≤ z then some (.setZoneBypass z state user (some helper)) else none
  | .system, .refresh => some (.refresh (some helper))
  | _, _ => none

variable {s t rest needle : List UInt8} {c d e : UInt8} {i p l z o : ℤ}

/-! Reading a printed number. -/

theorem isDigit_iff : isDigit c = true ↔ IsDigit c := by simp [isDigit, IsDigit]

theorem not_isSpace_digit (h : IsDigit c) : isSpace c = false := by
  obtain ⟨h1, h2⟩ := h
  rw [UInt8.le_iff_toNat_le] at h1 h2
  simp only [isSpace, decide_eq_false_iff_not, UInt8.le_iff_toNat_le, ← UInt8.toNat_inj]
  simp at h1 h2 ⊢
  omega

theorem strtolSign_digit (h : IsDigit c) (s : List UInt8) : strtolSign (c :: s) = (0, 1) := by
  have hminus : c ≠ 0x2D := by rintro rfl; exact absurd h (by unfold IsDigit; decide)
  have hplus : c ≠ 0x2B := by rintro rfl; exact absurd h (by unfold IsDigit; decide)
  unfold strtolSign
  split
  · next heq => exact absurd (List.cons.inj heq).1 hminus
  · next heq => exact absurd (List.cons.inj heq).1 hplus
  · rfl

/-- The digits end where the number does. -/
theorem takeWhile_decimal (n : ℕ) (hrest : ∀ c ∈ rest.head?, ¬ IsDigit c) :
    (decimal n ++ rest).takeWhile isDigit = decimal n := by
  rw [List.takeWhile_append_of_pos fun c hc => isDigit_iff.mpr (isDigit_decimal n c hc)]
  cases rest with
  | nil => simp
  | cons c rest =>
    have hc : ¬ isDigit c = true := isDigit_iff.not.mpr (hrest c rfl)
    rw [List.takeWhile_cons_of_neg hc, List.append_nil]

theorem bmod_of_isInt (h : IsInt i) : (max (-2 ^ 63) (min (2 ^ 63 - 1) i)).bmod (2 ^ 32) = i := by
  obtain ⟨hlo, hhi⟩ := h
  rw [min_eq_right (by omega), max_eq_right (by omega)]
  exact Int.bmod_eq_of_le (by norm_num; omega) (by norm_num; omega)

theorem strtol10_of_parts {k n : ℕ} {sign : ℤ} (hspace : s.dropWhile isSpace = s)
    (hsign : strtolSign s = (k, sign)) (hdigits : (s.drop k).takeWhile isDigit = decimal n)
    (h : IsInt (sign * n)) : strtol10 s = sign * n := by
  have hvalue : (decimal n).foldl (fun acc c => 10 * acc + (c - 0x30).toNat) 0 = n :=
    digitsValue_decimal n
  simp only [strtol10, hspace, hsign, hdigits, hvalue]
  exact bmod_of_isInt h

/-- `strtol` reads back what `%d` has printed. -/
theorem strtol10_decimalInt (rest : List UInt8) (h : IsInt i)
    (hrest : ∀ c ∈ rest.head?, ¬ IsDigit c) : strtol10 (decimalInt i ++ rest) = i := by
  cases i with
  | ofNat n =>
    obtain ⟨c, digits, hc⟩ := List.exists_cons_of_ne_nil (decimal_ne_nil n)
    have hdigit : IsDigit c := isDigit_decimal n c (hc ▸ List.mem_cons_self)
    have hspace : (decimal n ++ rest).dropWhile isSpace = decimal n ++ rest := by
      rw [hc, List.cons_append, List.dropWhile_cons_of_neg (by simp [not_isSpace_digit hdigit])]
    have hsign : strtolSign (decimal n ++ rest) = (0, 1) := by
      rw [hc]
      exact strtolSign_digit hdigit _
    have hread := strtol10_of_parts hspace hsign (takeWhile_decimal n hrest)
      (by rw [one_mul]; exact h)
    rw [one_mul] at hread
    exact hread
  | negSucc n =>
    have hvalue : -1 * ((n + 1 : ℕ) : ℤ) = Int.negSucc n := by omega
    have hread := strtol10_of_parts (s := 0x2D :: (decimal (n + 1) ++ rest)) rfl rfl
      (takeWhile_decimal (n + 1) hrest) (by rw [hvalue]; exact h)
    rw [hvalue] at hread
    exact hread

theorem slash_notMem_decimalInt (i : ℤ) : 0x2F ∉ decimalInt i := by
  intro h
  rcases mem_decimalInt h with h | h
  · exact absurd h (by unfold IsDigit; decide)
  · cases h

/-! The kinds of path. -/

theorem strhasprefix_iff : strhasprefix s t = true ↔ t <+: s := List.isPrefixOf_iff_prefix

theorem strhasprefix_append (t s : List UInt8) : strhasprefix (t ++ s) t = true :=
  strhasprefix_iff.mpr (List.prefix_append t s)

/-- Directories that differ in their second character. -/
theorem strhasprefix_differs {root a b : List UInt8} (ha : 2 ≤ a.length) (hb : 2 ≤ b.length)
    (h : a.take 2 ≠ b.take 2) (s : List UInt8) :
    strhasprefix (root ++ a ++ s) (root ++ b) = false := by
  rw [Bool.eq_false_iff, Ne, strhasprefix_iff, List.append_assoc, List.prefix_append_right_inj]
  rintro ⟨t, ht⟩
  have htake := congrArg (List.take 2) ht
  rw [List.take_append_of_le_length hb, List.take_append_of_le_length ha] at htake
  exact h htake.symm

/-- The answers of the three tests of a path's prefix. -/
structure Kinds (path : List UInt8) (output zone partition : Bool) : Prop where
  output : strhasprefix path concorddDbusPathOutput = output
  zone : strhasprefix path concorddDbusPathZone = zone
  partition : strhasprefix path concorddDbusPathPartition = partition

theorem system_kinds : Kinds DbusObject.system.path false false false :=
  ⟨by decide, by decide, by decide⟩

theorem output_kinds (o : ℤ) : Kinds (DbusObject.output o).path true false false :=
  ⟨strhasprefix_append _ _, strhasprefix_differs (by decide) (by decide) (by decide) _,
    strhasprefix_differs (by decide) (by decide) (by decide) _⟩

theorem zone_kinds (z : ℤ) : Kinds (DbusObject.zone z).path false true false :=
  ⟨strhasprefix_differs (by decide) (by decide) (by decide) _, strhasprefix_append _ _,
    strhasprefix_differs (by decide) (by decide) (by decide) _⟩

theorem partitionPrefix_kinds (s : List UInt8) :
    Kinds (concorddDbusPathPartition ++ s) false false true :=
  ⟨strhasprefix_differs (by decide) (by decide) (by decide) _,
    strhasprefix_differs (by decide) (by decide) (by decide) _, strhasprefix_append _ _⟩

theorem partition_kinds (p : ℤ) : Kinds (DbusObject.partition p).path false false true :=
  partitionPrefix_kinds _

theorem lightPath_eq (p l : ℤ) : (DbusObject.light p l).path =
    concorddDbusPathPartition ++ (decimalInt p ++ (concorddDbusLightDir ++ decimalInt l)) := by
  simp only [DbusObject.path, List.append_assoc]

theorem light_kinds (p l : ℤ) : Kinds (DbusObject.light p l).path false false true := by
  rw [lightPath_eq]
  exact partitionPrefix_kinds _

theorem ne_root_of_kinds {output zone partition : Bool} (h : Kinds s output zone partition)
    (hk : (output || zone || partition) = true) : s ≠ concorddDbusPathRoot := by
  rintro rfl
  obtain ⟨h1, h2, h3⟩ := h
  obtain ⟨h1', h2', h3'⟩ := system_kinds
  rw [← h1, ← h2, ← h3] at hk
  exact Bool.false_ne_true hk

/-- A number has no directory of lights in it, and neither have the directories before it. -/
theorem strstr_skip {n : List UInt8} (h : c ∉ s) :
    strstr (c :: n) (s ++ t) = strstr (c :: n) t := by
  induction s with
  | nil => rfl
  | cons d s ih =>
    have hne : c ≠ d := fun he => h (he ▸ List.mem_cons_self)
    have hno : strhasprefix (d :: (s ++ t)) (c :: n) = false := by
      simp [hne, strhasprefix, List.isPrefixOf]
    rw [List.cons_append, strstr, hno, if_neg Bool.false_ne_true]
    exact ih fun hm => h (List.mem_cons_of_mem d hm)

theorem strstr_segment {n : List UInt8} (hne : e ≠ d) (h : c ∉ d :: s) :
    strstr (c :: e :: n) (c :: d :: s ++ t) = strstr (c :: e :: n) t := by
  have hno : strhasprefix (c :: d :: s ++ t) (c :: e :: n) = false := by
    simp [hne, strhasprefix, List.isPrefixOf]
  rw [List.cons_append, strstr, ← List.cons_append, hno, if_neg Bool.false_ne_true]
  exact strstr_skip h

theorem strstr_partition (p : ℤ) (t : List UInt8) :
    strstr concorddDbusLightDir (concorddDbusPathPartition ++ decimalInt p ++ t) =
      strstr concorddDbusLightDir t := by
  obtain ⟨c, digits, hc, hchar⟩ := exists_decimalInt p
  have hslash : (0x2F : UInt8) ∉ c :: digits := hc ▸ slash_notMem_decimalInt p
  have hl : (0x6C : UInt8) ≠ c := by
    rintro rfl
    rcases hchar with h | h
    · exact absurd h (by unfold IsDigit; decide)
    · cases h
  rw [hc, show concorddDbusPathPartition ++ c :: digits ++ t =
      cLiteral "/net" ++ (cLiteral "/voria" ++ (cLiteral "/concordd" ++ (cLiteral "/partition" ++
        (0x2F :: c :: digits ++ t)))) by
    simp only [concorddDbusPathPartition, concorddDbusPathRoot, List.append_assoc,
      List.cons_append]
    rfl]
  have hskip : ∀ (d : UInt8) (s t : List UInt8), 0x6C ≠ d → 0x2F ∉ d :: s →
      strstr concorddDbusLightDir (0x2F :: d :: s ++ t) = strstr concorddDbusLightDir t :=
    fun d s t hd hs => strstr_segment hd hs
  rw [show cLiteral "/net" = 0x2F :: 0x6E :: [0x65, 0x74] from rfl, hskip _ _ _ (by decide)
      (by decide),
    show cLiteral "/voria" = 0x2F :: 0x76 :: [0x6F, 0x72, 0x69, 0x61] from rfl,
    hskip _ _ _ (by decide) (by decide),
    show cLiteral "/concordd" = 0x2F :: 0x63 :: [0x6F, 0x6E, 0x63, 0x6F, 0x72, 0x64, 0x64] from rfl,
    hskip _ _ _ (by decide) (by decide),
    show cLiteral "/partition" = 0x2F :: 0x70 :: [0x61, 0x72, 0x74, 0x69, 0x74, 0x69, 0x6F, 0x6E]
      from rfl,
    hskip _ _ _ (by decide) (by decide), hskip _ _ _ hl hslash]

/-! What the server reads out of a path. -/

theorem indexFromDbusPath_append (pre rest : List UInt8) (h : IsInt i)
    (hrest : ∀ c ∈ rest.head?, ¬ IsDigit c) :
    indexFromDbusPath pre (pre ++ (decimalInt i ++ rest)) = i := by
  rw [indexFromDbusPath, if_pos (strhasprefix_append _ _), List.drop_left,
    strtol10_decimalInt rest h hrest]

theorem indexFromDbusPath_printed (pre : List UInt8) (h : IsInt i) :
    indexFromDbusPath pre (pre ++ decimalInt i) = i := by
  have hread := indexFromDbusPath_append pre [] h (by simp)
  rwa [List.append_nil] at hread

theorem lightDir_head : ∀ c ∈ (concorddDbusLightDir ++ s).head?, ¬ IsDigit c := by
  intro c hc
  obtain rfl : (0x2F : UInt8) = c := Option.some.inj hc
  unfold IsDigit
  decide

theorem partition_partitionIndex (hp : IsInt p) :
    concorddPartitionIndexFromDbusPath (DbusObject.partition p).path = p :=
  indexFromDbusPath_printed _ hp

theorem zone_zoneIndex (hz : IsInt z) :
    concorddZoneIndexFromDbusPath (DbusObject.zone z).path = z :=
  indexFromDbusPath_printed _ hz

theorem output_outputIndex (ho : IsInt o) :
    concorddOutputIndexFromDbusPath (DbusObject.output o).path = o :=
  indexFromDbusPath_printed _ ho

theorem light_partitionIndex (hp : IsInt p) (l : ℤ) :
    concorddPartitionIndexFromDbusPath (DbusObject.light p l).path = p := by
  rw [lightPath_eq]
  exact indexFromDbusPath_append _ _ hp lightDir_head

/-- The directory of lights is found where it was printed. -/
theorem light_lightDir (p l : ℤ) : strstr (cLiteral "/light/") (DbusObject.light p l).path =
    some (concorddDbusLightDir ++ decimalInt l) := by
  simp only [DbusObject.path, List.append_assoc (concorddDbusPathPartition ++ decimalInt p)]
  exact (strstr_partition p _).trans rfl

theorem light_isLight (p l : ℤ) : concorddDbusPathIsLight (DbusObject.light p l).path = true := by
  rw [concorddDbusPathIsLight, concorddDbusPathIsPartition, (light_kinds p l).partition,
    light_lightDir]
  rfl

theorem light_lightIndex (p : ℤ) (hl : IsInt l) :
    concorddLightIndexFromDbusPath (DbusObject.light p l).path = l := by
  have hread := strtol10_decimalInt [] hl (by simp)
  rw [List.append_nil] at hread
  rw [concorddLightIndexFromDbusPath, concorddDbusPathIsPartition, (light_kinds p l).partition,
    if_pos rfl, light_lightDir]
  have hdrop : (concorddDbusLightDir ++ decimalInt l).drop concorddDbusLightDir.length =
      decimalInt l := List.drop_left
  exact (congrArg strtol10 hdrop).trans hread

theorem partition_isLight (p : ℤ) :
    concorddDbusPathIsLight (DbusObject.partition p).path = false := by
  have hnone := strstr_partition p []
  rw [List.append_nil] at hnone
  have hno : (strstr (cLiteral "/light/") (DbusObject.partition p).path).isSome = false :=
    (congrArg Option.isSome hnone).trans rfl
  rw [concorddDbusPathIsLight, hno, Bool.and_false]

theorem isLight_of_kinds {output zone : Bool} (h : Kinds s output zone false) :
    concorddDbusPathIsLight s = false := by
  rw [concorddDbusPathIsLight, concorddDbusPathIsPartition, h.partition, Bool.false_and]

/-- The server finds again what was printed into a path. -/
theorem ofPath_path (o : DbusObject) (h : o.Printable) : DbusObject.ofPath o.path = some o := by
  cases o with
  | system => decide
  | output n =>
    have hk := output_kinds n
    simp [DbusObject.ofPath, hk.output, output_outputIndex h]
  | zone n =>
    have hk := zone_kinds n
    simp [DbusObject.ofPath, hk.output, hk.zone, zone_zoneIndex h]
  | partition n =>
    have hk := partition_kinds n
    simp [DbusObject.ofPath, hk.output, hk.zone, partition_isLight, concorddDbusPathIsPartition,
      hk.partition, partition_partitionIndex h]
  | light p l =>
    have hk := light_kinds p l
    simp [DbusObject.ofPath, hk.output, hk.zone, light_isLight, light_partitionIndex h.1,
      light_lightIndex p h.2]

theorem ofPath_path_light :
    DbusObject.ofPath (DbusObject.light 1 3).path = some (.light 1 3) :=
  ofPath_path (.light 1 3) ⟨by unfold IsInt; omega, by unfold IsInt; omega⟩

/-! What a method call on a printed path becomes. -/

theorem tableIndex_isSome {n : ℕ} {k : ℤ} : tableIndex n k = none ↔ ¬ (0 ≤ k ∧ k < n) := by
  rw [tableIndex_eq_none]
  omega

theorem output_command (ho : IsInt o) (state : Bool) (helper : ℕ) :
    dbusMessageHandler (DbusObject.output o).path (.setValue state) helper =
      if 0 ≤ o ∧ o < 71 then some (.setOutput o state (some helper)) else none := by
  have hk := output_kinds o
  have hfound : concorddOutputFromDbusPath (DbusObject.output o).path = none ↔
      ¬ (0 ≤ o ∧ o < 71) := by
    rw [concorddOutputFromDbusPath, output_outputIndex ho]
    split
    · exact tableIndex_isSome
    · exact iff_of_true rfl (by omega)
  simp only [dbusMessageHandler, hk.output, if_true, hfound, output_outputIndex ho]
  split_ifs <;> first | rfl | omega

theorem light_command (hp : IsInt p) (hl : IsInt l) (state : Bool) (helper : ℕ) :
    dbusMessageHandler (DbusObject.light p l).path (.setValue state) helper =
      if (0 ≤ p ∧ p < 8) ∧ 0 ≤ l ∧ l < 10 then some (.setLight p l state (some helper))
      else none := by
  have hk := light_kinds p l
  have hfound : concorddLightFromDbusPath (DbusObject.light p l).path = none ↔
      ¬ ((0 ≤ p ∧ p < 8) ∧ 0 ≤ l ∧ l < 10) := by
    simp only [concorddLightFromDbusPath, light_partitionIndex hp, light_lightIndex p hl,
      concorddGetPartition, concorddPartitionGetLight]
    cases h8 : tableIndex 8 p with
    | none =>
      have hout := tableIndex_isSome.mp h8
      simp only [ite_self, true_iff]
      exact fun h => hout h.1
    | some i =>
      have hin := tableIndex_eq_some.mp h8
      cases h10 : tableIndex 10 l with
      | none =>
        have hout := tableIndex_isSome.mp h10
        simp only [ite_self, true_iff]
        exact fun h => hout h.2
      | some j =>
        have hin' := tableIndex_eq_some.mp h10
        have h0 : 0 ≤ p ∧ 0 ≤ l := by omega
        rw [if_pos h0]
        have hi := i.isLt
        have hj := j.isLt
        refine iff_of_false (Option.some_ne_none _) (not_not.mpr ?_)
        omega
  simp only [dbusMessageHandler, hk.output, Bool.false_eq_true, if_false, light_isLight, if_true,
    hfound, light_partitionIndex hp, light_lightIndex p hl]
  split_ifs <;> first | rfl | omega

end Concordd
