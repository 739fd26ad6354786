import Concordd.Library.Decimal

/-! The names of users and of kinds of event. -/
namespace Concordd

open Ascii

/-- `ge_user_to_cstr` into its own array of 48 characters. -/
def geUserToCstr (user : ℤ) : List UInt8 :=
  snprintf 48 <|
    if 230 ≤ user ∧ user ≤ 237 then text "P" ++ decimalInt (user - 230) ++ text "-MASTER-CODE"
    else if 238 ≤ user ∧ user ≤ 245 then
      text "P" ++ decimalInt (user - 238) ++ text "-DURESS-CODE"
    else if user = 246 then text "SYSTEM-CODE"
    else if user = 247 then text "INSTALLER"
    else if user = 248 then text "DEALER"
    else if user = 249 then text "AVM-CODE"
    else if user = 250 then text "QUICK-ARM"
    else if user = 251 then text "KEY-SWITCH"
    else if user = 252 then text "SYSTEM"
    else if user = 255 then text "AUTOMATION"
    else if user = 65535 then text "SYSTEM/KEY-SWITCH"
    else text "USER-" ++ decimalInt user

def geSpecificAlarmTexts : List (ℤ × String) :=
  [(0, "UNSPECIFIED"), (1, "FIRE"), (2, "FIRE PANIC"), (3, "POLICE"), (4, "POLICE PANIC"),
    (7, "AUXILIARY"), (8, "AUXILIARY PANIC"), (10, "NO ACTIVITY"), (13, "LOW TEMPERATURE"),
    (15, "KEYSTROKE VIOLATION"), (16, "DURESS"), (17, "EXIT FAULT"), (19, "CARBON MONOXIDE"),
    (21, "LATCHKEY"), (26, "SIREN TAMPER"), (35, "ENTRY/EXIT"), (36, "PERIMETER"),
    (37, "INTERIOR"), (38, "NEAR"), (39, "WATER")]

def geSpecificTroubleTexts : List (ℤ × String) :=
  [(0, "UNSPECIFIED"), (1, "HARDWARE"), (4, "SUPERVISORY"), (5, "LOW BATTERY"), (6, "TAMPER"),
    (8, "PARTIAL OBSCURITY")]

def geSpecificPartitionTexts : List (ℤ × String) :=
  [(0, "SCHEDULE-ON"), (1, "SCHEDULE-OFF"), (2, "LATCHKEY-ON"), (3, "LATCHKEY-OFF"),
    (4, "SMOKE DETECTOR RESET"), (12, "MANUAL FORCE ARM"), (13, "AUTO FORCE ARM"),
    (15, "ARM PROTEST BEGIN"), (16, "ARM PROTEST END")]

def geSpecificSystemTroubleTexts : List (ℤ × String) :=
  [(5, "MAIN AC FAIL"), (2, "MAIN BATTERY LOW"), (9, "BUS SHUTDOWN"), (10, "BUS LOW POWER MODE"),
    (11, "PHONE LINE 1 FAIL"), (14, "WATCHDOG RESET"), (21, "BUS DEVICE FAIL"),
    (0, "BUS RECEIVER FAIL")]

/-- The `switch` of the `ge_specific_*_to_cstr` functions: a text of its own, or the number. -/
def geSpecificToCstr (texts : List (ℤ × String)) (code : ℤ) : List UInt8 :=
  snprintf 48 <| match texts.lookup code with
    | some s => text s
    | none => decimalInt code

def geSpecificAlarmToCstr : ℤ → List UInt8 := geSpecificToCstr geSpecificAlarmTexts

def geSpecificTroubleToCstr : ℤ → List UInt8 := geSpecificToCstr geSpecificTroubleTexts

def geSpecificPartitionToCstr : ℤ → List UInt8 := geSpecificToCstr geSpecificPartitionTexts

def geSpecificSystemTroubleToCstr : ℤ → List UInt8 := geSpecificToCstr geSpecificSystemTroubleTexts

variable {u v : ℤ} {texts : List (ℤ × String)}

/-! Users. -/

/-- The users that have names of their own. -/
def namedUsers : List ℤ := (List.range 23).map (fun k : ℕ => (230 + k : ℤ)) ++ [255, 65535]

theorem mem_namedUsers : u ∈ namedUsers ↔ (230 ≤ u ∧ u ≤ 252) ∨ u = 255 ∨ u = 65535 := by
  simp only [namedUsers, List.mem_append, List.mem_map, List.mem_range, List.mem_cons,
    List.not_mem_nil, or_false]
  apply or_congr_left
  constructor
  · rintro ⟨k, hk, rfl⟩
    omega
  · intro h
    exact ⟨(u - 230).toNat, by omega, by omega⟩

theorem geUserToCstr_of_notMem (hi : IsInt u) (h : u ∉ namedUsers) :
    geUserToCstr u = text "USER-" ++ decimalInt u := by
  rw [mem_namedUsers] at h
  have hlen := length_decimalInt_le hi
  have hfits : (text "USER-" ++ decimalInt u).length < 48 := by
    rw [List.length_append, show (text "USER-").length = 5 from rfl]
    omega
  unfold geUserToCstr
  repeat rw [if_neg (by omega)]
  exact snprintf_of_lt hfits

theorem namedUsers_distinct :
    ∀ u ∈ namedUsers, ∀ v ∈ namedUsers, geUserToCstr u = geUserToCstr v → u = v := by
  decide +kernel

theorem namedUsers_letter : ∀ u ∈ namedUsers, (geUserToCstr u).head? ≠ some 0x55 := by
  decide +kernel

/-- No two users have the same name. -/
theorem geUserToCstr_injective (hu : IsInt u) (hv : IsInt v) (h : geUserToCstr u = geUserToCstr v) :
    u = v := by
  by_cases hnu : u ∈ namedUsers
  · by_cases hnv : v ∈ namedUsers
    · exact namedUsers_distinct u hnu v hnv h
    · rw [geUserToCstr_of_notMem hv hnv] at h
      exact (namedUsers_letter u hnu (by rw [h]; rfl)).elim
  · by_cases hnv : v ∈ namedUsers
    · rw [geUserToCstr_of_notMem hu hnu] at h
      exact (namedUsers_letter v hnv (by rw [← h]; rfl)).elim
    · rw [geUserToCstr_of_notMem hu hnu, geUserToCstr_of_notMem hv hnv] at h
      exact decimalInt_injective (List.append_cancel_left h)

/-! Kinds of event. -/

/-- Each code has a text of its own, which begins with a letter and fits. -/
structure Distinguishes (texts : List (ℤ × String)) : Prop where
  distinct : ∀ a ∈ texts, ∀ b ∈ texts, text a.2 = text b.2 → a.1 = b.1
  letter : ∀ a ∈ texts, ∀ c ∈ (text a.2).head?, 0x41 ≤ c
  ne_nil : ∀ a ∈ texts, text a.2 ≠ []
  fits : ∀ a ∈ texts, (text a.2).length < 48

theorem mem_of_lookup {s : String} (h : texts.lookup u = some s) : (u, s) ∈ texts := by
  induction texts with
  | nil => cases h
  | cons a texts ih =>
    rw [List.lookup_cons] at h
    split at h
    · next he =>
      obtain rfl := Option.some.inj h
      rw [beq_iff_eq.mp he]
      exact List.mem_cons_self
    · exact List.mem_cons_of_mem a (ih h)

theorem specific_of_lookup (ht : Distinguishes texts) {s : String} (h : texts.lookup u = some s) :
    geSpecificToCstr texts u = text s := by
  rw [geSpecificToCstr, h]
  exact snprintf_of_lt (ht.fits _ (mem_of_lookup h))

theorem specific_of_none (hu : IsInt u) (h : texts.lookup u = none) :
    geSpecificToCstr texts u = decimalInt u := by
  have hlt : (decimalInt u).length < 48 := (length_decimalInt_le hu).trans_lt (by decide)
  rw [geSpecificToCstr, h]
  exact snprintf_of_lt hlt

/-- A text is no number. -/
theorem text_ne_decimalInt (ht : Distinguishes texts) {s : String} (h : texts.lookup u = some s)
    (i : ℤ) : text s ≠ decimalInt i := by
  obtain ⟨c, digits, hc, hchar⟩ := exists_decimalInt i
  intro he
  have hletter := ht.letter _ (mem_of_lookup h) c (by rw [he, hc]; rfl)
  rcases hchar with hd | rfl
  · exact absurd (UInt8.le_trans hletter hd.2) (by decide)
  · exact absurd hletter (by decide)

/-- No two codes have the same text. -/
theorem geSpecificToCstr_injective (ht : Distinguishes texts) (hu : IsInt u) (hv : IsInt v)
    (h : geSpecificToCstr texts u = geSpecificToCstr texts v) : u = v := by
  cases hlu : texts.lookup u with
  | some s =>
    rw [specific_of_lookup ht hlu] at h
    cases hlv : texts.lookup v with
    | some t =>
      rw [specific_of_lookup ht hlv] at h
      exact ht.distinct _ (mem_of_lookup hlu) _ (mem_of_lookup hlv) h
    | none =>
      rw [specific_of_none hv hlv] at h
      exact (text_ne_decimalInt ht hlu v h).elim
  | none =>
    rw [specific_of_none hu hlu] at h
    cases hlv : texts.lookup v with
    | some t =>
      rw [specific_of_lookup ht hlv] at h
      exact (text_ne_decimalInt ht hlv u h.symm).elim
    | none =>
      rw [specific_of_none hv hlv] at h
      exact decimalInt_injective h

theorem alarmTexts_distinguish : Distinguishes geSpecificAlarmTexts :=
  ⟨by decide +kernel, by decide +kernel, by decide +kernel, by decide +kernel⟩

theorem troubleTexts_distinguish : Distinguishes geSpecificTroubleTexts :=
  ⟨by decide +kernel, by decide +kernel, by decide +kernel, by decide +kernel⟩

theorem partitionTexts_distinguish : Distinguishes geSpecificPartitionTexts :=
  ⟨by decide +kernel, by decide +kernel, by decide +kernel, by decide +kernel⟩

theorem systemTroubleTexts_distinguish : Distinguishes geSpecificSystemTroubleTexts :=
  ⟨by decide +kernel, by decide +kernel, by decide +kernel, by decide +kernel⟩

/-- The name of a user or of a kind of event, as it is printed, tells which one it is. -/
theorem names_identify (hu : IsInt u) (hv : IsInt v) :
    (geUserToCstr u = geUserToCstr v ↔ u = v) ∧
      (geSpecificAlarmToCstr u = geSpecificAlarmToCstr v ↔ u = v) ∧
      (geSpecificTroubleToCstr u = geSpecificTroubleToCstr v ↔ u = v) ∧
      (geSpecificPartitionToCstr u = geSpecificPartitionToCstr v ↔ u = v) ∧
      (geSpecificSystemTroubleToCstr u = geSpecificSystemTroubleToCstr v ↔ u = v) := by
  have hspecific : ∀ texts, Distinguishes texts →
      (geSpecificToCstr texts u = geSpecificToCstr texts v ↔ u = v) := fun texts ht =>
    ⟨geSpecificToCstr_injective ht hu hv, fun h => by rw [h]⟩
  refine ⟨⟨geUserToCstr_injective hu hv, fun h => by rw [h]⟩, ?_, ?_, ?_, ?_⟩
  · exact hspecific _ alarmTexts_distinguish
  · exact hspecific _ troubleTexts_distinguish
  · exact hspecific _ partitionTexts_distinguish
  · exact hspecific _ systemTroubleTexts_distinguish

/-- A user and the one whose duress code has the next name. -/
theorem names_identify_master :
    (geUserToCstr 231 = geUserToCstr 239 ↔ (231 : ℤ) = 239) ∧
      (geSpecificAlarmToCstr 231 = geSpecificAlarmToCstr 239 ↔ (231 : ℤ) = 239) ∧
      (geSpecificTroubleToCstr 231 = geSpecificTroubleToCstr 239 ↔ (231 : ℤ) = 239) ∧
      (geSpecificPartitionToCstr 231 = geSpecificPartitionToCstr 239 ↔ (231 : ℤ) = 239) ∧
      (geSpecificSystemTroubleToCstr 231 = geSpecificSystemTroubleToCstr 239 ↔
        (231 : ℤ) = 239) :=
  names_identify (by unfold IsInt; omega) (by unfold IsInt; omega)

end Concordd
