import Concordd.Instance.Keys
import Concordd.Library.Ascii

/-! The text tokens of the panel, and the two functions that spell them out. -/
namespace Concordd

open Ascii

/-- `ge_rs232_text_token_lookup` from its first entry on. -/
def textDigits : List String :=
  ["0", "1", "2", "3", "4", "5", "6", "7", "8", "9"]

/-- The entries from 0x0C on, up to the first one that is `NULL`. -/
def textWords : List String :=
  ["#", ":", "/", "?", ".", "A", "B", "C", "D", "E", "F", "G", "H", "I", "J", "K", "L", "M", "N",
    "O", "P", "Q", "R", "S", "T", "U", "V", "W", "X", "Y", "Z", " ", "'", "-", "_", "*",
    "AC POWER ", "ACCESS ", "ACCOUNT ", "ALARM ", "ALL ", "ARM ", "ARMING ", "AREA ", "ATTIC ",
    "AUTO ", "AUXILIARY ", "AWAY ", "BACK ", "BATTERY ", "BEDROOM ", "BEEPS ", "BOTTOM ",
    "BREEZEWAY ", "BASEMENT ", "BATHROOM ", "BUS ", "BYPASS ", "BYPASSED ", "CABINET ",
    "CANCELED ", "CARPET ", "CHIME ", "CLOSET ", "CLOSING ", "CODE ", "CONTROL ", "CPU ",
    "DEGREES ", "DEN ", "DESK ", "DELAY ", "DELETE ", "DINING ", "DIRECT ", "DOOR ", "DOWN ",
    "DOWNLOAD ", "DOWNSTAIRS ", "DRAWER ", "DISPLAY ", "DURESS ", "EAST ", "ENERGY SAVER ",
    "ENTER ", "ENTRY ", "ERROR ", "EXIT ", "FAIL ", "FAILURE ", "FAMILY ", "FEATURES ", "FIRE ",
    "FIRST ", "FLOOR ", "FORCE ", "FORMAT ", "FREEZE ", "FRONT ", "FURNACE ", "GARAGE ",
    "GALLERY ", "GOODBYE ", "GROUP ", "HALL ", "HEAT ", "HELLO ", "HELP ", "HIGH ", "HOURLY ",
    "HOUSE ", "IMMEDIATE ", "IN SERVICE ", "INTERIOR ", "INTRUSION ", "INVALID ", "IS ", "KEY ",
    "KITCHEN ", "LAUNDRY ", "LEARN ", "LEFT ", "LIBRARY ", "LEVEL ", "LIGHT ", "LIGHTS ",
    "LIVING ", "LOW ", "MAIN ", "MASTER ", "MEDICAL", "MEMORY ", "MIN ", "MODE ", "MOTION ",
    "NIGHT ", "NORTH ", "NOT ", "NUMBER ", "OFF ", "OFFICE ", "OK ", "ON ", "OPEN ", "OPENING ",
    "PANIC ", "PARTITION ", "PATIO ", "PHONE ", "POLICE ", "POOL ", "PORCH ", "PRESS ", "QUIET ",
    "QUICK ", "RECEIVER ", "REAR ", "REPORT ", "REMOTE ", "RESTORE ", "RIGHT ", "ROOM ",
    "SCHEDULE ", "SCRIPT ", "SEC ", "SECOND ", "SET ", "SENSOR ", "SHOCK ", "SIDE ", "SIREN ",
    "SLIDING ", "SMOKE ", "Sn ", "SOUND ", "SOUTH ", "SPECIAL ", "STAIRS ", "START ", "STATUS ",
    "STAY ", "STOP ", "SUPERVISORY ", "SYSTEM ", "TAMPER ", "TEMPERATURE ", "TEMPORARY ",
    "TEST ", "TIME ", "TIMEOUT ", "TOUCHPAD ", "TRIP ", "TROUBLE ", "UNBYPASS ", "UNIT ", "UP ",
    "VERIFY ", "VIOLATION ", "WARNING ", "WEST ", "WINDOW ", "MENU ", "RETURN ", "POUND ",
    "HOME "]

/-- `ge_rs232_text_token_lookup`; `none` stands for `NULL`. -/
def geRs232TextTokenLookup (code : UInt8) : Option (List UInt8) :=
  if code = 0xF9 ∨ code = 0xFB then some [0x0A]
  else if code = 0xFA then some [0x20]
  else if code = 0xFD then some [0x08]
  else if code = 0xFE then some []
  else if code < 0x0C then (textDigits[code.toNat]?).map text
  else (textWords[code.toNat - 0x0C]?).map text

/-- `GE_TEXT_BLINK_TOKEN`. -/
def geTextBlinkToken : UInt8 := 0xFE

/-- The variables of `ge_text_to_ascii`, the byte that lies before its static buffer `ret`, and
what the function has touched: the offsets of the bytes it has read, and every index it has
computed into `ret`. The bytes of `ret` after the terminating zero play no part. -/
structure GeText where
  len : UInt8
  before : UInt8
  pos : ℕ := 0
  ret : List UInt8 := []
  blinkNextToken : Bool := false
  reads : List ℕ := []
  indexed : List ℤ := []

/-- `*bytes++`. -/
def GeText.read (self : GeText) : GeText :=
  { self with pos := self.pos + 1, reads := self.reads ++ [self.pos] }

/-- `len--`. -/
def GeText.countDown (self : GeText) : GeText := { self with len := self.len - 1 }

def GeText.append (self : GeText) (str : List UInt8) : GeText :=
  { self with ret := strlcat self.ret str 1024 }

def GeText.index (self : GeText) (i : ℤ) : GeText := { self with indexed := self.indexed ++ [i] }

/-- `ret[strlen(ret)-1]` is used: of an empty string, that is the byte before the buffer. -/
def GeText.indexLast (self : GeText) : GeText := self.index (self.ret.length - 1)

/-- `isspace(ret[strlen(ret)-1])`. -/
def GeText.lastIsSpace (self : GeText) : Bool := isSpace (self.ret.getLast?.getD self.before)

/-- `ret[strlen(ret)-1] = 0`. -/
def GeText.cutLast (self : GeText) : GeText :=
  let self := self.indexLast
  if self.ret = [] then { self with before := 0 } else { self with ret := self.ret.dropLast }

/-- The end of a stretch of blinking text. -/
def GeText.stopBlinking (self : GeText) : GeText :=
  if self.lastIsSpace then self.indexLast.cutLast.append (text "> ")
  else self.indexLast.append (text ">")

/-- The part of the loop that looks up one `code`. Only `ge_text_to_ascii_one_line` treats a
newline in a way of its own. -/
def GeText.put (oneLine : Bool) (self : GeText) (code : UInt8) : GeText :=
  match geRs232TextTokenLookup code with
  | none => self.append (text "?")
  | some str =>
    if oneLine ∧ str.head? = some 0x0A then
      if self.len ≠ 0 then
        self.indexLast.append (if self.lastIsSpace then text "| " else text " | ")
      else self
    else if str.head? = some 0x08 then
      if self.ret ≠ [] then (self.index 0).cutLast else self.index 0
    else self.append str

/-- The loop of `ge_text_to_ascii`, over the bytes it was given. An error is a read past them. -/
def geTextLoop (oneLine : Bool) : List UInt8 → GeText → Except GeText GeText
  | [], self => if self.len = 0 then .ok self.countDown else .error self.countDown.read
  | code :: rest, self =>
    if self.len = 0 then .ok self.countDown
    else
      let self := self.countDown.read
      if code = geTextBlinkToken then
        let self := if self.blinkNextToken then self else self.append (text "<")
        let self : GeText := { self with blinkNextToken := true }
        -- the test `len--` of the byte that should blink also wraps around
        if self.len = 0 then geTextLoop oneLine rest self.countDown
        else
          match rest with
          | [] => .error self.countDown.read
          | code :: rest => geTextLoop oneLine rest (self.countDown.read.put oneLine code)
      else
        let self := if self.blinkNextToken then self.stopBlinking else self
        geTextLoop oneLine rest ({ self with blinkNextToken := false }.put oneLine code)

/-- Everything before the trimming. -/
def geTextDecode (oneLine : Bool) (before : UInt8) (bytes : List UInt8) : Except GeText GeText :=
  (geTextLoop oneLine bytes
    (GeText.index { len := UInt8.ofNat bytes.length, before := before } 0)).map fun self =>
      if self.blinkNextToken then self.stopBlinking else self

/-- The loop that removes trailing white space, from `len` on. -/
def geTextTrim : ℕ → GeText → GeText
  | 0, self => self
  | len + 1, self =>
    if isSpace (self.ret.getD len 0) then
      geTextTrim len { (self.index len).index len with ret := self.ret.take len }
    else self.index len

/-- The trimming starts with `len=strlen(ret)`, in eight bits. -/
def GeText.trimmed (self : GeText) : GeText :=
  geTextTrim (UInt8.ofNat self.ret.length).toNat self

def geTextToAsciiOneLine (before : UInt8) (bytes : List UInt8) : Except GeText GeText :=
  (geTextDecode true before bytes).map GeText.trimmed

def geTextToAscii (before : UInt8) (bytes : List UInt8) : Except GeText GeText :=
  (geTextDecode false before bytes).map GeText.trimmed

end Concordd
