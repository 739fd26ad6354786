import Mathlib

/-! The serial interface to the panel: hex framing, the byte receiver and the frame sender. -/
namespace Concordd

def geRs232StartOfMessage : UInt8 := 0x0A

def geRs232Ack : UInt8 := 0x06

def geRs232Nak : UInt8 := 0x15

abbrev geRs232MaxMessageSize : ℕ := 56

instance neZeroGeRs232MaxMessageSize : NeZero geRs232MaxMessageSize := ⟨by decide⟩

/-- The `GE_RS232_STATUS_*` codes. -/
inductive GeRs232Status
  | ok | error | wait | nak | timeout | messageTooBig | junk | badChecksum | messageTooSmall
  | queueFull | invalidArgument | already | forbidden
  deriving DecidableEq, Repr

/-- The code itself, as a D-Bus reply carries it. -/
def GeRs232Status.toInt : GeRs232Status → ℤ
  | .ok => 0
  | .error => -1
  | .wait => -2
  | .nak => -3
  | .timeout => -4
  | .messageTooBig => -5
  | .junk => -6
  | .badChecksum => -7
  | .messageTooSmall => -8
  | .queueFull => -9
  | .invalidArgument => -10
  | .already => -11
  | .forbidden => -12

/-- An array of `GE_RS232_MAX_MESSAGE_SIZE` bytes. -/
abbrev Buffer := Fin geRs232MaxMessageSize → UInt8

/-- What one call of the program does: the state it leaves, the calls it makes through
function pointers on the way, and the status it returns. -/
structure Outcome (σ ο : Type) where
  state : σ
  out : List ο
  status : GeRs232Status

/-- What a call reads from outside: the clock in seconds, and what `send_bytes` answers. -/
structure Env where
  now : ℤ
  sendRet : GeRs232Status

/-- Calls made through function pointers by the serial interface and the message queue.
`byteReceived`, `queueMessage` and `sendMessage` are marks for a byte taken from the line,
for a call of `ge_queue_message` and for a message handed to `ge_rs232_send_message`;
`finished none` marks where a message without a callback would have it called. -/
inductive LinkEvent
  | byteReceived (byte : UInt8)
  | sendBytes (bytes : List UInt8)
  | receivedMessage (buffer : Buffer) (len : UInt8)
  | gotResponse (didAck : Bool)
  | queueMessage (data : List UInt8) (finished : Option ℕ) (status : GeRs232Status)
  | sendMessage (data : List UInt8)
  | finished (callback : Option ℕ) (status : GeRs232Status)
  deriving DecidableEq

/-- `struct ge_rs232_s`. `gotResponse` says whether the `got_response` hook is set: the only
function ever stored there is `ge_queue_got_response`. `outputBuffer` is the first
`output_buffer_len` bytes of `output_buffer`. -/
structure GeRs232 where
  readingMessage : Bool
  currentByte : UInt8
  messageLen : UInt8
  nibbleBuffer : UInt8
  lastResponse : UInt8
  bufferSum : UInt8
  lastSent : ℤ
  buffer : Buffer
  outputBuffer : List UInt8
  outputAttemptCount : UInt8
  gotResponse : Bool

/-- `'0'` to `'9'` and `'A'` to `'F'`, by the low four bits. -/
def intToHexDigit (x : UInt8) : UInt8 :=
  if x &&& 0xF < 10 then 0x30 + (x &&& 0xF) else 0x37 + (x &&& 0xF)

/-- Any character that is not a hex digit reads as zero. -/
def hexDigitToInt (c : UInt8) : UInt8 :=
  if 0x30 ≤ c ∧ c ≤ 0x39 then c - 0x30
  else if 0x41 ≤ c ∧ c ≤ 0x46 then c - 0x37
  else if 0x61 ≤ c ∧ c ≤ 0x66 then c - 0x57
  else 0

/-- The byte two received characters stand for. -/
def hexValue (hi lo : UInt8) : UInt8 := (hexDigitToInt hi <<< 4) + hexDigitToInt lo

/-- `buffer[i] = value`; an index past the end writes nothing here. -/
def Buffer.write (buffer : Buffer) (i : UInt8) (value : UInt8) : Buffer :=
  fun k => if k.val = i.toNat then value else buffer k

def geRs232Init : GeRs232 where
  readingMessage := false
  currentByte := 0
  messageLen := 0
  nibbleBuffer := 0
  lastResponse := geRs232Ack
  bufferSum := 0
  lastSent := 0
  buffer := fun _ => 0
  outputBuffer := []
  outputAttemptCount := 0
  gotResponse := false

/-- The receiver's verdict on a length byte. -/
def geRs232LengthStatus (value : UInt8) : GeRs232Status :=
  if geRs232MaxMessageSize < value.toNat then .messageTooBig
  else if value.toNat < 2 then .messageTooSmall
  else .ok

/-- The end of `ge_rs232_receive_byte`, once `value` is stored or is the accepted length.
`received_message` is called last, so its own effects and its status come after this. -/
def geRs232FinishValue (self : GeRs232) (value : UInt8) : Outcome GeRs232 LinkEvent :=
  if self.messageLen ≤ self.currentByte then
    if self.bufferSum = value then
      ⟨{ self with readingMessage := false },
        [.sendBytes [geRs232Ack], .receivedMessage self.buffer (self.messageLen - 1)], .ok⟩
    else
      ⟨{ self with readingMessage := false }, [.sendBytes [geRs232Nak]], .badChecksum⟩
  else
    ⟨{ self with bufferSum := self.bufferSum + value }, [], .ok⟩

/-- `ge_rs232_receive_byte` from the point where two characters have made one `value`. -/
def geRs232ReceiveValue (self : GeRs232) (value : UInt8) : Outcome GeRs232 LinkEvent :=
  if self.messageLen = 255 then
    if geRs232LengthStatus value = .ok then
      geRs232FinishValue { self with messageLen := value, currentByte := 0 } value
    else
      ⟨{ self with readingMessage := false }, [], geRs232LengthStatus value⟩
  else
    geRs232FinishValue { self with
      buffer := self.buffer.write self.currentByte value
      currentByte := self.currentByte + 1 } value

/-- `ge_rs232_receive_byte`. The calls it makes are its last actions, so what the callbacks do
to the interface follows the state given here. -/
def geRs232ReceiveByte (self : GeRs232) (byte : UInt8) : Outcome GeRs232 LinkEvent :=
  if byte = geRs232StartOfMessage then
    ⟨{ self with
        readingMessage := true
        currentByte := 0
        messageLen := 255
        nibbleBuffer := 0
        bufferSum := 0 }, [], .ok⟩
  else if byte = geRs232Ack ∧ self.lastResponse = 0 then
    ⟨{ self with lastResponse := geRs232Ack },
      if self.gotResponse then [.gotResponse true] else [], .ok⟩
  else if byte = geRs232Nak ∧ self.lastResponse = 0 then
    ⟨{ self with lastResponse := geRs232Nak },
      if self.gotResponse then [.gotResponse false] else [], .ok⟩
  else if self.readingMessage then
    if self.nibbleBuffer = 0 then
      ⟨{ self with nibbleBuffer := byte }, [], .ok⟩
    else
      geRs232ReceiveValue { self with nibbleBuffer := 0 } (hexValue self.nibbleBuffer byte)
  else
    ⟨self, [], .junk⟩

def geRs232ReadyToSend (env : Env) (self : GeRs232) : GeRs232Status :=
  if self.lastResponse = geRs232Ack then .ok
  else if self.lastResponse = geRs232Nak then .nak
  else if env.now - self.lastSent > 1 then .timeout
  else .wait

/-- The loop of `ge_rs232_send_message` over the data: the running checksum, and the
characters it writes through `buffer_ptr`. -/
def geRs232WriteData : UInt8 → List UInt8 → UInt8 × List UInt8
  | checksum, [] => (checksum, [])
  | checksum, b :: data =>
    let rest := geRs232WriteData (checksum + b) data
    (rest.1, intToHexDigit (b >>> 4) :: intToHexDigit b :: rest.2)

/-- Every character `ge_rs232_send_message` writes into its local buffer, in order. -/
def geRs232Frame (data : List UInt8) : List UInt8 :=
  let length := UInt8.ofNat data.length + 1
  let body := geRs232WriteData length data
  geRs232StartOfMessage :: intToHexDigit (length >>> 4) :: intToHexDigit length ::
    (body.2 ++ [intToHexDigit (body.1 >>> 4), intToHexDigit body.1])

/-- The part of `ge_rs232_send_message` after its checks and the copy to `output_buffer`. -/
def geRs232WriteFrame (env : Env) (self : GeRs232) (data : List UInt8) :
    Outcome GeRs232 LinkEvent :=
  let self := { self with
    outputAttemptCount := self.outputAttemptCount + 1
    lastResponse := 0 }
  if env.sendRet = .ok then
    ⟨{ self with lastSent := env.now }, [.sendBytes (geRs232Frame data)], .ok⟩
  else
    ⟨self, [.sendBytes (geRs232Frame data)], env.sendRet⟩

/-- `ge_rs232_send_message` for data outside `output_buffer`. -/
def geRs232SendMessage (env : Env) (self : GeRs232) (data : List UInt8) :
    Outcome GeRs232 LinkEvent :=
  if geRs232MaxMessageSize < data.length then ⟨self, [], .messageTooBig⟩
  else if data.length = 0 then ⟨self, [], .error⟩
  else geRs232WriteFrame env { self with outputBuffer := data, outputAttemptCount := 0 } data

/-- The bytes `received_message` is given: the first `len` of the buffer. -/
def framePayload (buffer : Buffer) (len : UInt8) : List UInt8 :=
  (List.ofFn buffer).take len.toNat

theorem hexValue_intToHexDigit (v : UInt8) :
    hexValue (intToHexDigit (v >>> 4)) (intToHexDigit v) = v := by
  revert v
  decide +kernel

end Concordd
