import BatsIperf.Foundation.Narrowing
import BatsIperf.Foundation.Octets
import Mathlib.Data.Rat.Floor

/-!
# Configuration, roles and the control message header

The data both kinds of test share: the test configuration with its wire form, the roles and states of a test, the protocol predicates, the part of the library configuration the tests fill in, and the header of a control message.

Machine integers of type `int` are integers, and every conversion the code makes to a narrower type is written as `Narrowing.signed` or `Narrowing.unsigned`. `float` and `double` values are rationals, and where a stream computes with them the result is rounded to the format.
-/

namespace BatsIperf

/-- A file path or a file name, as the bytes the system calls see. -/
abbrev Path := Octets

inductive TestRole
  | roleNone | roleSender | roleReceiver | roleFileSender | roleFileReceiver | roleObserver
  deriving DecidableEq

inductive TestState
  | testNone | testExchangeParameters | testStart | testExchangeReports | testDone
  deriving DecidableEq

inductive BATSFrameType
  | transparent | batsHeaderV0 | batsHeaderV1 | batsHeaderMin
  deriving DecidableEq

/-- `static_cast<BATSTransMode>(protocol)`: the enumeration has an 8-bit underlying type, and the code also casts values without an enumerator, such as 10 for TCP. -/
def batsTransMode (protocol : Int) : Nat := Narrowing.unsigned 8 protocol

def brtp : Nat := 1
def brctp : Nat := 2

def isReliableProtocol (protocol : Int) : Bool :=
  batsTransMode protocol == brtp || batsTransMode protocol == brctp || protocol == 10

def isSupportedProtocol (_protocol : Int) : Bool := true

/-- The part of `BatsConfiguration` that depends on the test, with the defaults of the library header. -/
structure BatsConfiguration where
  transportMode : Nat := brtp
  frameType : BATSFrameType := .batsHeaderV1
  connectionTimeout : Int := 2000
  deriving DecidableEq

structure TestConfig where
  interval : ℚ := 1
  time : ℚ := 10
  resolution : ℚ := 1
  numStreams : Int := 1
  protocol : Int := 0
  isReverseEnabled : Bool := false
  isCompressionEnabled : Bool := false
  isDebugMode : Bool := false
  isPreciseTimeEnabled : Bool := false
  port : Int := 5201
  maxAllowedSendingRate : Int := 0
  peerHost : String := ""
  files : List Path := []
  totalBytesInFiles : Int := 0
  numFiles : Int := 0
  role : TestRole := .roleNone

/-- `std::round`: halves are rounded away from zero. -/
def stdRound (x : ℚ) : Int := if 0 ≤ x then (x + 1 / 2).floor else -(-x + 1 / 2).floor

namespace TestConfig

open Octets

/-- `static_cast<uint32_t>(x * 100)`. -/
def hundredths (x : ℚ) : Nat := (x * 100).floor.toNat

def serialize (config : TestConfig) : Octets :=
  leBytes 4 (hundredths config.interval) ++ (leBytes 4 (hundredths config.time) ++
    (leBytes 1 (Narrowing.unsigned 8 config.protocol) ++ (leBytes 1 (if config.isReverseEnabled then 1 else 0) ++
      leBytes 2 (Narrowing.unsigned 16 config.port))))

/-- The fields the body carries are overwritten, every other field keeps its value. -/
def deserialize (config : TestConfig) (body : Octets) : Option TestConfig := do
  let (interval, body) ← nextLE 4 body
  let (time, body) ← nextLE 4 body
  let (protocol, body) ← nextLE 1 body
  let (isReverseEnabled, body) ← nextLE 1 body
  let (port, _) ← nextLE 2 body
  return { config with
    interval := interval / 100
    time := time / 100
    protocol := protocol
    isReverseEnabled := isReverseEnabled != 0
    port := port }

theorem length_serialize (config : TestConfig) : config.serialize.length = 12 := by
  simp only [serialize, List.length_append, length_leBytes]

theorem deserialize_serialize (config sent : TestConfig) (rest : Octets) :
    config.deserialize (sent.serialize ++ rest) = some { config with
      interval := ((hundredths sent.interval % 2 ^ 32 : Nat) : ℚ) / 100
      time := ((hundredths sent.time % 2 ^ 32 : Nat) : ℚ) / 100
      protocol := Narrowing.unsigned 8 sent.protocol
      isReverseEnabled := sent.isReverseEnabled
      port := Narrowing.unsigned 16 sent.port } := by
  have hprotocol : Narrowing.unsigned 8 sent.protocol % 256 ^ 1 = Narrowing.unsigned 8 sent.protocol :=
    Nat.mod_eq_of_lt (Narrowing.unsigned_lt 8 _)
  have hport : Narrowing.unsigned 16 sent.port % 256 ^ 2 = Narrowing.unsigned 16 sent.port :=
    Nat.mod_eq_of_lt (Narrowing.unsigned_lt 16 _)
  have hreverse : ((if sent.isReverseEnabled then 1 else 0) % 256 ^ 1 != 0) = sent.isReverseEnabled := by
    cases sent.isReverseEnabled <;> rfl
  simp only [deserialize, serialize, List.append_assoc, nextLE_leBytes_append, Option.bind_eq_bind,
    Option.bind_some, hprotocol, hport, hreverse]
  rfl

/-- A default configuration with the fields of a sent one, as they were narrowed. -/
def received (sent : TestConfig) : TestConfig :=
  { interval := ((hundredths sent.interval % 2 ^ 32 : Nat) : ℚ) / 100
    time := ((hundredths sent.time % 2 ^ 32 : Nat) : ℚ) / 100
    protocol := Narrowing.unsigned 8 sent.protocol
    isReverseEnabled := sent.isReverseEnabled
    port := Narrowing.unsigned 16 sent.port }

theorem needs_deserialize (config : TestConfig) : Needs 12 (deserialize config) :=
  (reads_nextLE 4).bind_needs fun _ => (reads_nextLE 4).bind_needs fun _ => (reads_nextLE 1).bind_needs fun _ =>
    (reads_nextLE 1).bind_needs fun _ => (reads_nextLE 2).bind_needs fun _ => needs_some _

theorem deserialize_default (sent : TestConfig) (rest : Octets) :
    deserialize {} (sent.serialize ++ rest) = some sent.received :=
  deserialize_serialize {} sent rest

end TestConfig

def batsIperfMagicCode : UInt64 := 0xa1b2c3d4a5b6c7d8

/-- The header of every control message. `actionCode` is 1 for a file transfer request, 2 for test parameters, 3 for a summary, 4 for an ack and 5 for the ready signal. -/
structure IperfControlData where
  magic : UInt64 := batsIperfMagicCode
  testId : UInt32
  actionCode : UInt8
  numOfStreams : UInt8 := 0
  param0 : UInt32 := 0
  param1 : UInt32 := 0
  param2 : UInt32 := 0
  param3 : UInt32 := 0
  deriving DecidableEq

namespace IperfControlData

open Octets

/-- The structure is not packed: two bytes of padding follow the two single bytes. -/
def encode (header : IperfControlData) : Octets :=
  leBytes 8 header.magic.toNat ++ (leBytes 4 header.testId.toNat ++ (leBytes 1 header.actionCode.toNat ++
    (leBytes 1 header.numOfStreams.toNat ++ (leBytes 2 0 ++ (leBytes 4 header.param0.toNat ++
      (leBytes 4 header.param1.toNat ++ (leBytes 4 header.param2.toNat ++ leBytes 4 header.param3.toNat)))))))

/-- The header at the start of a message and the body behind it. -/
def decode (message : Octets) : Option (IperfControlData × Octets) := do
  let (magic, rest) ← nextLE 8 message
  let (testId, rest) ← nextLE 4 rest
  let (actionCode, rest) ← nextLE 1 rest
  let (numOfStreams, rest) ← nextLE 1 rest
  let (_, rest) ← nextLE 2 rest
  let (param0, rest) ← nextLE 4 rest
  let (param1, rest) ← nextLE 4 rest
  let (param2, rest) ← nextLE 4 rest
  let (param3, rest) ← nextLE 4 rest
  return ({ magic := .ofNat magic, testId := .ofNat testId, actionCode := .ofNat actionCode
            numOfStreams := .ofNat numOfStreams, param0 := .ofNat param0, param1 := .ofNat param1
            param2 := .ofNat param2, param3 := .ofNat param3 }, rest)

/-! The handlers cast the message to a header and read its fields one by one, so a message may end before a field that is not read. -/

def size : Nat := 32

def testIdAt (message : Octets) : Option UInt32 := (leAt 4 8 message).map .ofNat

def actionCodeAt (message : Octets) : Option UInt8 := (leAt 1 12 message).map .ofNat

def numOfStreamsAt (message : Octets) : Option UInt8 := (leAt 1 13 message).map .ofNat

def param0At (message : Octets) : Option UInt32 := (leAt 4 16 message).map .ofNat

/-- `control_header` plus its size, which may lie behind the end of the message. -/
def bodyOf (message : Octets) : Octets := message.drop size

theorem length_encode (header : IperfControlData) : header.encode.length = 32 := by
  simp only [encode, List.length_append, length_leBytes]

theorem reads_decode : Reads 32 decode :=
  (reads_nextLE 8).bind fun _ => (reads_nextLE 4).bind fun _ => (reads_nextLE 1).bind fun _ =>
    (reads_nextLE 1).bind fun _ => (reads_nextLE 2).bind fun _ => (reads_nextLE 4).bind fun _ =>
      (reads_nextLE 4).bind fun _ => (reads_nextLE 4).bind fun _ => (reads_nextLE 4).bind fun _ => reads_pure _

theorem decode_encode (header : IperfControlData) (body : Octets) :
    decode (header.encode ++ body) = some (header, body) := by
  simp only [decode, encode, List.append_assoc, nextLE_leBytes_append, Option.bind_eq_bind, Option.bind_some,
    uint8_word, uint32_word, uint64_word]
  rfl

/-- The fields of a complete header, each read on its own. -/
structure Fields (message : Octets) (header : IperfControlData) (body : Octets) : Prop where
  testId : testIdAt message = some header.testId
  actionCode : actionCodeAt message = some header.actionCode
  numOfStreams : numOfStreamsAt message = some header.numOfStreams
  param0 : param0At message = some header.param0
  body : bodyOf message = body

theorem fields_of_decode {message : Octets} {header : IperfControlData} {body : Octets}
    (h : decode message = some (header, body)) : Fields message header body := by
  have hbody := (reads_decode.rest_eq h).2
  simp only [decode, Option.bind_eq_bind, Option.bind_eq_some_iff] at h
  obtain ⟨⟨magic, afterMagic⟩, hmagic, ⟨testId, afterId⟩, htestId, ⟨code, afterCode⟩, hcode, ⟨count, afterCount⟩, hcount,
    ⟨padding, afterPadding⟩, hpadding, ⟨param0, afterParam0⟩, hparam0, h⟩ := h
  obtain ⟨_, _, _, _, _, _, hheader⟩ := h
  obtain ⟨rfl, _⟩ := Prod.mk.inj (Option.some.inj hheader)
  obtain rfl : afterMagic = message.drop 8 := ((reads_nextLE 8).rest_eq hmagic).2
  obtain ⟨htestIdAt, rfl⟩ := leAt_of_nextLE htestId
  obtain ⟨hcodeAt, rfl⟩ := leAt_of_nextLE hcode
  obtain ⟨hcountAt, rfl⟩ := leAt_of_nextLE hcount
  obtain ⟨_, rfl⟩ := leAt_of_nextLE hpadding
  obtain ⟨hparam0At, _⟩ := leAt_of_nextLE hparam0
  exact
    { testId := congrArg (Option.map UInt32.ofNat) htestIdAt
      actionCode := congrArg (Option.map UInt8.ofNat) hcodeAt
      numOfStreams := congrArg (Option.map UInt8.ofNat) hcountAt
      param0 := congrArg (Option.map UInt32.ofNat) hparam0At
      body := hbody.symm }

theorem fields_encode (header : IperfControlData) (body : Octets) : Fields (header.encode ++ body) header body :=
  fields_of_decode (decode_encode header body)

end IperfControlData

/-- The action code of a message, 0 where the message ends before it. -/
def actionCode (bytes : Octets) : UInt8 := (IperfControlData.actionCodeAt bytes).getD 0

theorem actionCode_encode (header : IperfControlData) (body : Octets) :
    actionCode (header.encode ++ body) = header.actionCode := by
  rw [actionCode, (IperfControlData.fields_encode header body).actionCode, Option.getD_some]

end BatsIperf
