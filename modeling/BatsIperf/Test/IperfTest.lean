import BatsIperf.Stream.IperfStream

/-!
# A throughput test

One object plays both ends: the sender announces the parameters, opens the data streams when they are acknowledged, sends when the receiver is ready and reports when the time is up; the receiver listens, accepts and acknowledges.

Every function below is a callback or a call of the main loop. It returns the new object and the control messages it sends, in order. `clock` is what the successive reads of the monotonic clock return, and `streamId` is the next value of the process-wide counter that numbers the streams.
-/

namespace BatsIperf

open Octets

structure IperfTest where
  testConfig : TestConfig
  testId : UInt32
  /-- Whether the control channel is known. -/
  ctrlChn : Bool := false
  state : TestState := .testNone
  isStopped : Bool := false
  isReadyReceived : Bool := false
  /-- The configuration of the listener for data streams, where there is one. -/
  dataChnListener : Option BatsConfiguration := none
  testStreams : List IperfStream := []
  passedTicks : Int := 0

namespace IperfTest

def controlHeader (test : IperfTest) (actionCode numOfStreams : UInt8) : IperfControlData where
  testId := test.testId
  actionCode := actionCode
  numOfStreams := numOfStreams

/-- A control message in a zeroed buffer of `size` bytes. -/
def message (test : IperfTest) (size : Nat) (actionCode numOfStreams : UInt8) (body : Octets) : Except Fault Octets := do
  Fault.require .failedAssert (test.testId ≠ 0)
  Fault.need .outOfBounds (fill size ((test.controlHeader actionCode numOfStreams).encode ++ body))

/-! ### Messages a test sends -/

def sendTestParameters (test : IperfTest) : Except Fault (IperfTest × List Octets) := do
  let bytes ← test.message 300 2 (.ofNat test.testStreams.length) test.testConfig.serialize
  Fault.require .nullPointer test.ctrlChn
  return ({ test with state := .testExchangeParameters }, [bytes])

/-- The state after an ack is sent: the first ack of a receiver starts it, the second ends it. -/
def stateAfterAck : TestState → TestState
  | .testNone => .testStart
  | .testStart => .testDone
  | state => state

def sendAck (test : IperfTest) : Except Fault (IperfTest × List Octets) := do
  let bytes ← test.message 300 4 0 []
  Fault.require .nullPointer test.ctrlChn
  return ({ test with state := stateAfterAck test.state }, [bytes])

def sendTestReady (test : IperfTest) : Except Fault (List Octets) :=
  if test.ctrlChn then do
    let bytes ← test.message 300 5 0 []
    return [bytes]
  else .ok []

/-- The buffer `SendTestSummary` fills; a report that does not fit is written behind its end. -/
def testSummary (test : IperfTest) : Except Fault Octets :=
  test.message 1100 3 (.ofNat test.testStreams.length) (test.testStreams.flatMap IperfStream.serializeReport)

def sendTestSummary (test : IperfTest) : Except Fault (IperfTest × List Octets) :=
  if test.ctrlChn then do
    let bytes ← test.testSummary
    return ({ test with state := .testExchangeReports }, [bytes])
  else .ok (test, [])

/-! ### Control messages a test handles -/

/-- The streams the sender opens; UDP streams start sending at once. -/
def openStream (config : TestConfig) (clock : Nat → UInt64) (streamId i : Nat) : Except Fault IperfStream := do
  let stream ← (IperfStream.connecting config (streamId + i) (clock i)).startConnect
  if config.protocol = 11 then stream.startSend (clock i) else return stream

def handleAckMessage (test : IperfTest) (clock : Nat → UInt64) (streamId : Nat) : Except Fault IperfTest :=
  match test.state with
  | .testExchangeParameters => do
    let opened ← (List.range test.testConfig.numStreams.toNat).mapM (openStream test.testConfig clock streamId)
    return { test with state := .testStart, testStreams := test.testStreams ++ opened }
  | .testExchangeReports => .ok { test with state := .testDone }
  | .testNone | .testStart | .testDone => .ok test

def handleReadyMessage (test : IperfTest) (now : UInt64) : Except Fault IperfTest :=
  let test := { test with isReadyReceived := true }
  if test.state = .testStart then do
    let streams ← test.testStreams.mapM fun stream => stream.startSend now
    return { test with testStreams := streams }
  else .ok test

/-- One entry of a summary, offered to every stream in turn; the cursor stands behind the identifier and moves only where a stream takes the entry. -/
def matchStreams (config : TestConfig) (now : UInt64) (streamIdentifier : UInt64) :
    List IperfStream → Octets → Option (List IperfStream × Octets)
  | [], cursor => some ([], cursor)
  | stream :: rest, cursor =>
    if stream.streamIdentifier = streamIdentifier then do
      let (stream, cursor) ← stream.deserializeReport cursor
      -- over an unreliable protocol the FIN may be lost
      let stream := if isReliableProtocol config.protocol then stream else stream.finishReport now
      let (rest, cursor) ← matchStreams config now streamIdentifier rest cursor
      return (stream :: rest, cursor)
    else do
      let (rest, cursor) ← matchStreams config now streamIdentifier rest cursor
      return (stream :: rest, cursor)

def readSummary (config : TestConfig) (now : UInt64) : Nat → List IperfStream → Octets → Option (List IperfStream)
  | 0, streams, _ => some streams
  | entries + 1, streams, cursor => do
    let (streamIdentifier, cursor) ← nextWord cursor
    let (streams, cursor) ← matchStreams config now streamIdentifier streams cursor
    readSummary config now entries streams cursor

def tryPrintSummary (test : IperfTest) : IperfTest :=
  if test.testConfig.role = .roleReceiver then
    { test with testStreams := test.testStreams.map fun stream => { stream with isSumPrinted := true } }
  else test

def handleSummaryMessage (test : IperfTest) (bytes : Octets) (now : UInt64) : Except Fault (IperfTest × List Octets) :=
  if test.state = .testDone then .ok (test, [])
  else do
    let numOfStreams ← Fault.need .outOfBounds (IperfControlData.numOfStreamsAt bytes)
    let streams ← Fault.need .outOfBounds
      (readSummary test.testConfig now numOfStreams.toNat test.testStreams (IperfControlData.bodyOf bytes))
    let (test, sent) ← { test with testStreams := streams }.sendAck
    return (if isReliableProtocol test.testConfig.protocol then test else test.tryPrintSummary, sent)

/-- The frame type the listening end gives its listener; a value without a branch keeps the default. -/
def listenFrameType (protocol : Int) : BATSFrameType :=
  if protocol = 10 then .batsHeaderMin
  else if protocol = 11 ∨ protocol = 12 then .transparent
  else .batsHeaderV1

def listenConfiguration (config : TestConfig) : BatsConfiguration where
  connectionTimeout := connectionTimeout config
  transportMode := batsTransMode config.protocol
  frameType := listenFrameType config.protocol

/-- The configuration of a receiver once it has taken over the received parameters. -/
def receiverConfig (config received : TestConfig) : TestConfig :=
  { received with
    resolution := config.resolution
    isDebugMode := config.isDebugMode
    isPreciseTimeEnabled := config.isPreciseTimeEnabled
    role := .roleReceiver }

def handleTestParameters (test : IperfTest) (body : Octets) : Except Fault (IperfTest × List Octets) :=
  if test.state = .testDone then .ok (test, [])
  else do
    let received ← Fault.need .outOfBounds (TestConfig.deserialize {} body)
    { test with
      testConfig := receiverConfig test.testConfig received
      dataChnListener := some (listenConfiguration received) }.sendAck

def handleAction (test : IperfTest) (actionCode : UInt8) (bytes : Octets) (clock : Nat → UInt64) (streamId : Nat) :
    Except Fault (IperfTest × List Octets) :=
  match actionCode with
  | 4 => do
    let test ← test.handleAckMessage clock streamId
    return (test, [])
  | 3 => test.handleSummaryMessage bytes (clock 0)
  | 2 => test.handleTestParameters (IperfControlData.bodyOf bytes)
  | 5 => do
    let test ← test.handleReadyMessage (clock 0)
    return (test, [])
  | _ => .ok (test, [])

def handleControlMessage (test : IperfTest) (bytes : Octets) (clock : Nat → UInt64) (streamId : Nat) :
    Except Fault (IperfTest × List Octets) := do
  let testId ← Fault.need .outOfBounds (IperfControlData.testIdAt bytes)
  Fault.require .failedAssert (testId = test.testId)
  let actionCode ← Fault.need .outOfBounds (IperfControlData.actionCodeAt bytes)
  { test with ctrlChn := true }.handleAction actionCode bytes clock streamId

/-! ### Connections -/

/-- `BATS_CONNECTION_ESTABLISHED` on the control channel. -/
def ctrlChannelEstablished (test : IperfTest) : Except Fault (IperfTest × List Octets) :=
  { test with ctrlChn := true }.sendTestParameters

/-- `BATS_LISTEN_NEW_CONNECTION` on the listener for data streams. -/
def dataListenCallback (test : IperfTest) (streamId : Nat) (idealBufferLength : Int) :
    Except Fault (IperfTest × List Octets) := do
  let config := { test.testConfig with role := .roleReceiver }
  let stream ← IperfStream.accepted config streamId idealBufferLength
  let test := { test with testStreams := test.testStreams ++ [stream] }
  if test.testConfig.protocol ≠ 11 ∧ test.testConfig.numStreams = test.testStreams.length then do
    let sent ← test.sendTestReady
    return (test, sent)
  else return (test, [])

/-! ### Calls of the main loop -/

/-- Whether every stream is connected and their number is the configured one. The last comparison is also stored as the ready flag. -/
def isStreamReady (test : IperfTest) : Bool × IperfTest :=
  if test.testStreams.all IperfStream.isConnected then
    let ready := decide (test.testConfig.numStreams - test.testStreams.length = 0)
    (ready, { test with isReadyReceived := ready })
  else (false, test)

def isStreamDone (test : IperfTest) : Bool :=
  test.testStreams.isEmpty ||
    (test.testStreams.all (fun stream => stream.state == .streamDone) &&
      decide (test.testConfig.numStreams - test.testStreams.length = 0))

/-- `passed_ticks_++ > time * resolution`, and then whether this tick is one of a snapshot. -/
def tick (test : IperfTest) : Except Fault (Bool × Bool × IperfTest) := do
  let expired := decide ((test.passedTicks : ℚ) > test.testConfig.time * test.testConfig.resolution)
  let test := { test with passedTicks := test.passedTicks + 1 }
  if expired then return (true, false, test)
  let ticks := stdRound (test.testConfig.interval * test.testConfig.resolution)
  Fault.require .terminated (ticks ≠ 0)
  return (false, test.passedTicks.tmod ticks = 0, test)

def checkStreamIntervalReceive (test : IperfTest) (now : UInt64) : Except Fault IperfTest :=
  if test.testConfig.role = .roleReceiver then do
    let (_, isSnapshot, test) ← test.tick
    return if isSnapshot then { test with testStreams := test.testStreams.map (·.isIntervalDataReceivedTimeout now) }
      else test
  else .ok test

def testFinishState (test : IperfTest) (now : UInt64) : Except Fault (Bool × IperfTest) :=
  if test.testConfig.role ≠ .roleSender then do
    let test ← test.checkStreamIntervalReceive now
    return (false, test)
  else if test.state = .testDone then .ok (true, test)
  else do
    let (expired, isSnapshot, test) ← test.tick
    if expired then return (true, test)
    if ¬ isSnapshot then return (false, test)
    let streams := test.testStreams.map fun stream =>
      if stream.state = .streamDone then stream else stream.snapshotReport now
    let test := { test with testStreams := streams }
    if test.testStreams.all (fun stream => stream.state == .streamDone) then
      return (true, { test with state := .testDone })
    else return (false, test)

/-- The first part of `OnSentFinished`; the second is `sendTestSummary`. -/
def finishReports (test : IperfTest) (now : UInt64) : IperfTest :=
  { test with testStreams := test.testStreams.map (·.finishReport now) }

def onSentFinished (test : IperfTest) (now : UInt64) : Except Fault (IperfTest × List Octets) :=
  if test.testConfig.role = .roleNone then .ok (test, [])
  else (test.finishReports now).sendTestSummary

/-- Only the first call does anything. The streams are stopped, printed and given up. -/
def stop (test : IperfTest) (now : UInt64) : IperfTest :=
  if test.isStopped then test
  else
    let test := { test with
      isStopped := true
      state := .testDone
      testStreams := test.testStreams.map fun stream => IperfStream.stop stream now }
    { test.tryPrintSummary with testStreams := [] }

/-- `BATS_CONNECTION_CLOSED` and `BATS_CONNECTION_SHUTDOWN_BY_PEER` on the control channel. -/
def ctrlChannelClosed (test : IperfTest) (now : UInt64) : IperfTest :=
  { test with ctrlChn := false }.stop now

end IperfTest

end BatsIperf
