import BatsIperf.Foundation.BinaryFormat
import BatsIperf.Stream.Report

/-!
# A data stream of a test

A stream owns one data connection, counts its traffic and answers the events of the connection. The connecting end creates the connection and sends from a thread of its own, the accepting end is handed a connection by the listener.

The functions below are the callbacks and the calls the test makes. Each runs to its end, and what another thread does to the flags of a loop while it runs is an argument of that loop.
-/

namespace BatsIperf

inductive StreamState
  | streamNone | streamStart | streamStop | streamDone
  deriving DecidableEq

inductive ConnectionState
  | connNone | connConnecting | connConnected | connDisconnected
  deriving DecidableEq

/-- The sending thread before its first check of the connection and after it, and a thread the check has ended. The handle stays joinable in all three. -/
inductive SendingThread
  | notStarted | starting | sending | ended
  deriving DecidableEq

/-- The events of a connection, apart from received data. -/
inductive ConnEvent
  | none | failed | established (idealBufferLength : Int) | timeout | shutdownByPeer | writable | sendComplete
  | sendDataError | bufferFull | closed | error | alreadyConnected | idealBufferLength (length : Int) | allDataAcked
  deriving DecidableEq

/-- The events that take an established connection away. -/
def ConnEvent.isLoss : ConnEvent → Bool
  | .closed | .shutdownByPeer | .failed | .timeout => true
  | _ => false

structure IperfStream where
  config : TestConfig
  streamIdentifier : UInt64 := 0
  isSumPrinted : Bool := false
  isSumReceived : Bool := false
  isFinReceived : Bool := false
  isFinAcked : Bool := false
  isWritable : Bool := false
  hasErrInSend : Bool := false
  isStopped : Bool := false
  connState : ConnectionState := .connNone
  state : StreamState := .streamNone
  /-- The configuration of the connector, where there is one. -/
  connector : Option BatsConfiguration := .none
  connectRetryCnt : Nat := 0
  report : TestReportOfStream := {}
  /-- Whether a connection is kept. -/
  dataConn : Bool := false
  idealLength : Int := 0
  sendingThread : SendingThread := .notStarted

open BinaryFormat

/-! ### Times in floats

The interval and the time of a test are floats. What is computed from them is rounded after each operation. -/

def connectionTimeout (config : TestConfig) : Int :=
  truncate (binary32.round (binary32.round (binary32.round config.interval * binary32.round config.time) * 1000))

/-- `interval * 1000`. -/
def intervalMs (config : TestConfig) : ℚ := binary32.round (binary32.round config.interval * 1000)

/-- The interval in milliseconds, or the part of it that a factor says. The factor and the product are doubles. -/
def partOfInterval (config : TestConfig) (factor : ℚ) : Int :=
  truncate (binary64.round (intervalMs config * binary64.round factor))

/-- Whether fewer snapshots were taken than `time / interval`. Divided by 0 a time is infinite, or no number where it is 0 too. -/
def owesSnapshot (config : TestConfig) (snapshotCnt : Int) : Bool :=
  let time := binary32.round config.time
  let interval := binary32.round config.interval
  if interval = 0 then 0 < time
  else binary32.round snapshotCnt < binary32.round (time / interval)

namespace IperfStream

def maxConnectRetry : Nat := 3

/-- The size of `iperf_data_`. -/
def dataSize (config : TestConfig) : Int := if config.protocol = 2 then 60000000 else 150000

def isConnected (stream : IperfStream) : Bool := stream.connState == .connConnected

def switchDataBlockLength (stream : IperfStream) (idealLength : Int) : Except Fault IperfStream := do
  Fault.require .failedAssert (idealLength > 0)
  Fault.require .failedAssert (idealLength ≤ dataSize stream.config)
  return { stream with idealLength := idealLength }

/-- The frame type the connecting end gives its connector; a value without a branch keeps the default. -/
def connectFrameType (protocol : Int) : BATSFrameType :=
  if protocol = 10 then .batsHeaderMin
  else if protocol = 11 ∨ protocol = 12 then .transparent
  else .batsHeaderV1

def connectConfiguration (config : TestConfig) : BatsConfiguration where
  connectionTimeout := connectionTimeout config
  transportMode := batsTransMode config.protocol
  frameType := connectFrameType config.protocol

/-- The constructor of the connecting end. The identifier is the clock plus the number of the stream in the process. -/
def connecting (config : TestConfig) (streamId : Nat) (now : UInt64) : IperfStream where
  config := config
  streamIdentifier := now + .ofNat streamId
  connector := some (connectConfiguration config)
  report := { streamId := streamId
              senderReport := { interval := config.interval }, receiverReport := { interval := config.interval } }

/-- The constructor of the accepting end: the identifier stays 0 until data is received. -/
def accepted (config : TestConfig) (streamId : Nat) (idealBufferLength : Int) : Except Fault IperfStream :=
  switchDataBlockLength
    { config := config
      connState := .connConnected
      report := { streamId := streamId
                  senderReport := { interval := config.interval }, receiverReport := { interval := config.interval } }
      dataConn := true } idealBufferLength

def finishReport (stream : IperfStream) (now : UInt64) : IperfStream :=
  match stream.config.role with
  | .roleSender =>
    if stream.state = .streamDone then stream
    else { stream with state := .streamStop, report := stream.report.genSendSummary stream.config }
  | .roleReceiver =>
    let received := stream.report.receiverReport
    -- the last snapshot is forced where the polls took too few
    let received :=
      if owesSnapshot stream.config received.snapshotCnt then
        received.snapshotRxTxReport now (escapedTime now received.lastSnapshotTime)
      else received
    { stream with
      state := .streamStop
      report := { stream.report with receiverReport := received }.genReceiveSummary stream.config }
  | _ => stream

/-- The poll of a sender: a snapshot once 95 percent of the interval have passed. -/
def snapshotReport (stream : IperfStream) (now : UInt64) : IperfStream :=
  let sent := stream.report.senderReport
  let escaped := escapedTime now sent.lastSnapshotTime
  if partOfInterval stream.config (95 / 100) ≤ escaped then
    { stream with report := { stream.report with senderReport := sent.snapshotRxTxReport now escaped } }
  else stream

/-- The poll of a receiver: a snapshot where the next one is due within 50 ms. The sums and differences of times wrap. -/
def isIntervalDataReceivedTimeout (stream : IperfStream) (now : UInt64) : IperfStream :=
  let received := stream.report.receiverReport
  let expected := received.lastSnapshotTime + .ofNat (truncate (intervalMs stream.config)).toNat
  if now < expected - 50 then stream
  else
    { stream with report := { stream.report with
      receiverReport := received.snapshotRxTxReport now (now - received.lastSnapshotTime).toNat } }

def serializeReport (stream : IperfStream) : Octets :=
  Octets.words [stream.streamIdentifier] ++ stream.report.serialize

def deserializeReport (stream : IperfStream) (cursor : Octets) : Option (IperfStream × Octets) := do
  let (report, cursor) ← stream.report.deserialize cursor
  return ({ stream with report := report, isSumReceived := true }, cursor)

def stop (stream : IperfStream) (now : UInt64) : IperfStream :=
  if stream.isStopped then stream
  else
    let stream := { stream with isStopped := true }
    let stream :=
      if stream.config.role = .roleReceiver ∧ ¬ stream.isFinReceived then stream.finishReport now else stream
    { stream with state := .streamDone, connState := .connDisconnected, dataConn := false, connector := .none }

def startConnect (stream : IperfStream) : Except Fault IperfStream := do
  Fault.require .failedAssert stream.connector.isSome
  return { stream with connState := .connConnecting }

/-- Overwriting the handle of a thread that was started before ends the program. -/
def startSend (stream : IperfStream) (now : UInt64) : Except Fault IperfStream := do
  let sent := stream.report.senderReport
  let sent := if sent.summary.bytes = 0 ∧ sent.lastSnapshotTime = 0 then { sent with lastSnapshotTime := now } else sent
  Fault.require .terminated (stream.sendingThread = .notStarted)
  return { stream with
    report := { stream.report with senderReport := sent }
    state := .streamStart
    sendingThread := .starting }

def sendingThreadStart (stream : IperfStream) (now : UInt64) : IperfStream :=
  if stream.isConnected then { stream with sendingThread := .sending }
  else { stream.stop now with sendingThread := .ended }

def connectionCallback (stream : IperfStream) : ConnEvent → Except Fault IperfStream
  | .established idealBufferLength =>
    if stream.config.role = .roleSender then
      { stream with connState := .connConnected, dataConn := true }.switchDataBlockLength idealBufferLength
    else .ok stream
  | .closed | .shutdownByPeer => .ok { stream with connState := .connDisconnected }
  | .bufferFull | .writable => .ok { stream with isWritable := true }
  | .sendDataError => .ok { stream with hasErrInSend := true }
  | .idealBufferLength length => stream.switchDataBlockLength length
  | .failed | .timeout => do
    if stream.connectRetryCnt < maxConnectRetry then
      Fault.require .nullPointer stream.connector.isSome
      let stream ← stream.startConnect
      return { stream with connectRetryCnt := stream.connectRetryCnt + 1 }
    else return stream
  | .none | .sendComplete | .error | .alreadyConnected | .allDataAcked => .ok stream

/-- What one pass of a loop that repeats a send loads, whether a `Stop()` of another thread has left it the connection, and what the repeated send answers. -/
structure RetryView where
  state : StreamState
  hasErrInSend : Bool
  isWritable : Bool
  dataConn : Bool
  sendOk : Bool

/-- The loop of `OnReceivedFIN` after a send that failed: whether a send succeeded before the loop was left. -/
def retrySend : List RetryView → Except Fault Bool
  | [] => .error .noProgress
  | view :: views =>
    if view.state = .streamDone then .ok false
    else if view.hasErrInSend then .ok false
    else if view.isWritable then do
      Fault.require .nullPointer view.dataConn
      if view.sendOk then .ok true else retrySend views
    else retrySend views

/-- The FIN-ACK, from the answer to the first attempt and what the passes of the retry loop see. -/
def sendFinAck (sendOk : Bool) (views : List RetryView) : Except Fault Bool :=
  if sendOk then .ok true else retrySend views

/-- Whether the FIN-ACK was sent, where the handling gets behind its loop. -/
def finAckSent (sendOk : Bool) (views : List RetryView) : Option Bool := (sendFinAck sendOk views).toOption

theorem finAckSent_eq_some {sendOk isSent : Bool} {views : List RetryView} :
    finAckSent sendOk views = some isSent ↔ sendFinAck sendOk views = .ok isSent := Fault.toOption_eq_some

/-- A FIN-ACK that was sent is counted in the sender report. -/
def countFinAck (stream : IperfStream) (sendOk : Bool) : IperfStream :=
  if sendOk then
    { stream with report := { stream.report with senderReport := stream.report.senderReport.count stream.idealLength } }
  else stream

def onReceivedFIN (stream : IperfStream) (sendOk : Bool) (views : List RetryView) (now : UInt64) :
    Except Fault IperfStream := do
  Fault.require .nullPointer stream.dataConn
  let sendOk ← sendFinAck sendOk views
  let stream := (stream.countFinAck sendOk).finishReport now
  return { stream with isFinReceived := true, state := .streamDone }

/-- What received data and the sending loop may change: reports and flags, and the identifier a receiver learns. -/
structure Activity where
  streamIdentifier : UInt64
  isSumPrinted : Bool
  isFinReceived : Bool
  isFinAcked : Bool
  isWritable : Bool
  hasErrInSend : Bool
  state : StreamState
  report : TestReportOfStream

def act (stream : IperfStream) (activity : Activity) : IperfStream :=
  { stream with
    streamIdentifier := activity.streamIdentifier
    isSumPrinted := activity.isSumPrinted
    isFinReceived := activity.isFinReceived
    isFinAcked := activity.isFinAcked
    isWritable := activity.isWritable
    hasErrInSend := activity.hasErrInSend
    state := activity.state
    report := activity.report }

/-! ### What leaves the connection alone -/

/-- Two states of a stream that differ in reports and flags only. -/
structure SameConnection (before after : IperfStream) : Prop where
  config : after.config = before.config
  isStopped : after.isStopped = before.isStopped
  connState : after.connState = before.connState
  connector : after.connector = before.connector
  connectRetryCnt : after.connectRetryCnt = before.connectRetryCnt
  dataConn : after.dataConn = before.dataConn
  sendingThread : after.sendingThread = before.sendingThread

theorem SameConnection.isConnected {before after : IperfStream} (h : SameConnection before after) :
    after.isConnected = before.isConnected := by
  rw [IperfStream.isConnected, h.connState, IperfStream.isConnected]

theorem act_same (stream : IperfStream) (activity : Activity) : SameConnection stream (stream.act activity) := by
  constructor <;> rfl

theorem finishReport_same (stream : IperfStream) (now : UInt64) : SameConnection stream (stream.finishReport now) := by
  unfold finishReport
  split
  · split <;> constructor <;> rfl
  all_goals constructor <;> rfl

theorem snapshotReport_same (stream : IperfStream) (now : UInt64) :
    SameConnection stream (stream.snapshotReport now) := by
  unfold snapshotReport
  dsimp only
  split <;> constructor <;> rfl

theorem isIntervalDataReceivedTimeout_same (stream : IperfStream) (now : UInt64) :
    SameConnection stream (stream.isIntervalDataReceivedTimeout now) := by
  unfold isIntervalDataReceivedTimeout
  dsimp only
  split <;> constructor <;> rfl

theorem SameConnection.refl (stream : IperfStream) : SameConnection stream stream := by constructor <;> rfl

/-! ### What the steps do to the connection -/

theorem switchDataBlockLength_eq {stream switched : IperfStream} {idealLength : Int}
    (h : stream.switchDataBlockLength idealLength = .ok switched) :
    switched = { stream with idealLength := idealLength } := by
  obtain ⟨_, _, h⟩ := Fault.bind_eq_ok.mp h
  obtain ⟨_, _, h⟩ := Fault.bind_eq_ok.mp h
  exact (Fault.pure_eq_ok.mp h).symm

theorem deserializeReport_eq {stream next : IperfStream} {cursor rest : Octets}
    (h : stream.deserializeReport cursor = some (next, rest)) : ∃ bytes datagrams bitrate,
      next = { stream with report := stream.report.setSender bytes datagrams bitrate, isSumReceived := true } := by
  obtain ⟨⟨report, left⟩, hreport, hnext⟩ := Option.bind_eq_some_iff.mp h
  obtain ⟨rfl, rfl⟩ := Prod.mk.inj (Option.some.inj hnext)
  obtain ⟨bytes, datagrams, bitrate, rfl⟩ := TestReportOfStream.deserialize_eq hreport
  exact ⟨bytes, datagrams, bitrate, rfl⟩

/-- What an event does to a stream where the callback returns. -/
inductive EventMove (stream : IperfStream) : ConnEvent → IperfStream → Prop
  | connected {length : Int} (hrole : stream.config.role = .roleSender) :
    EventMove stream (.established length)
      { stream with connState := .connConnected, dataConn := true, idealLength := length }
  | ignored {length : Int} (hrole : stream.config.role ≠ .roleSender) : EventMove stream (.established length) stream
  | measured {length : Int} : EventMove stream (.idealBufferLength length) { stream with idealLength := length }
  | retried {event : ConnEvent} (hevent : event = .failed ∨ event = .timeout) :
    EventMove stream event
      { stream with connState := .connConnecting, connectRetryCnt := stream.connectRetryCnt + 1 }
  | givenUp {event : ConnEvent} (hevent : event = .failed ∨ event = .timeout) : EventMove stream event stream
  | closed {event : ConnEvent} (hevent : event = .closed ∨ event = .shutdownByPeer) :
    EventMove stream event { stream with connState := .connDisconnected }
  | writable {event : ConnEvent} (hevent : event = .bufferFull ∨ event = .writable) :
    EventMove stream event { stream with isWritable := true }
  | sendDataError : EventMove stream .sendDataError { stream with hasErrInSend := true }
  | other {event : ConnEvent} (hevent : event ∈ [.none, .sendComplete, .error, .alreadyConnected, .allDataAcked]) :
    EventMove stream event stream

theorem connectionCallback_move {stream next : IperfStream} {event : ConnEvent}
    (h : stream.connectionCallback event = .ok next) : EventMove stream event next := by
  cases event with
  | established length =>
    simp only [connectionCallback] at h
    split at h
    · rename_i hrole
      obtain rfl := switchDataBlockLength_eq h
      exact .connected hrole
    · rename_i hrole
      obtain rfl := Except.ok.inj h
      exact .ignored hrole
  | idealBufferLength length =>
    obtain rfl := switchDataBlockLength_eq h
    exact .measured
  | failed | timeout =>
    simp only [connectionCallback] at h
    split at h
    · obtain ⟨_, _, h⟩ := Fault.bind_eq_ok.mp h
      obtain ⟨started, hstart, h⟩ := Fault.bind_eq_ok.mp h
      obtain ⟨_, _, hstart⟩ := Fault.bind_eq_ok.mp hstart
      obtain rfl := Fault.pure_eq_ok.mp hstart
      obtain rfl := Fault.pure_eq_ok.mp h
      exact .retried (by simp)
    · obtain rfl := Fault.pure_eq_ok.mp h
      exact .givenUp (by simp)
  | closed | shutdownByPeer =>
    obtain rfl := Except.ok.inj h
    exact .closed (by simp)
  | bufferFull | writable =>
    obtain rfl := Except.ok.inj h
    exact .writable (by simp)
  | sendDataError =>
    obtain rfl := Except.ok.inj h
    exact .sendDataError
  | none | sendComplete | error | alreadyConnected | allDataAcked =>
    obtain rfl := Except.ok.inj h
    exact .other (by simp)

/-- No other event than a loss disconnects a stream, and no event touches its thread. -/
theorem connectionCallback_connected {stream next : IperfStream} {event : ConnEvent}
    (h : stream.connectionCallback event = .ok next) :
    next.sendingThread = stream.sendingThread ∧
      (¬ event.isLoss → stream.isConnected → next.isConnected) := by
  cases connectionCallback_move h with
  | connected => exact ⟨rfl, fun _ _ => rfl⟩
  | retried hevent | closed hevent =>
    refine ⟨rfl, fun hno => absurd ?_ hno⟩
    rcases hevent with rfl | rfl <;> rfl
  | ignored | measured | givenUp | writable | sendDataError | other => exact ⟨rfl, fun _ h => h⟩

theorem connectionCallback_config {stream next : IperfStream} {event : ConnEvent}
    (h : stream.connectionCallback event = .ok next) :
    next.config = stream.config ∧ next.isStopped = stream.isStopped ∧ next.isFinReceived = stream.isFinReceived := by
  cases connectionCallback_move h <;> exact ⟨rfl, rfl, rfl⟩

theorem startSend_eq {stream started : IperfStream} {now : UInt64} (h : stream.startSend now = .ok started) :
    started.connState = stream.connState ∧ started.sendingThread = .starting ∧ started.config = stream.config := by
  obtain ⟨_, _, h⟩ := Fault.bind_eq_ok.mp h
  obtain rfl := Fault.pure_eq_ok.mp h
  exact ⟨rfl, rfl, rfl⟩

end IperfStream

end BatsIperf
