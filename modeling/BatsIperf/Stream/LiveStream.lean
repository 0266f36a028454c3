import BatsIperf.Foundation.SeqTools
import BatsIperf.Stream.IperfStream
import BatsIperf.Stream.TestData

/-!
# A stream at work

A stream with its data buffer, what it remembers of received data, and the place of its sending thread. Received data is handled in one callback; the sending thread takes one step at a time, so that callbacks and the calls of the test come between any two of them.

The recorder of sequence numbers and the comparison on their ring belong to the library and are the parameter `tools`. What `log` holds is read by no function; it is there to state what a stream has done.
-/

namespace BatsIperf

/-- The places of the sending thread in `StartSend` and `SendFIN`. A length is the one loaded for the block that is being sent. -/
inductive SendPoint
  | check | errorCheck | waitWritable | build
  | send (length : Int) | retry (length : Int) | countBytes (length : Int) | countDatagrams
  | fin | finSend | finRetry | finCountBytes | finCountDatagrams
  deriving DecidableEq

/-- One call of `OnReceivedIntervalData`: the interval it was handed and the number it counted. -/
structure IntervalCall where
  received : TestInterval
  actualReceived : Nat
  deriving DecidableEq

/-- A data packet as it was built, after how many snapshots and with how many datagrams counted. -/
structure BuiltPacket where
  data : IperfData
  snapshots : Nat
  index : Nat

structure StreamLog where
  /-- The lengths of the sends that were accepted. -/
  sends : List Int := []
  /-- How often `sender_report.summary.datagrams` was incremented. -/
  counted : Nat := 0
  /-- The intervals of the snapshots of the sender report, and what was counted at each. -/
  intervals : List TestInterval := []
  bounds : List Nat := []
  built : List BuiltPacket := []
  intervalCalls : List IntervalCall := []
  /-- The receiver report as each `SnapshotRxTxReport` found it. -/
  snapshots : List TestReport := []

structure LiveStream (Recorder : Type) extends IperfStream where
  iperfData : IperfData
  /-- `last_grp_id_`, which starts at -1. -/
  lastGrpId : Option Bool := none
  seqOfLastChangedGrpId : UInt64 := 0
  recvSeqRecorder : Recorder
  diffSRList : List Int := []
  isFirstJitterCalculation : Bool := true
  /-- The place of the sending thread while it runs, and its local `last_grp_id`. -/
  point : SendPoint := .check
  threadGrpId : Bool := false
  log : StreamLog := {}

/-- What the library answers to the FIN-ACK and the clock when the report is finished. -/
structure FinAnswer where
  sendOk : Bool
  views : List IperfStream.RetryView
  now : UInt64

/-- Received data and the reads of the clocks while it is handled. -/
structure Reception where
  data : Octets
  countedAt : UInt64
  snapshotAt : UInt64
  arrival : UInt64
  fin : FinAnswer

namespace LiveStream

variable {Recorder : Type} (tools : SeqTools Recorder)

def seqReorderThreshold : UInt64 := 128

/-! ### Reports -/

/-- What the snapshot of a `FinishReport` finds, where it takes one. -/
def snapshotsOfFinish (stream : IperfStream) : List TestReport :=
  if stream.config.role = .roleReceiver ∧
      owesSnapshot stream.config stream.report.receiverReport.snapshotCnt then
    [stream.report.receiverReport]
  else []

def snapshotsOfStop (stream : IperfStream) : List TestReport :=
  if ¬ stream.isStopped ∧ stream.config.role = .roleReceiver ∧ ¬ stream.isFinReceived then snapshotsOfFinish stream
  else []

def logSnapshots (s : LiveStream Recorder) (found : List TestReport) : LiveStream Recorder :=
  { s with log := { s.log with snapshots := s.log.snapshots ++ found } }

def finishReport (s : LiveStream Recorder) (now : UInt64) : LiveStream Recorder :=
  { s with toIperfStream := s.toIperfStream.finishReport now }.logSnapshots (snapshotsOfFinish s.toIperfStream)

def stop (s : LiveStream Recorder) (now : UInt64) : LiveStream Recorder :=
  { s with toIperfStream := s.toIperfStream.stop now }.logSnapshots (snapshotsOfStop s.toIperfStream)

/-! ### Received data -/

/-- A new colour counts only well behind the last boundary, against reordering. -/
def hasNewGrpId (s : LiveStream Recorder) (flag : Bool) (seq : UInt64) : Bool × LiveStream Recorder :=
  match s.lastGrpId with
  | none => (true, { s with lastGrpId := some flag })
  | some grpId =>
    if grpId ≠ flag ∧ tools.isLessThanInHalfRing (s.seqOfLastChangedGrpId + seqReorderThreshold) seq then
      (true, { s with lastGrpId := some flag })
    else (false, s)

/-- What was recorded from the boundary on is recorded again. The counter of the loop wraps, so it never passes the largest number. -/
def resetSeqRecord (s : LiveStream Recorder) : Except Fault (LiveStream Recorder) := do
  let highest := (tools.maxSeqRecorded s.recvSeqRecorder).toNat
  Fault.require .noProgress (highest + 1 < 2 ^ 64)
  let boundary := s.seqOfLastChangedGrpId.toNat
  let extra := ((List.range' boundary (highest + 1 - boundary)).map UInt64.ofNat).filter (tools.has s.recvSeqRecorder)
  return { s with recvSeqRecorder := extra.foldl tools.record (tools.reset s.recvSeqRecorder) }

/-- The snapshot an interval of the sender triggers, with the losses in that interval. -/
def snapshotInterval (s : LiveStream Recorder) (received : TestInterval) (actualReceived : Nat) (now : UInt64)
    (escaped : Nat) : LiveStream Recorder :=
  let snapshot := s.report.receiverReport.snapshotRxTxReport now escaped
  let lost := Narrowing.signed 64 (received.datagrams.toNat - actualReceived)
  { s with report := { s.report with receiverReport := { snapshot with lastInterval := { snapshot.lastInterval with
      startSeq := received.startSeq
      lostDatagrams := lost
      loss := lost / received.datagrams.toNat } } } }.logSnapshots [s.report.receiverReport]

def onReceivedIntervalData (s : LiveStream Recorder) (data : Octets) (now : UInt64) :
    Except Fault (LiveStream Recorder) :=
  if s.config.role = .roleReceiver then do
    let escaped := escapedTime now s.report.receiverReport.lastSnapshotTime
    let received ← deserializeInterval data
    let boundary := received.startSeq + received.datagrams
    let actualReceived := tools.recordedNumInRange s.recvSeqRecorder received.startSeq boundary
    Fault.require .failedAssert (actualReceived ≤ received.datagrams.toNat)
    let call : IntervalCall := { received := received, actualReceived := actualReceived }
    let s : LiveStream Recorder := { s with
      seqOfLastChangedGrpId := boundary
      log := { s.log with intervalCalls := s.log.intervalCalls ++ [call] } }
    let s ← s.resetSeqRecord tools
    let s : LiveStream Recorder := { s with diffSRList := [], isFirstJitterCalculation := true }
    return if (escaped : Int) < partOfInterval s.config (9 / 10) then s
      else s.snapshotInterval received actualReceived now escaped
  else .ok s

/-- The clock that measures the time to a snapshot starts with the first data. -/
def countReceived (s : LiveStream Recorder) (length : Nat) (now : UInt64) : LiveStream Recorder :=
  let received := s.report.receiverReport
  let received := if received.summary.bytes = 0 then { received with lastSnapshotTime := now } else received
  { s with report := { s.report with receiverReport := received.count length } }

/-- The data of another program ends this one. What is logged of it is the header and eight octets more. -/
def checkData (s : LiveStream Recorder) (data : Octets) : Except Fault Unit :=
  if s.config.protocol = 2 then .ok ()
  else do
    let isValid ← validateReceivedData data
    if isValid then return ()
    else
      Fault.require .outOfBounds (IperfTestHeader.size + 8 ≤ data.length)
      .error .terminated

/-- A receiver takes the identifier of its stream from the first data, which over a reliable protocol has number 0. -/
def learnIdentifier (s : LiveStream Recorder) (data : Octets) (seq : UInt64) : Except Fault (LiveStream Recorder) :=
  if s.streamIdentifier = 0 then do
    let identifier ← wordAt data 8
    Fault.require .terminated (seq = 0 ∨ ¬ (s.config.protocol = 1 ∨ s.config.protocol = 10))
    return { s with streamIdentifier := identifier }
  else .ok s

def onReceivedFIN (s : LiveStream Recorder) (answer : FinAnswer) : Except Fault (LiveStream Recorder) := do
  let header := { s.iperfData.header with
    seq := s.report.senderReport.summary.datagrams, last := true, ack := true, hasInterval := false }
  let stream ← s.toIperfStream.onReceivedFIN answer.sendOk answer.views answer.now
  let isSent := IperfStream.finAckSent answer.sendOk answer.views == some true
  let log := { s.log with
    sends := if isSent then s.log.sends ++ [s.idealLength] else s.log.sends
    counted := if isSent then s.log.counted + 1 else s.log.counted }
  return { s with toIperfStream := stream, iperfData := { s.iperfData with header := header }, log := log }.logSnapshots
    (snapshotsOfFinish s.toIperfStream)

def onFlags (s : LiveStream Recorder) (flags : TestFlags) (answer : FinAnswer) : Except Fault (LiveStream Recorder) :=
  if flags.last then
    if flags.ack then .ok { s with isFinAcked := true, state := .streamDone } else s.onReceivedFIN answer
  else .ok s

def onInterval (s : LiveStream Recorder) (flags : TestFlags) (seq : UInt64) (data : Octets) (now : UInt64) :
    Except Fault (LiveStream Recorder) :=
  let (isNew, s) := s.hasNewGrpId tools flags.grpId seq
  if isNew ∧ flags.hasInterval then s.onReceivedIntervalData tools data now else .ok s

/-- `std::abs` of a difference, both of 32 bits. -/
def absDifference (x y : Int) : Int := Narrowing.signed 32 (Narrowing.signed 32 (x - y)).natAbs

/-- A sixteenth of the way to a further difference, in doubles. -/
def smoothJitter (jitter difference : ℚ) : ℚ :=
  BinaryFormat.binary64.round
    (BinaryFormat.binary64.round (BinaryFormat.binary64.round (15 * jitter) + difference) / 16)

/-- The differences of send and arrival time are averaged over the interval. -/
def updateJitter (s : LiveStream Recorder) (arrival time : UInt64) : LiveStream Recorder :=
  let current := Narrowing.signed 32 (arrival - time).toNat
  match s.diffSRList.getLast? with
  | none => { s with diffSRList := s.diffSRList ++ [current] }
  | some last =>
    let received := s.report.receiverReport
    let difference := absDifference current last
    let jitter := if s.isFirstJitterCalculation then (difference : ℚ) else smoothJitter received.summary.jitter difference
    { s with
      isFirstJitterCalculation := false
      diffSRList := s.diffSRList.dropLast ++ [current]
      report := { s.report with
        receiverReport := { received with summary := { received.summary with jitter := jitter } } } }

def updateReceived (s : LiveStream Recorder) (reception : Reception) : Except Fault (LiveStream Recorder) :=
  if reception.data = [] then .ok s
  else do
    let s := s.countReceived reception.data.length reception.countedAt
    let seq ← wordAt reception.data 16
    s.checkData reception.data
    let s ← { s with recvSeqRecorder := tools.record s.recvSeqRecorder seq }.learnIdentifier reception.data seq
    let flags ← flagsAt reception.data
    let s ← s.onFlags flags reception.fin
    let s ← s.onInterval tools flags seq (reception.data.drop IperfTestHeader.size) reception.snapshotAt
    let time ← wordAt reception.data 24
    return s.updateJitter reception.arrival time

/-- The poll of a receiver, with a snapshot where it is due. -/
def poll (s : LiveStream Recorder) (now : UInt64) : LiveStream Recorder :=
  let received := s.report.receiverReport
  let isDue := ¬ now < received.lastSnapshotTime + .ofNat (BinaryFormat.truncate (intervalMs s.config)).toNat - 50
  { s with toIperfStream := s.toIperfStream.isIntervalDataReceivedTimeout now }.logSnapshots
    (if isDue then [received] else [])

/-- The entry of a summary message. Over an unreliable protocol, where the FIN may be lost, it finishes the report. -/
def onSummary (s : LiveStream Recorder) (cursor : Octets) (now : UInt64) : Except Fault (LiveStream Recorder) := do
  let (stream, _) ← Fault.need .outOfBounds (s.toIperfStream.deserializeReport cursor)
  let s := { s with toIperfStream := stream }
  return if isReliableProtocol s.config.protocol then s else s.finishReport now

end LiveStream

end BatsIperf
