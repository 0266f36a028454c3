import BatsIperf.Foundation.Machine
import BatsIperf.Stream.LiveStream

/-!
# The sending thread of a stream

`StartSend` starts a thread that builds a header under the lock of the snapshots, sends the block until it is taken and counts it, and says FIN when it leaves the loop. Each step below is one access to what the thread shares with the callbacks: a check of the state, the building of a header, a send, the increment of a counter.

The machine of a stream interleaves these steps with the events of its connection and the calls of its test.
-/

namespace BatsIperf

/-- The reads of the clocks, the answer to a send and the verdict of the shaper at one step of the thread. -/
structure ThreadInput where
  time : UInt64
  now : UInt64
  sendOk : Bool
  isLimitHit : Bool

/-- The places of the loop before a block is built. -/
def SendPoint.isBefore : SendPoint → Bool
  | .check | .errorCheck | .waitWritable | .build => true
  | _ => false

namespace LiveStream

variable {Recorder : Type}

def isConnected (s : LiveStream Recorder) : Bool := s.toIperfStream.isConnected

/-! ### The steps of the thread -/

/-- The header of the next block. The first block of a colour gets the interval of the last snapshot, and the later ones find it in the buffer. -/
def buildHeader (s : LiveStream Recorder) (time : UInt64) : LiveStream Recorder :=
  let sent := s.report.senderReport
  let grpId := decide (sent.snapshotCnt % 2 = 1)
  let header := { s.iperfData.header with
    seq := sent.summary.datagrams
    time := time
    grpId := grpId
    last := false
    ack := false
    hasInterval := if sent.snapshotCnt ≤ 0 then false else s.iperfData.header.hasInterval }
  if 0 < sent.snapshotCnt ∧ s.threadGrpId ≠ grpId then
    { s with
      iperfData := ({ s.iperfData with header := { header with hasInterval := true } } : IperfData).setInterval
        sent.lastInterval
      threadGrpId := grpId }
  else { s with iperfData := { s.iperfData with header := header } }

def build (s : LiveStream Recorder) (time : UInt64) : LiveStream Recorder :=
  let built := s.buildHeader time
  let packet := { data := built.iperfData, snapshots := s.log.intervals.length, index := s.log.counted }
  { built with point := .send s.idealLength, log := { s.log with built := s.log.built ++ [packet] } }

/-- `SendData` through the kept connection, and where the thread goes on. -/
def sendData (s : LiveStream Recorder) (length : Int) (sendOk : Bool) (sent unsent : SendPoint) :
    Except Fault (LiveStream Recorder) := do
  Fault.require .nullPointer s.dataConn
  return if sendOk then { s with point := sent, log := { s.log with sends := s.log.sends ++ [length] } }
    else { s with point := unsent }

def addSentBytes (s : LiveStream Recorder) (length : Int) (point : SendPoint) : LiveStream Recorder :=
  let sent := s.report.senderReport
  { s with
    report := { s.report with senderReport := { sent with summary := { sent.summary with
      bytes := sent.summary.bytes + .ofNat (Narrowing.unsigned 64 length) } } }
    point := point }

def addSentDatagram (s : LiveStream Recorder) (point : SendPoint) : LiveStream Recorder :=
  let sent := s.report.senderReport
  { s with
    report := { s.report with senderReport := { sent with summary := { sent.summary with
      datagrams := sent.summary.datagrams + 1 } } }
    point := point
    log := { s.log with counted := s.log.counted + 1 } }

def buildFin (s : LiveStream Recorder) (time : UInt64) : LiveStream Recorder :=
  let sent := s.report.senderReport
  let header := { s.iperfData.header with
    seq := sent.summary.datagrams
    grpId := decide (sent.snapshotCnt % 2 = 1)
    time := time
    last := true
    ack := false
    hasInterval := false }
  { s with iperfData := { s.iperfData with header := header }, point := .finSend }

def endThread (s : LiveStream Recorder) : LiveStream Recorder := { s with sendingThread := .ended }

/-- One step of a thread that has passed its first check. Where it waits for `is_writable_` it stays. -/
def loopStep (s : LiveStream Recorder) (input : ThreadInput) : Except Fault (LiveStream Recorder) :=
  match s.point with
  | .check =>
    .ok (if s.isConnected ∧ s.state = .streamStart then { s with point := .errorCheck } else { s with point := .fin })
  | .errorCheck =>
    .ok (if s.hasErrInSend then { s with hasErrInSend := false, state := .streamDone, point := .fin }
      else { s with point := .waitWritable })
  | .waitWritable =>
    .ok (if ¬ s.isWritable ∧ s.state = .streamStart ∧ ¬ s.hasErrInSend then s
      else if 0 < s.config.maxAllowedSendingRate ∧ input.isLimitHit then { s with point := .check }
      else { s with point := .build })
  | .build => .ok (s.build input.time)
  | .send length => s.sendData length input.sendOk (.countBytes length) (.retry length)
  | .retry length =>
    -- the loop is left here without a send that was accepted, and the block is counted all the same
    if s.state ≠ .streamStart ∨ s.hasErrInSend then .ok { s with point := .countBytes length }
    else if s.isWritable then s.sendData length input.sendOk (.countBytes length) (.retry length)
    else .ok s
  | .countBytes length => .ok (s.addSentBytes length .countDatagrams)
  | .countDatagrams => .ok (s.addSentDatagram .check)
  | .fin => .ok (if isReliableProtocol s.config.protocol then s.buildFin input.time else s.endThread)
  | .finSend => s.sendData s.idealLength input.sendOk .finCountBytes .finRetry
  | .finRetry =>
    if s.state = .streamDone ∨ s.hasErrInSend then .ok s.endThread
    else if s.isWritable then s.sendData s.idealLength input.sendOk .finCountBytes .finRetry
    else .ok s
  -- `ideal_length_` is loaded once more for the counter
  | .finCountBytes => .ok (s.addSentBytes s.idealLength .finCountDatagrams)
  | .finCountDatagrams => .ok (s.addSentDatagram .finCountDatagrams).endThread

def threadStep (s : LiveStream Recorder) (input : ThreadInput) : Except Fault (LiveStream Recorder) :=
  match s.sendingThread with
  | .notStarted | .ended => .error .noProgress
  | .starting =>
    .ok (if s.isConnected then { s with sendingThread := .sending, point := .check, threadGrpId := false }
      else (s.stop input.now).endThread)
  | .sending => s.loopStep input

@[simp] theorem buildHeader_stream (s : LiveStream Recorder) (time : UInt64) :
    (s.buildHeader time).toIperfStream = s.toIperfStream := by
  unfold buildHeader
  dsimp only
  split <;> rfl

theorem sendData_eq {s t : LiveStream Recorder} {length : Int} {sendOk : Bool} {sent unsent : SendPoint}
    (h : s.sendData length sendOk sent unsent = .ok t) : s.dataConn = true ∧
      t = if sendOk then { s with point := sent, log := { s.log with sends := s.log.sends ++ [length] } }
        else { s with point := unsent } := by
  obtain ⟨_, hconn, h⟩ := Fault.bind_eq_ok.mp h
  exact ⟨Fault.require_eq_ok.mp hconn, (Fault.pure_eq_ok.mp h).symm⟩

/-- What a step of the loop does where it has a result. -/
inductive LoopMove (s : LiveStream Recorder) (input : ThreadInput) : LiveStream Recorder → Prop
  | waits : LoopMove s input s
  | goesOn {point : SendPoint} (hfrom : s.point.isBefore = true) (hto : point.isBefore = true) :
    LoopMove s input { s with point := point }
  | leaves (hpoint : s.point = .check) : LoopMove s input { s with point := .fin }
  | fails (hpoint : s.point = .errorCheck) :
    LoopMove s input { s with hasErrInSend := false, state := .streamDone, point := .fin }
  | builds (hpoint : s.point = .build) : LoopMove s input (s.build input.time)
  | sendsBlock {length : Int} {t : LiveStream Recorder} (hpoint : s.point = .send length ∨ s.point = .retry length)
      (hsend : s.sendData length input.sendOk (.countBytes length) (.retry length) = .ok t) : LoopMove s input t
  | givesUp {length : Int} (hpoint : s.point = .retry length)
      (hleft : s.state ≠ .streamStart ∨ s.hasErrInSend = true) :
    LoopMove s input { s with point := .countBytes length }
  | countsBytes {length : Int} (hpoint : s.point = .countBytes length) :
    LoopMove s input (s.addSentBytes length .countDatagrams)
  | countsDatagram (hpoint : s.point = .countDatagrams) : LoopMove s input (s.addSentDatagram .check)
  | buildsFin (hpoint : s.point = .fin) : LoopMove s input (s.buildFin input.time)
  | sendsFin {t : LiveStream Recorder} (hpoint : s.point = .finSend ∨ s.point = .finRetry)
      (hsend : s.sendData s.idealLength input.sendOk .finCountBytes .finRetry = .ok t) : LoopMove s input t
  | countsFinBytes (hpoint : s.point = .finCountBytes) :
    LoopMove s input (s.addSentBytes s.idealLength .finCountDatagrams)
  | countsFinDatagram (hpoint : s.point = .finCountDatagrams) :
    LoopMove s input (s.addSentDatagram .finCountDatagrams).endThread
  | ends (hpoint : s.point = .fin ∨ s.point = .finRetry) : LoopMove s input s.endThread

theorem loopStep_move {s t : LiveStream Recorder} {input : ThreadInput} (h : s.loopStep input = .ok t) :
    LoopMove s input t := by
  unfold loopStep at h
  cases hpoint : s.point with
  | check =>
    rw [hpoint] at h
    obtain rfl := Except.ok.inj h
    split
    · exact .goesOn (by rw [hpoint]; rfl) rfl
    · exact .leaves hpoint
  | errorCheck =>
    rw [hpoint] at h
    obtain rfl := Except.ok.inj h
    split
    · exact .fails hpoint
    · exact .goesOn (by rw [hpoint]; rfl) rfl
  | waitWritable =>
    rw [hpoint] at h
    obtain rfl := Except.ok.inj h
    split
    · exact .waits
    · split <;> exact .goesOn (by rw [hpoint]; rfl) rfl
  | build =>
    rw [hpoint] at h
    obtain rfl := Except.ok.inj h
    exact .builds hpoint
  | send length =>
    rw [hpoint] at h
    exact .sendsBlock (.inl hpoint) h
  | retry length =>
    rw [hpoint] at h
    dsimp only at h
    split at h
    · rename_i hleft
      obtain rfl := Except.ok.inj h
      exact .givesUp hpoint hleft
    split at h
    · exact .sendsBlock (.inr hpoint) h
    · obtain rfl := Except.ok.inj h
      exact .waits
  | countBytes length =>
    rw [hpoint] at h
    obtain rfl := Except.ok.inj h
    exact .countsBytes hpoint
  | countDatagrams =>
    rw [hpoint] at h
    obtain rfl := Except.ok.inj h
    exact .countsDatagram hpoint
  | fin =>
    rw [hpoint] at h
    obtain rfl := Except.ok.inj h
    split
    · exact .buildsFin hpoint
    · exact .ends (.inl hpoint)
  | finSend =>
    rw [hpoint] at h
    exact .sendsFin (.inl hpoint) h
  | finRetry =>
    rw [hpoint] at h
    dsimp only at h
    split at h
    · obtain rfl := Except.ok.inj h
      exact .ends (.inr hpoint)
    split at h
    · exact .sendsFin (.inr hpoint) h
    · obtain rfl := Except.ok.inj h
      exact .waits
  | finCountBytes =>
    rw [hpoint] at h
    obtain rfl := Except.ok.inj h
    exact .countsFinBytes hpoint
  | finCountDatagrams =>
    rw [hpoint] at h
    obtain rfl := Except.ok.inj h
    exact .countsFinDatagram hpoint

/-! ### The calls of the test -/

def startSend (s : LiveStream Recorder) (now : UInt64) : Except Fault (LiveStream Recorder) := do
  let stream ← s.toIperfStream.startSend now
  return { s with toIperfStream := stream }

/-- Whether 95 percent of the interval have passed. -/
def isSnapshotDue (s : LiveStream Recorder) (now : UInt64) : Bool :=
  partOfInterval s.config (95 / 100) ≤ escapedTime now s.report.senderReport.lastSnapshotTime

/-- `SnapshotReport`, with the interval it takes. -/
def snapshotReport (s : LiveStream Recorder) (now : UInt64) : LiveStream Recorder :=
  let stream := s.toIperfStream.snapshotReport now
  if s.isSnapshotDue now then
    { s with toIperfStream := stream, log := { s.log with
        intervals := s.log.intervals ++ [stream.report.senderReport.lastInterval]
        bounds := s.log.bounds ++ [s.log.counted] } }
  else { s with toIperfStream := stream }

theorem taken_of_due {s : LiveStream Recorder} {now : UInt64} (hdue : s.isSnapshotDue now = true) :
    s.toIperfStream.snapshotReport now = { s.toIperfStream with report := { s.report with
      senderReport := s.report.senderReport.snapshotRxTxReport now
        (escapedTime now s.report.senderReport.lastSnapshotTime) } } :=
  if_pos (of_decide_eq_true hdue)

theorem kept_of_not_due {s : LiveStream Recorder} {now : UInt64} (hnot : ¬ s.isSnapshotDue now = true) :
    s.toIperfStream.snapshotReport now = s.toIperfStream :=
  if_neg fun hdue => hnot (decide_eq_true hdue)

def onEvent (s : LiveStream Recorder) (event : ConnEvent) : Except Fault (LiveStream Recorder) := do
  let stream ← s.toIperfStream.connectionCallback event
  return { s with toIperfStream := stream }

/-! ### The machine -/

inductive Action
  | event (event : ConnEvent)
  | received (reception : Reception)
  | startSend (now : UInt64)
  | thread (input : ThreadInput)
  | snapshotReport (now : UInt64)
  | poll (now : UInt64)
  | summary (cursor : Octets) (now : UInt64)
  | finishReport (now : UInt64)
  | stop (now : UInt64)

variable (tools : SeqTools Recorder)

/-- What an action does. An action that is not enabled makes no progress. -/
def perform (s : LiveStream Recorder) : Action → Except Fault (LiveStream Recorder)
  | .event event => s.onEvent event
  | .received reception => s.updateReceived tools reception
  | .startSend now => s.startSend now
  | .thread input => s.threadStep input
  | .snapshotReport now => .ok (s.snapshotReport now)
  | .poll now => .ok (s.poll now)
  | .summary cursor now => s.onSummary cursor now
  | .finishReport now => .ok (s.finishReport now)
  | .stop now => .ok (s.stop now)

def machine : Machine (LiveStream Recorder) Action where
  step s a := (s.perform tools a).toOption

/-- A stream with a fresh buffer and nothing recorded. -/
def fresh (stream : IperfStream) (recorder : Recorder) : LiveStream Recorder where
  toIperfStream := stream
  iperfData := .fresh stream.streamIdentifier
  recvSeqRecorder := recorder

/-- A connecting stream behind its constructor and `StartConnect`. -/
def connecting (config : TestConfig) (streamId : Nat) (now : UInt64) (recorder : Recorder) : LiveStream Recorder :=
  fresh { IperfStream.connecting config streamId now with connState := .connConnecting } recorder

/-- A stream behind one of the two constructors, and behind `StartConnect` where it connects. -/
inductive IsNew (recorder : Recorder) : LiveStream Recorder → Prop
  | connecting (config : TestConfig) (streamId : Nat) (now : UInt64) : IsNew recorder (connecting config streamId now recorder)
  | accepted {config : TestConfig} {streamId : Nat} {length : Int} {stream : IperfStream}
      (h : IperfStream.accepted config streamId length = .ok stream) : IsNew recorder (fresh stream recorder)

theorem startConnect_connecting (config : TestConfig) (streamId : Nat) (now : UInt64) (recorder : Recorder) :
    (IperfStream.connecting config streamId now).startConnect
      = .ok (connecting config streamId now recorder).toIperfStream := rfl

variable {tools}

theorem step_eq_some {s t : LiveStream Recorder} {a : Action} :
    (machine tools).step s a = some t ↔ s.perform tools a = .ok t := Fault.toOption_eq_some

end LiveStream

end BatsIperf
