import BatsIperf.Stream.SendingLoop

/-!
# What the handlers of a stream can do

One lemma for each stage of the handling of received data says what a result of it looks like, and `updateReceived_stages` puts them in a row. Only a FIN touches what the sending side of a stream works with.
-/

namespace BatsIperf

namespace LiveStream

variable {Recorder : Type} {tools : SeqTools Recorder}

/-- Two states of a stream that differ in what it knows of received data only. -/
structure SameSending (s t : LiveStream Recorder) : Prop where
  config : t.config = s.config
  isStopped : t.isStopped = s.isStopped
  connState : t.connState = s.connState
  connector : t.connector = s.connector
  connectRetryCnt : t.connectRetryCnt = s.connectRetryCnt
  dataConn : t.dataConn = s.dataConn
  idealLength : t.idealLength = s.idealLength
  sendingThread : t.sendingThread = s.sendingThread
  point : t.point = s.point
  senderReport : t.report.senderReport = s.report.senderReport
  sends : t.log.sends = s.log.sends

theorem SameSending.refl (s : LiveStream Recorder) : SameSending s s := by constructor <;> rfl

theorem SameSending.trans {s t u : LiveStream Recorder} (hst : SameSending s t) (htu : SameSending t u) :
    SameSending s u where
  config := htu.config.trans hst.config
  isStopped := htu.isStopped.trans hst.isStopped
  connState := htu.connState.trans hst.connState
  connector := htu.connector.trans hst.connector
  connectRetryCnt := htu.connectRetryCnt.trans hst.connectRetryCnt
  dataConn := htu.dataConn.trans hst.dataConn
  idealLength := htu.idealLength.trans hst.idealLength
  sendingThread := htu.sendingThread.trans hst.sendingThread
  point := htu.point.trans hst.point
  senderReport := htu.senderReport.trans hst.senderReport
  sends := htu.sends.trans hst.sends

/-! ### The stages -/

theorem learnIdentifier_eq {s t : LiveStream Recorder} {data : Octets} {seq : UInt64}
    (h : s.learnIdentifier data seq = .ok t) : ∃ identifier, t = { s with streamIdentifier := identifier } := by
  unfold learnIdentifier at h
  split at h
  · obtain ⟨identifier, _, h⟩ := Fault.bind_eq_ok.mp h
    obtain ⟨_, _, h⟩ := Fault.bind_eq_ok.mp h
    exact ⟨identifier, (Fault.pure_eq_ok.mp h).symm⟩
  · obtain rfl := Except.ok.inj h
    exact ⟨s.streamIdentifier, rfl⟩

theorem resetSeqRecord_eq {s t : LiveStream Recorder} (h : s.resetSeqRecord tools = .ok t) :
    ∃ recorder, t = { s with recvSeqRecorder := recorder } := by
  obtain ⟨_, _, h⟩ := Fault.bind_eq_ok.mp h
  exact ⟨_, (Fault.pure_eq_ok.mp h).symm⟩

theorem hasNewGrpId_eq (s : LiveStream Recorder) (flag : Bool) (seq : UInt64) :
    ∃ grpId, (s.hasNewGrpId tools flag seq).2 = { s with lastGrpId := grpId } := by
  unfold hasNewGrpId
  split
  · exact ⟨_, rfl⟩
  · split
    · exact ⟨_, rfl⟩
    · exact ⟨s.lastGrpId, rfl⟩

/-- What a stream remembers of the groups it has seen. -/
structure GroupRecord (Recorder : Type) where
  lastGrpId : Option Bool
  seqOfLastChangedGrpId : UInt64
  recvSeqRecorder : Recorder
  diffSRList : List Int
  isFirstJitterCalculation : Bool
  intervalCalls : List IntervalCall

def groupRecord (s : LiveStream Recorder) : GroupRecord Recorder where
  lastGrpId := s.lastGrpId
  seqOfLastChangedGrpId := s.seqOfLastChangedGrpId
  recvSeqRecorder := s.recvSeqRecorder
  diffSRList := s.diffSRList
  isFirstJitterCalculation := s.isFirstJitterCalculation
  intervalCalls := s.log.intervalCalls

def withGroupRecord (s : LiveStream Recorder) (found : GroupRecord Recorder) : LiveStream Recorder :=
  { s with
    lastGrpId := found.lastGrpId
    seqOfLastChangedGrpId := found.seqOfLastChangedGrpId
    recvSeqRecorder := found.recvSeqRecorder
    diffSRList := found.diffSRList
    isFirstJitterCalculation := found.isFirstJitterCalculation
    log := { s.log with intervalCalls := found.intervalCalls } }

/-- The packet of a new group may bring a snapshot; nothing else is changed but what is remembered of the groups. -/
theorem onInterval_cases {s t : LiveStream Recorder} {flags : TestFlags} {seq : UInt64} {data : Octets} {now : UInt64}
    (h : s.onInterval tools flags seq data now = .ok t) :
    ∃ found, t = s.withGroupRecord found ∨
      ∃ received actual escaped, t = (s.withGroupRecord found).snapshotInterval received actual now escaped := by
  obtain ⟨grpId, hmarked⟩ := s.hasNewGrpId_eq flags.grpId seq
  unfold onInterval at h
  dsimp only at h
  rw [hmarked] at h
  split at h
  · unfold onReceivedIntervalData at h
    split at h
    · obtain ⟨received, _, h⟩ := Fault.bind_eq_ok.mp h
      obtain ⟨_, _, h⟩ := Fault.bind_eq_ok.mp h
      obtain ⟨reset, hreset, h⟩ := Fault.bind_eq_ok.mp h
      obtain ⟨recorder, rfl⟩ := resetSeqRecord_eq hreset
      obtain rfl := Fault.pure_eq_ok.mp h
      split
      · exact ⟨⟨grpId, _, recorder, [], true, _⟩, .inl rfl⟩
      · exact ⟨⟨grpId, _, recorder, [], true, _⟩, .inr ⟨_, _, _, rfl⟩⟩
    · obtain rfl := Except.ok.inj h
      exact ⟨{ s.groupRecord with lastGrpId := grpId }, .inl rfl⟩
  · obtain rfl := Except.ok.inj h
    exact ⟨{ s.groupRecord with lastGrpId := grpId }, .inl rfl⟩

theorem onInterval_same {s t : LiveStream Recorder} {flags : TestFlags} {seq : UInt64} {data : Octets} {now : UInt64}
    (h : s.onInterval tools flags seq data now = .ok t) : SameSending s t := by
  obtain ⟨found, rfl | ⟨received, actual, escaped, rfl⟩⟩ := onInterval_cases h <;> constructor <;> rfl

theorem updateJitter_same (s : LiveStream Recorder) (arrival time : UInt64) :
    SameSending s (s.updateJitter arrival time) := by
  unfold updateJitter
  dsimp only
  split <;> constructor <;> rfl

theorem updateReceived_stages {s t : LiveStream Recorder} {reception : Reception}
    (h : s.updateReceived tools reception = .ok t) :
    (reception.data = [] ∧ t = s) ∨ ∃ (seq time : UInt64) (flags : TestFlags) (identified flagged detected : LiveStream Recorder),
      wordAt reception.data 16 = .ok seq ∧ flagsAt reception.data = .ok flags ∧
      ({ s.countReceived reception.data.length reception.countedAt with
        recvSeqRecorder := tools.record s.recvSeqRecorder seq } : LiveStream Recorder).learnIdentifier reception.data seq
          = .ok identified ∧
      identified.onFlags flags reception.fin = .ok flagged ∧
      flagged.onInterval tools flags seq (reception.data.drop IperfTestHeader.size) reception.snapshotAt = .ok detected ∧
      t = detected.updateJitter reception.arrival time := by
  unfold updateReceived at h
  split at h
  · rename_i hdata
    exact .inl ⟨hdata, (Except.ok.inj h).symm⟩
  · obtain ⟨seq, hseq, h⟩ := Fault.bind_eq_ok.mp h
    obtain ⟨_, _, h⟩ := Fault.bind_eq_ok.mp h
    obtain ⟨identified, hidentified, h⟩ := Fault.bind_eq_ok.mp h
    obtain ⟨flags, hflags, h⟩ := Fault.bind_eq_ok.mp h
    obtain ⟨flagged, hflagged, h⟩ := Fault.bind_eq_ok.mp h
    obtain ⟨detected, hdetected, h⟩ := Fault.bind_eq_ok.mp h
    obtain ⟨time, _, h⟩ := Fault.bind_eq_ok.mp h
    exact .inr ⟨seq, time, flags, identified, flagged, detected, hseq, hflags, hidentified, hflagged, hdetected,
      (Fault.pure_eq_ok.mp h).symm⟩

/-! ### Data with an interval -/

section

variable (tools)

/-- Whether the data brings the interval of a new group to a receiver. -/
def takesInterval (s : LiveStream Recorder) (flags : TestFlags) (seq : UInt64) : Bool :=
  (s.hasNewGrpId tools flags.grpId seq).1 && flags.hasInterval && decide (s.config.role = .roleReceiver)

/-- Whether a receiver takes an interval from this data. -/
def restartsAt (s : LiveStream Recorder) (data : Octets) : Bool :=
  match flagsAt data, wordAt data 16 with
  | .ok flags, .ok seq => s.takesInterval tools flags seq
  | _, _ => false

end

section

variable {s : LiveStream Recorder}

theorem onInterval_of_takes {flags : TestFlags} {seq : UInt64} (htakes : s.takesInterval tools flags seq = true)
    (data : Octets) (now : UInt64) :
    s.onInterval tools flags seq data now
      = (s.hasNewGrpId tools flags.grpId seq).2.onReceivedIntervalData tools data now := by
  simp only [takesInterval, Bool.and_eq_true] at htakes
  unfold onInterval
  exact if_pos htakes.1

theorem hasNewGrpId_role {flags : TestFlags} {seq : UInt64} (htakes : s.takesInterval tools flags seq = true) :
    (s.hasNewGrpId tools flags.grpId seq).2.config.role = .roleReceiver := by
  obtain ⟨grpId, hmarked⟩ : ∃ grpId, (s.hasNewGrpId tools flags.grpId seq).2 = { s with lastGrpId := grpId } :=
    s.hasNewGrpId_eq flags.grpId seq
  rw [hmarked]
  simp only [takesInterval, Bool.and_eq_true, decide_eq_true_eq] at htakes
  exact htakes.2

theorem takesInterval_congr {t : LiveStream Recorder} (hconfig : t.config = s.config) (hgroup : t.lastGrpId = s.lastGrpId)
    (hboundary : t.seqOfLastChangedGrpId = s.seqOfLastChangedGrpId) : t.takesInterval tools = s.takesInterval tools := by
  funext flags seq
  unfold takesInterval hasNewGrpId
  rw [hconfig, hgroup, hboundary]
  cases s.lastGrpId with
  | none => rfl
  | some grpId =>
    dsimp only
    split <;> rfl

end

/-! ### A FIN -/

/-- What a handled FIN leaves of the sending side: a FIN-ACK that was sent is counted. -/
structure FinHandled (s t : LiveStream Recorder) (isSent : Bool) : Prop where
  hasConn : s.dataConn = true
  config : t.config = s.config
  isStopped : t.isStopped = s.isStopped
  connState : t.connState = s.connState
  connector : t.connector = s.connector
  connectRetryCnt : t.connectRetryCnt = s.connectRetryCnt
  dataConn : t.dataConn = s.dataConn
  idealLength : t.idealLength = s.idealLength
  sendingThread : t.sendingThread = s.sendingThread
  point : t.point = s.point
  state : t.state = .streamDone
  bytes : t.report.senderReport.summary.bytes
    = if isSent then s.report.senderReport.summary.bytes + .ofNat (Narrowing.unsigned 64 s.idealLength)
      else s.report.senderReport.summary.bytes
  datagrams : t.report.senderReport.summary.datagrams
    = if isSent then s.report.senderReport.summary.datagrams + 1 else s.report.senderReport.summary.datagrams
  sends : t.log.sends = if isSent then s.log.sends ++ [s.idealLength] else s.log.sends

theorem finishReport_sender (stream : IperfStream) (now : UInt64) :
    (stream.finishReport now).report.senderReport.summary.bytes = stream.report.senderReport.summary.bytes ∧
      (stream.finishReport now).report.senderReport.summary.datagrams = stream.report.senderReport.summary.datagrams ∧
      (stream.finishReport now).idealLength = stream.idealLength := by
  unfold IperfStream.finishReport
  split
  · split <;> exact ⟨rfl, rfl, rfl⟩
  all_goals exact ⟨rfl, rfl, rfl⟩

theorem stop_sender (stream : IperfStream) (now : UInt64) :
    (stream.stop now).report.senderReport.summary.bytes = stream.report.senderReport.summary.bytes ∧
      (stream.stop now).report.senderReport.summary.datagrams = stream.report.senderReport.summary.datagrams ∧
      (stream.stop now).idealLength = stream.idealLength ∧ (stream.stop now).sendingThread = stream.sendingThread := by
  unfold IperfStream.stop
  split
  · exact ⟨rfl, rfl, rfl, rfl⟩
  · dsimp only
    split
    · obtain ⟨hbytes, hdatagrams, hlength⟩ := finishReport_sender { stream with isStopped := true } now
      exact ⟨hbytes, hdatagrams, hlength, (IperfStream.finishReport_same { stream with isStopped := true } now).sendingThread⟩
    · exact ⟨rfl, rfl, rfl, rfl⟩

theorem countFinAck_same (stream : IperfStream) (isSent : Bool) :
    IperfStream.SameConnection stream (stream.countFinAck isSent) ∧
      (stream.countFinAck isSent).idealLength = stream.idealLength := by
  unfold IperfStream.countFinAck
  split
  · exact ⟨by constructor <;> rfl, rfl⟩
  · exact ⟨.refl stream, rfl⟩

theorem onReceivedFIN_handled {s t : LiveStream Recorder} {answer : FinAnswer} (h : s.onReceivedFIN answer = .ok t) :
    ∃ isSent, FinHandled s t isSent := by
  obtain ⟨stream, hstream, h⟩ := Fault.bind_eq_ok.mp h
  obtain ⟨_, hconn, hstream⟩ := Fault.bind_eq_ok.mp hstream
  obtain ⟨isSent, hsent, hstream⟩ := Fault.bind_eq_ok.mp hstream
  have hsent : IperfStream.finAckSent answer.sendOk answer.views = some isSent := IperfStream.finAckSent_eq_some.mpr hsent
  obtain rfl := Fault.pure_eq_ok.mp hstream
  obtain rfl := Fault.pure_eq_ok.mp h
  obtain ⟨hcounted, hideal⟩ := countFinAck_same s.toIperfStream isSent
  obtain ⟨hbytes, hdatagrams, hlength⟩ := finishReport_sender (s.toIperfStream.countFinAck isSent) answer.now
  have hfinished := (s.toIperfStream.countFinAck isSent).finishReport_same answer.now
  refine ⟨isSent, ?_⟩
  constructor
  · exact Fault.require_eq_ok.mp hconn
  · exact hfinished.config.trans hcounted.config
  · exact hfinished.isStopped.trans hcounted.isStopped
  · exact hfinished.connState.trans hcounted.connState
  · exact hfinished.connector.trans hcounted.connector
  · exact hfinished.connectRetryCnt.trans hcounted.connectRetryCnt
  · exact hfinished.dataConn.trans hcounted.dataConn
  · exact hlength.trans hideal
  · exact hfinished.sendingThread.trans hcounted.sendingThread
  · rfl
  · rfl
  · refine hbytes.trans ?_
    unfold IperfStream.countFinAck
    split <;> rfl
  · refine hdatagrams.trans ?_
    unfold IperfStream.countFinAck
    split <;> rfl
  · show (if IperfStream.finAckSent answer.sendOk answer.views == some true then s.log.sends ++ [s.idealLength]
      else s.log.sends) = _
    rw [hsent]
    cases isSent <;> rfl

theorem onFlags_cases {s t : LiveStream Recorder} {flags : TestFlags} {answer : FinAnswer}
    (h : s.onFlags flags answer = .ok t) :
    SameSending s t ∨ (flags.last = true ∧ flags.ack = false ∧ ∃ isSent, FinHandled s t isSent) := by
  unfold onFlags at h
  split at h
  · rename_i hlast
    split at h
    · obtain rfl := Except.ok.inj h
      exact .inl (by constructor <;> rfl)
    · rename_i hack
      exact .inr ⟨hlast, by simpa using hack, onReceivedFIN_handled h⟩
  · obtain rfl := Except.ok.inj h
    exact .inl (.refl s)

end LiveStream

end BatsIperf
