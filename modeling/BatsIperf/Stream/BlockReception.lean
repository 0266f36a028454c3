import BatsIperf.Stream.DataBuffer
import BatsIperf.Stream.StreamPair

/-!
# The reception of a block

What the two ends of a pair keep and what they change when a block arrives. Data leaves the sending side of a stream alone, a FIN-ACK too, and a FIN is answered with the block that is written over the buffer. Whatever arrives is counted.
-/

namespace BatsIperf

open Octets

namespace LiveStream

variable {Recorder : Type} {tools : SeqTools Recorder}

structure SendingPart where
  config : TestConfig
  senderReport : TestReport
  iperfData : IperfData
  threadGrpId : Bool
  sendingThread : SendingThread
  point : SendPoint
  idealLength : Int
  connState : ConnectionState
  hasErrInSend : Bool
  sends : List Int
  counted : Nat
  intervals : List TestInterval
  bounds : List Nat
  built : List BuiltPacket

def sendingPart (s : LiveStream Recorder) : SendingPart where
  config := s.config
  senderReport := s.report.senderReport
  iperfData := s.iperfData
  threadGrpId := s.threadGrpId
  sendingThread := s.sendingThread
  point := s.point
  idealLength := s.idealLength
  connState := s.connState
  hasErrInSend := s.hasErrInSend
  sends := s.log.sends
  counted := s.log.counted
  intervals := s.log.intervals
  bounds := s.log.bounds
  built := s.log.built

def receivedBytes (s : LiveStream Recorder) : UInt64 := s.report.receiverReport.summary.bytes

/-! ### The stages -/

theorem countReceived_part (s : LiveStream Recorder) (length : Nat) (now : UInt64) :
    (s.countReceived length now).sendingPart = s.sendingPart ∧
      (s.countReceived length now).isFinReceived = s.isFinReceived ∧
      (s.countReceived length now).receivedBytes = s.receivedBytes + .ofNat length := by
  have hlength : UInt64.ofNat (Narrowing.unsigned 64 (length : Int)) = .ofNat length := by
    rw [← UInt64.toNat_inj, UInt64.toNat_ofNat', UInt64.toNat_ofNat', Narrowing.unsigned]
    omega
  refine ⟨rfl, rfl, ?_⟩
  rw [← hlength]
  unfold countReceived
  dsimp only
  split <;> rfl

theorem onInterval_part {s t : LiveStream Recorder} {flags : TestFlags} {seq : UInt64} {data : Octets} {now : UInt64}
    (h : s.onInterval tools flags seq data now = .ok t) : t.sendingPart = s.sendingPart ∧
      t.isFinReceived = s.isFinReceived ∧ t.state = s.state ∧ t.receivedBytes = s.receivedBytes ∧
      t.isFinAcked = s.isFinAcked ∧ t.streamIdentifier = s.streamIdentifier := by
  obtain ⟨found, rfl | ⟨received, actual, escaped, rfl⟩⟩ := onInterval_cases h
  · exact ⟨rfl, rfl, rfl, rfl, rfl, rfl⟩
  · exact ⟨rfl, rfl, rfl, rfl, rfl, rfl⟩

theorem updateJitter_part (s : LiveStream Recorder) (arrival time : UInt64) :
    (s.updateJitter arrival time).sendingPart = s.sendingPart ∧
      (s.updateJitter arrival time).isFinReceived = s.isFinReceived ∧
      (s.updateJitter arrival time).state = s.state ∧
      (s.updateJitter arrival time).receivedBytes = s.receivedBytes ∧
      (s.updateJitter arrival time).isFinAcked = s.isFinAcked ∧
      (s.updateJitter arrival time).streamIdentifier = s.streamIdentifier := by
  unfold updateJitter
  dsimp only
  split <;> exact ⟨rfl, rfl, rfl, rfl, rfl, rfl⟩

theorem finishReport_bytes (stream : IperfStream) (now : UInt64) :
    (stream.finishReport now).report.receiverReport.summary.bytes = stream.report.receiverReport.summary.bytes ∧
      (stream.finishReport now).streamIdentifier = stream.streamIdentifier ∧
      (stream.finishReport now).isFinReceived = stream.isFinReceived := by
  unfold IperfStream.finishReport
  split
  · split <;> exact ⟨rfl, rfl, rfl⟩
  · dsimp only
    split <;> exact ⟨rfl, rfl, rfl⟩
  · exact ⟨rfl, rfl, rfl⟩

/-! ### A block -/

def flagsOf (block : WireBlock) : TestFlags where
  grpId := block.data.header.grpId
  last := block.data.header.last
  ack := block.data.header.ack
  hasInterval := block.data.header.hasInterval

theorem block_stages {s t : LiveStream Recorder} {reception : Reception} {block : WireBlock} (hlength : 0 < block.length)
    (h : s.updateReceived tools (StreamPair.ofBlock reception block) = .ok t) :
    ∃ (identified flagged detected : LiveStream Recorder) (time : UInt64),
      ({ s.countReceived block.octets.length reception.countedAt with
        recvSeqRecorder := tools.record s.recvSeqRecorder block.data.header.seq } : LiveStream Recorder).learnIdentifier
          block.octets block.data.header.seq = .ok identified ∧
      identified.onFlags (flagsOf block) reception.fin = .ok flagged ∧
      flagged.onInterval tools (flagsOf block) block.data.header.seq (block.octets.drop IperfTestHeader.size)
        reception.snapshotAt = .ok detected ∧
      t = detected.updateJitter reception.arrival time := by
  have hdata : (StreamPair.ofBlock reception block).data = block.octets := rfl
  rcases updateReceived_stages h with ⟨hempty, _⟩ | ⟨seq, time, flags, identified, flagged, detected, hseq, hflags,
    hidentified, hflagged, hdetected, ht⟩
  · rw [hdata] at hempty
    have hzero := congrArg List.length hempty
    rw [WireBlock.octets, length_packet_eq, List.length_nil] at hzero
    omega
  · rw [hdata] at hseq hflags
    obtain rfl := wordAt_packet_of_ok.2.2 hseq
    obtain rfl := flagsAt_packet_of_ok hflags
    exact ⟨identified, flagged, detected, time, hidentified, hflagged, hdetected, ht⟩

/-- The identifier of a stream that has one stays, and any other stream takes that of the block. -/
def identifierAfter (s : LiveStream Recorder) (block : WireBlock) : UInt64 :=
  if s.streamIdentifier = 0 then block.data.header.streamIdentifier else s.streamIdentifier

theorem learnIdentifier_block {s t : LiveStream Recorder} {block : WireBlock} {seq : UInt64}
    (h : s.learnIdentifier block.octets seq = .ok t) : t = { s with streamIdentifier := s.identifierAfter block } := by
  unfold learnIdentifier at h
  split at h
  · rename_i hnone
    obtain ⟨identifier, hidentifier, h⟩ := Fault.bind_eq_ok.mp h
    obtain ⟨_, _, h⟩ := Fault.bind_eq_ok.mp h
    obtain rfl := Fault.pure_eq_ok.mp h
    rw [identifierAfter, if_pos hnone, wordAt_packet_of_ok.2.1 hidentifier]
  · rename_i hknown
    obtain rfl := Except.ok.inj h
    rw [identifierAfter, if_neg hknown]

/-- A reception that is no FIN: data, or a FIN-ACK. -/
structure HeardBlock (s t : LiveStream Recorder) (block : WireBlock) : Prop where
  sendingPart : t.sendingPart = s.sendingPart
  isFinReceived : t.isFinReceived = s.isFinReceived
  bytes : t.receivedBytes = s.receivedBytes + .ofNat block.octets.length
  identifier : t.streamIdentifier = s.identifierAfter block
  state : t.state = if block.data.header.last = true then .streamDone else s.state
  isFinAcked : t.isFinAcked = (s.isFinAcked || block.data.header.last)

theorem updateReceived_heard {s t : LiveStream Recorder} {reception : Reception} {block : WireBlock}
    (hlength : 0 < block.length) (hfin : block.data.header.last = true → block.data.header.ack = true)
    (h : s.updateReceived tools (StreamPair.ofBlock reception block) = .ok t) : HeardBlock s t block := by
  obtain ⟨identified, flagged, detected, time, hidentified, hflagged, hdetected, rfl⟩ := block_stages hlength h
  obtain rfl := learnIdentifier_block hidentified
  obtain ⟨hcounted, hcountedFin, hbytes⟩ := s.countReceived_part block.octets.length reception.countedAt
  obtain ⟨hinterval, hintervalFin, hintervalState, hintervalBytes, hintervalAcked, hintervalIdentifier⟩ :=
    onInterval_part hdetected
  obtain ⟨hjitter, hjitterFin, hjitterState, hjitterBytes, hjitterAcked, hjitterIdentifier⟩ :=
    detected.updateJitter_part reception.arrival time
  unfold onFlags at hflagged
  cases hlast : block.data.header.last with
  | false =>
    rw [show (flagsOf block).last = false from hlast, if_neg Bool.false_ne_true] at hflagged
    obtain rfl := Except.ok.inj hflagged
    refine ⟨hjitter.trans (hinterval.trans hcounted), hjitterFin.trans (hintervalFin.trans hcountedFin),
      hjitterBytes.trans (hintervalBytes.trans hbytes), hjitterIdentifier.trans hintervalIdentifier, ?_, ?_⟩
    · rw [hlast, if_neg Bool.false_ne_true]
      exact hjitterState.trans hintervalState
    · rw [hlast, Bool.or_false]
      exact hjitterAcked.trans hintervalAcked
  | true =>
    rw [show (flagsOf block).last = true from hlast, if_pos rfl,
      show (flagsOf block).ack = true from hfin hlast, if_pos rfl] at hflagged
    obtain rfl := Except.ok.inj hflagged
    refine ⟨hjitter.trans (hinterval.trans hcounted), hjitterFin.trans (hintervalFin.trans hcountedFin),
      hjitterBytes.trans (hintervalBytes.trans hbytes), hjitterIdentifier.trans hintervalIdentifier, ?_, ?_⟩
    · rw [hlast, if_pos rfl]
      exact hjitterState.trans hintervalState
    · rw [hlast, Bool.or_true]
      exact hjitterAcked.trans hintervalAcked

/-- A FIN. The FIN-ACK is the only thing a stream sends in answer to what it receives. -/
structure HeardFin (s t : LiveStream Recorder) (block : WireBlock) : Prop where
  isFinReceived : t.isFinReceived = true
  bytes : t.receivedBytes = s.receivedBytes + .ofNat block.octets.length
  identifier : t.streamIdentifier = s.identifierAfter block
  sends : t.log.sends = s.log.sends ∨ t.log.sends = s.log.sends ++ [s.idealLength]
  answer : t.iperfData.header.last = true ∧ t.iperfData.header.ack = true
  config : t.config = s.config
  idealLength : t.idealLength = s.idealLength

theorem onReceivedFIN_bytes {s t : LiveStream Recorder} {answer : FinAnswer} (h : s.onReceivedFIN answer = .ok t) :
    t.receivedBytes = s.receivedBytes ∧ t.isFinReceived = true ∧ t.streamIdentifier = s.streamIdentifier ∧
      t.iperfData = s.finAckData := by
  obtain ⟨stream, hstream, h⟩ := Fault.bind_eq_ok.mp h
  obtain ⟨_, _, hstream⟩ := Fault.bind_eq_ok.mp hstream
  obtain ⟨isSent, _, hstream⟩ := Fault.bind_eq_ok.mp hstream
  obtain rfl := Fault.pure_eq_ok.mp hstream
  obtain rfl := Fault.pure_eq_ok.mp h
  obtain ⟨hbytes, hidentifier, _⟩ := finishReport_bytes (s.toIperfStream.countFinAck isSent) answer.now
  refine ⟨hbytes.trans ?_, rfl, hidentifier.trans ?_, rfl⟩
  · unfold IperfStream.countFinAck
    split <;> rfl
  · unfold IperfStream.countFinAck
    split <;> rfl

theorem updateReceived_fin {s t : LiveStream Recorder} {reception : Reception} {block : WireBlock}
    (hlength : 0 < block.length) (hlast : block.data.header.last = true) (hack : block.data.header.ack = false)
    (h : s.updateReceived tools (StreamPair.ofBlock reception block) = .ok t) : HeardFin s t block := by
  obtain ⟨identified, flagged, detected, time, hidentified, hflagged, hdetected, rfl⟩ := block_stages hlength h
  obtain rfl := learnIdentifier_block hidentified
  obtain ⟨_, _, hbytes⟩ := s.countReceived_part block.octets.length reception.countedAt
  obtain ⟨hinterval, hintervalFin, _, hintervalBytes, _, hintervalIdentifier⟩ := onInterval_part hdetected
  obtain ⟨hjitter, hjitterFin, _, hjitterBytes, _, hjitterIdentifier⟩ := detected.updateJitter_part reception.arrival time
  rw [onFlags, show (flagsOf block).last = true from hlast, if_pos rfl, show (flagsOf block).ack = false from hack,
    if_neg Bool.false_ne_true] at hflagged
  obtain ⟨hfinBytes, hfin, hfinIdentifier, hdata⟩ := onReceivedFIN_bytes hflagged
  obtain ⟨isSent, hhandled⟩ := onReceivedFIN_handled hflagged
  have hpart : (detected.updateJitter reception.arrival time).sendingPart = flagged.sendingPart := hjitter.trans hinterval
  constructor
  · exact hjitterFin.trans (hintervalFin.trans hfin)
  · exact hjitterBytes.trans (hintervalBytes.trans (hfinBytes.trans hbytes))
  · exact hjitterIdentifier.trans (hintervalIdentifier.trans hfinIdentifier)
  · have hsends : (detected.updateJitter reception.arrival time).log.sends = flagged.log.sends :=
      congrArg SendingPart.sends hpart
    rw [hsends, hhandled.sends]
    cases isSent with
    | false => exact .inl rfl
    | true => exact .inr rfl
  · have hsame : (detected.updateJitter reception.arrival time).iperfData = flagged.iperfData :=
      congrArg SendingPart.iperfData hpart
    rw [hsame, hdata]
    exact ⟨rfl, rfl⟩
  · exact (congrArg SendingPart.config hpart).trans hhandled.config
  · exact (congrArg SendingPart.idealLength hpart).trans hhandled.idealLength

/-! ### The other steps of a receiver -/

/-- What the steps of a receiver that receive nothing from the sender leave of it. -/
structure SameReceiving (s t : LiveStream Recorder) : Prop where
  config : t.config = s.config
  streamIdentifier : t.streamIdentifier = s.streamIdentifier
  isFinReceived : t.isFinReceived = s.isFinReceived
  bytes : t.receivedBytes = s.receivedBytes
  sends : t.log.sends = s.log.sends
  groupRecord : t.groupRecord = s.groupRecord

theorem receiver_same {s t : LiveStream Recorder} {a : Action} (ha : StreamPair.admitsReceiver a = true)
    (h : (machine tools).step s a = some t) : SameReceiving s t := by
  have hfinish (stream : IperfStream) (now : UInt64) := finishReport_bytes stream now
  have hperform := step_eq_some.mp h
  cases a with
  | event event =>
    obtain ⟨stream, hstream, hperform⟩ := Fault.bind_eq_ok.mp hperform
    obtain rfl := Fault.pure_eq_ok.mp hperform
    cases IperfStream.connectionCallback_move hstream <;> constructor <;> rfl
  | poll now =>
    obtain rfl := Except.ok.inj hperform
    unfold poll IperfStream.isIntervalDataReceivedTimeout
    dsimp only
    split <;> constructor <;> rfl
  | summary cursor now =>
    obtain ⟨⟨stream, rest⟩, hread, hperform⟩ := Fault.bind_eq_ok.mp hperform
    obtain ⟨bytes, datagrams, bitrate, rfl⟩ := IperfStream.deserializeReport_eq (Fault.need_eq_ok.mp hread)
    obtain rfl := Fault.pure_eq_ok.mp hperform
    split
    · constructor <;> rfl
    · obtain ⟨hbytes, hidentifier, hfin⟩ := hfinish
        { s.toIperfStream with report := s.report.setSender bytes datagrams bitrate, isSumReceived := true } now
      exact ⟨(IperfStream.finishReport_same _ now).config, hidentifier, hfin, hbytes, rfl, rfl⟩
  | finishReport now =>
    obtain rfl := Except.ok.inj hperform
    obtain ⟨hbytes, hidentifier, hfin⟩ := hfinish s.toIperfStream now
    exact ⟨(IperfStream.finishReport_same _ now).config, hidentifier, hfin, hbytes, rfl, rfl⟩
  | stop now =>
    obtain rfl := Except.ok.inj hperform
    show SameReceiving s (s.stop now)
    unfold LiveStream.stop IperfStream.stop
    split
    · constructor <;> rfl
    · dsimp only
      split
      · obtain ⟨hbytes, hidentifier, hfin⟩ := hfinish { s.toIperfStream with isStopped := true } now
        exact ⟨(IperfStream.finishReport_same _ now).config, hidentifier, hfin, hbytes, rfl, rfl⟩
      · constructor <;> rfl
  | received | startSend | thread | snapshotReport => exact absurd ha Bool.false_ne_true

end LiveStream

end BatsIperf
