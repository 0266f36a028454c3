import BatsIperf.Stream.IntervalCalls
import BatsIperf.Stream.SenderIntervals

/-!
# The snapshots of a receiver

A snapshot subtracts the counters of the snapshot before it. Received data only adds to the counters, but when the report is finished the number of datagrams is overwritten with the one the sender reports, and the polls go on. `Grown` says that a report is not behind its last snapshot, and `CountsUp` is the condition on a step under which no step loses it.
-/

namespace BatsIperf

/-- The counters are not below those of the last snapshot. -/
structure Grown (report : TestReport) : Prop where
  bytes : report.lastSnapshot.bytes ≤ report.summary.bytes
  datagrams : report.lastSnapshot.datagrams ≤ report.summary.datagrams

namespace Grown

variable {report : TestReport}

theorem interval_exact (h : Grown report) (current : UInt64) (interval : Nat) :
    (report.snapshotRxTxReport current interval).lastInterval.bytes.toNat
        = report.summary.bytes.toNat - report.lastSnapshot.bytes.toNat ∧
      (report.snapshotRxTxReport current interval).lastInterval.datagrams.toNat
        = report.summary.datagrams.toNat - report.lastSnapshot.datagrams.toNat :=
  ⟨UInt64.toNat_sub_of_le _ _ h.bytes, UInt64.toNat_sub_of_le _ _ h.datagrams⟩

theorem snapshot (report : TestReport) (current : UInt64) (interval : Nat) :
    Grown (report.snapshotRxTxReport current interval) :=
  ⟨UInt64.le_refl _, UInt64.le_refl _⟩

theorem count (h : Grown report) {length : Nat} (hbytes : report.summary.bytes.toNat + length < 2 ^ 64)
    (hdatagrams : report.summary.datagrams.toNat + 1 < 2 ^ 64) : Grown (report.count length) where
  bytes := by
    refine UInt64.le_trans h.bytes ?_
    show report.summary.bytes ≤ report.summary.bytes + .ofNat (Narrowing.unsigned 64 length)
    have hlength : Narrowing.unsigned 64 length = length := by
      unfold Narrowing.unsigned
      omega
    rw [UInt64.le_iff_toNat_le, UInt64.toNat_add, hlength, UInt64.toNat_ofNat']
    omega
  datagrams := by
    refine UInt64.le_trans h.datagrams ?_
    show report.summary.datagrams ≤ report.summary.datagrams + 1
    rw [UInt64.le_iff_toNat_le, UInt64.toNat_add, UInt64.toNat_one, Nat.mod_eq_of_lt hdatagrams]
    exact Nat.le_add_right _ _

end Grown

namespace LiveStream

variable {Recorder : Type} {tools : SeqTools Recorder}

/-! ### The end of a report -/

/-- What the last snapshot has counted when a report is finished, with `datagrams` counted by then: a snapshot that is still missing is taken first. -/
def lastCounted (stream : IperfStream) (datagrams : UInt64) : UInt64 :=
  if owesSnapshot stream.config stream.report.receiverReport.snapshotCnt then datagrams
  else stream.report.receiverReport.lastSnapshot.datagrams

/-- The sender reports no fewer datagrams than the last snapshot has counted. -/
def FinishKeeps (stream : IperfStream) : Prop :=
  lastCounted stream stream.report.receiverReport.summary.datagrams ≤ stream.report.senderReport.summary.datagrams

instance (stream : IperfStream) : Decidable (FinishKeeps stream) := inferInstanceAs (Decidable (_ ≤ _))

/-- After the report is finished the counters are not behind the last snapshot exactly where the sender's number is not. -/
theorem grown_finishReport_iff {stream : IperfStream} (hrole : stream.config.role = .roleReceiver)
    (h : Grown stream.report.receiverReport) (now : UInt64) :
    Grown (stream.finishReport now).report.receiverReport ↔ FinishKeeps stream := by
  unfold IperfStream.finishReport FinishKeeps lastCounted
  rw [hrole]
  dsimp only
  split
  · exact ⟨Grown.datagrams, fun hle => ⟨UInt64.le_refl _, hle⟩⟩
  · exact ⟨Grown.datagrams, fun hle => ⟨h.bytes, hle⟩⟩

theorem grown_snapshotsOfFinish {stream : IperfStream} (h : Grown stream.report.receiverReport) :
    ∀ report ∈ snapshotsOfFinish stream, Grown report := by
  intro report hreport
  unfold snapshotsOfFinish at hreport
  split at hreport
  · obtain rfl := List.mem_singleton.mp hreport
    exact h
  · exact absurd hreport List.not_mem_nil

/-! ### The condition on a step -/

/-- Whether received data is a FIN, which ends the report of a receiver. -/
def isFin (data : Octets) : Bool :=
  match flagsAt data with
  | .ok flags => flags.last && !flags.ack
  | .error _ => false

/-- The sender's number of datagrams in a summary. -/
def sentInSummary (stream : IperfStream) (cursor : Octets) : Option UInt64 :=
  (stream.deserializeReport cursor).map fun entry => entry.1.report.senderReport.summary.datagrams

/-- Received data does not wrap the counters, and where a step finishes the report the sender's number of datagrams, a FIN-ACK that is counted with them included, is not below what the last snapshot has counted. -/
def CountsUp (s : LiveStream Recorder) : Action → Prop
  | .received reception =>
    (s.report.receiverReport.summary.bytes.toNat + reception.data.length < 2 ^ 64 ∧
      s.report.receiverReport.summary.datagrams.toNat + 1 < 2 ^ 64) ∧
    (isFin reception.data → lastCounted s.toIperfStream (s.report.receiverReport.summary.datagrams + 1)
      ≤ s.report.senderReport.summary.datagrams
        + if IperfStream.finAckSent reception.fin.sendOk reception.fin.views = some true then 1 else 0)
  | .summary cursor _ => isReliableProtocol s.config.protocol = false →
    ∀ sent ∈ sentInSummary s.toIperfStream cursor,
      lastCounted s.toIperfStream s.report.receiverReport.summary.datagrams ≤ sent
  | .finishReport _ => FinishKeeps s.toIperfStream
  | .stop _ => s.isStopped = false → s.isFinReceived = false → FinishKeeps s.toIperfStream
  | _ => True

instance decidableCountsUp : ∀ (s : LiveStream Recorder) (a : Action), Decidable (CountsUp s a)
  | _, .received reception => inferInstanceAs (Decidable ((_ ∧ _) ∧ (isFin reception.data → _)))
  | s, .summary cursor _ => inferInstanceAs (Decidable (isReliableProtocol s.config.protocol = false →
      ∀ sent ∈ sentInSummary s.toIperfStream cursor, _ ≤ sent))
  | s, .finishReport _ => inferInstanceAs (Decidable (FinishKeeps s.toIperfStream))
  | s, .stop _ => inferInstanceAs (Decidable (s.isStopped = false → s.isFinReceived = false → FinishKeeps s.toIperfStream))
  | _, .event _ | _, .startSend _ | _, .thread _ | _, .snapshotReport _ | _, .poll _ => isTrue trivial

/-- The steps of a receiver: what arrives over the two channels, the events of the connection, the polls and the two ends. -/
def Action.isReceiving : Action → Bool
  | .event _ | .received _ | .poll _ | .summary _ _ | .finishReport _ | .stop _ => true
  | .startSend _ | .thread _ | .snapshotReport _ => false

/-! ### Every step -/

structure Counting (s : LiveStream Recorder) : Prop where
  role : s.config.role = .roleReceiver
  grown : Grown s.report.receiverReport
  snapshots : ∀ report ∈ s.log.snapshots, Grown report

theorem Counting.congr {s t : LiveStream Recorder} (h : Counting s) (hconfig : t.config = s.config)
    (hreport : t.report.receiverReport = s.report.receiverReport) (hlog : t.log.snapshots = s.log.snapshots) :
    Counting t where
  role := by
    rw [hconfig]
    exact h.role
  grown := by
    rw [hreport]
    exact h.grown
  snapshots := by
    rw [hlog]
    exact h.snapshots

theorem Counting.logSnapshots {s t : LiveStream Recorder} {found : List TestReport} (h : Counting s)
    (hconfig : t.config = s.config) (hgrown : Grown t.report.receiverReport)
    (hlog : t.log.snapshots = s.log.snapshots) (hfound : ∀ report ∈ found, Grown report) :
    Counting (t.logSnapshots found) where
  role := (congrArg TestConfig.role hconfig).trans h.role
  grown := hgrown
  snapshots report hreport := by
    rcases List.mem_append.mp hreport with hreport | hreport
    · exact h.snapshots report (hlog ▸ hreport)
    · exact hfound report hreport

theorem Counting.finish {s t : LiveStream Recorder} {stream : IperfStream} {now : UInt64} (h : Counting s)
    (hconfig : stream.config = s.config) (hreport : stream.report.receiverReport = s.report.receiverReport)
    (hkeeps : FinishKeeps stream) (htconfig : t.config = s.config)
    (htreport : t.report = (stream.finishReport now).report) (htlog : t.log.snapshots = s.log.snapshots) :
    Counting (t.logSnapshots (snapshotsOfFinish stream)) := by
  have hrole : stream.config.role = .roleReceiver := by
    rw [hconfig]
    exact h.role
  have hgrown : Grown stream.report.receiverReport := by
    rw [hreport]
    exact h.grown
  refine h.logSnapshots htconfig ?_ htlog (grown_snapshotsOfFinish hgrown)
  rw [htreport]
  exact (grown_finishReport_iff hrole hgrown now).mpr hkeeps

theorem counting_countReceived {s : LiveStream Recorder} (h : Counting s) {length : Nat} (now : UInt64)
    (hbytes : s.report.receiverReport.summary.bytes.toNat + length < 2 ^ 64)
    (hdatagrams : s.report.receiverReport.summary.datagrams.toNat + 1 < 2 ^ 64) :
    Counting (s.countReceived length now) where
  role := h.role
  grown := by
    unfold countReceived
    dsimp only
    split
    · have hstarted : Grown { s.report.receiverReport with lastSnapshotTime := now } :=
        ⟨h.grown.bytes, h.grown.datagrams⟩
      exact hstarted.count hbytes hdatagrams
    · exact h.grown.count hbytes hdatagrams
  snapshots := h.snapshots

theorem counting_onInterval {s t : LiveStream Recorder} {flags : TestFlags} {seq : UInt64} {data : Octets}
    {now : UInt64} (h : Counting s) (hstep : s.onInterval tools flags seq data now = .ok t) : Counting t := by
  obtain ⟨found, rfl | ⟨received, actual, escaped, rfl⟩⟩ := onInterval_cases hstep
  · exact h.congr rfl rfl rfl
  · refine h.logSnapshots rfl ⟨UInt64.le_refl _, UInt64.le_refl _⟩ rfl fun report hreport => ?_
    obtain rfl := List.mem_singleton.mp hreport
    exact h.grown

theorem counting_updateJitter {s : LiveStream Recorder} (h : Counting s) (arrival time : UInt64) :
    Counting (s.updateJitter arrival time) := by
  unfold updateJitter
  dsimp only
  split
  · exact h.congr rfl rfl rfl
  · exact ⟨h.role, ⟨h.grown.bytes, h.grown.datagrams⟩, h.snapshots⟩

theorem counting_onFlags {s t : LiveStream Recorder} {flags : TestFlags} {answer : FinAnswer} (h : Counting s)
    (hfin : flags.last = true → flags.ack = false →
      lastCounted s.toIperfStream s.report.receiverReport.summary.datagrams ≤ s.report.senderReport.summary.datagrams
        + if IperfStream.finAckSent answer.sendOk answer.views = some true then 1 else 0)
    (hstep : s.onFlags flags answer = .ok t) : Counting t := by
  unfold onFlags at hstep
  split at hstep
  · rename_i hlast
    split at hstep
    · obtain rfl := Except.ok.inj hstep
      exact h.congr rfl rfl rfl
    · rename_i hack
      obtain ⟨stream, hstream, hstep⟩ := Fault.bind_eq_ok.mp hstep
      obtain ⟨_, _, hstream⟩ := Fault.bind_eq_ok.mp hstream
      obtain ⟨isSent, hsent, hstream⟩ := Fault.bind_eq_ok.mp hstream
      have hsent : IperfStream.finAckSent answer.sendOk answer.views = some isSent := IperfStream.finAckSent_eq_some.mpr hsent
      obtain rfl := Fault.pure_eq_ok.mp hstream
      obtain rfl := Fault.pure_eq_ok.mp hstep
      have hfin := hfin hlast (by simpa using hack)
      rw [hsent] at hfin
      have hcounted : (s.toIperfStream.countFinAck isSent).config = s.config ∧
          (s.toIperfStream.countFinAck isSent).report.receiverReport = s.report.receiverReport ∧
          snapshotsOfFinish (s.toIperfStream.countFinAck isSent) = snapshotsOfFinish s.toIperfStream := by
        cases isSent <;> exact ⟨rfl, rfl, rfl⟩
      have hkeeps : FinishKeeps (s.toIperfStream.countFinAck isSent) := by
        cases isSent with
        | true => exact hfin
        | false =>
          rw [if_neg (by decide), UInt64.add_zero] at hfin
          exact hfin
      rw [← hcounted.2.2]
      refine h.finish hcounted.1 hcounted.2.1 hkeeps ?_ rfl rfl
      exact ((s.toIperfStream.countFinAck isSent).finishReport_same answer.now).config.trans hcounted.1
  · obtain rfl := Except.ok.inj hstep
    exact h

theorem counting_updateReceived {s t : LiveStream Recorder} {reception : Reception} (h : Counting s)
    (hcounts : CountsUp s (.received reception)) (hstep : s.updateReceived tools reception = .ok t) : Counting t := by
  obtain ⟨⟨hbytes, hdatagrams⟩, hfin⟩ := hcounts
  rcases updateReceived_stages hstep with ⟨-, rfl⟩ | ⟨seq, time, flags, identified, flagged, detected, _, hflags,
    hidentified, hflagged, hdetected, rfl⟩
  · exact h
  · have hreceived := counting_countReceived h reception.countedAt hbytes hdatagrams
    obtain ⟨identifier, rfl⟩ := learnIdentifier_eq hidentified
    have hreceived : Counting ({ s.countReceived reception.data.length reception.countedAt with
        recvSeqRecorder := tools.record s.recvSeqRecorder seq
        streamIdentifier := identifier } : LiveStream Recorder) := hreceived.congr rfl rfl rfl
    have hisFin : flags.last = true → flags.ack = false → isFin reception.data = true := by
      intro hlast hack
      rw [isFin, hflags]
      dsimp only
      rw [hlast, hack]
      rfl
    refine counting_updateJitter (counting_onInterval (counting_onFlags hreceived ?_ hflagged) hdetected) _ _
    intro hlast hack
    have hfin := hfin (hisFin hlast hack)
    unfold countReceived
    dsimp only
    split <;> exact hfin

theorem counting_poll {s : LiveStream Recorder} (h : Counting s) (now : UInt64) : Counting (s.poll now) := by
  have hconfig := (s.toIperfStream.isIntervalDataReceivedTimeout_same now).config
  refine h.logSnapshots hconfig ?_ rfl fun report hreport => ?_
  · show Grown (s.toIperfStream.isIntervalDataReceivedTimeout now).report.receiverReport
    unfold IperfStream.isIntervalDataReceivedTimeout
    dsimp only
    split
    · exact h.grown
    · exact .snapshot _ _ _
  · split at hreport
    · obtain rfl := List.mem_singleton.mp hreport
      exact h.grown
    · exact absurd hreport List.not_mem_nil

theorem counting_finishReport {s : LiveStream Recorder} (h : Counting s) (hkeeps : FinishKeeps s.toIperfStream)
    (now : UInt64) : Counting (s.finishReport now) :=
  h.finish rfl rfl hkeeps (s.toIperfStream.finishReport_same now).config rfl rfl

theorem counting_onSummary {s t : LiveStream Recorder} {cursor : Octets} {now : UInt64} (h : Counting s)
    (hcounts : CountsUp s (.summary cursor now)) (hstep : s.onSummary cursor now = .ok t) : Counting t := by
  obtain ⟨⟨stream, rest⟩, hentry, hstep⟩ := Fault.bind_eq_ok.mp hstep
  have hentry : s.toIperfStream.deserializeReport cursor = some (stream, rest) := Fault.need_eq_ok.mp hentry
  obtain ⟨bytes, datagrams, bitrate, hread⟩ := IperfStream.deserializeReport_eq hentry
  have hconfig : stream.config = s.config := by rw [hread]
  have hreport : stream.report.receiverReport = s.report.receiverReport := by
    rw [hread]
    rfl
  have hread : Counting ({ s with toIperfStream := stream } : LiveStream Recorder) := h.congr hconfig hreport rfl
  obtain rfl := Fault.pure_eq_ok.mp hstep
  split
  · exact hread
  · rename_i hunreliable
    have hsent : stream.report.senderReport.summary.datagrams ∈ sentInSummary s.toIperfStream cursor := by
      rw [sentInSummary, hentry]
      rfl
    have hkeeps := hcounts (Bool.eq_false_iff.mpr (hconfig ▸ hunreliable)) _ hsent
    refine counting_finishReport hread ?_ now
    rw [lastCounted, ← hreport, ← hconfig] at hkeeps
    exact hkeeps

theorem counting_stop {s : LiveStream Recorder} (h : Counting s)
    (hcounts : s.isStopped = false → s.isFinReceived = false → FinishKeeps s.toIperfStream) (now : UInt64) :
    Counting (s.stop now) := by
  unfold stop IperfStream.stop snapshotsOfStop
  by_cases hstopped : s.isStopped = true
  · rw [if_pos hstopped, if_neg fun hstop => hstop.1 hstopped]
    exact h.logSnapshots rfl h.grown rfl fun report hreport => absurd hreport List.not_mem_nil
  · rw [if_neg hstopped]
    dsimp only
    by_cases hfin : s.isFinReceived = true
    · rw [if_neg fun hfinish => hfinish.2 hfin, if_neg fun hfinish => hfinish.2.2 hfin]
      exact h.logSnapshots rfl h.grown rfl fun report hreport => absurd hreport List.not_mem_nil
    · rw [if_pos ⟨h.role, hfin⟩, if_pos ⟨hstopped, h.role, hfin⟩]
      have hkeeps : FinishKeeps { s.toIperfStream with isStopped := true } :=
        hcounts (Bool.eq_false_iff.mpr hstopped) (Bool.eq_false_iff.mpr hfin)
      have hfound : snapshotsOfFinish s.toIperfStream = snapshotsOfFinish { s.toIperfStream with isStopped := true } := rfl
      rw [hfound]
      refine h.finish rfl rfl hkeeps ?_ rfl rfl
      exact (IperfStream.finishReport_same { s.toIperfStream with isStopped := true } now).config

theorem step_counting {s t : LiveStream Recorder} {a : Action} (h : Counting s) (ha : a.isReceiving ∧ CountsUp s a)
    (hstep : (machine tools).step s a = some t) : Counting t := by
  have hperform := step_eq_some.mp hstep
  obtain ⟨hreceiving, hcounts⟩ := ha
  cases a with
  | event event =>
    obtain ⟨stream, hstream, hperform⟩ := Fault.bind_eq_ok.mp hperform
    obtain rfl := Fault.pure_eq_ok.mp hperform
    have hreport := (connectionCallback_report hstream).1
    exact h.congr (IperfStream.connectionCallback_config hstream).1 (congrArg TestReportOfStream.receiverReport hreport) rfl
  | received reception => exact counting_updateReceived h hcounts hperform
  | poll now =>
    obtain rfl := Except.ok.inj hperform
    exact counting_poll h now
  | summary cursor now => exact counting_onSummary h hcounts hperform
  | finishReport now =>
    obtain rfl := Except.ok.inj hperform
    exact counting_finishReport h hcounts now
  | stop now =>
    obtain rfl := Except.ok.inj hperform
    exact counting_stop h hcounts now
  | startSend | thread | snapshotReport => exact absurd hreceiving Bool.false_ne_true

/-! ### Every run -/

theorem counting_new {s : LiveStream Recorder} {recorder : Recorder} (hnew : IsNew recorder s)
    (hrole : s.config.role = .roleReceiver) : Counting s := by
  cases hnew with
  | connecting => exact ⟨hrole, ⟨UInt64.le_refl _, UInt64.le_refl _⟩, fun report h => absurd h List.not_mem_nil⟩
  | accepted haccepted =>
    rw [IperfStream.switchDataBlockLength_eq haccepted] at hrole ⊢
    exact ⟨hrole, ⟨UInt64.le_refl _, UInt64.le_refl _⟩, fun report h => absurd h List.not_mem_nil⟩

/-- In a run of such steps every snapshot of a receiver finds counters that are not behind the last snapshot, and its interval is the difference. -/
theorem snapshots_exact {s₀ s : LiveStream Recorder} {recorder : Recorder} {acts : List Action}
    (hnew : IsNew recorder s₀) (hrole : s₀.config.role = .roleReceiver)
    (hallowed : (machine tools).Respects (fun s a => a.isReceiving ∧ CountsUp s a) s₀ acts)
    (hrun : (machine tools).run s₀ acts = some s) :
    ∀ report ∈ s.log.snapshots, Grown report ∧ ∀ (current : UInt64) (interval : Nat),
      (report.snapshotRxTxReport current interval).lastInterval.bytes.toNat
          = report.summary.bytes.toNat - report.lastSnapshot.bytes.toNat ∧
        (report.snapshotRxTxReport current interval).lastInterval.datagrams.toNat
          = report.summary.datagrams.toNat - report.lastSnapshot.datagrams.toNat := by
  have hcounting : Counting s :=
    Machine.run_invariant (fun s a t => step_counting) (counting_new hnew hrole) hallowed hrun
  intro report hreport
  have hgrown := hcounting.snapshots report hreport
  exact ⟨hgrown, hgrown.interval_exact⟩

def dataAction (seq : Nat) : Action := .received (sample 129 0 seq).reception

def finAction (seq : Nat) : Action :=
  let fin : IperfData := { sampleData 129 0 seq with header := { (sampleData 129 0 seq).header with last := true } }
  .received { (sample 129 0 seq).reception with data := fin.packet 72 }

/-- Two packets and a snapshot, the summary of the sender, the FIN and one more poll. -/
def untilLatePoll : List Action :=
  [dataAction 0, dataAction 1, .poll 1000, .summary (Octets.words [144, 2, 0]) 1500, finAction 2, .poll 2000]

theorem snapshots_exact_poll :
    ∃ stream s, IperfStream.accepted { role := .roleReceiver, protocol := 1 } 1 1000 = .ok stream ∧
      (machine SeqTools.ofLists).run (fresh stream []) untilLatePoll = some s ∧ s.log.snapshots.length = 3 ∧
      ∀ report ∈ s.log.snapshots, Grown report := by
  obtain ⟨stream, haccepted⟩ : ∃ stream,
    IperfStream.accepted { role := .roleReceiver, protocol := 1 } 1 1000 = .ok stream := ⟨_, rfl⟩
  have hrun : (IperfStream.accepted { role := .roleReceiver, protocol := 1 } 1 1000).toOption.bind (fun stream =>
      ((machine SeqTools.ofLists).run (fresh stream []) untilLatePoll).map fun s => s.log.snapshots.length) = some 3 := by
    decide +kernel
  have hallowed : ∀ stream, IperfStream.accepted { role := .roleReceiver, protocol := 1 } 1 1000 = .ok stream →
      (machine SeqTools.ofLists).Respects (fun s a => a.isReceiving ∧ CountsUp s a) (fresh stream []) untilLatePoll := by
    intro stream h
    obtain rfl := Except.ok.inj h
    decide +kernel
  rw [haccepted] at hrun
  obtain ⟨s, hs, hlength⟩ := Option.map_eq_some_iff.mp hrun
  have hrole : (fresh stream ([] : List UInt64)).config.role = .roleReceiver :=
    congrArg TestConfig.role (accepted_eq haccepted).1
  refine ⟨stream, s, haccepted, hs, hlength, fun report hreport => ?_⟩
  exact (snapshots_exact (.accepted haccepted) hrole (hallowed stream haccepted) hs report hreport).1

/-- Without the summary of the sender, the FIN sets the number of datagrams back to that of the FIN-ACK, and the next poll finds fewer than the snapshot before it. -/
theorem snapshot_wraps_counterexample :
    ∃ stream s report, IperfStream.accepted { role := .roleReceiver, protocol := 1 } 1 1000 = .ok stream ∧
      (machine SeqTools.ofLists).run (fresh stream []) [dataAction 0, dataAction 1, .poll 1000, finAction 2, .poll 2000]
        = some s ∧
      report ∈ s.log.snapshots ∧ report.summary.datagrams = 1 ∧ report.lastSnapshot.datagrams = 3 := by
  obtain ⟨stream, haccepted⟩ : ∃ stream,
    IperfStream.accepted { role := .roleReceiver, protocol := 1 } 1 1000 = .ok stream := ⟨_, rfl⟩
  have hrun : (IperfStream.accepted { role := .roleReceiver, protocol := 1 } 1 1000).toOption.bind (fun stream =>
      ((machine SeqTools.ofLists).run (fresh stream [])
        [dataAction 0, dataAction 1, .poll 1000, finAction 2, .poll 2000]).map fun s =>
          s.log.snapshots.map fun report => (report.summary.datagrams, report.lastSnapshot.datagrams))
      = some [(2, 0), (3, 2), (1, 3)] := by
    decide +kernel
  rw [haccepted] at hrun
  obtain ⟨s, hs, hfound⟩ := Option.map_eq_some_iff.mp hrun
  have hlast : ((1 : UInt64), (3 : UInt64)) ∈ s.log.snapshots.map fun report =>
      (report.summary.datagrams, report.lastSnapshot.datagrams) := by
    rw [hfound]
    decide
  obtain ⟨report, hreport, heq⟩ := List.mem_map.mp hlast
  obtain ⟨hsummary, hlast⟩ := Prod.mk.inj heq
  exact ⟨stream, s, report, haccepted, hs, hreport, hsummary, hlast⟩

end LiveStream

end BatsIperf
