import BatsIperf.Stream.ReceiverReport

/-!
# The divisions of the reports

A snapshot divides by the time since the one before it, a summary by the number of snapshots and by the sender's datagrams, and the loss of an interval by the datagrams it announces. The functions below follow the calls of each step up to these divisions and list them, those of a step that faults later included.

`FinishReport` forces a snapshot of a receiver that has taken too few. Each other divisor is what earlier steps, the clock or the peer have left there.
-/

namespace BatsIperf

/-- A division of a report, with what its divisor is made of. -/
inductive Division
  /-- `SnapshotRxTxReport` divides by the milliseconds between two readings of the clock. -/
  | snapshot (last now : UInt64) (escaped : Nat)
  | sendSummary (snapshotCnt : Int)
  | receiveSummary (snapshotCnt : Int) (sent : UInt64)
  | lossRatio (announced : UInt64)
  deriving DecidableEq

namespace Division

def IsDefined : Division → Prop
  | .snapshot _ _ escaped => 1 ≤ escaped
  | .sendSummary snapshotCnt => 1 ≤ snapshotCnt
  | .receiveSummary snapshotCnt sent => 1 ≤ snapshotCnt ∧ 1 ≤ sent
  | .lossRatio announced => 1 ≤ announced

end Division

/-- What the steps so far say about the divisors. -/
structure Past where
  /-- A snapshot of the sender was due. -/
  isSnapshotTaken : Bool := false
  /-- The sender's datagrams in the last summary, and those counted here since then. -/
  sent : UInt64 := 0

namespace IperfStream

def finishDivisions (stream : IperfStream) (now : UInt64) : List Division :=
  match stream.config.role with
  | .roleSender =>
    if stream.state = .streamDone then [] else [.sendSummary stream.report.senderReport.snapshotCnt]
  | .roleReceiver =>
    let received := stream.report.receiverReport
    let sent := stream.report.senderReport.summary.datagrams
    if owesSnapshot stream.config received.snapshotCnt then
      [.snapshot received.lastSnapshotTime now (escapedTime now received.lastSnapshotTime),
        .receiveSummary (received.snapshotCnt + 1) sent]
    else [.receiveSummary received.snapshotCnt sent]
  | _ => []

def stopDivisions (stream : IperfStream) (now : UInt64) : List Division :=
  if ¬ stream.isStopped ∧ stream.config.role = .roleReceiver ∧ ¬ stream.isFinReceived then stream.finishDivisions now
  else []

end IperfStream

namespace LiveStream

variable {Recorder : Type} (tools : SeqTools Recorder)

/-! ### Received data -/

/-- The part of `updateReceived` in front of the flags. -/
def identify (s : LiveStream Recorder) (reception : Reception) :
    Except Fault (LiveStream Recorder × UInt64 × TestFlags) := do
  let s := s.countReceived reception.data.length reception.countedAt
  let seq ← wordAt reception.data 16
  s.checkData reception.data
  let s ← { s with recvSeqRecorder := tools.record s.recvSeqRecorder seq }.learnIdentifier reception.data seq
  let flags ← flagsAt reception.data
  return (s, seq, flags)

theorem updateReceived_eq (s : LiveStream Recorder) (reception : Reception) : s.updateReceived tools reception =
    if reception.data = [] then .ok s
    else do
      let found ← s.identify tools reception
      let s ← found.1.onFlags found.2.2 reception.fin
      let s ← s.onInterval tools found.2.2 found.2.1 (reception.data.drop IperfTestHeader.size) reception.snapshotAt
      let time ← wordAt reception.data 24
      return s.updateJitter reception.arrival time := by
  simp only [updateReceived, identify, bind_assoc, pure_bind]

/-- The handling of a FIN gets behind its loop before it finishes the report. -/
def finDivisions (s : LiveStream Recorder) (answer : FinAnswer) : List Division :=
  match s.dataConn, IperfStream.finAckSent answer.sendOk answer.views with
  | true, some isSent => (s.toIperfStream.countFinAck isSent).finishDivisions answer.now
  | _, _ => []

def flagDivisions (s : LiveStream Recorder) (flags : TestFlags) (answer : FinAnswer) : List Division :=
  if flags.last ∧ ¬ flags.ack then s.finDivisions answer else []

/-- An interval that came too early brings no snapshot and no ratio. -/
def intervalDataDivisions (s : LiveStream Recorder) (data : Octets) (now : UInt64) : List Division :=
  if s.config.role = .roleReceiver then
    let last := s.report.receiverReport.lastSnapshotTime
    match deserializeInterval data, s.onReceivedIntervalData tools data now with
    | .ok received, .ok _ =>
      if (escapedTime now last : Int) < partOfInterval s.config (9 / 10) then []
      else [.snapshot last now (escapedTime now last), .lossRatio received.datagrams]
    | _, _ => []
  else []

def intervalDivisions (s : LiveStream Recorder) (flags : TestFlags) (seq : UInt64) (data : Octets) (now : UInt64) :
    List Division :=
  let (isNew, s) := s.hasNewGrpId tools flags.grpId seq
  if isNew ∧ flags.hasInterval then s.intervalDataDivisions tools data now else []

def receivedDivisions (s : LiveStream Recorder) (reception : Reception) : List Division :=
  if reception.data = [] then []
  else
    match s.identify tools reception with
    | .error _ => []
    | .ok (s, seq, flags) => s.flagDivisions flags reception.fin ++
      match s.onFlags flags reception.fin with
      | .error _ => []
      | .ok s => s.intervalDivisions tools flags seq (reception.data.drop IperfTestHeader.size) reception.snapshotAt

/-! ### The other steps -/

def pollDivisions (s : LiveStream Recorder) (now : UInt64) : List Division :=
  let last := s.report.receiverReport.lastSnapshotTime
  if now < last + .ofNat (BinaryFormat.truncate (intervalMs s.config)).toNat - 50 then []
  else [.snapshot last now (now - last).toNat]

def snapshotDivisions (s : LiveStream Recorder) (now : UInt64) : List Division :=
  let last := s.report.senderReport.lastSnapshotTime
  if s.isSnapshotDue now then [.snapshot last now (escapedTime now last)] else []

def summaryDivisions (s : LiveStream Recorder) (cursor : Octets) (now : UInt64) : List Division :=
  match s.toIperfStream.deserializeReport cursor with
  | some (stream, _) => if isReliableProtocol s.config.protocol then [] else stream.finishDivisions now
  | none => []

/-- A thread that finds no connection stops the stream. -/
def threadDivisions (s : LiveStream Recorder) (now : UInt64) : List Division :=
  if s.sendingThread = .starting ∧ ¬ s.isConnected then s.stopDivisions now else []

def divisions (s : LiveStream Recorder) : Action → List Division
  | .event _ | .startSend _ => []
  | .received reception => s.receivedDivisions tools reception
  | .thread input => s.threadDivisions input.now
  | .snapshotReport now => s.snapshotDivisions now
  | .poll now => s.pollDivisions now
  | .summary cursor now => s.summaryDivisions cursor now
  | .finishReport now => s.finishDivisions now
  | .stop now => s.stopDivisions now

/-! ### The past of a step -/

/-- Whether a step counts a datagram with those of the sender: a FIN-ACK that was sent, or a block of the thread. -/
def countsSent (s : LiveStream Recorder) : Action → Bool
  | .received reception =>
    isFin reception.data && IperfStream.finAckSent reception.fin.sendOk reception.fin.views == some true
  | .thread _ => s.sendingThread = .sending ∧ (s.point = .countDatagrams ∨ s.point = .finCountDatagrams)
  | _ => false

def noteSent (s : LiveStream Recorder) (a : Action) (sent : UInt64) : UInt64 :=
  match a with
  | .summary cursor _ => (sentInSummary s.toIperfStream cursor).getD sent
  | _ => if s.countsSent a then sent + 1 else sent

def note (s : LiveStream Recorder) (a : Action) (past : Past) : Past where
  isSnapshotTaken :=
    past.isSnapshotTaken || match a with
      | .snapshotReport now => s.isSnapshotDue now
      | _ => false
  sent := s.noteSent a past.sent

/-! ### What a step does to the counters -/

structure KeepsCounts (before after : IperfStream) (sent : UInt64) : Prop where
  config : after.config = before.config
  snapshotCnt : after.report.senderReport.snapshotCnt = before.report.senderReport.snapshotCnt
  received : before.report.receiverReport.snapshotCnt ≤ after.report.receiverReport.snapshotCnt
  sent : after.report.senderReport.summary.datagrams = sent

theorem KeepsCounts.of_report {before after : IperfStream} (hconfig : after.config = before.config)
    (hreport : after.report = before.report) : KeepsCounts before after before.report.senderReport.summary.datagrams where
  config := hconfig
  snapshotCnt := by rw [hreport]
  received := by rw [hreport]
  sent := by rw [hreport]

theorem KeepsCounts.trans {first second third : IperfStream} {middle sent : UInt64} (h : KeepsCounts first second middle)
    (h' : KeepsCounts second third sent) : KeepsCounts first third sent where
  config := h'.config.trans h.config
  snapshotCnt := h'.snapshotCnt.trans h.snapshotCnt
  received := h.received.trans h'.received
  sent := h'.sent

theorem finishReport_counts (stream : IperfStream) (now : UInt64) :
    KeepsCounts stream (stream.finishReport now) stream.report.senderReport.summary.datagrams := by
  unfold IperfStream.finishReport
  split
  · split <;> exact ⟨rfl, rfl, le_rfl, rfl⟩
  · refine ⟨rfl, rfl, ?_, rfl⟩
    dsimp only
    split
    · exact Int.le_add_one le_rfl
    · exact le_rfl
  · exact ⟨rfl, rfl, le_rfl, rfl⟩

theorem stop_counts (stream : IperfStream) (now : UInt64) :
    KeepsCounts stream (stream.stop now) stream.report.senderReport.summary.datagrams := by
  unfold IperfStream.stop
  split
  · exact .of_report rfl rfl
  · dsimp only
    split
    · have hfinished := finishReport_counts { stream with isStopped := true } now
      exact ⟨hfinished.config, hfinished.snapshotCnt, hfinished.received, hfinished.sent⟩
    · exact .of_report rfl rfl

theorem poll_counts (stream : IperfStream) (now : UInt64) :
    KeepsCounts stream (stream.isIntervalDataReceivedTimeout now) stream.report.senderReport.summary.datagrams := by
  unfold IperfStream.isIntervalDataReceivedTimeout
  dsimp only
  split
  · exact .of_report rfl rfl
  · exact ⟨rfl, rfl, Int.le_add_one le_rfl, rfl⟩

theorem countFinAck_counts (stream : IperfStream) (isSent : Bool) :
    KeepsCounts stream (stream.countFinAck isSent) (if isSent then stream.report.senderReport.summary.datagrams + 1
      else stream.report.senderReport.summary.datagrams) := by
  cases isSent with
  | true => exact ⟨rfl, rfl, le_rfl, rfl⟩
  | false => exact .of_report rfl rfl

variable {tools}

theorem onReceivedFIN_counts {s t : LiveStream Recorder} {answer : FinAnswer} (h : s.onReceivedFIN answer = .ok t) :
    s.dataConn = true ∧ ∃ isSent, IperfStream.finAckSent answer.sendOk answer.views = some isSent ∧
      KeepsCounts s.toIperfStream t.toIperfStream (if isSent then s.report.senderReport.summary.datagrams + 1
        else s.report.senderReport.summary.datagrams) := by
  obtain ⟨stream, hstream, h⟩ := Fault.bind_eq_ok.mp h
  obtain ⟨_, hconn, hstream⟩ := Fault.bind_eq_ok.mp hstream
  obtain ⟨isSent, hsent, hstream⟩ := Fault.bind_eq_ok.mp hstream
  obtain rfl := Fault.pure_eq_ok.mp hstream
  obtain rfl := Fault.pure_eq_ok.mp h
  refine ⟨Fault.require_eq_ok.mp hconn, isSent, IperfStream.finAckSent_eq_some.mpr hsent, ?_⟩
  have hcounted := countFinAck_counts s.toIperfStream isSent
  have hfinished := finishReport_counts (s.toIperfStream.countFinAck isSent) answer.now
  exact ⟨hfinished.config.trans hcounted.config, hfinished.snapshotCnt.trans hcounted.snapshotCnt,
    hcounted.received.trans hfinished.received, hfinished.sent.trans hcounted.sent⟩

theorem onFlags_counts {s t : LiveStream Recorder} {flags : TestFlags} {answer : FinAnswer}
    (h : s.onFlags flags answer = .ok t) : KeepsCounts s.toIperfStream t.toIperfStream
      (if (flags.last && !flags.ack) && IperfStream.finAckSent answer.sendOk answer.views == some true
        then s.report.senderReport.summary.datagrams + 1 else s.report.senderReport.summary.datagrams) := by
  unfold onFlags at h
  cases hlast : flags.last with
  | false =>
    rw [if_neg (by simp [hlast])] at h
    obtain rfl := Except.ok.inj h
    exact .of_report rfl rfl
  | true =>
    rw [if_pos hlast] at h
    cases hack : flags.ack with
    | true =>
      rw [if_pos hack] at h
      obtain rfl := Except.ok.inj h
      exact .of_report rfl rfl
    | false =>
      rw [if_neg (by simp [hack])] at h
      obtain ⟨_, isSent, hsent, hcounts⟩ := onReceivedFIN_counts h
      rw [hsent]
      cases isSent <;> exact hcounts

theorem onInterval_counts {s t : LiveStream Recorder} {flags : TestFlags} {seq : UInt64} {data : Octets} {now : UInt64}
    (h : s.onInterval tools flags seq data now = .ok t) :
    KeepsCounts s.toIperfStream t.toIperfStream s.report.senderReport.summary.datagrams := by
  obtain ⟨found, rfl | ⟨received, actual, escaped, rfl⟩⟩ := onInterval_cases h
  · exact .of_report rfl rfl
  · exact ⟨rfl, rfl, Int.le_add_one le_rfl, rfl⟩

theorem updateJitter_counts (s : LiveStream Recorder) (arrival time : UInt64) :
    KeepsCounts s.toIperfStream (s.updateJitter arrival time).toIperfStream s.report.senderReport.summary.datagrams := by
  unfold updateJitter
  dsimp only
  split
  · exact .of_report rfl rfl
  · exact ⟨rfl, rfl, le_rfl, rfl⟩

theorem identify_counts {s t : LiveStream Recorder} {reception : Reception} {seq : UInt64} {flags : TestFlags}
    (h : s.identify tools reception = .ok (t, seq, flags)) : flagsAt reception.data = .ok flags ∧
      KeepsCounts s.toIperfStream t.toIperfStream s.report.senderReport.summary.datagrams := by
  obtain ⟨_, _, h⟩ := Fault.bind_eq_ok.mp h
  obtain ⟨_, _, h⟩ := Fault.bind_eq_ok.mp h
  obtain ⟨identified, hidentified, h⟩ := Fault.bind_eq_ok.mp h
  obtain ⟨found, hflags, h⟩ := Fault.bind_eq_ok.mp h
  obtain ⟨rfl, hrest⟩ := Prod.mk.inj (Fault.pure_eq_ok.mp h)
  obtain ⟨rfl, rfl⟩ := Prod.mk.inj hrest
  obtain ⟨identifier, rfl⟩ := learnIdentifier_eq hidentified
  refine ⟨hflags, rfl, rfl, ?_, rfl⟩
  unfold countReceived
  dsimp only
  split <;> exact le_rfl

theorem isFin_eq {data : Octets} {flags : TestFlags} (h : flagsAt data = .ok flags) :
    isFin data = (flags.last && !flags.ack) := by
  rw [isFin, h]

theorem updateReceived_counts {s t : LiveStream Recorder} {reception : Reception}
    (h : s.updateReceived tools reception = .ok t) : KeepsCounts s.toIperfStream t.toIperfStream
      (s.noteSent (.received reception) s.report.senderReport.summary.datagrams) := by
  rw [updateReceived_eq] at h
  split at h
  · rename_i hempty
    obtain rfl := Except.ok.inj h
    change KeepsCounts _ _ (if isFin reception.data && _ then _ else _)
    rw [hempty]
    exact .of_report rfl rfl
  · obtain ⟨⟨identified, seq, flags⟩, hidentified, h⟩ := Fault.bind_eq_ok.mp h
    obtain ⟨flagged, hflagged, h⟩ := Fault.bind_eq_ok.mp h
    obtain ⟨detected, hdetected, h⟩ := Fault.bind_eq_ok.mp h
    obtain ⟨time, _, h⟩ := Fault.bind_eq_ok.mp h
    obtain rfl := Fault.pure_eq_ok.mp h
    obtain ⟨hflags, hfirst⟩ := identify_counts hidentified
    have hsecond := onFlags_counts hflagged
    have hthird := onInterval_counts hdetected
    have hfourth := updateJitter_counts detected reception.arrival time
    rw [hfirst.sent] at hsecond
    rw [hsecond.sent] at hthird
    rw [hthird.sent] at hfourth
    change KeepsCounts _ _ (if isFin reception.data && _ then _ else _)
    rw [isFin_eq hflags]
    exact ((hfirst.trans hsecond).trans hthird).trans hfourth

theorem sendData_counts {s t : LiveStream Recorder} {length : Int} {sendOk : Bool} {sent unsent : SendPoint}
    (h : s.sendData length sendOk sent unsent = .ok t) :
    KeepsCounts s.toIperfStream t.toIperfStream s.report.senderReport.summary.datagrams := by
  obtain ⟨_, rfl⟩ := sendData_eq h
  cases sendOk <;> exact .of_report rfl rfl

theorem loopStep_counts {s t : LiveStream Recorder} {input : ThreadInput} (h : s.loopStep input = .ok t) :
    KeepsCounts s.toIperfStream t.toIperfStream
      (if s.point = .countDatagrams ∨ s.point = .finCountDatagrams then s.report.senderReport.summary.datagrams + 1
        else s.report.senderReport.summary.datagrams) := by
  by_cases hpoint : s.point = .countDatagrams ∨ s.point = .finCountDatagrams
  · rw [if_pos hpoint]
    rcases hpoint with hpoint | hpoint
    · rw [loopStep, hpoint] at h
      obtain rfl := Except.ok.inj h
      exact ⟨rfl, rfl, le_rfl, rfl⟩
    · rw [loopStep, hpoint] at h
      obtain rfl := Except.ok.inj h
      exact ⟨rfl, rfl, le_rfl, rfl⟩
  rw [if_neg hpoint]
  cases loopStep_move h with
  | waits | goesOn | leaves | fails | givesUp | buildsFin | ends => exact .of_report rfl rfl
  | builds =>
    change KeepsCounts s.toIperfStream (s.buildHeader input.time).toIperfStream _
    rw [buildHeader_stream]
    exact .of_report rfl rfl
  | sendsBlock _ hsend | sendsFin _ hsend => exact sendData_counts hsend
  | countsBytes | countsFinBytes => exact ⟨rfl, rfl, le_rfl, rfl⟩
  | countsDatagram hcount => exact absurd (.inl hcount) hpoint
  | countsFinDatagram hcount => exact absurd (.inr hcount) hpoint

theorem threadStep_counts {s t : LiveStream Recorder} {input : ThreadInput} (h : s.threadStep input = .ok t) :
    KeepsCounts s.toIperfStream t.toIperfStream
      (s.noteSent (.thread input) s.report.senderReport.summary.datagrams) := by
  change KeepsCounts _ _ (if decide (_ ∧ _) then _ else _)
  unfold threadStep at h
  split at h
  · exact absurd h (by simp)
  · exact absurd h (by simp)
  · rename_i hthread
    rw [if_neg (by simp [hthread])]
    obtain rfl := Except.ok.inj h
    split
    · exact .of_report rfl rfl
    · have hstopped := stop_counts s.toIperfStream input.now
      exact ⟨hstopped.config, hstopped.snapshotCnt, hstopped.received, hstopped.sent⟩
  · rename_i hthread
    simp only [hthread, true_and, decide_eq_true_eq]
    exact loopStep_counts h

theorem onSummary_counts {s t : LiveStream Recorder} {cursor : Octets} {now : UInt64}
    (h : s.onSummary cursor now = .ok t) : KeepsCounts s.toIperfStream t.toIperfStream
      (s.noteSent (.summary cursor now) s.report.senderReport.summary.datagrams) := by
  obtain ⟨⟨stream, rest⟩, hentry, h⟩ := Fault.bind_eq_ok.mp h
  have hentry : s.toIperfStream.deserializeReport cursor = some (stream, rest) := Fault.need_eq_ok.mp hentry
  obtain ⟨bytes, datagrams, bitrate, hread⟩ := IperfStream.deserializeReport_eq hentry
  have hnoted : s.noteSent (.summary cursor now) s.report.senderReport.summary.datagrams
      = stream.report.senderReport.summary.datagrams := by
    change (sentInSummary s.toIperfStream cursor).getD _ = _
    rw [sentInSummary, hentry]
    rfl
  have htold : KeepsCounts s.toIperfStream stream stream.report.senderReport.summary.datagrams := by
    rw [hread]
    exact ⟨rfl, rfl, le_rfl, rfl⟩
  rw [hnoted]
  obtain rfl := Fault.pure_eq_ok.mp h
  split
  · exact htold
  · exact htold.trans (finishReport_counts stream now)

theorem startSend_counts {s t : LiveStream Recorder} {now : UInt64} (h : s.startSend now = .ok t) :
    KeepsCounts s.toIperfStream t.toIperfStream s.report.senderReport.summary.datagrams := by
  obtain ⟨stream, hstream, h⟩ := Fault.bind_eq_ok.mp h
  obtain ⟨_, _, hstream⟩ := Fault.bind_eq_ok.mp hstream
  obtain rfl := Fault.pure_eq_ok.mp hstream
  obtain rfl := Fault.pure_eq_ok.mp h
  refine ⟨rfl, ?_, le_rfl, ?_⟩
  · dsimp only
    split <;> rfl
  · dsimp only
    split <;> rfl

end LiveStream

end BatsIperf
