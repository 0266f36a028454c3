import BatsIperf.Stream.Divisions
import BatsIperf.Stream.ReadLengths

/-!
# When the reports divide by zero

`DividesSafely` says of a step, by what it is given and by what the steps before it have done, that none of its divisions is by 0. The counters that become divisors are tied to these steps by `Tracked`, which every step keeps.
-/

namespace BatsIperf

namespace LiveStream

variable {Recorder : Type} {tools : SeqTools Recorder}

/-! ### Every step -/

/-- The counters of a stream and the past they stand for. -/
structure Tracked (config : TestConfig) (stream : IperfStream) (past : Past) : Prop where
  config : stream.config = config
  sentSnapshots : 0 ≤ stream.report.senderReport.snapshotCnt
  receivedSnapshots : 0 ≤ stream.report.receiverReport.snapshotCnt
  isSnapshotTaken : 1 ≤ stream.report.senderReport.snapshotCnt ↔ past.isSnapshotTaken = true
  sent : stream.report.senderReport.summary.datagrams = past.sent

variable {config : TestConfig} {past : Past}

theorem KeepsCounts.tracked {before after : IperfStream} {sent : UInt64} (hcounts : KeepsCounts before after sent)
    (h : Tracked config before past) : Tracked config after { past with sent := sent } where
  config := hcounts.config.trans h.config
  sentSnapshots := hcounts.snapshotCnt ▸ h.sentSnapshots
  receivedSnapshots := h.receivedSnapshots.trans hcounts.received
  isSnapshotTaken := hcounts.snapshotCnt ▸ h.isSnapshotTaken
  sent := hcounts.sent

theorem note_eq (s : LiveStream Recorder) {a : Action} (ha : ∀ now, a ≠ .snapshotReport now) (past : Past) :
    s.note a past = { past with sent := s.noteSent a past.sent } := by
  cases a with
  | snapshotReport now => exact absurd rfl (ha now)
  | _ => simp only [note, Bool.or_false]

theorem tracked_snapshotReport {s : LiveStream Recorder} (h : Tracked config s.toIperfStream past) (now : UInt64) :
    Tracked config (s.snapshotReport now).toIperfStream (s.note (.snapshotReport now) past) := by
  have hsent : (s.note (.snapshotReport now) past).sent = past.sent := rfl
  have hnote : (s.note (.snapshotReport now) past).isSnapshotTaken = (past.isSnapshotTaken || s.isSnapshotDue now) := rfl
  unfold snapshotReport
  split
  · rename_i hdue
    have hnonneg := h.sentSnapshots
    rw [taken_of_due hdue]
    refine ⟨h.config, ?_, h.receivedSnapshots, ?_, h.sent.trans hsent.symm⟩
    · exact hnonneg.trans (Int.le_add_one le_rfl)
    · rw [hnote, hdue, Bool.or_true]
      exact iff_of_true (Int.le_add_of_nonneg_left hnonneg) rfl
  · rename_i hnot
    rw [kept_of_not_due hnot]
    refine ⟨h.config, h.sentSnapshots, h.receivedSnapshots, ?_, h.sent.trans hsent.symm⟩
    rw [hnote, Bool.eq_false_iff.mpr hnot, Bool.or_false]
    exact h.isSnapshotTaken

theorem step_tracked {s t : LiveStream Recorder} {a : Action} (h : Tracked config s.toIperfStream past)
    (hstep : (machine tools).step s a = some t) : Tracked config t.toIperfStream (s.note a past) := by
  have hperform := step_eq_some.mp hstep
  have hother (ha : ∀ now, a ≠ .snapshotReport now) (hcounts : KeepsCounts s.toIperfStream t.toIperfStream
      (s.noteSent a s.report.senderReport.summary.datagrams)) : Tracked config t.toIperfStream (s.note a past) := by
    rw [note_eq s ha, ← h.sent]
    exact hcounts.tracked h
  cases a with
  | event event =>
    obtain ⟨stream, hstream, hperform⟩ := Fault.bind_eq_ok.mp hperform
    obtain rfl := Fault.pure_eq_ok.mp hperform
    have hreport := (connectionCallback_report hstream).1
    exact hother (by simp) (.of_report (IperfStream.connectionCallback_config hstream).1 hreport)
  | received reception => exact hother (by simp) (updateReceived_counts hperform)
  | startSend now => exact hother (by simp) (startSend_counts hperform)
  | thread input => exact hother (by simp) (threadStep_counts hperform)
  | snapshotReport now =>
    obtain rfl := Except.ok.inj hperform
    exact tracked_snapshotReport h now
  | poll now =>
    obtain rfl := Except.ok.inj hperform
    exact hother (by simp) (poll_counts s.toIperfStream now)
  | summary cursor now => exact hother (by simp) (onSummary_counts hperform)
  | finishReport now =>
    obtain rfl := Except.ok.inj hperform
    exact hother (by simp) (finishReport_counts s.toIperfStream now)
  | stop now =>
    obtain rfl := Except.ok.inj hperform
    exact hother (by simp) (stop_counts s.toIperfStream now)

theorem tracked_new {s : LiveStream Recorder} {recorder : Recorder} (hnew : IsNew recorder s) :
    Tracked s.config s.toIperfStream {} := by
  have htracked {stream : IperfStream} (hsent : stream.report.senderReport.snapshotCnt = 0)
      (hreceived : stream.report.receiverReport.snapshotCnt = 0) (hnone : stream.report.senderReport.summary.datagrams = 0) :
      Tracked stream.config stream {} := by
    refine ⟨rfl, hsent.ge, hreceived.ge, ?_, hnone⟩
    rw [hsent]
    exact iff_of_false (by decide) Bool.false_ne_true
  cases hnew with
  | connecting => exact htracked rfl rfl rfl
  | accepted haccepted =>
    rw [IperfStream.switchDataBlockLength_eq haccepted]
    exact htracked rfl rfl rfl

/-! ### When a divisor is not 0 -/

theorem escapedTime_pos_iff {now last : UInt64} : 1 ≤ escapedTime now last ↔ now ≠ last := by
  have hnow := now.toNat_lt
  have hlast := last.toNat_lt
  have hinj : now = last ↔ now.toNat = last.toNat := UInt64.toNat_inj.symm
  rw [escapedTime, Narrowing.signed, Narrowing.signed, Int.bmod_def, Int.bmod_def, Ne, hinj]
  split <;> split <;> omega

theorem sub_pos_iff {now last : UInt64} : 1 ≤ (now - last).toNat ↔ now ≠ last := by
  have hnow := now.toNat_lt
  have hlast := last.toNat_lt
  have hinj : now = last ↔ now.toNat = last.toNat := UInt64.toNat_inj.symm
  rw [UInt64.toNat_sub, Ne, hinj]
  omega

theorem one_le_iff {x : UInt64} : 1 ≤ x ↔ x ≠ 0 := by
  have hinj : x = 0 ↔ x.toNat = 0 := UInt64.toNat_inj.symm
  rw [UInt64.le_iff_toNat_le, Ne, hinj]
  exact Nat.one_le_iff_ne_zero

/-! ### The condition on a step -/

/-- The end of a report: a sender has taken a snapshot before, and a receiver knows of datagrams of the sender and has a snapshot, or takes one at another clock value than the last. -/
def FinishesSafely (stream : IperfStream) (past : Past) (last now : UInt64) : Prop :=
  (stream.config.role = .roleSender → stream.state ≠ .streamDone → past.isSnapshotTaken = true) ∧
  (stream.config.role = .roleReceiver → past.sent ≠ 0 ∧
    (owesSnapshot stream.config stream.report.receiverReport.snapshotCnt = true ∨
      1 ≤ stream.report.receiverReport.snapshotCnt) ∧
    (owesSnapshot stream.config stream.report.receiverReport.snapshotCnt = true → now ≠ last))

instance (stream : IperfStream) (past : Past) (last now : UInt64) : Decidable (FinishesSafely stream past last now) :=
  inferInstanceAs (Decidable (_ ∧ (stream.config.role = .roleReceiver → _)))

/-- A stop finishes the report of a receiver without a FIN. -/
def StopsSafely (stream : IperfStream) (past : Past) (now : UInt64) : Prop :=
  stream.isStopped = false → stream.config.role = .roleReceiver → stream.isFinReceived = false →
    FinishesSafely stream past stream.report.receiverReport.lastSnapshotTime now

instance (stream : IperfStream) (past : Past) (now : UInt64) : Decidable (StopsSafely stream past now) :=
  inferInstanceAs (Decidable (_ → _ → _ → _))

/-- From where the time to the next snapshot is measured once data is counted: the first data sets it. -/
def measuredFrom (s : LiveStream Recorder) (reception : Reception) : UInt64 :=
  if s.report.receiverReport.summary.bytes = 0 then reception.countedAt else s.report.receiverReport.lastSnapshotTime

/-- From where it is measured when the same data has been handled as a FIN. -/
def measuredBehindFin (s : LiveStream Recorder) (reception : Reception) : UInt64 :=
  if isFin reception.data ∧ s.config.role = .roleReceiver ∧
      owesSnapshot s.config s.report.receiverReport.snapshotCnt then reception.fin.now
  else s.measuredFrom reception

/-- An interval that is not too early announces datagrams and does not come at the clock value of the last snapshot. -/
def TakesSafely (config : TestConfig) (received : TestInterval) (last now : UInt64) : Prop :=
  partOfInterval config (9 / 10) ≤ escapedTime now last → now ≠ last ∧ received.datagrams ≠ 0

instance (config : TestConfig) (received : TestInterval) (last now : UInt64) :
    Decidable (TakesSafely config received last now) := inferInstanceAs (Decidable (_ ≤ _ → _ ∧ _))

/-- Received data may be a FIN, whose FIN-ACK counts with the sender's datagrams, and may bring an interval. -/
def ReceivesSafely (tools : SeqTools Recorder) (s : LiveStream Recorder) (past : Past) (reception : Reception) : Prop :=
  (s.handlesFin reception.data = true → s.dataConn = true →
    ∀ isSent ∈ IperfStream.finAckSent reception.fin.sendOk reception.fin.views,
      FinishesSafely s.toIperfStream { past with sent := if isSent then past.sent + 1 else past.sent }
        (s.measuredFrom reception) reception.fin.now) ∧
  ((s.updateReceived tools reception).isOk = true → s.restartsAt tools reception.data = true →
    ∀ received ∈ (deserializeInterval (reception.data.drop IperfTestHeader.size)).toOption,
      TakesSafely s.config received (s.measuredBehindFin reception) reception.snapshotAt)

instance (s : LiveStream Recorder) (past : Past) (reception : Reception) :
    Decidable (ReceivesSafely tools s past reception) :=
  inferInstanceAs (Decidable ((_ → _ → ∀ isSent ∈ IperfStream.finAckSent reception.fin.sendOk reception.fin.views, _) ∧
    (_ → _ → ∀ received ∈ (deserializeInterval (reception.data.drop IperfTestHeader.size)).toOption, _)))

/-- At the clock value of the last snapshot the next one is not due yet. -/
def DividesSafely (tools : SeqTools Recorder) (s : LiveStream Recorder) (past : Past) : Action → Prop
  | .event _ | .startSend _ => True
  | .received reception => s.ReceivesSafely tools past reception
  | .thread input =>
    s.sendingThread = .starting → s.isConnected = false → StopsSafely s.toIperfStream past input.now
  | .snapshotReport now =>
    now = s.report.senderReport.lastSnapshotTime → 0 < partOfInterval s.config (95 / 100)
  | .poll now =>
    let last := s.report.receiverReport.lastSnapshotTime
    now = last → now < last + .ofNat (BinaryFormat.truncate (intervalMs s.config)).toNat - 50
  | .summary cursor now => isReliableProtocol s.config.protocol = false →
    ∀ sent ∈ sentInSummary s.toIperfStream cursor,
      FinishesSafely s.toIperfStream { past with sent := sent } s.report.receiverReport.lastSnapshotTime now
  | .finishReport now => FinishesSafely s.toIperfStream past s.report.receiverReport.lastSnapshotTime now
  | .stop now => StopsSafely s.toIperfStream past now

instance decidableDividesSafely (s : LiveStream Recorder) (past : Past) :
    ∀ a : Action, Decidable (DividesSafely tools s past a)
  | .event _ | .startSend _ => isTrue trivial
  | .received reception => inferInstanceAs (Decidable (s.ReceivesSafely tools past reception))
  | .thread _ => inferInstanceAs (Decidable (_ → _ → StopsSafely _ _ _))
  | .snapshotReport _ => inferInstanceAs (Decidable (_ = _ → _ < _))
  | .poll _ => inferInstanceAs (Decidable (_ = _ → _ < _))
  | .summary cursor _ => inferInstanceAs (Decidable (_ → ∀ sent ∈ sentInSummary s.toIperfStream cursor, _))
  | .finishReport _ => inferInstanceAs (Decidable (FinishesSafely _ _ _ _))
  | .stop _ => inferInstanceAs (Decidable (StopsSafely _ _ _))

/-! ### Each step -/

theorem finishDivisions_iff {stream : IperfStream} (h : Tracked config stream past) (now : UInt64) :
    (∀ d ∈ stream.finishDivisions now, d.IsDefined) ↔
      FinishesSafely stream past stream.report.receiverReport.lastSnapshotTime now := by
  have hnonneg := h.receivedSnapshots
  have hsent : 1 ≤ stream.report.senderReport.summary.datagrams ↔ past.sent ≠ 0 := by rw [one_le_iff, h.sent]
  unfold IperfStream.finishDivisions FinishesSafely
  cases stream.config.role with
  | roleNone | roleFileSender | roleFileReceiver | roleObserver => simp
  | roleSender =>
    dsimp only
    split
    · rename_i hdone
      simp [hdone]
    · rename_i hrunning
      simpa [Division.IsDefined, hrunning] using h.isSnapshotTaken
  | roleReceiver =>
    dsimp only
    split
    · rename_i howes
      have htaken : 1 ≤ stream.report.receiverReport.snapshotCnt + 1 := Int.le_add_of_nonneg_left hnonneg
      simp [Division.IsDefined, howes, escapedTime_pos_iff, hsent, htaken, and_comm]
    · rename_i henough
      simp [Division.IsDefined, henough, hsent, and_comm]

theorem stopDivisions_iff {stream : IperfStream} (h : Tracked config stream past) (now : UInt64) :
    (∀ d ∈ stream.stopDivisions now, d.IsDefined) ↔ StopsSafely stream past now := by
  unfold IperfStream.stopDivisions StopsSafely
  split
  · rename_i hfinishes
    rw [finishDivisions_iff h]
    exact ⟨fun hsafe _ _ _ => hsafe, fun hsafe =>
      hsafe (Bool.eq_false_iff.mpr hfinishes.1) hfinishes.2.1 (Bool.eq_false_iff.mpr hfinishes.2.2)⟩
  · rename_i hkeeps
    refine iff_of_true (fun d hd => absurd hd List.not_mem_nil) fun hrunning hrole hfin => absurd ⟨?_, hrole, ?_⟩ hkeeps
    · exact Bool.eq_false_iff.mp hrunning
    · exact Bool.eq_false_iff.mp hfin

theorem finishesSafely_congr {stream other : IperfStream} (hconfig : other.config = stream.config)
    (hstate : other.state = stream.state)
    (hcnt : other.report.receiverReport.snapshotCnt = stream.report.receiverReport.snapshotCnt) (last now : UInt64) :
    FinishesSafely other past last now ↔ FinishesSafely stream past last now := by
  unfold FinishesSafely
  rw [hconfig, hstate, hcnt]

/-- What is identified has counted the data and is otherwise what it was. -/
structure Identified (s : LiveStream Recorder) (reception : Reception) (t : LiveStream Recorder) : Prop where
  config : t.config = s.config
  state : t.state = s.state
  dataConn : t.dataConn = s.dataConn
  group : t.lastGrpId = s.lastGrpId
  boundary : t.seqOfLastChangedGrpId = s.seqOfLastChangedGrpId
  snapshotCnt : t.report.receiverReport.snapshotCnt = s.report.receiverReport.snapshotCnt
  measured : t.report.receiverReport.lastSnapshotTime = s.measuredFrom reception

theorem identify_eq_ok {s t : LiveStream Recorder} {reception : Reception} {seq : UInt64} {flags : TestFlags}
    (h : s.identify tools reception = .ok (t, seq, flags)) :
    wordAt reception.data 16 = .ok seq ∧ flagsAt reception.data = .ok flags ∧ s.Identified reception t := by
  obtain ⟨found, hseq, h⟩ := Fault.bind_eq_ok.mp h
  obtain ⟨_, _, h⟩ := Fault.bind_eq_ok.mp h
  obtain ⟨identified, hidentified, h⟩ := Fault.bind_eq_ok.mp h
  obtain ⟨read, hflags, h⟩ := Fault.bind_eq_ok.mp h
  obtain ⟨rfl, hrest⟩ := Prod.mk.inj (Fault.pure_eq_ok.mp h)
  obtain ⟨rfl, rfl⟩ := Prod.mk.inj hrest
  obtain ⟨identifier, rfl⟩ := learnIdentifier_eq hidentified
  refine ⟨hseq, hflags, rfl, rfl, rfl, rfl, rfl, ?_, ?_⟩
  · unfold countReceived
    dsimp only
    split <;> rfl
  · unfold countReceived measuredFrom
    dsimp only
    split <;> rfl

theorem handlesFin_iff_identify {s : LiveStream Recorder} {reception : Reception} :
    s.handlesFin reception.data = true ↔
      ∃ t seq flags, s.identify tools reception = .ok (t, seq, flags) ∧ flags.last = true ∧ flags.ack = false := by
  have hcounted (seq : UInt64) := s.learnIdentifier_counted reception.data reception.countedAt
    (tools.record s.recvSeqRecorder seq) seq
  rw [handlesFin_iff]
  constructor
  · rintro ⟨seq, flags, hseq, hflags, hcheck, hlearned, hfin⟩
    obtain ⟨t, hidentified⟩ := Fault.isOk_iff.mp ((hcounted seq).trans hlearned)
    refine ⟨t, seq, flags, ?_, hfin⟩
    refine Fault.bind_eq_ok.mpr ⟨seq, hseq, Fault.bind_eq_ok.mpr ⟨(), hcheck, ?_⟩⟩
    exact Fault.bind_eq_ok.mpr ⟨t, hidentified, Fault.bind_eq_ok.mpr ⟨flags, hflags, rfl⟩⟩
  · rintro ⟨t, _, _, h, hfin⟩
    obtain ⟨seq, hseq, h⟩ := Fault.bind_eq_ok.mp h
    obtain ⟨_, hcheck, h⟩ := Fault.bind_eq_ok.mp h
    obtain ⟨identified, hidentified, h⟩ := Fault.bind_eq_ok.mp h
    obtain ⟨flags, hflags, h⟩ := Fault.bind_eq_ok.mp h
    obtain ⟨_, hrest⟩ := Prod.mk.inj (Fault.pure_eq_ok.mp h)
    obtain ⟨_, rfl⟩ := Prod.mk.inj hrest
    have hlearned := (hcounted seq).symm.trans (Fault.isOk_iff.mpr ⟨identified, hidentified⟩)
    exact ⟨seq, flags, hseq, hflags, hcheck, hlearned, hfin⟩

/-- The end of the report behind a FIN-ACK, which counts with the datagrams of the sender. -/
theorem finDivisions_iff {s t : LiveStream Recorder} {reception : Reception} (h : Tracked config t.toIperfStream past)
    (hsame : s.Identified reception t) (isSent : Bool) (now : UInt64) :
    (∀ d ∈ (t.toIperfStream.countFinAck isSent).finishDivisions now, d.IsDefined) ↔
      FinishesSafely s.toIperfStream { past with sent := if isSent then past.sent + 1 else past.sent }
        (s.measuredFrom reception) now := by
  have hcounted := (countFinAck_counts t.toIperfStream isSent).tracked h
  rw [h.sent] at hcounted
  have hkept : (t.toIperfStream.countFinAck isSent).config = t.config ∧
      (t.toIperfStream.countFinAck isSent).state = t.state ∧
      (t.toIperfStream.countFinAck isSent).report.receiverReport = t.report.receiverReport := by
    cases isSent <;> exact ⟨rfl, rfl, rfl⟩
  rw [finishDivisions_iff hcounted, hkept.2.2, hsame.measured]
  exact finishesSafely_congr (hkept.1.trans hsame.config) (hkept.2.1.trans hsame.state)
    ((congrArg TestReport.snapshotCnt hkept.2.2).trans hsame.snapshotCnt) _ _

theorem flagDivisions_iff {s t : LiveStream Recorder} {reception : Reception} {seq : UInt64} {flags : TestFlags}
    (h : Tracked config s.toIperfStream past) (hidentified : s.identify tools reception = .ok (t, seq, flags)) :
    (∀ d ∈ t.flagDivisions flags reception.fin, d.IsDefined) ↔
      (s.handlesFin reception.data = true → s.dataConn = true →
        ∀ isSent ∈ IperfStream.finAckSent reception.fin.sendOk reception.fin.views,
          FinishesSafely s.toIperfStream { past with sent := if isSent then past.sent + 1 else past.sent }
            (s.measuredFrom reception) reception.fin.now) := by
  obtain ⟨_, _, hsame⟩ := identify_eq_ok hidentified
  have htracked := (identify_counts hidentified).2.tracked h
  rw [h.sent] at htracked
  have hhandles : s.handlesFin reception.data = true ↔ flags.last = true ∧ flags.ack = false := by
    rw [@handlesFin_iff_identify _ tools, hidentified]
    simp
  unfold flagDivisions finDivisions
  rw [hhandles, hsame.dataConn]
  by_cases hfin : flags.last = true ∧ flags.ack = false
  · rw [if_pos ⟨hfin.1, by simp [hfin.2]⟩]
    cases s.dataConn with
    | false => simp
    | true =>
      cases IperfStream.finAckSent reception.fin.sendOk reception.fin.views with
      | none => simp
      | some isSent =>
        have hdivisions := finDivisions_iff htracked hsame isSent reception.fin.now
        simpa [hfin] using hdivisions
  · rw [if_neg fun hlast => hfin ⟨hlast.1, Bool.eq_false_iff.mpr hlast.2⟩]
    exact iff_of_true (fun d hd => absurd hd List.not_mem_nil) fun hboth => absurd hboth hfin

theorem finishReport_lastSnapshotTime {stream : IperfStream} (hrole : stream.config.role = .roleReceiver) (now : UInt64) :
    (stream.finishReport now).report.receiverReport.lastSnapshotTime
      = if owesSnapshot stream.config stream.report.receiverReport.snapshotCnt then now
        else stream.report.receiverReport.lastSnapshotTime := by
  unfold IperfStream.finishReport
  rw [hrole]
  dsimp only
  split <;> rfl

theorem onFlags_measured {s t flagged : LiveStream Recorder} {reception : Reception} {seq : UInt64} {flags : TestFlags}
    (hidentified : s.identify tools reception = .ok (t, seq, flags))
    (hflagged : t.onFlags flags reception.fin = .ok flagged) :
    flagged.config = s.config ∧ flagged.lastGrpId = s.lastGrpId ∧
      flagged.seqOfLastChangedGrpId = s.seqOfLastChangedGrpId ∧
      (s.config.role = .roleReceiver →
        flagged.report.receiverReport.lastSnapshotTime = s.measuredBehindFin reception) := by
  obtain ⟨_, hflags, hsame⟩ := identify_eq_ok hidentified
  have hfin : isFin reception.data = (flags.last && !flags.ack) := isFin_eq hflags
  unfold measuredBehindFin
  unfold onFlags at hflagged
  split at hflagged
  · rename_i hlast
    split at hflagged
    · rename_i hack
      obtain rfl := Except.ok.inj hflagged
      refine ⟨hsame.config, hsame.group, hsame.boundary, fun _ => ?_⟩
      rw [hfin, if_neg (by simp [hack])]
      exact hsame.measured
    · rename_i hack
      obtain ⟨stream, hstream, hflagged⟩ := Fault.bind_eq_ok.mp hflagged
      obtain ⟨_, _, hstream⟩ := Fault.bind_eq_ok.mp hstream
      obtain ⟨isSent, _, hstream⟩ := Fault.bind_eq_ok.mp hstream
      obtain rfl := Fault.pure_eq_ok.mp hstream
      obtain rfl := Fault.pure_eq_ok.mp hflagged
      have hcounted := (countFinAck_same t.toIperfStream isSent).1.config
      have hconfig := ((t.toIperfStream.countFinAck isSent).finishReport_same reception.fin.now).config
      refine ⟨hconfig.trans (hcounted.trans hsame.config), hsame.group, hsame.boundary, fun hrole => ?_⟩
      have hreport : (t.toIperfStream.countFinAck isSent).report.receiverReport = t.report.receiverReport := by
        cases isSent <;> rfl
      have hrole' : (t.toIperfStream.countFinAck isSent).config.role = .roleReceiver := by
        rw [hcounted, hsame.config]
        exact hrole
      refine (finishReport_lastSnapshotTime hrole' reception.fin.now).trans ?_
      rw [hreport, hcounted, hsame.config, hsame.snapshotCnt, hsame.measured, hfin, hlast, Bool.eq_false_iff.mpr hack]
      simp [hrole]
  · rename_i hlast
    obtain rfl := Except.ok.inj hflagged
    refine ⟨hsame.config, hsame.group, hsame.boundary, fun _ => ?_⟩
    rw [hfin, if_neg (by simp [hlast])]
    exact hsame.measured

theorem intervalDataDivisions_iff {s : LiveStream Recorder} (hrole : s.config.role = .roleReceiver) {data : Octets}
    {now : UInt64} : (∀ d ∈ s.intervalDataDivisions tools data now, d.IsDefined) ↔
      ((s.onReceivedIntervalData tools data now).isOk = true → ∀ received ∈ (deserializeInterval data).toOption,
        TakesSafely s.config received s.report.receiverReport.lastSnapshotTime now) := by
  unfold intervalDataDivisions
  rw [if_pos hrole]
  dsimp only
  cases hread : deserializeInterval data with
  | error fault =>
    refine iff_of_true (fun d hd => absurd hd List.not_mem_nil) fun _ received hreceived => ?_
    exact absurd hreceived (by simp [Except.toOption])
  | ok received =>
    cases hresult : s.onReceivedIntervalData tools data now with
    | error fault => exact iff_of_true (fun d hd => absurd hd List.not_mem_nil) fun hok => Bool.noConfusion hok
    | ok t =>
      dsimp only
      unfold TakesSafely
      split
      · rename_i hearly
        refine iff_of_true (fun d hd => absurd hd List.not_mem_nil) fun _ _ _ hdue => ?_
        exact absurd hdue (not_le.mpr hearly)
      · rename_i hdue
        have hdue := not_lt.mp hdue
        rw [List.forall_mem_cons, List.forall_mem_singleton]
        refine (and_congr escapedTime_pos_iff one_le_iff).trans ⟨fun hsafe _ found hfound _ => ?_, fun hsafe => ?_⟩
        · obtain rfl := Option.some.inj hfound
          exact hsafe
        · exact hsafe rfl received rfl hdue

/-- Data that is identified and whose flags are handled faults at its interval only. -/
theorem updateReceived_isOk {s t flagged : LiveStream Recorder} {reception : Reception} {seq : UInt64} {flags : TestFlags}
    (hdata : reception.data ≠ []) (hidentified : s.identify tools reception = .ok (t, seq, flags))
    (hflagged : t.onFlags flags reception.fin = .ok flagged) :
    (s.updateReceived tools reception).isOk = (flagged.onInterval tools flags seq
      (reception.data.drop IperfTestHeader.size) reception.snapshotAt).isOk := by
  obtain ⟨time, htime⟩ : ∃ time, wordAt reception.data 24 = .ok time := by
    obtain ⟨octet, hoctet, _⟩ := Fault.bind_eq_ok.mp (identify_eq_ok hidentified).2.1
    have hlength : 32 < reception.data.length := (List.getElem?_eq_some_iff.mp (Fault.need_eq_ok.mp hoctet)).1
    exact wordAt_ok (by omega)
  rw [updateReceived_eq, if_neg hdata, hidentified, Fault.ok_bind, hflagged, Fault.ok_bind]
  cases flagged.onInterval tools flags seq (reception.data.drop IperfTestHeader.size) reception.snapshotAt with
  | error fault => rfl
  | ok detected =>
    rw [Fault.ok_bind, htime]
    rfl

theorem intervalDivisions_iff {s t flagged : LiveStream Recorder} {reception : Reception} {seq : UInt64}
    {flags : TestFlags} (hdata : reception.data ≠ []) (hidentified : s.identify tools reception = .ok (t, seq, flags))
    (hflagged : t.onFlags flags reception.fin = .ok flagged) :
    (∀ d ∈ flagged.intervalDivisions tools flags seq (reception.data.drop IperfTestHeader.size) reception.snapshotAt,
        d.IsDefined) ↔
      ((s.updateReceived tools reception).isOk = true → s.restartsAt tools reception.data = true →
        ∀ received ∈ (deserializeInterval (reception.data.drop IperfTestHeader.size)).toOption,
          TakesSafely s.config received (s.measuredBehindFin reception) reception.snapshotAt) := by
  obtain ⟨hseq, hflags, _⟩ := identify_eq_ok hidentified
  obtain ⟨hconfig, hgroup, hboundary, hmeasured⟩ := onFlags_measured hidentified hflagged
  have htakes : flagged.takesInterval tools flags seq = s.takesInterval tools flags seq := by
    rw [takesInterval_congr hconfig hgroup hboundary]
  have hrestarts : s.restartsAt tools reception.data = s.takesInterval tools flags seq := by
    rw [restartsAt, hflags, hseq]
  rw [updateReceived_isOk hdata hidentified hflagged, hrestarts]
  unfold intervalDivisions
  dsimp only
  cases hinterval : s.takesInterval tools flags seq with
  | true =>
    rw [hinterval] at htakes
    have hnew : (flagged.hasNewGrpId tools flags.grpId seq).1 = true ∧ flags.hasInterval = true := by
      simp only [takesInterval, Bool.and_eq_true] at htakes
      exact htakes.1
    have hrole : s.config.role = .roleReceiver := by
      simp only [takesInterval, Bool.and_eq_true, decide_eq_true_eq] at hinterval
      exact hinterval.2
    obtain ⟨grpId, hmarked⟩ : ∃ grpId, (flagged.hasNewGrpId tools flags.grpId seq).2 = { flagged with lastGrpId := grpId } :=
      flagged.hasNewGrpId_eq flags.grpId seq
    rw [if_pos hnew, intervalDataDivisions_iff (hasNewGrpId_role htakes), ← onInterval_of_takes htakes, hmarked]
    dsimp only
    rw [hconfig, hmeasured hrole]
    exact imp_congr_right fun _ => ⟨fun htaken _ => htaken, fun htaken => htaken rfl⟩
  | false =>
    refine iff_of_true (fun d hd => ?_) fun _ h => absurd h Bool.false_ne_true
    split at hd
    · rename_i hnew
      obtain ⟨grpId, hmarked⟩ : ∃ grpId, (flagged.hasNewGrpId tools flags.grpId seq).2 = { flagged with lastGrpId := grpId } :=
        flagged.hasNewGrpId_eq flags.grpId seq
      rw [hmarked, intervalDataDivisions, if_neg] at hd
      · exact absurd hd List.not_mem_nil
      · intro hrole
        have hrole : flagged.config.role = .roleReceiver := hrole
        rw [hinterval] at htakes
        simp [takesInterval, hrole, hnew] at htakes
    · exact absurd hd List.not_mem_nil

theorem receivedDivisions_iff {s : LiveStream Recorder} (h : Tracked config s.toIperfStream past) (reception : Reception) :
    (∀ d ∈ s.receivedDivisions tools reception, d.IsDefined) ↔ s.ReceivesSafely tools past reception := by
  unfold receivedDivisions ReceivesSafely
  by_cases hdata : reception.data = []
  · rw [if_pos hdata, hdata]
    exact iff_of_true (fun d hd => absurd hd List.not_mem_nil)
      ⟨fun hfin => absurd hfin Bool.false_ne_true, fun _ hrestarts => absurd hrestarts Bool.false_ne_true⟩
  rw [if_neg hdata]
  cases hidentify : s.identify tools reception with
  | error fault =>
    refine iff_of_true (fun d hd => absurd hd List.not_mem_nil) ⟨fun hfin => ?_, fun hok => ?_⟩
    · obtain ⟨t, seq, flags, hidentified, _⟩ := handlesFin_iff_identify.mp hfin
      exact absurd (hidentify.symm.trans hidentified) (by simp)
    · rw [updateReceived_eq, if_neg hdata, hidentify] at hok
      exact absurd hok Bool.false_ne_true
  | ok identified =>
    obtain ⟨t, seq, flags⟩ := identified
    dsimp only
    rw [List.forall_mem_append, flagDivisions_iff h hidentify]
    refine and_congr_right fun _ => ?_
    cases hflags : t.onFlags flags reception.fin with
    | error fault =>
      refine iff_of_true (fun d hd => absurd hd List.not_mem_nil) fun hok => ?_
      rw [updateReceived_eq, if_neg hdata, hidentify, Fault.ok_bind, hflags] at hok
      exact absurd hok Bool.false_ne_true
    | ok flagged => exact intervalDivisions_iff hdata hidentify hflags

theorem summaryDivisions_iff {s : LiveStream Recorder} (h : Tracked config s.toIperfStream past) (cursor : Octets)
    (now : UInt64) : (∀ d ∈ s.summaryDivisions cursor now, d.IsDefined) ↔
      (isReliableProtocol s.config.protocol = false → ∀ sent ∈ sentInSummary s.toIperfStream cursor,
        FinishesSafely s.toIperfStream { past with sent := sent } s.report.receiverReport.lastSnapshotTime now) := by
  unfold summaryDivisions sentInSummary
  cases hentry : s.toIperfStream.deserializeReport cursor with
  | none => simp
  | some entry =>
    obtain ⟨stream, rest⟩ := entry
    obtain ⟨bytes, datagrams, bitrate, hread⟩ := IperfStream.deserializeReport_eq hentry
    have htold : Tracked config stream { past with sent := stream.report.senderReport.summary.datagrams } := by
      rw [hread]
      exact ⟨h.config, h.sentSnapshots, h.receivedSnapshots, h.isSnapshotTaken, rfl⟩
    have hreceiver : stream.report.receiverReport = s.report.receiverReport := by
      rw [hread]
      rfl
    have hcongr (past : Past) (last : UInt64) : FinishesSafely stream past last now ↔
        FinishesSafely s.toIperfStream past last now := by
      refine finishesSafely_congr ?_ ?_ (congrArg TestReport.snapshotCnt hreceiver) last now
      · rw [hread]
      · rw [hread]
    dsimp only
    cases hreliable : isReliableProtocol s.config.protocol with
    | true => simp
    | false =>
      rw [if_neg Bool.false_ne_true, finishDivisions_iff htold now, hreceiver, hcongr]
      simp

/-- The divisions of a step are by numbers other than 0 exactly where the step divides safely. -/
theorem divisions_iff {s : LiveStream Recorder} (h : Tracked config s.toIperfStream past) (a : Action) :
    (∀ d ∈ s.divisions tools a, d.IsDefined) ↔ s.DividesSafely tools past a := by
  cases a with
  | event | startSend => exact iff_of_true (fun d hd => absurd hd List.not_mem_nil) trivial
  | received reception => exact receivedDivisions_iff h reception
  | summary cursor now => exact summaryDivisions_iff h cursor now
  | thread input =>
    change (∀ d ∈ s.threadDivisions input.now, d.IsDefined) ↔ (_ → _ → _)
    unfold threadDivisions
    split
    · rename_i hstarting
      rw [stopDivisions_iff h]
      exact ⟨fun hsafe _ _ => hsafe, fun hsafe => hsafe hstarting.1 (Bool.eq_false_iff.mpr hstarting.2)⟩
    · rename_i hother
      refine iff_of_true (fun d hd => absurd hd List.not_mem_nil) fun hstarting hconnected => ?_
      exact absurd ⟨hstarting, Bool.eq_false_iff.mp hconnected⟩ hother
  | snapshotReport now =>
    have hatOnce (hsame : now = s.report.senderReport.lastSnapshotTime) :
        (escapedTime now s.report.senderReport.lastSnapshotTime : Int) = 0 := by
      rw [hsame, escapedTime, sub_self]
      rfl
    change (∀ d ∈ s.snapshotDivisions now, d.IsDefined) ↔ (_ → _)
    unfold snapshotDivisions
    dsimp only
    split
    · rename_i hdue
      rw [List.forall_mem_singleton, Division.IsDefined, escapedTime_pos_iff]
      refine ⟨fun hother hsame => absurd hsame hother, fun hlong hsame => ?_⟩
      exact absurd (of_decide_eq_true hdue) (not_le.mpr (hatOnce hsame ▸ hlong hsame))
    · rename_i hnot
      refine iff_of_true (fun d hd => absurd hd List.not_mem_nil) fun hsame => ?_
      have hlate := not_le.mp fun hdue => hnot (decide_eq_true hdue)
      rwa [hatOnce hsame] at hlate
  | poll now =>
    change (∀ d ∈ s.pollDivisions now, d.IsDefined) ↔ (_ → _)
    unfold pollDivisions
    dsimp only
    split
    · rename_i hearly
      exact iff_of_true (fun d hd => absurd hd List.not_mem_nil) fun _ => hearly
    · rename_i hdue
      rw [List.forall_mem_singleton, Division.IsDefined, sub_pos_iff]
      exact ⟨fun hother hsame => absurd hsame hother, fun hlong hsame => hdue (hlong hsame)⟩
  | finishReport now => exact finishDivisions_iff h now
  | stop now => exact stopDivisions_iff h now

/-! ### Every run -/

/-- In every run of a stream no report divides by 0 exactly where each step of it divides safely. -/
theorem reports_divide_iff {s₀ : LiveStream Recorder} {recorder : Recorder} (hnew : IsNew recorder s₀)
    (acts : List Action) :
    (∀ first a rest s, acts = first ++ a :: rest → (machine tools).run s₀ first = some s →
        ∀ d ∈ s.divisions tools a, d.IsDefined) ↔
      ∀ first a rest s, acts = first ++ a :: rest → (machine tools).run s₀ first = some s →
        s.DividesSafely tools ((machine tools).record note {} s₀ first) a := by
  refine forall_congr' fun first => forall_congr' fun a => forall_congr' fun rest => forall_congr' fun s =>
    forall_congr' fun _ => forall_congr' fun hrun => ?_
  have hall : (machine tools).Respects (fun _ _ => True) s₀ first := Machine.respects_of_forall (fun _ _ => trivial) s₀ first
  have htracked : Tracked s₀.config s.toIperfStream ((machine tools).record note {} s₀ first) :=
    Machine.run_record (fun _ _ _ _ h _ hstep => step_tracked h hstep) (tracked_new hnew) hall hrun
  exact divisions_iff htracked a

/-- Three snapshots are too few in 1.35 seconds of intervals of 0.45, for the quotient of the floats is above 3. -/
example : owesSnapshot { time := 27 / 20, interval := 9 / 20 } 3 = true := by decide +kernel

/-- A receiver that is polled, told the sender's number of datagrams and stopped. -/
def untilStopped : List Action := [.poll 5000, .summary (Octets.words [144, 2, 0]) 6000, .stop 7000]

theorem reports_divide_iff_stopped :
    ∃ stream s, IperfStream.accepted { role := .roleReceiver, protocol := 2 } 1 1000 = .ok stream ∧
      (machine SeqTools.ofLists).run (fresh stream []) untilStopped = some s ∧
      ∀ first a rest s, untilStopped = first ++ a :: rest →
        (machine SeqTools.ofLists).run (fresh stream []) first = some s →
        ∀ d ∈ s.divisions SeqTools.ofLists a, d.IsDefined := by
  obtain ⟨stream, haccepted⟩ : ∃ stream,
    IperfStream.accepted { role := .roleReceiver, protocol := 2 } 1 1000 = .ok stream := ⟨_, rfl⟩
  have hsafe : ∀ stream, IperfStream.accepted { role := .roleReceiver, protocol := 2 } 1 1000 = .ok stream →
      ((machine SeqTools.ofLists).run (fresh stream []) untilStopped).isSome = true ∧
      ∀ k < 3, ∀ a ∈ untilStopped[k]?, ∀ s ∈ (machine SeqTools.ofLists).run (fresh stream []) (untilStopped.take k),
        s.DividesSafely SeqTools.ofLists ((machine SeqTools.ofLists).record note {} (fresh stream []) (untilStopped.take k))
          a := by
    intro stream h
    obtain rfl := Except.ok.inj h
    decide +kernel
  obtain ⟨hruns, hsafe⟩ := hsafe stream haccepted
  obtain ⟨s, hrun⟩ := Option.isSome_iff_exists.mp hruns
  refine ⟨stream, s, haccepted, hrun, (reports_divide_iff (.accepted haccepted) untilStopped).mpr ?_⟩
  intro first a rest s hsplit hfirst
  obtain ⟨k, hk, htake, hget⟩ := Machine.take_of_split hsplit
  have hfound := hsafe k hk a hget s
  rw [htake] at hfound
  exact hfound hfirst

/-- A receiver is stopped before it is told what was sent, and a sender whose time is up before its first snapshot finishes its report. -/
theorem division_by_zero_counterexample :
    (∃ stream, IperfStream.accepted { role := .roleReceiver, protocol := 1 } 1 1000 = .ok stream ∧
      ∃ d ∈ (fresh stream ([] : List UInt64)).divisions SeqTools.ofLists (.stop 1000), ¬ d.IsDefined) ∧
      ∃ s, (machine SeqTools.ofLists).run
          (connecting { role := .roleSender, protocol := 1, time := 1, interval := 2 } 1 5 [])
          [.event (.established 1000), .startSend 5000] = some s ∧
        ∃ d ∈ s.divisions SeqTools.ofLists (.finishReport 6000), ¬ d.IsDefined := by
  constructor
  · refine ⟨_, rfl, .receiveSummary 1 0, by decide +kernel, fun hdefined => ?_⟩
    exact absurd hdefined.2 (by decide)
  · have hrun : ((machine SeqTools.ofLists).run
        (connecting { role := .roleSender, protocol := 1, time := 1, interval := 2 } 1 5 [])
        [.event (.established 1000), .startSend 5000]).map (fun s => s.divisions SeqTools.ofLists (.finishReport 6000))
        = some [.sendSummary 0] := by
      decide +kernel
    obtain ⟨s, hs, hfound⟩ := Option.map_eq_some_iff.mp hrun
    refine ⟨s, hs, .sendSummary 0, ?_, fun hdefined => ?_⟩
    · rw [hfound]
      exact List.mem_singleton_self _
    · have hone : (1 : Int) ≤ 0 := hdefined
      exact absurd hone (by decide)

end LiveStream

end BatsIperf
