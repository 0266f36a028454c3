import BatsIperf.Stream.MarkingSender

/-!
# The intervals and the packets of a sender

The sending thread of a stream and its snapshots are a sender of marked packets: every step of the machine that is not about received data or a received summary is a step of `MarkingSender`, seen through `view`. What holds of every such sender then holds in every run.
-/

namespace BatsIperf

namespace LiveStream

variable {Recorder : Type} {tools : SeqTools Recorder}

/-- Whether a running thread may still build a packet. -/
def isLooping : SendPoint → Bool
  | .check | .errorCheck | .waitWritable | .build | .send _ | .retry _ | .countBytes _ | .countDatagrams => true
  | .fin | .finSend | .finRetry | .finCountBytes | .finCountDatagrams => false

def phase (s : LiveStream Recorder) : ThreadPhase :=
  match s.sendingThread with
  | .notStarted | .starting => .waiting
  | .sending => if isLooping s.point then .looping else .closing
  | .ended => .closing

def view (s : LiveStream Recorder) : MarkingSender where
  bytes := s.report.senderReport.summary.bytes
  datagrams := s.report.senderReport.summary.datagrams
  snapshotBytes := s.report.senderReport.lastSnapshot.bytes
  snapshotDatagrams := s.report.senderReport.lastSnapshot.datagrams
  lastInterval := s.report.senderReport.lastInterval
  snapshotCnt := s.report.senderReport.snapshotCnt
  data := s.iperfData
  grpId := s.threadGrpId
  phase := s.phase
  counted := s.log.counted
  intervals := s.log.intervals
  bounds := s.log.bounds
  built := s.log.built

/-- The steps of the thread, the snapshots and what the test and the connection do next to them. Received data and a received summary are not among them. -/
def Action.isSending : Action → Bool
  | .event _ | .startSend _ | .thread _ | .snapshotReport _ | .finishReport _ | .stop _ => true
  | .received _ | .poll _ | .summary _ _ => false

/-! ### Steps that the view does not see -/

theorem connectionCallback_report {stream next : IperfStream} {event : ConnEvent}
    (h : stream.connectionCallback event = .ok next) :
    next.report = stream.report ∧ next.sendingThread = stream.sendingThread := by
  cases IperfStream.connectionCallback_move h <;> exact ⟨rfl, rfl⟩

theorem view_finishReport (s : LiveStream Recorder) (now : UInt64) : (s.finishReport now).view = s.view := by
  unfold finishReport IperfStream.finishReport
  split
  · split <;> rfl
  all_goals rfl

theorem view_stop (s : LiveStream Recorder) (now : UInt64) : (s.stop now).view = s.view := by
  unfold stop IperfStream.stop IperfStream.finishReport
  split
  · rfl
  · dsimp only
    split
    · split
      · split <;> rfl
      all_goals rfl
    · rfl

theorem view_of_phase {t : LiveStream Recorder} {phase : ThreadPhase} (h : t.phase = phase) :
    t.view = { t.view with phase := phase } := by
  subst h
  rfl

/-! ### The steps of the thread -/

theorem isLooping_of_isBefore {point : SendPoint} (h : point.isBefore = true) : isLooping point = true := by
  cases point with
  | check | errorCheck | waitWritable | build => rfl
  | _ => exact absurd h Bool.false_ne_true

theorem view_goOn {s t : LiveStream Recorder} (hthread : s.sendingThread = .sending)
    (hsame : t.sendingThread = s.sendingThread) (hpoint : isLooping t.point = isLooping s.point)
    (hview : { t.view with phase := s.phase } = s.view) : t.view = s.view := by
  have hphase : t.phase = s.phase := by
    simp only [phase, hsame, hthread, hpoint]
  rw [view_of_phase hphase, hview]

theorem phase_looping {s : LiveStream Recorder} (hthread : s.sendingThread = .sending) (hpoint : isLooping s.point = true) :
    s.phase = .looping := by
  simp only [phase, hthread, hpoint, if_true]

theorem phase_closing {s : LiveStream Recorder} (hthread : s.sendingThread = .sending)
    (hpoint : isLooping s.point = false) : s.phase = .closing := by
  simp only [phase, hthread, hpoint, Bool.false_eq_true, if_false]

theorem sendData_view {s t : LiveStream Recorder} {length : Int} {sendOk : Bool} {sent unsent : SendPoint}
    (hthread : s.sendingThread = .sending) (hsent : isLooping sent = isLooping s.point)
    (hunsent : isLooping unsent = isLooping s.point) (h : s.sendData length sendOk sent unsent = .ok t) :
    t.view = s.view := by
  obtain ⟨_, rfl⟩ := sendData_eq h
  cases sendOk with
  | true => exact view_goOn hthread rfl hsent rfl
  | false => exact view_goOn hthread rfl hunsent rfl

theorem view_build {s : LiveStream Recorder} (hthread : s.sendingThread = .sending) (hpoint : s.point = .build)
    (time : UInt64) : (s.build time).view = s.view.build time := by
  have hbuilt : (s.buildHeader time).iperfData = s.view.nextData time ∧
      (s.buildHeader time).threadGrpId
        = (if s.view.OpensColour then decide (s.view.snapshotCnt % 2 = 1) else s.view.grpId) ∧
      (s.buildHeader time).sendingThread = s.sendingThread ∧ (s.buildHeader time).report = s.report := by
    by_cases hopens : s.view.OpensColour
    · have hopens' : 0 < s.report.senderReport.snapshotCnt ∧
          s.threadGrpId ≠ decide (s.report.senderReport.snapshotCnt % 2 = 1) := hopens
      rw [MarkingSender.nextData, if_pos hopens, if_pos hopens, buildHeader, if_pos hopens']
      exact ⟨rfl, rfl, rfl, rfl⟩
    · have hopens' : ¬ (0 < s.report.senderReport.snapshotCnt ∧
          s.threadGrpId ≠ decide (s.report.senderReport.snapshotCnt % 2 = 1)) := hopens
      rw [MarkingSender.nextData, if_neg hopens, if_neg hopens, buildHeader, if_neg hopens']
      exact ⟨rfl, rfl, rfl, rfl⟩
  obtain ⟨hdata, hgrpId, hsame, hreport⟩ := hbuilt
  have hphase : (s.build time).phase = s.phase := by
    have hsending : (s.build time).sendingThread = .sending := hsame.trans hthread
    rw [phase_looping hsending rfl, phase_looping hthread (by simp only [hpoint, isLooping])]
  rw [view_of_phase hphase, MarkingSender.build]
  simp only [view, build, hdata, hgrpId, hreport]

/-- Every step of a running thread is a step of the marking sender, with the counting of bytes and of datagrams apart. -/
theorem loopStep_view {s t : LiveStream Recorder} {input : ThreadInput} (hthread : s.sendingThread = .sending)
    (h : s.loopStep input = .ok t) : MarkingSender.Step s.view t.view := by
  have hclose : ∀ {u : LiveStream Recorder}, u.phase = .closing →
      { u.view with phase := .closing } = { s.view with phase := .closing, data := u.iperfData } →
      MarkingSender.Step s.view u.view := by
    intro u hphase hview
    rw [view_of_phase hphase, hview]
    exact .close s.view u.iperfData
  have hstay : ∀ {u : LiveStream Recorder}, u.view = s.view → MarkingSender.Step s.view u.view := by
    intro u hview
    rw [hview]
    exact .stay s.view
  cases loopStep_move h with
  | waits => exact .stay s.view
  | goesOn hfrom hto =>
    apply hstay
    exact view_goOn hthread rfl ((isLooping_of_isBefore hto).trans (isLooping_of_isBefore hfrom).symm) rfl
  | leaves | fails | buildsFin => exact hclose (phase_closing hthread rfl) rfl
  | ends => exact hclose rfl rfl
  | builds hpoint =>
    rw [view_build hthread hpoint]
    exact .build s.view input.time (phase_looping hthread (by rw [hpoint]; rfl))
  | sendsBlock hpoint hsend =>
    have hlooping : isLooping s.point = true := by rcases hpoint with hpoint | hpoint <;> rw [hpoint] <;> rfl
    exact hstay (sendData_view hthread (hlooping ▸ rfl) (hlooping ▸ rfl) hsend)
  | sendsFin hpoint hsend =>
    have hclosing : isLooping s.point = false := by rcases hpoint with hpoint | hpoint <;> rw [hpoint] <;> rfl
    exact hstay (sendData_view hthread (hclosing ▸ rfl) (hclosing ▸ rfl) hsend)
  | givesUp hpoint =>
    apply hstay
    exact view_goOn hthread rfl (by rw [hpoint]; rfl) rfl
  | @countsBytes length hpoint =>
    have hphase : (s.addSentBytes length .countDatagrams).phase = s.phase := by
      rw [phase_looping hthread (by rw [hpoint]; rfl)]
      exact phase_looping hthread rfl
    rw [view_of_phase hphase]
    exact .countBytes s.view _
  | countsDatagram hpoint =>
    have hphase : (s.addSentDatagram .check).phase = s.phase := by
      rw [phase_looping hthread (by rw [hpoint]; rfl)]
      exact phase_looping hthread rfl
    rw [view_of_phase hphase]
    exact .countDatagram s.view
  | countsFinBytes hpoint =>
    have hphase : (s.addSentBytes s.idealLength .finCountDatagrams).phase = s.phase := by
      rw [phase_closing hthread (by rw [hpoint]; rfl)]
      exact phase_closing hthread rfl
    rw [view_of_phase hphase]
    exact .countBytes s.view _
  | countsFinDatagram hpoint =>
    have hphase : (s.addSentDatagram .finCountDatagrams).endThread.phase = s.phase := by
      rw [phase_closing hthread (by rw [hpoint]; rfl)]
      rfl
    rw [view_of_phase hphase]
    exact .countDatagram s.view

theorem threadStep_view {s t : LiveStream Recorder} {input : ThreadInput} (h : s.threadStep input = .ok t) :
    MarkingSender.Step s.view t.view := by
  unfold threadStep at h
  split at h
  · exact absurd h (by simp)
  · exact absurd h (by simp)
  · rename_i hthread
    have hwaiting : s.phase = .waiting := by simp only [phase, hthread]
    obtain rfl := Except.ok.inj h
    split
    · have hlooping : phase ({ s with sendingThread := .sending, point := .check, threadGrpId := false } :
          LiveStream Recorder) = .looping := rfl
      rw [view_of_phase hlooping]
      exact .start s.view hwaiting
    · have hended : ((s.stop input.now).endThread).view = { s.view with phase := .closing } := by
        rw [← view_stop s input.now]
        rfl
      rw [hended]
      exact .close s.view s.iperfData
  · rename_i hthread
    exact loopStep_view hthread h

/-! ### Every sending step -/

theorem snapshotReport_view (s : LiveStream Recorder) (now : UInt64) :
    MarkingSender.Step s.view (s.snapshotReport now).view := by
  unfold snapshotReport
  split
  · rename_i hdue
    rw [taken_of_due hdue]
    exact .snapshot s.view _ rfl rfl rfl
  · rename_i hnot
    rw [kept_of_not_due hnot]
    exact .stay s.view

theorem startSend_view {s t : LiveStream Recorder} {now : UInt64} (h : s.startSend now = .ok t) : t.view = s.view := by
  obtain ⟨stream, hstream, h⟩ := Fault.bind_eq_ok.mp h
  obtain ⟨_, hthread, hstream⟩ := Fault.bind_eq_ok.mp hstream
  have hthread : s.sendingThread = .notStarted := Fault.require_eq_ok.mp hthread
  obtain rfl := Fault.pure_eq_ok.mp hstream
  obtain rfl := Fault.pure_eq_ok.mp h
  have hwaiting : s.phase = .waiting := by simp only [phase, hthread]
  have hview : s.view = { s.view with phase := .waiting } := view_of_phase hwaiting
  rw [hview]
  unfold view
  dsimp only
  split <;> rfl

theorem step_view {s t : LiveStream Recorder} {a : Action} (ha : a.isSending) (h : (machine tools).step s a = some t) :
    MarkingSender.Step s.view t.view := by
  have hperform := step_eq_some.mp h
  cases a with
  | event event =>
    obtain ⟨stream, hstream, hperform⟩ := Fault.bind_eq_ok.mp hperform
    obtain ⟨hreport, hthread⟩ := connectionCallback_report hstream
    obtain rfl := Fault.pure_eq_ok.mp hperform
    have hview : LiveStream.view { s with toIperfStream := stream } = s.view := by
      simp only [view, phase, hreport, hthread]
    rw [hview]
    exact .stay s.view
  | startSend now =>
    rw [startSend_view hperform]
    exact .stay s.view
  | thread input => exact threadStep_view hperform
  | snapshotReport now =>
    obtain rfl := Except.ok.inj hperform
    exact snapshotReport_view s now
  | finishReport now =>
    obtain rfl := Except.ok.inj hperform
    rw [view_finishReport]
    exact .stay s.view
  | stop now =>
    obtain rfl := Except.ok.inj hperform
    rw [view_stop]
    exact .stay s.view
  | received | poll | summary => exact absurd ha Bool.false_ne_true

theorem marked_connecting (config : TestConfig) (streamId : Nat) (now : UInt64) (recorder : Recorder) :
    MarkingSender.Marked (connecting config streamId now recorder).view where
  length_bounds := rfl
  snapshotCnt := rfl
  datagrams := rfl
  snapshotDatagrams := rfl
  boundary_le k := by
    cases k with
    | zero => exact Nat.le_refl 0
    | succ k => exact Nat.le_refl 0
  intervals k interval hk := absurd hk (by simp [view, connecting, fresh])
  sumBytes := rfl
  sumDatagrams := rfl
  lastInterval k hk := absurd hk (by simp [view, connecting, fresh])
  packets packet hpacket := absurd hpacket List.not_mem_nil
  waiting _ := rfl
  opened _ hphase := ThreadPhase.noConfusion hphase
  unopened _ hphase := ThreadPhase.noConfusion hphase
  embedded _ packet hpacket := absurd hpacket List.not_mem_nil

theorem run_marked {config : TestConfig} {streamId : Nat} {now : UInt64} {recorder : Recorder} {acts : List Action}
    {s : LiveStream Recorder} (hsending : ∀ a ∈ acts, a.isSending)
    (hrun : (machine tools).run (connecting config streamId now recorder) acts = some s) :
    MarkingSender.Marked s.view := by
  have hallowed : (machine tools).Respects (fun _ a => a.isSending = true)
      (connecting config streamId now recorder) acts := by
    apply Machine.respects_of_mem
    exact hsending
  have hstep : ∀ (s : LiveStream Recorder) (a : Action) (t : LiveStream Recorder), s.view.Marked → a.isSending = true →
      (machine tools).step s a = some t → t.view.Marked := by
    intro s a t hmarked ha hstep
    exact (step_view ha hstep).marked hmarked
  exact Machine.run_invariant hstep (marked_connecting config streamId now recorder) hallowed hrun

/-! ### Tiling -/

/-- Intervals that follow each other from 0 and add up to the counters of the last snapshot. -/
structure Tiles (intervals : List TestInterval) (lastSnapshot : TestInterval) : Prop where
  first : ∀ interval, intervals[0]? = some interval → interval.startSeq = 0
  next : ∀ (k : Nat) (before after : TestInterval), intervals[k]? = some before → intervals[k + 1]? = some after →
    after.startSeq = before.startSeq + before.datagrams
  bytes : (intervals.map TestInterval.bytes).sum = lastSnapshot.bytes
  datagrams : (intervals.map TestInterval.datagrams).sum = lastSnapshot.datagrams

/-- A packet built after `packet.snapshots` snapshots has their colour and the number of a datagram between two boundaries. -/
structure IsMarked (v : MarkingSender) (packet : BuiltPacket) : Prop where
  grpId : packet.data.header.grpId = Marking.colour packet.snapshots
  seq : packet.data.header.seq = .ofNat packet.index
  between : v.boundary packet.snapshots ≤ packet.index ∧ packet.index ≤ v.boundary (packet.snapshots + 1)

/-- What the receiver reads behind the header is the interval of the snapshot before the packet. -/
def CarriesInterval (intervals : List TestInterval) (packet : BuiltPacket) (k : Nat) : Prop :=
  packet.data.header.hasInterval = true ∧ ∃ interval received, intervals[k]? = some interval ∧
    deserializeInterval packet.data.interval.bytes = .ok received ∧ received.bytes = interval.bytes ∧
    received.datagrams = interval.datagrams ∧ received.startSeq = interval.startSeq

theorem tiles_of_marked {s : LiveStream Recorder} (h : MarkingSender.Marked s.view) :
    Tiles s.log.intervals s.report.senderReport.lastSnapshot where
  first interval hfirst := (h.intervals 0 interval hfirst).1
  next k before after hbefore hafter := by
    obtain ⟨hstart, hdatagrams⟩ := h.intervals k before hbefore
    rw [(h.intervals (k + 1) after hafter).1, hstart, hdatagrams, UInt64.add_comm, UInt64.sub_add_cancel]
  bytes := h.sumBytes
  datagrams := h.sumDatagrams

theorem carriesInterval_of_embeds {v : MarkingSender} {packet : BuiltPacket} {k : Nat} (h : v.Embeds packet.data k) :
    CarriesInterval v.intervals packet k := by
  obtain ⟨hbit, interval, hinterval, hbytes⟩ := h
  have hread := deserializeInterval_serializeInterval interval []
  rw [List.append_nil, ← hbytes] at hread
  exact ⟨hbit, interval, _, hinterval, hread, rfl, rfl, rfl⟩

/-- In every interleaving of the sending thread with the snapshots the intervals tile the sequence numbers, every packet is marked with its group, and if each interval but the last has a packet, every packet behind a snapshot carries the interval of that snapshot. -/
theorem intervals_tile {config : TestConfig} {streamId : Nat} {now : UInt64} {recorder : Recorder} {acts : List Action}
    {s : LiveStream Recorder} (hsending : ∀ a ∈ acts, a.isSending)
    (hrun : (machine tools).run (connecting config streamId now recorder) acts = some s) :
    Tiles s.log.intervals s.report.senderReport.lastSnapshot ∧
      (∀ (k : Nat) (interval : TestInterval), s.log.intervals[k]? = some interval →
        interval.startSeq = .ofNat (s.view.boundary k)) ∧
      (∀ packet ∈ s.log.built, IsMarked s.view packet) ∧
      (s.view.Dense → ∀ packet ∈ s.log.built, ∀ k, packet.snapshots = k + 1 →
        CarriesInterval s.log.intervals packet k) := by
  have hmarked := run_marked hsending hrun
  refine ⟨tiles_of_marked hmarked, ?_, ?_, ?_⟩
  · intro k interval hk
    exact (hmarked.intervals k interval hk).1
  · intro packet hpacket
    obtain ⟨_, hcolour, hseq, hbetween⟩ := hmarked.packets packet hpacket
    exact ⟨hcolour, hseq, hbetween⟩
  · intro hdense packet hpacket k hk
    exact carriesInterval_of_embeds (hmarked.embedded hdense packet hpacket k hk)

def acceptedStep : Action := .thread { time := 0, now := 0, sendOk := true, isLimitHit := false }

/-- Two packets are built, sent and counted with a snapshot after each, and a third one is built. -/
def untilThirdPacket : List Action :=
  [.event (.established 1000), .event .writable, .startSend 0] ++ List.replicate 8 acceptedStep
    ++ .snapshotReport 1000 :: List.replicate 7 acceptedStep ++ .snapshotReport 2000 :: List.replicate 4 acceptedStep

theorem intervals_tile_third :
    ∃ s packet, (machine SeqTools.ofLists).run (connecting { role := .roleSender } 1 5 []) untilThirdPacket = some s ∧
      s.log.intervals.map TestInterval.datagrams = [1, 1] ∧ packet ∈ s.log.built ∧ packet.snapshots = 2 ∧
      Tiles s.log.intervals s.report.senderReport.lastSnapshot ∧ IsMarked s.view packet ∧
      CarriesInterval s.log.intervals packet 1 := by
  have hrun : ((machine SeqTools.ofLists).run (connecting { role := .roleSender } 1 5 []) untilThirdPacket).map
      (fun s => (s.log.intervals.map TestInterval.datagrams, s.log.built.map BuiltPacket.snapshots))
      = some ([1, 1], [0, 1, 2]) := by decide +kernel
  obtain ⟨s, hs, hrun⟩ := Option.map_eq_some_iff.mp hrun
  obtain ⟨hintervals, hbuilt⟩ := Prod.mk.inj hrun
  have hmem : ∀ k ∈ [0, 1, 2], ∃ packet ∈ s.log.built, packet.snapshots = k := by
    intro k hk
    rw [← hbuilt] at hk
    exact List.mem_map.mp hk
  have htwo : s.log.intervals.length = 2 := by
    rw [← List.length_map TestInterval.datagrams, hintervals]
    rfl
  have hdense : s.view.Dense := by
    intro k hpos hk
    have hk : k < s.log.intervals.length := hk
    exact hmem k (by rw [htwo] at hk; simp; omega)
  obtain ⟨htiles, _, hmarked, hcarries⟩ := intervals_tile (show ∀ a ∈ untilThirdPacket, a.isSending by decide) hs
  obtain ⟨packet, hpacket, hsnapshots⟩ := hmem 2 (by simp)
  exact ⟨s, packet, hs, hintervals, hpacket, hsnapshots, htiles, hmarked packet hpacket,
    hcarries hdense packet hpacket 1 hsnapshots⟩

end LiveStream

end BatsIperf
