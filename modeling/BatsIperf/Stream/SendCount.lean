import BatsIperf.Stream.Handling
import BatsIperf.Stream.SenderIntervals

/-!
# What a sending stream counts

The counters of the sender report are meant to say what the library has accepted. The data loop counts its block also when it leaves the retry loop without a send that was accepted, and the FIN is counted with the ideal length that is loaded after its send.
-/

namespace BatsIperf

namespace LiveStream

variable {Recorder : Type} {tools : SeqTools Recorder}

/-- What a send of `length` bytes adds to the counter of bytes. -/
def sentBytes (length : Int) : UInt64 := .ofNat (Narrowing.unsigned 64 length)

/-- The bytes and the datagrams of an accepted send that the thread has yet to count. -/
def uncounted (s : LiveStream Recorder) : UInt64 × UInt64 :=
  if s.sendingThread = .sending then
    match s.point with
    | .countBytes length => (sentBytes length, 1)
    | .finCountBytes => (sentBytes s.idealLength, 1)
    | .countDatagrams | .finCountDatagrams => (0, 1)
    | .check | .errorCheck | .waitWritable | .build | .send _ | .retry _ | .fin | .finSend | .finRetry => (0, 0)
  else (0, 0)

/-- The counters are short of the accepted sends by what the thread has yet to count. -/
structure Counted (s : LiveStream Recorder) : Prop where
  bytes : s.report.senderReport.summary.bytes + s.uncounted.1 = (s.log.sends.map sentBytes).sum
  datagrams : s.report.senderReport.summary.datagrams + s.uncounted.2 = .ofNat s.log.sends.length

/-- The ideal length an event hands over, where it does. -/
def newIdealLength (s : LiveStream Recorder) : ConnEvent → Option Int
  | .established length => if s.config.role = .roleSender then some length else none
  | .idealBufferLength length => some length
  | _ => none

def isRetrying : SendPoint → Bool
  | .retry _ => true
  | _ => false

/-- The thread does not leave the retry loop of a data block by the state or by an error, the ideal length does not change between the send of a FIN and its counting, and no summary of a peer overwrites the counters. -/
def CountsSends (s : LiveStream Recorder) : Action → Prop
  | .thread _ => s.sendingThread = .sending → isRetrying s.point → s.state = .streamStart ∧ s.hasErrInSend = false
  | .event event => s.sendingThread = .sending → s.point = .finCountBytes →
    (s.newIdealLength event).getD s.idealLength = s.idealLength
  | .summary _ _ => False
  | _ => True

instance decidableCountsSends : ∀ (s : LiveStream Recorder) (a : Action), Decidable (CountsSends s a)
  | s, .thread _ => inferInstanceAs (Decidable (s.sendingThread = .sending → isRetrying s.point →
      s.state = .streamStart ∧ s.hasErrInSend = false))
  | s, .event event => inferInstanceAs (Decidable (s.sendingThread = .sending → s.point = .finCountBytes →
      (s.newIdealLength event).getD s.idealLength = s.idealLength))
  | _, .summary _ _ => isFalse id
  | _, .received _ | _, .startSend _ | _, .snapshotReport _ | _, .poll _ | _, .finishReport _ | _, .stop _ =>
    isTrue trivial

/-! ### Steps that leave the counters alone -/

theorem Counted.congr {s t : LiveStream Recorder} (h : Counted s)
    (hbytes : t.report.senderReport.summary.bytes = s.report.senderReport.summary.bytes)
    (hdatagrams : t.report.senderReport.summary.datagrams = s.report.senderReport.summary.datagrams)
    (hsends : t.log.sends = s.log.sends) (huncounted : t.uncounted = s.uncounted) : Counted t := by
  constructor
  · rw [hbytes, hsends, huncounted]
    exact h.bytes
  · rw [hdatagrams, hsends, huncounted]
    exact h.datagrams

theorem uncounted_congr {s t : LiveStream Recorder} (hthread : t.sendingThread = s.sendingThread)
    (hpoint : t.point = s.point)
    (hlength : s.sendingThread = .sending → s.point = .finCountBytes → t.idealLength = s.idealLength) :
    t.uncounted = s.uncounted := by
  by_cases hsending : s.sendingThread = .sending
  · rw [uncounted, uncounted, if_pos (hthread.trans hsending), if_pos hsending, hpoint]
    cases hp : s.point with
    | finCountBytes =>
      show (sentBytes t.idealLength, (1 : UInt64)) = (sentBytes s.idealLength, 1)
      rw [hlength hsending hp]
    | _ => rfl
  · have hother : ¬ t.sendingThread = .sending := by
      rw [hthread]
      exact hsending
    rw [uncounted, uncounted, if_neg hother, if_neg hsending]

theorem SameSending.uncounted {s t : LiveStream Recorder} (h : SameSending s t) : t.uncounted = s.uncounted :=
  uncounted_congr h.sendingThread h.point fun _ _ => h.idealLength

theorem SameSending.counted {s t : LiveStream Recorder} (hsame : SameSending s t) (h : Counted s) : Counted t :=
  h.congr (by rw [hsame.senderReport]) (by rw [hsame.senderReport]) hsame.sends hsame.uncounted

theorem FinHandled.counted {s t : LiveStream Recorder} {isSent : Bool} (hfin : FinHandled s t isSent) (h : Counted s) :
    Counted t := by
  have huncounted : t.uncounted = s.uncounted := uncounted_congr hfin.sendingThread hfin.point fun _ _ => hfin.idealLength
  cases isSent with
  | false => exact h.congr hfin.bytes hfin.datagrams hfin.sends huncounted
  | true =>
    have hbytes := hfin.bytes
    have hdatagrams := hfin.datagrams
    have hsends := hfin.sends
    simp only [if_true] at hbytes hdatagrams hsends
    constructor
    · rw [huncounted, hbytes, hsends, List.map_append, List.sum_append, ← h.bytes, List.map_singleton,
        List.sum_singleton, UInt64.add_assoc, UInt64.add_assoc, UInt64.add_comm (UInt64.ofNat _)]
      rfl
    · rw [huncounted, hdatagrams, hsends, List.length_append, UInt64.ofNat_add, ← h.datagrams, UInt64.add_assoc,
        UInt64.add_assoc, UInt64.add_comm 1]
      rfl

theorem updateReceived_counted {s t : LiveStream Recorder} {reception : Reception} (h : Counted s)
    (hstep : s.updateReceived tools reception = .ok t) : Counted t := by
  rcases updateReceived_stages hstep with ⟨-, rfl⟩ | ⟨seq, time, flags, identified, flagged, detected, _, _, hidentified,
    hflagged, hdetected, rfl⟩
  · exact h
  · obtain ⟨identifier, rfl⟩ := learnIdentifier_eq hidentified
    have hidentified : Counted ({ s.countReceived reception.data.length reception.countedAt with
        recvSeqRecorder := tools.record s.recvSeqRecorder seq, streamIdentifier := identifier } :
        LiveStream Recorder) := by
      refine SameSending.counted ?_ h
      constructor <;> rfl
    have hflagged : Counted flagged := by
      rcases onFlags_cases hflagged with hsame | ⟨_, _, isSent, hfin⟩
      · exact hsame.counted hidentified
      · exact hfin.counted hidentified
    exact (updateJitter_same detected _ _).counted ((onInterval_same hdetected).counted hflagged)

/-! ### The steps of the thread -/

theorem uncounted_of_not_sending {s : LiveStream Recorder} (h : s.sendingThread ≠ .sending) : s.uncounted = (0, 0) :=
  if_neg h

theorem uncounted_of_isBefore {s : LiveStream Recorder} (h : s.point.isBefore = true) : s.uncounted = (0, 0) := by
  unfold uncounted
  split
  · cases hpoint : s.point with
    | countBytes | countDatagrams | finCountBytes | finCountDatagrams =>
      rw [hpoint] at h
      exact absurd h Bool.false_ne_true
    | _ => rfl
  · rfl

/-- A thread that has counted goes on to a place where there is nothing to count. -/
theorem Counted.goOn {s t : LiveStream Recorder} (h : Counted s)
    (hbytes : t.report.senderReport.summary.bytes = s.report.senderReport.summary.bytes)
    (hdatagrams : t.report.senderReport.summary.datagrams = s.report.senderReport.summary.datagrams)
    (hsends : t.log.sends = s.log.sends) (hs : s.uncounted = (0, 0)) (ht : t.uncounted = (0, 0)) : Counted t :=
  h.congr hbytes hdatagrams hsends (ht.trans hs.symm)

theorem sendData_counted {s t : LiveStream Recorder} {length : Int} {sendOk : Bool} {sent unsent : SendPoint}
    (h : Counted s) (hs : s.uncounted = (0, 0))
    (hsent : ({ s with point := sent } : LiveStream Recorder).uncounted = (sentBytes length, 1))
    (hunsent : ({ s with point := unsent } : LiveStream Recorder).uncounted = (0, 0))
    (hstep : s.sendData length sendOk sent unsent = .ok t) : Counted t := by
  obtain ⟨_, rfl⟩ := sendData_eq hstep
  cases sendOk with
  | false => exact h.goOn rfl rfl rfl hs hunsent
  | true =>
    have hbytes := h.bytes
    have hdatagrams := h.datagrams
    rw [hs, UInt64.add_zero] at hbytes hdatagrams
    constructor
    · show s.report.senderReport.summary.bytes + ({ s with point := sent } : LiveStream Recorder).uncounted.1
        = ((s.log.sends ++ [length]).map sentBytes).sum
      rw [hsent, hbytes, List.map_append, List.sum_append, List.map_singleton, List.sum_singleton]
    · show s.report.senderReport.summary.datagrams + ({ s with point := sent } : LiveStream Recorder).uncounted.2
        = .ofNat (s.log.sends ++ [length]).length
      rw [hsent, hdatagrams, List.length_append, UInt64.ofNat_add]
      rfl

theorem addSentBytes_counted {s : LiveStream Recorder} {length : Int} {point : SendPoint} (h : Counted s)
    (hs : s.uncounted = (sentBytes length, 1))
    (ht : ({ s with point := point } : LiveStream Recorder).uncounted = (0, 1)) :
    Counted (s.addSentBytes length point) := by
  have hbytes := h.bytes
  have hdatagrams := h.datagrams
  rw [hs] at hbytes hdatagrams
  constructor
  · show s.report.senderReport.summary.bytes + sentBytes length
        + ({ s with point := point } : LiveStream Recorder).uncounted.1 = (s.log.sends.map sentBytes).sum
    rw [ht, UInt64.add_zero, hbytes]
  · show s.report.senderReport.summary.datagrams + ({ s with point := point } : LiveStream Recorder).uncounted.2
        = .ofNat s.log.sends.length
    rw [ht, hdatagrams]

theorem addSentDatagram_counted {s t : LiveStream Recorder} (h : Counted s) (hs : s.uncounted = (0, 1))
    (hbytes : t.report.senderReport.summary.bytes = s.report.senderReport.summary.bytes)
    (hdatagrams : t.report.senderReport.summary.datagrams = s.report.senderReport.summary.datagrams + 1)
    (hsends : t.log.sends = s.log.sends) (ht : t.uncounted = (0, 0)) : Counted t := by
  have hsum := h.bytes
  have hlength := h.datagrams
  rw [hs] at hsum hlength
  constructor
  · rw [hbytes, hsends, ht]
    exact hsum
  · rw [hdatagrams, hsends, ht, UInt64.add_zero]
    exact hlength

theorem loopStep_counted {s t : LiveStream Recorder} {input : ThreadInput} (hthread : s.sendingThread = .sending)
    (hcounts : CountsSends s (.thread input)) (h : Counted s) (hstep : s.loopStep input = .ok t) : Counted t := by
  have hcounts := hcounts hthread
  have hidle : ∀ {u : LiveStream Recorder}, u.sendingThread = .ended → u.uncounted = (0, 0) := by
    intro u hended
    apply uncounted_of_not_sending
    rw [hended]
    exact SendingThread.noConfusion
  cases loopStep_move hstep with
  | waits => exact h
  | goesOn hfrom hto => exact h.goOn rfl rfl rfl (uncounted_of_isBefore hfrom) (uncounted_of_isBefore hto)
  | leaves hpoint | fails hpoint =>
    exact h.goOn rfl rfl rfl (by simp [uncounted, hpoint]) (by simp [uncounted, hthread])
  | builds hpoint =>
    refine h.goOn ?_ ?_ rfl (by simp [uncounted, hpoint]) ?_ <;> simp only [build, buildHeader_stream]
    simp [uncounted, hthread]
  | sendsBlock hpoint hsend =>
    have hs : s.uncounted = (0, 0) := by rcases hpoint with hpoint | hpoint <;> simp [uncounted, hpoint]
    exact sendData_counted h hs (by simp [uncounted, hthread]) (by simp [uncounted, hthread]) hsend
  | sendsFin hpoint hsend =>
    have hs : s.uncounted = (0, 0) := by rcases hpoint with hpoint | hpoint <;> simp [uncounted, hpoint]
    exact sendData_counted h hs (by simp [uncounted, hthread]) (by simp [uncounted, hthread]) hsend
  | givesUp hpoint hleft =>
    -- the way out that counts a block which was not sent
    obtain ⟨hstart, hok⟩ := hcounts (by rw [hpoint]; rfl)
    rcases hleft with hstate | herror
    · exact absurd hstart hstate
    · exact absurd (hok.symm.trans herror) Bool.false_ne_true
  | countsBytes hpoint =>
    exact addSentBytes_counted h (by simp [uncounted, hthread, hpoint]) (by simp [uncounted, hthread])
  | countsDatagram hpoint =>
    exact addSentDatagram_counted h (by simp [uncounted, hthread, hpoint]) rfl rfl rfl
      (by simp [uncounted, addSentDatagram, hthread])
  | buildsFin hpoint =>
    exact h.goOn rfl rfl rfl (by simp [uncounted, hpoint]) (by simp [uncounted, buildFin, hthread])
  | countsFinBytes hpoint =>
    exact addSentBytes_counted h (by simp [uncounted, hthread, hpoint]) (by simp [uncounted, hthread])
  | countsFinDatagram hpoint =>
    exact addSentDatagram_counted h (by simp [uncounted, hthread, hpoint]) rfl rfl rfl (hidle rfl)
  | ends hpoint =>
    have hs : s.uncounted = (0, 0) := by rcases hpoint with hpoint | hpoint <;> simp [uncounted, hpoint]
    exact h.goOn rfl rfl rfl hs (hidle rfl)

theorem threadStep_counted {s t : LiveStream Recorder} {input : ThreadInput} (hcounts : CountsSends s (.thread input))
    (h : Counted s) (hstep : s.threadStep input = .ok t) : Counted t := by
  unfold threadStep at hstep
  split at hstep <;> rename_i hthread
  · exact absurd hstep (by simp)
  · exact absurd hstep (by simp)
  · have hs : s.uncounted = (0, 0) := by
      apply uncounted_of_not_sending
      rw [hthread]
      exact SendingThread.noConfusion
    obtain rfl := Except.ok.inj hstep
    split
    · exact h.goOn rfl rfl rfl hs rfl
    · obtain ⟨hbytes, hdatagrams, _, _⟩ := stop_sender s.toIperfStream input.now
      exact h.goOn hbytes hdatagrams rfl hs rfl
  · exact loopStep_counted hthread hcounts h hstep

/-! ### Every step -/

theorem connectionCallback_idealLength {s : LiveStream Recorder} {next : IperfStream} {event : ConnEvent}
    (h : s.toIperfStream.connectionCallback event = .ok next) :
    next.idealLength = (s.newIdealLength event).getD s.idealLength := by
  cases IperfStream.connectionCallback_move h with
  | connected hrole =>
    rw [newIdealLength, if_pos hrole]
    rfl
  | ignored hrole =>
    rw [newIdealLength, if_neg hrole]
    rfl
  | measured | sendDataError => rfl
  | retried hevent | givenUp hevent | closed hevent | writable hevent => rcases hevent with rfl | rfl <;> rfl
  | other hevent =>
    simp only [List.mem_cons, List.not_mem_nil, or_false] at hevent
    rcases hevent with rfl | rfl | rfl | rfl | rfl <;> rfl

theorem onEvent_counted {s t : LiveStream Recorder} {event : ConnEvent} (hcounts : CountsSends s (.event event))
    (h : Counted s) (hstep : s.onEvent event = .ok t) : Counted t := by
  obtain ⟨stream, hstream, hstep⟩ := Fault.bind_eq_ok.mp hstep
  obtain ⟨hreport, hthread⟩ := connectionCallback_report hstream
  have hlength := connectionCallback_idealLength hstream
  obtain rfl := Fault.pure_eq_ok.mp hstep
  refine h.congr (by rw [hreport]) (by rw [hreport]) rfl ?_
  refine uncounted_congr hthread (by rfl) ?_
  intro hsending hpoint
  exact hlength.trans (hcounts hsending hpoint)

theorem step_counted {s t : LiveStream Recorder} {a : Action} (h : Counted s) (hcounts : CountsSends s a)
    (hstep : (machine tools).step s a = some t) : Counted t := by
  have hperform := step_eq_some.mp hstep
  cases a with
  | event event => exact onEvent_counted hcounts h hperform
  | received reception => exact updateReceived_counted h hperform
  | startSend now =>
    obtain ⟨stream, hstream, hperform⟩ := Fault.bind_eq_ok.mp hperform
    obtain ⟨_, hthread, hstream⟩ := Fault.bind_eq_ok.mp hstream
    have hthread : s.sendingThread = .notStarted := Fault.require_eq_ok.mp hthread
    obtain rfl := Fault.pure_eq_ok.mp hstream
    obtain rfl := Fault.pure_eq_ok.mp hperform
    have hs : s.uncounted = (0, 0) := by
      apply uncounted_of_not_sending
      rw [hthread]
      exact SendingThread.noConfusion
    refine h.goOn ?_ ?_ rfl hs rfl
    all_goals
      dsimp only
      split <;> rfl
  | thread input => exact threadStep_counted hcounts h hperform
  | snapshotReport now =>
    obtain rfl := Except.ok.inj hperform
    unfold snapshotReport IperfStream.snapshotReport
    dsimp only
    split <;> split <;> exact h.congr rfl rfl rfl rfl
  | poll now =>
    obtain rfl := Except.ok.inj hperform
    unfold poll IperfStream.isIntervalDataReceivedTimeout
    dsimp only
    split <;> exact h.congr rfl rfl rfl rfl
  | summary => exact absurd hcounts id
  | finishReport now =>
    obtain rfl := Except.ok.inj hperform
    obtain ⟨hbytes, hdatagrams, hlength⟩ := finishReport_sender s.toIperfStream now
    have hthread := (s.toIperfStream.finishReport_same now).sendingThread
    exact h.congr hbytes hdatagrams rfl (uncounted_congr hthread rfl fun _ _ => hlength)
  | stop now =>
    obtain rfl := Except.ok.inj hperform
    obtain ⟨hbytes, hdatagrams, hlength, hthread⟩ := stop_sender s.toIperfStream now
    exact h.congr hbytes hdatagrams rfl (uncounted_congr hthread rfl fun _ _ => hlength)

/-- Whether the thread stands between the return of a send that was accepted and the counters, or between a retry loop it has left and the counters. -/
def isCounting (s : LiveStream Recorder) : Bool :=
  s.sendingThread == .sending &&
    match s.point with
    | .countBytes _ | .countDatagrams | .finCountBytes | .finCountDatagrams => true
    | .check | .errorCheck | .waitWritable | .build | .send _ | .retry _ | .fin | .finSend | .finRetry => false

theorem uncounted_of_not_counting {s : LiveStream Recorder} (h : s.isCounting = false) : s.uncounted = (0, 0) := by
  by_cases hthread : s.sendingThread = .sending
  · rw [uncounted, if_pos hthread]
    cases hpoint : s.point with
    | countBytes | countDatagrams | finCountBytes | finCountDatagrams => simp [isCounting, hthread, hpoint] at h
    | _ => rfl
  · exact uncounted_of_not_sending hthread

/-- In a run of such steps the counters of a sending stream are what the library has accepted, in every state in which the thread is not about to count. -/
theorem sends_counted {config : TestConfig} {streamId : Nat} {now : UInt64} {recorder : Recorder} {acts : List Action}
    {s : LiveStream Recorder}
    (hcounts : (machine tools).Respects CountsSends (connecting config streamId now recorder) acts)
    (hrun : (machine tools).run (connecting config streamId now recorder) acts = some s) (hstate : s.isCounting = false) :
    s.report.senderReport.summary.datagrams = .ofNat s.log.sends.length ∧
      s.report.senderReport.summary.bytes = (s.log.sends.map sentBytes).sum := by
  have hcounted : Counted s :=
    Machine.run_invariant (fun s a t => step_counted) ⟨rfl, rfl⟩ hcounts hrun
  have huncounted := uncounted_of_not_counting hstate
  have hbytes := hcounted.bytes
  have hdatagrams := hcounted.datagrams
  rw [huncounted, UInt64.add_zero] at hbytes hdatagrams
  exact ⟨hdatagrams, hbytes⟩

/-- An established stream whose thread has built its first packet. -/
def untilBuilt : List Action :=
  [.event (.established 1000), .event .writable, .startSend 0] ++ List.replicate 5 acceptedStep

def refusedStep : Action := .thread { time := 0, now := 0, sendOk := false, isLimitHit := false }

/-- The first packet is sent and counted, the time is up, and the FIN goes out. -/
def untilFin : List Action :=
  untilBuilt ++ List.replicate 3 acceptedStep ++ .finishReport 0 :: List.replicate 5 acceptedStep

theorem sends_counted_fin :
    ∃ s, (machine SeqTools.ofLists).run (connecting { role := .roleSender, protocol := 1 } 1 5 []) untilFin = some s ∧
      s.log.sends = [1000, 1000] ∧ s.report.senderReport.summary.datagrams = 2 ∧
      s.report.senderReport.summary.bytes = 2000 := by
  have hrun : ((machine SeqTools.ofLists).run (connecting { role := .roleSender, protocol := 1 } 1 5 []) untilFin).map
      (fun s => (s.log.sends, s.isCounting)) = some ([1000, 1000], false) := by decide +kernel
  obtain ⟨s, hs, hrun⟩ := Option.map_eq_some_iff.mp hrun
  obtain ⟨hsends, hstate⟩ := Prod.mk.inj hrun
  obtain ⟨hdatagrams, hbytes⟩ := sends_counted (by decide +kernel) hs hstate
  rw [hsends] at hdatagrams hbytes
  exact ⟨s, hs, hsends, hdatagrams, hbytes.trans (by decide)⟩

/-- The only send is refused, the time is up, and the block is counted all the same. -/
theorem phantom_datagram_counterexample :
    ∃ s, (machine SeqTools.ofLists).run (connecting { role := .roleSender, protocol := 1 } 1 5 [])
        (untilBuilt ++ refusedStep :: .finishReport 0 :: List.replicate 3 refusedStep) = some s ∧
      s.isCounting = false ∧ s.log.sends = [] ∧ s.report.senderReport.summary.datagrams = 1 ∧
      s.report.senderReport.summary.bytes = 1000 := by
  have hrun : ((machine SeqTools.ofLists).run (connecting { role := .roleSender, protocol := 1 } 1 5 [])
      (untilBuilt ++ refusedStep :: .finishReport 0 :: List.replicate 3 refusedStep)).map (fun s =>
        ((s.isCounting, s.log.sends),
          (s.report.senderReport.summary.datagrams, s.report.senderReport.summary.bytes)))
      = some ((false, []), (1, 1000)) := by decide +kernel
  obtain ⟨s, hs, hrun⟩ := Option.map_eq_some_iff.mp hrun
  simp only [Prod.mk.injEq] at hrun
  obtain ⟨⟨hstate, hsends⟩, hdatagrams, hbytes⟩ := hrun
  exact ⟨s, hs, hstate, hsends, hdatagrams, hbytes⟩

end LiveStream

end BatsIperf
