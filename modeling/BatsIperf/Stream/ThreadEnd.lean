import BatsIperf.Stream.Handling
import BatsIperf.Stream.SenderIntervals

/-!
# How the sending thread ends

The destructor of a stream writes `STREAM_DONE` and joins the thread. A stream that sends gets there by a FIN-ACK, by an error and by `Stop` as well, and no step leads it out of that state. Each place of the thread is then a bounded number of steps away from the end.
-/

namespace BatsIperf

/-- How many steps a place of the loop is away from the end of the thread at most, once the stream is done. -/
def SendPoint.stepsLeft : SendPoint → Nat
  | .finCountDatagrams | .finRetry => 1
  | .finCountBytes => 2
  | .finSend => 3
  | .fin => 4
  | .check => 5
  | .countDatagrams => 6
  | .countBytes _ => 7
  | .retry _ => 8
  | .send _ => 9
  | .build => 10
  | .waitWritable => 11
  | .errorCheck => 12

namespace LiveStream

variable {Recorder : Type} {tools : SeqTools Recorder}

/-- A stream that sends, is done and has a thread. -/
structure Finishing (s : LiveStream Recorder) : Prop where
  role : s.config.role = .roleSender
  state : s.state = .streamDone
  started : s.sendingThread ≠ .notStarted

def stepsLeft (s : LiveStream Recorder) : Nat :=
  match s.sendingThread with
  | .notStarted | .ended => 0
  | .starting => 6
  | .sending => s.point.stepsLeft

theorem stepsLeft_le (s : LiveStream Recorder) : s.stepsLeft ≤ 12 := by
  unfold stepsLeft
  cases s.sendingThread with
  | notStarted | ended => exact Nat.zero_le 12
  | starting => exact Nat.le_of_ble_eq_true rfl
  | sending =>
    dsimp only
    cases s.point <;> exact Nat.le_of_ble_eq_true rfl

structure Beside (s t : LiveStream Recorder) : Prop where
  config : t.config = s.config
  state : s.state = .streamDone → t.state = .streamDone
  sendingThread : t.sendingThread = s.sendingThread
  point : t.point = s.point

theorem Beside.finishing {s t : LiveStream Recorder} (hbeside : Beside s t) (h : Finishing s) :
    Finishing t ∧ t.stepsLeft = s.stepsLeft := by
  refine ⟨⟨?_, hbeside.state h.state, ?_⟩, ?_⟩
  · rw [hbeside.config]
    exact h.role
  · rw [hbeside.sendingThread]
    exact h.started
  · rw [stepsLeft, stepsLeft, hbeside.sendingThread, hbeside.point]

/-! ### Beside the thread -/

theorem finishReport_beside {s : LiveStream Recorder} (h : Finishing s) (now : UInt64) : Beside s (s.finishReport now) := by
  have hsame : s.toIperfStream.finishReport now = s.toIperfStream := by
    unfold IperfStream.finishReport
    rw [h.role]
    dsimp only
    rw [if_pos h.state]
  unfold finishReport
  rw [hsame]
  exact ⟨rfl, id, rfl, rfl⟩

theorem stop_beside (s : LiveStream Recorder) (now : UInt64) : Beside s (s.stop now) := by
  obtain ⟨_, _, _, hthread⟩ := stop_sender s.toIperfStream now
  refine ⟨?_, fun hdone => ?_, hthread, rfl⟩
  · show (s.toIperfStream.stop now).config = s.config
    unfold IperfStream.stop
    split
    · rfl
    · dsimp only
      split
      · exact (IperfStream.finishReport_same _ now).config
      · rfl
  · show (s.toIperfStream.stop now).state = .streamDone
    unfold IperfStream.stop
    split
    · exact hdone
    · rfl

theorem updateReceived_beside {s t : LiveStream Recorder} {reception : Reception}
    (h : s.updateReceived tools reception = .ok t) : Beside s t := by
  rcases updateReceived_stages h with ⟨_, rfl⟩ | ⟨seq, time, flags, identified, flagged, detected, _, _, hidentified,
    hflagged, hdetected, rfl⟩
  · exact ⟨rfl, id, rfl, rfl⟩
  · obtain ⟨identifier, rfl⟩ := learnIdentifier_eq hidentified
    have hinterval : Beside flagged detected := by
      obtain ⟨found, rfl | ⟨received, actual, escaped, rfl⟩⟩ := onInterval_cases hdetected
      · exact ⟨rfl, id, rfl, rfl⟩
      · exact ⟨rfl, id, rfl, rfl⟩
    have hjitter : Beside detected (detected.updateJitter reception.arrival time) := by
      unfold updateJitter
      dsimp only
      split <;> exact ⟨rfl, id, rfl, rfl⟩
    have hflags : Beside s flagged := by
      rcases onFlags_cases hflagged with hsame | ⟨_, _, isSent, hfin⟩
      · refine ⟨hsame.config, fun hdone => ?_, hsame.sendingThread, hsame.point⟩
        unfold onFlags at hflagged
        split at hflagged
        · split at hflagged
          · obtain rfl := Except.ok.inj hflagged
            rfl
          · obtain ⟨_, hhandled⟩ := onReceivedFIN_handled hflagged
            exact hhandled.state
        · obtain rfl := Except.ok.inj hflagged
          exact hdone
      · exact ⟨hfin.config, fun _ => hfin.state, hfin.sendingThread, hfin.point⟩
    exact ⟨hjitter.config.trans (hinterval.config.trans hflags.config),
      fun hdone => hjitter.state (hinterval.state (hflags.state hdone)),
      hjitter.sendingThread.trans (hinterval.sendingThread.trans hflags.sendingThread),
      hjitter.point.trans (hinterval.point.trans hflags.point)⟩

def Action.isThread : Action → Bool
  | .thread _ => true
  | _ => false

/-- A thread is started only once, so no step leads a stream with a thread out of its end. -/
theorem step_beside {s t : LiveStream Recorder} {a : Action} (ha : a.isThread = false) (h : Finishing s)
    (hstep : (machine tools).step s a = some t) : Beside s t := by
  have hperform := step_eq_some.mp hstep
  cases a with
  | event event =>
    obtain ⟨stream, hstream, hperform⟩ := Fault.bind_eq_ok.mp hperform
    obtain rfl := Fault.pure_eq_ok.mp hperform
    cases IperfStream.connectionCallback_move hstream <;> exact ⟨rfl, id, rfl, rfl⟩
  | received reception => exact updateReceived_beside hperform
  | startSend now =>
    obtain ⟨stream, hstream, _⟩ := Fault.bind_eq_ok.mp hperform
    obtain ⟨_, hthread, _⟩ := Fault.bind_eq_ok.mp hstream
    exact absurd (Fault.require_eq_ok.mp hthread) h.started
  | thread => exact absurd ha.symm Bool.false_ne_true
  | snapshotReport now =>
    obtain rfl := Except.ok.inj hperform
    unfold snapshotReport IperfStream.snapshotReport
    dsimp only
    split <;> split <;> exact ⟨rfl, id, rfl, rfl⟩
  | poll now =>
    obtain rfl := Except.ok.inj hperform
    unfold poll IperfStream.isIntervalDataReceivedTimeout
    dsimp only
    split <;> exact ⟨rfl, id, rfl, rfl⟩
  | summary cursor now =>
    obtain ⟨⟨stream, rest⟩, hread, hperform⟩ := Fault.bind_eq_ok.mp hperform
    obtain ⟨bytes, datagrams, bitrate, rfl⟩ := IperfStream.deserializeReport_eq (Fault.need_eq_ok.mp hread)
    obtain rfl := Fault.pure_eq_ok.mp hperform
    split
    · exact ⟨rfl, id, rfl, rfl⟩
    · let told : LiveStream Recorder := { s with toIperfStream :=
        { s.toIperfStream with report := s.report.setSender bytes datagrams bitrate, isSumReceived := true } }
      have htold : Finishing told := ⟨h.role, h.state, h.started⟩
      obtain ⟨hconfig, hstate, hthread, hpoint⟩ := finishReport_beside htold now
      exact ⟨hconfig, hstate, hthread, hpoint⟩
  | finishReport now =>
    obtain rfl := Except.ok.inj hperform
    exact finishReport_beside h now
  | stop now =>
    obtain rfl := Except.ok.inj hperform
    exact stop_beside s now

/-! ### The steps of the thread -/

theorem stepsLeft_sending {s : LiveStream Recorder} (hthread : s.sendingThread = .sending) :
    s.stepsLeft = s.point.stepsLeft := by
  rw [stepsLeft, hthread]

theorem Finishing.goOn {s t : LiveStream Recorder} (h : Finishing s) (hthread : s.sendingThread = .sending)
    {point : SendPoint} (hpoint : s.point = point) (hconfig : t.config = s.config) (hstate : t.state = .streamDone)
    (hsending : t.sendingThread = .sending)
    (hnearer : Nat.blt t.point.stepsLeft point.stepsLeft = true) :
    Finishing t ∧ t.stepsLeft < s.stepsLeft := by
  refine ⟨⟨hconfig ▸ h.role, hstate, ?_⟩, ?_⟩
  · rw [hsending]
    exact SendingThread.noConfusion
  · rw [stepsLeft_sending hthread, stepsLeft_sending hsending, hpoint]
    exact Nat.le_of_ble_eq_true hnearer

theorem Finishing.endThread {s t : LiveStream Recorder} (h : Finishing s) (hsteps : 0 < s.stepsLeft)
    (hconfig : t.config = s.config) (hstate : t.state = .streamDone) (hended : t.sendingThread = .ended) :
    Finishing t ∧ t.stepsLeft < s.stepsLeft := by
  refine ⟨⟨hconfig ▸ h.role, hstate, ?_⟩, ?_⟩
  · rw [hended]
    exact SendingThread.noConfusion
  · rw [show t.stepsLeft = 0 by rw [stepsLeft, hended]]
    exact hsteps

theorem sendData_left {s t : LiveStream Recorder} {length : Int} {sendOk : Bool} {sent unsent : SendPoint}
    {point : SendPoint} (h : Finishing s) (hthread : s.sendingThread = .sending) (hpoint : s.point = point)
    (hsent : Nat.blt sent.stepsLeft point.stepsLeft = true)
    (hunsent : Nat.blt unsent.stepsLeft point.stepsLeft = true)
    (hstep : s.sendData length sendOk sent unsent = .ok t) : Finishing t ∧ t.stepsLeft < s.stepsLeft := by
  obtain ⟨_, rfl⟩ := sendData_eq hstep
  cases sendOk with
  | true => exact h.goOn hthread hpoint rfl h.state hthread hsent
  | false => exact h.goOn hthread hpoint rfl h.state hthread hunsent

theorem loopStep_left {s t : LiveStream Recorder} {input : ThreadInput} (h : Finishing s)
    (hthread : s.sendingThread = .sending) (hstep : s.loopStep input = .ok t) :
    Finishing t ∧ t.stepsLeft < s.stepsLeft := by
  have hnotStart : s.state ≠ .streamStart := by
    rw [h.state]
    exact StreamState.noConfusion
  have hsteps : 0 < s.stepsLeft := by
    rw [stepsLeft_sending hthread]
    cases s.point <;> exact Nat.le_of_ble_eq_true rfl
  unfold loopStep at hstep
  cases hpoint : s.point with
  | check =>
    rw [hpoint] at hstep
    obtain rfl := Except.ok.inj hstep
    rw [if_neg fun hgoes => hnotStart hgoes.2]
    exact h.goOn hthread hpoint rfl h.state hthread rfl
  | errorCheck =>
    rw [hpoint] at hstep
    obtain rfl := Except.ok.inj hstep
    split
    · exact h.goOn hthread hpoint rfl rfl hthread rfl
    · exact h.goOn hthread hpoint rfl h.state hthread rfl
  | waitWritable =>
    rw [hpoint] at hstep
    obtain rfl := Except.ok.inj hstep
    rw [if_neg fun hwaits => hnotStart hwaits.2.1]
    split
    · exact h.goOn hthread hpoint rfl h.state hthread rfl
    · exact h.goOn hthread hpoint rfl h.state hthread rfl
  | build =>
    rw [hpoint] at hstep
    obtain rfl := Except.ok.inj hstep
    have hstream := s.buildHeader_stream input.time
    exact h.goOn hthread hpoint (congrArg IperfStream.config hstream) ((congrArg IperfStream.state hstream).trans h.state)
      ((congrArg IperfStream.sendingThread hstream).trans hthread) rfl
  | send length =>
    rw [hpoint] at hstep
    exact sendData_left h hthread hpoint rfl rfl hstep
  | retry length =>
    rw [hpoint] at hstep
    dsimp only at hstep
    rw [if_pos (.inl hnotStart)] at hstep
    obtain rfl := Except.ok.inj hstep
    exact h.goOn hthread hpoint rfl h.state hthread rfl
  | countBytes length =>
    rw [hpoint] at hstep
    obtain rfl := Except.ok.inj hstep
    exact h.goOn hthread hpoint rfl h.state hthread rfl
  | countDatagrams =>
    rw [hpoint] at hstep
    obtain rfl := Except.ok.inj hstep
    exact h.goOn hthread hpoint rfl h.state hthread rfl
  | fin =>
    rw [hpoint] at hstep
    obtain rfl := Except.ok.inj hstep
    split
    · exact h.goOn hthread hpoint rfl h.state hthread rfl
    · exact h.endThread hsteps rfl h.state rfl
  | finSend =>
    rw [hpoint] at hstep
    exact sendData_left h hthread hpoint rfl rfl hstep
  | finRetry =>
    -- a stream that is done takes no more tries
    rw [hpoint] at hstep
    dsimp only at hstep
    rw [if_pos (.inl h.state)] at hstep
    obtain rfl := Except.ok.inj hstep
    exact h.endThread hsteps rfl h.state rfl
  | finCountBytes =>
    rw [hpoint] at hstep
    obtain rfl := Except.ok.inj hstep
    exact h.goOn hthread hpoint rfl h.state hthread rfl
  | finCountDatagrams =>
    rw [hpoint] at hstep
    obtain rfl := Except.ok.inj hstep
    exact h.endThread hsteps rfl h.state rfl

theorem threadStep_left {s t : LiveStream Recorder} {input : ThreadInput} (h : Finishing s)
    (hstep : s.threadStep input = .ok t) : Finishing t ∧ t.stepsLeft < s.stepsLeft := by
  unfold threadStep at hstep
  cases hthread : s.sendingThread with
  | notStarted | ended =>
    rw [hthread] at hstep
    cases hstep
  | starting =>
    rw [hthread] at hstep
    obtain rfl := Except.ok.inj hstep
    have hsteps : s.stepsLeft = 6 := by rw [stepsLeft, hthread]
    split
    · refine ⟨⟨h.role, h.state, SendingThread.noConfusion⟩, ?_⟩
      rw [hsteps]
      exact Nat.le_of_ble_eq_true rfl
    · have hstop := stop_beside s input.now
      exact h.endThread (by rw [hsteps]; decide) hstop.config (hstop.state h.state) rfl
  | sending =>
    rw [hthread] at hstep
    exact loopStep_left h hthread hstep

/-! ### Every interleaving -/

/-- A thread that finds an error where it has checked its state. -/
def untilError : List Action :=
  [.event (.established 72), .event .writable, .startSend 0, acceptedStep, acceptedStep, .event .sendDataError, acceptedStep]

/-- The thread goes on to the FIN, with a poll and `Stop` on the way. -/
def untilEnded : List Action :=
  [acceptedStep, .snapshotReport 1000, acceptedStep, acceptedStep, .finishReport 1000, acceptedStep, .stop 1000]

end LiveStream

end BatsIperf
