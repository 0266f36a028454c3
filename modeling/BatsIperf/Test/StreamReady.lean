import BatsIperf.Test.ClientLoop

/-!
# The loop that waits for the streams

`RunTest` waits until `IsStreamReady` holds. The function asks the connections and the number of the streams only, and stores its answer as the ready flag wherever all streams are connected, so the interval loop may be entered before the ready message was handled. It is entered as well when the user interrupts.
-/

namespace BatsIperf

namespace IperfTest

/-! ### The ready flag -/

/-- The ready message sets the flag, and no other message touches it. -/
theorem handleControlMessage_isReadyReceived {test next : IperfTest} {bytes : Octets} {clock : Nat → UInt64}
    {streamId : Nat} {sent : List Octets} (h : test.handleControlMessage bytes clock streamId = .ok (next, sent)) :
    next.isReadyReceived = true ↔ test.isReadyReceived = true ∨ actionCode bytes = 5 := by
  have hkept (hcode : actionCode bytes ≠ 5) (hflag : next.isReadyReceived = test.isReadyReceived) :
      next.isReadyReceived = true ↔ test.isReadyReceived = true ∨ actionCode bytes = 5 := by
    rw [hflag]
    exact (or_iff_left hcode).symm
  cases handleControlMessage_handled h with
  | ack hcode hacked =>
    apply hkept (by rw [hcode]; decide)
    rcases handleAckMessage_cases hacked with ⟨_, _, rfl, _⟩ | ⟨_, rfl⟩ | ⟨_, _, rfl⟩ <;> rfl
  | summary _ hcode | parameters _ hcode => exact hkept (by rw [hcode]; decide) rfl
  | ready hcode hready =>
    refine iff_of_true ?_ (.inr hcode)
    rcases handleReadyMessage_cases hready with ⟨_, _, rfl, _⟩ | ⟨_, rfl⟩ <;> rfl
  | done hcode =>
    have hother : actionCode bytes ≠ 5 := by
      rcases hcode with hcode | hcode <;> rw [hcode] <;> decide
    exact hkept hother rfl
  | ignored hcode => exact hkept hcode.2.2.2 rfl

def AllConnected (test : IperfTest) : Prop := ∀ stream ∈ test.testStreams, stream.isConnected

def Complete (test : IperfTest) : Prop := test.testConfig.numStreams = test.testStreams.length

theorem isStreamReady_flag (test : IperfTest) (hconnected : test.AllConnected) :
    test.isStreamReady.2.isReadyReceived = true ↔ test.Complete := by
  have hall : test.testStreams.all IperfStream.isConnected = true := List.all_eq_true.mpr hconnected
  unfold isStreamReady Complete
  rw [if_pos hall]
  dsimp only
  rw [decide_eq_true_eq]
  omega

theorem isStreamReady_unconnected (test : IperfTest) (hconnected : ¬ test.AllConnected) :
    test.isStreamReady.2.isReadyReceived = test.isReadyReceived := by
  have hall : ¬ test.testStreams.all IperfStream.isConnected = true := fun hall => hconnected (List.all_eq_true.mp hall)
  unfold isStreamReady
  rw [if_neg hall]

end IperfTest

namespace ClientRun

def HandlesReady (_ : ClientRun) : Action → Prop
  | .other (.controlMessage bytes _ _) => actionCode bytes = 5
  | _ => False

instance (s : ClientRun) : (a : Action) → Decidable (HandlesReady s a)
  | .other (.controlMessage bytes _ _) => inferInstanceAs (Decidable (actionCode bytes = 5))
  | .main _ | .signal _ | .signalCallback _ | .other .ctrlFailed | .other .ctrlEstablished | .other (.ctrlClosed _)
  | .other (.accept ..) | .other (.streamEvent ..) | .other (.streamThread ..) | .other (.streamActivity ..)
  | .other .pollReady | .other (.tick _) | .other (.onSentFinished _) | .other .storeState | .other (.stop _) => isFalse id

/-- The main thread is still in the loop of `RunTest`. -/
def isWaiting : ClientPoint → Bool
  | .waitReady _ => true
  | _ => false

/-- The main thread waits for the ready message: `IsStreamReady` answers with it and leaves its flag alone, and no pass enters or is one of the interval loop before it. -/
structure WaitsForReady (handled : Prop) (s : ClientRun) : Prop where
  returns : s.test.isStreamReady.1 = true ↔ handled ∧ s.test.AllConnected ∧ s.test.Complete
  leaves : s.test.isStreamReady.2.isReadyReceived = s.test.isReadyReceived
  enters : ∀ now t, machine.step s (.main now) = some t → t.point = .interval → handled
  counts : ∀ now t, machine.step s (.main now) = some t → s.point = .interval → handled

/-- Where all streams are connected, the ready message was handled if and only if their number is the configured one, and an interrupt finds the waiting loop only behind the message. -/
structure ReadyOnTime (handled : Prop) (s : ClientRun) : Prop where
  complete : s.test.AllConnected → (handled ↔ s.test.Complete)
  interrupted : isWaiting s.point = true → s.isInterrupted = true → handled

/-- The flag tells whether the ready message was handled, and the waiting loop is left behind it only. -/
structure FlagExact (handled : Prop) (s : ClientRun) : Prop where
  flag : s.test.isReadyReceived = true ↔ handled
  loop : s.point = .interval → handled

variable {handled : Prop} {s t : ClientRun}

theorem enters_of_waiting {timeoutCnt : Nat} (hpoint : s.point = .waitReady timeoutCnt)
    (hgoes : s.test.isStreamReady.1 = true ∨ s.isInterrupted = true) (now : UInt64) :
    ∃ t, machine.step s (.main now) = some t ∧ t.point = .interval := by
  refine ⟨{ s with test := s.test.isStreamReady.2, point := .interval }, ?_, rfl⟩
  show s.mainStep now = _
  rw [mainStep, hpoint]
  exact congrArg some (if_pos hgoes)

theorem waitsForReady_iff (h : FlagExact handled s) : WaitsForReady handled s ↔ ReadyOnTime handled s := by
  constructor
  · intro hwaits
    constructor
    case complete =>
      intro hconnected
      rw [← h.flag, ← hwaits.leaves]
      exact s.test.isStreamReady_flag hconnected
    case interrupted =>
      intro hwaiting hsigint
      cases hpoint : s.point with
      | waitReady timeoutCnt =>
        obtain ⟨t, hstep, hentered⟩ := enters_of_waiting hpoint (.inr hsigint) 0
        exact hwaits.enters 0 t hstep hentered
      | _ =>
        rw [hpoint] at hwaiting
        exact absurd hwaiting Bool.false_ne_true
  · intro htime
    have hreturns : s.test.isStreamReady.1 = true ↔ handled ∧ s.test.AllConnected ∧ s.test.Complete := by
      rw [IperfTest.isStreamReady_iff]
      constructor
      · rintro ⟨hconnected, hcomplete⟩
        exact ⟨(htime.complete hconnected).mpr hcomplete, hconnected, hcomplete⟩
      · exact And.right
    refine ⟨hreturns, ?_, ?_, fun now t _ hpoint => h.loop hpoint⟩
    case refine_1 =>
      by_cases hconnected : s.test.AllConnected
      · rw [Bool.eq_iff_iff, s.test.isStreamReady_flag hconnected, h.flag]
        exact (htime.complete hconnected).symm
      · exact s.test.isStreamReady_unconnected hconnected
    case refine_2 =>
      intro now t hstep hentered
      cases mainStep_move hstep with
      | enters hpoint hgoes =>
        rcases hgoes with hready | hsigint
        · exact (hreturns.mp hready).1
        · exact htime.interrupted (by rw [hpoint]; rfl) hsigint
      | polls hpoint => exact h.loop hpoint
      | _ => cases hentered

theorem FlagExact.of_same {a : Action} (h : FlagExact handled s) (hquiet : ¬ HandlesReady s a)
    (hflag : t.test.isReadyReceived = s.test.isReadyReceived) (hloop : t.point = .interval → handled) :
    FlagExact (handled ∨ HandlesReady s a) t where
  flag := by
    rw [hflag, h.flag]
    exact (or_iff_left hquiet).symm
  loop hpoint := .inl (hloop hpoint)

theorem stop_flag (test : IperfTest) (now : UInt64) : (test.stop now).isReadyReceived = test.isReadyReceived := by
  rw [IperfTest.stop_eq]
  split <;> rfl

theorem StopMove.flag {place : StopPoint} {now : UInt64} {result : ClientRun × StopPoint} (h : StopMove s now place result) :
    result.1.test.isReadyReceived = s.test.isReadyReceived := by
  cases h with
  | late | first | signals => rfl
  | stops => exact stop_flag s.test now

theorem outside_flag {run next : TestRun} {action : TestRun.Action} (ha : isOutside action = true)
    (h : TestRun.machine.step run action = some next) :
    next.test.isReadyReceived = true ↔ run.test.isReadyReceived = true ∨
      HandlesReady { test := run.test } (.other action) := by
  have hkept (hquiet : ¬ HandlesReady { test := run.test } (.other action))
      (hflag : next.test.isReadyReceived = run.test.isReadyReceived) : next.test.isReadyReceived = true ↔
        run.test.isReadyReceived = true ∨ HandlesReady { test := run.test } (.other action) := by
    rw [hflag]
    exact (or_iff_left hquiet).symm
  cases action with
  | controlMessage bytes clock streamId =>
    obtain ⟨⟨test, sent⟩, hhandle, rfl⟩ := Option.map_eq_some_iff.mp h
    exact IperfTest.handleControlMessage_isReadyReceived (Fault.toOption_eq_some.mp hhandle)
  | ctrlFailed =>
    obtain rfl := Option.some.inj h
    exact hkept id rfl
  | ctrlEstablished =>
    obtain ⟨⟨test, sent⟩, hsend, rfl⟩ := Option.map_eq_some_iff.mp h
    obtain ⟨bytes, _, hsend⟩ := Fault.bind_eq_ok.mp (Fault.toOption_eq_some.mp hsend)
    obtain ⟨_, _, hsend⟩ := Fault.bind_eq_ok.mp hsend
    obtain ⟨rfl, _⟩ := Prod.mk.inj (Fault.pure_eq_ok.mp hsend)
    exact hkept id rfl
  | ctrlClosed now =>
    obtain rfl := Option.some.inj h
    exact hkept id (stop_flag _ now)
  | accept streamId idealBufferLength =>
    obtain ⟨⟨test, sent⟩, hlisten, rfl⟩ := Option.map_eq_some_iff.mp h
    obtain ⟨⟨stream, rfl⟩, _⟩ := IperfTest.dataListenCallback_inv (Fault.toOption_eq_some.mp hlisten)
    exact hkept id rfl
  | streamEvent | streamThread | streamActivity =>
    obtain ⟨test, htest, rfl⟩ := Option.map_eq_some_iff.mp h
    obtain ⟨stream, changed, _, _, rfl⟩ := Session.onStream_inv htest
    exact hkept id rfl
  | pollReady | tick | onSentFinished | storeState | stop => exact absurd ha Bool.false_ne_true

theorem flagExact_main {now : UInt64} (h : FlagExact handled s) (hwaits : WaitsForReady handled s)
    (hstep : s.mainStep now = some t) : FlagExact (handled ∨ HandlesReady s (.main now)) t := by
  have henters := hwaits.enters now t hstep
  cases mainStep_move hstep with
  | enters | waits | timesOut => exact h.of_same id hwaits.leaves henters
  | interrupted | finishes | sends | serializes | sent | stores | skips | counts | leaves =>
    exact h.of_same id rfl henters
  | polls _ hpoll =>
    refine h.of_same id ?_ henters
    rw [(IperfTest.testFinishState_ticked hpoll).rest]
  | stops _ hbusy => exact h.of_same id (stopAll_move s now hbusy).flag henters

theorem flagExact_step {a : Action} (h : FlagExact handled s) (hwaits : WaitsForReady handled s)
    (hstep : machine.step s a = some t) : FlagExact (handled ∨ HandlesReady s a) t := by
  cases a with
  | main now => exact flagExact_main h hwaits hstep
  | signal sig =>
    obtain ⟨_, hstep⟩ := Option.ite_none_right_eq_some.mp hstep
    obtain rfl := Option.some.inj hstep
    exact h.of_same id rfl h.loop
  | signalCallback now =>
    obtain ⟨hbusy, hstep⟩ := Option.ite_none_left_eq_some.mp hstep
    obtain rfl := Option.some.inj hstep
    have hmove := stopAll_move s now hbusy
    exact h.of_same id hmove.flag fun hpoint => h.loop (hmove.point.symm.trans hpoint)
  | other action =>
    obtain ⟨houtside, _⟩ := Option.ite_none_right_eq_some.mp hstep
    obtain ⟨run, hrun, rfl⟩ := other_inv hstep
    have hflag := outside_flag houtside hrun
    constructor
    · rw [hflag, ← h.flag]
      exact or_congr_right (by cases action <;> rfl)
    · exact fun hpoint => .inl (h.loop hpoint)

/-- The main thread waits for the ready message throughout a run exactly where the message is handled on time throughout the run. -/
theorem waits_for_ready_iff (config : TestConfig) (testId : UInt32) (acts : List Action) :
    machine.Throughout HandlesReady WaitsForReady False (start config testId) acts ↔
      machine.Throughout HandlesReady ReadyOnTime False (start config testId) acts := by
  have hstart : FlagExact False (start config testId) :=
    ⟨iff_of_false Bool.false_ne_true id, fun hno => by cases hno⟩
  have hstep {handled : Prop} {s t : ClientRun} {a : Action} (hexact : FlagExact handled s)
      (hwaits : WaitsForReady handled s) (h : machine.step s a = some t) : FlagExact (handled ∨ HandlesReady s a) t :=
    flagExact_step hexact hwaits h
  exact Machine.throughout_iff waitsForReady_iff hstep hstart

/-- The connection of the only stream is established, and no ready message has come. -/
def untilConnected : List Action :=
  [.other .ctrlEstablished, .other (.controlMessage TestRun.ackMessage (fun _ => 0) 1),
    .other (.streamEvent 0 (.established 1000))]

/-- The waiting loop is left without a ready message, its flag is set by the call, and the test clock runs. -/
theorem ready_ignored_counterexample :
    ∃ s t, machine.run (start TestRun.lonelyConfig 7) untilConnected = some s ∧
      ¬ machine.Occurs HandlesReady (start TestRun.lonelyConfig 7) untilConnected ∧
      s.test.isStreamReady.1 = true ∧ s.test.isReadyReceived = false ∧
      s.test.isStreamReady.2.isReadyReceived = true ∧ machine.run s [.main 0, .main 1000] = some t ∧
      t.test.testStreams.map (fun stream => stream.report.senderReport.snapshotCnt) = [1] := by
  have hquiet : ¬ machine.Occurs HandlesReady (start TestRun.lonelyConfig 7) untilConnected := by decide +kernel
  have hrun : (machine.run (start TestRun.lonelyConfig 7) untilConnected).bind (fun s =>
      (machine.run s [.main 0, .main 1000]).map fun t =>
        ((s.test.isStreamReady.1, s.test.isReadyReceived, s.test.isStreamReady.2.isReadyReceived),
          t.test.testStreams.map fun stream => stream.report.senderReport.snapshotCnt))
      = some ((true, false, true), [1]) := by
    decide +kernel
  obtain ⟨s, hs, hrun⟩ := Option.bind_eq_some_iff.mp hrun
  obtain ⟨t, ht, hrun⟩ := Option.map_eq_some_iff.mp hrun
  simp only [Prod.mk.injEq] at hrun
  obtain ⟨⟨hreturns, hbefore, hafter⟩, hcounted⟩ := hrun
  exact ⟨s, t, hs, hquiet, hreturns, hbefore, hafter, ht, hcounted⟩

end ClientRun

end BatsIperf
