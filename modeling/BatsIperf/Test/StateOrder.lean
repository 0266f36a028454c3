import BatsIperf.Test.Session

/-!
# The order of the states of a test

The comment on the states of a sender draws a line from `TEST_NONE` to `TEST_DONE`. Here one test is driven by everything that can reach it, in any order: control messages, events of the control channel and of the data streams, the calls of the main loop and `Stop`. The main thread stores `TEST_EXCHANGE_REPORTS` after it has sent the summary, so this store is a step of its own.
-/

namespace BatsIperf

/-- The next state on the line, where there is one. -/
def TestState.next : TestState → Option TestState
  | .testNone => some .testExchangeParameters
  | .testExchangeParameters => some .testStart
  | .testStart => some .testExchangeReports
  | .testExchangeReports => some .testDone
  | .testDone => none

/-- A step along the line: the state stays, goes on to the next one or jumps to the end. -/
def TestState.MovesForward (before after : TestState) : Prop :=
  after = before ∨ before.next = some after ∨ after = .testDone

instance (before after : TestState) : Decidable (before.MovesForward after) := by
  unfold TestState.MovesForward
  infer_instance

theorem TestState.eq_done_of_movesForward {after : TestState} (h : TestState.testDone.MovesForward after) :
    after = .testDone := by
  rcases h with h | h | h
  · exact h
  · exact absurd h (by simp [TestState.next])
  · exact h

/-- A test and whether its main thread stands between the send of the summary and the store of the state. -/
structure TestRun where
  test : IperfTest
  isSummarySent : Bool := false

namespace TestRun

inductive Action
  | controlMessage (bytes : Octets) (clock : Nat → UInt64) (streamId : Nat)
  | ctrlFailed
  | ctrlEstablished
  | ctrlClosed (now : UInt64)
  | accept (streamId : Nat) (idealBufferLength : Int)
  | streamEvent (i : Nat) (event : ConnEvent)
  | streamThread (i : Nat) (now : UInt64)
  | streamActivity (i : Nat) (activity : IperfStream.Activity)
  | pollReady
  | tick (now : UInt64)
  | onSentFinished (now : UInt64)
  | storeState
  | stop (now : UInt64)

/-- A sending test before `Start`. -/
def start (config : TestConfig) (testId : UInt32) : TestRun where
  test := { testConfig := { config with role := .roleSender }, testId := testId }

/-- `OnSentFinished` up to the send of the summary. -/
def onSentFinished (s : TestRun) (now : UInt64) : Except Fault TestRun :=
  if s.test.testConfig.role = .roleNone then .ok s
  else if s.test.ctrlChn then do
    let _ ← (s.test.finishReports now).testSummary
    return { test := s.test.finishReports now, isSummarySent := true }
  else .ok { s with test := s.test.finishReports now }

def step (s : TestRun) : Action → Option TestRun
  | .controlMessage bytes clock streamId =>
    (s.test.handleControlMessage bytes clock streamId).toOption.map fun result => { s with test := result.1 }
  | .ctrlFailed => some s
  | .ctrlEstablished => s.test.ctrlChannelEstablished.toOption.map fun result => { s with test := result.1 }
  | .ctrlClosed now => some { s with test := s.test.ctrlChannelClosed now }
  | .accept streamId idealBufferLength =>
    (s.test.dataListenCallback streamId idealBufferLength).toOption.map fun result => { s with test := result.1 }
  | .streamEvent i event =>
    (Session.onStream s.test i fun stream => stream.connectionCallback event).map fun test => { s with test := test }
  | .streamThread i now => (Session.onStream s.test i (Session.threadStep now)).map fun test => { s with test := test }
  | .streamActivity i activity =>
    (Session.onStream s.test i fun stream => .ok (stream.act activity)).map fun test => { s with test := test }
  | .pollReady => some { s with test := s.test.isStreamReady.2 }
  | .tick now => (s.test.testFinishState now).toOption.map fun result => { s with test := result.2 }
  | .onSentFinished now => (s.onSentFinished now).toOption
  | .storeState =>
    if s.isSummarySent then some { test := { s.test with state := .testExchangeReports }, isSummarySent := false }
    else none
  | .stop now => some { s with test := s.test.stop now }

def machine : Machine TestRun Action where
  step := step

/-- The three writes of the state that do not look at its old value come where the line has them: the parameters are sent from `TEST_NONE`, the summary is reported from `TEST_START` (or once more), and nothing that is answered with an ack arrives before the parameters are sent. -/
def InOrder (s : TestRun) : Action → Prop
  | .ctrlEstablished => s.test.state = .testNone
  | .storeState => s.test.state = .testStart ∨ s.test.state = .testExchangeReports
  | .controlMessage bytes _ _ => s.test.state = .testNone → actionCode bytes ≠ 2 ∧ actionCode bytes ≠ 3
  | _ => True

instance decidableInOrder : ∀ s a, Decidable (InOrder s a)
  | s, .ctrlEstablished => inferInstanceAs (Decidable (s.test.state = .testNone))
  | s, .storeState => inferInstanceAs (Decidable (s.test.state = .testStart ∨ s.test.state = .testExchangeReports))
  | s, .controlMessage bytes _ _ =>
    inferInstanceAs (Decidable (s.test.state = .testNone → actionCode bytes ≠ 2 ∧ actionCode bytes ≠ 3))
  | _, .ctrlFailed | _, .ctrlClosed _ | _, .accept _ _ | _, .streamEvent _ _ | _, .streamThread _ _
  | _, .streamActivity _ _ | _, .pollReady | _, .tick _ | _, .onSentFinished _ | _, .stop _ => isTrue trivial

/-! ### What each step does to the state -/

theorem movesForward_refl (state : TestState) : state.MovesForward state := .inl rfl

theorem movesForward_done (state : TestState) : state.MovesForward .testDone := .inr (.inr rfl)

theorem stateAfterAck_movesForward {state : TestState} (h : state ≠ .testNone) :
    state.MovesForward (IperfTest.stateAfterAck state) := by
  cases state with
  | testNone => exact absurd rfl h
  | testStart => exact movesForward_done _
  | testExchangeParameters | testExchangeReports | testDone => exact movesForward_refl _

theorem handleAckMessage_movesForward {test next : IperfTest} {clock : Nat → UInt64} {streamId : Nat}
    (h : test.handleAckMessage clock streamId = .ok next) : test.state.MovesForward next.state := by
  rcases IperfTest.handleAckMessage_cases h with ⟨hstate, opened, rfl, _⟩ | ⟨_, rfl⟩ | ⟨_, _, rfl⟩
  · rw [hstate]
    exact .inr (.inl rfl)
  · exact movesForward_done _
  · exact movesForward_refl _

theorem handleReadyMessage_state {test next : IperfTest} {now : UInt64} (h : test.handleReadyMessage now = .ok next) :
    next.state = test.state := by
  rcases IperfTest.handleReadyMessage_cases h with ⟨_, streams, rfl, _⟩ | ⟨_, rfl⟩ <;> rfl

theorem handleControlMessage_movesForward {test next : IperfTest} {bytes : Octets} {clock : Nat → UInt64} {streamId : Nat}
    {sent : List Octets} (hanswered : test.state = .testNone → actionCode bytes ≠ 2 ∧ actionCode bytes ≠ 3)
    (h : test.handleControlMessage bytes clock streamId = .ok (next, sent)) : test.state.MovesForward next.state := by
  cases IperfTest.handleControlMessage_handled h with
  | ack _ hacked =>
    have hmoves := handleAckMessage_movesForward hacked
    exact hmoves
  | summary _ hcode =>
    have hstate : test.state ≠ .testNone := fun hnone => (hanswered hnone).2 hcode
    exact stateAfterAck_movesForward hstate
  | parameters _ hcode =>
    have hstate : test.state ≠ .testNone := fun hnone => (hanswered hnone).1 hcode
    exact stateAfterAck_movesForward hstate
  | ready _ hready =>
    rw [handleReadyMessage_state hready]
    exact movesForward_refl _
  | done | ignored => exact movesForward_refl _

theorem stop_movesForward (test : IperfTest) (now : UInt64) : test.state.MovesForward (test.stop now).state := by
  rw [IperfTest.stop_eq]
  split
  · exact movesForward_refl _
  · exact movesForward_done _

inductive Moved (test : IperfTest) : Action → IperfTest → Prop
  | message {bytes : Octets} {clock : Nat → UInt64} {streamId : Nat} {next : IperfTest} {sent : List Octets}
      (h : test.handleControlMessage bytes clock streamId = .ok (next, sent)) :
    Moved test (.controlMessage bytes clock streamId) next
  | parametersSent : Moved test .ctrlEstablished { test with ctrlChn := true, state := .testExchangeParameters }
  | summaryStored : Moved test .storeState { test with state := .testExchangeReports }
  | polled (flag : Bool) : Moved test .pollReady { test with isReadyReceived := flag }
  | ticked {now : UInt64} {done : Bool} {next : IperfTest} (h : test.testFinishState now = .ok (done, next)) :
    Moved test (.tick now) next
  | closed (now : UInt64) : Moved test (.ctrlClosed now) ({ test with ctrlChn := false }.stop now)
  | stopped (now : UInt64) : Moved test (.stop now) (test.stop now)
  | streams {a : Action} (streams : List IperfStream) : Moved test a { test with testStreams := streams }

theorem step_moved {s t : TestRun} {a : Action} (h : machine.step s a = some t) : Moved s.test a t.test := by
  cases a with
  | controlMessage bytes clock streamId =>
    obtain ⟨⟨next, sent⟩, hhandle, rfl⟩ := Option.map_eq_some_iff.mp h
    exact .message (Fault.toOption_eq_some.mp hhandle)
  | ctrlFailed =>
    obtain rfl := Option.some.inj h
    exact .streams s.test.testStreams
  | ctrlEstablished =>
    obtain ⟨⟨next, sent⟩, hsend, rfl⟩ := Option.map_eq_some_iff.mp h
    obtain ⟨bytes, _, hsend⟩ := Fault.bind_eq_ok.mp (Fault.toOption_eq_some.mp hsend)
    obtain ⟨_, _, hsend⟩ := Fault.bind_eq_ok.mp hsend
    obtain ⟨rfl, _⟩ := Prod.mk.inj (Fault.pure_eq_ok.mp hsend)
    exact .parametersSent
  | ctrlClosed now =>
    obtain rfl := Option.some.inj h
    exact .closed now
  | accept streamId idealBufferLength =>
    obtain ⟨⟨next, sent⟩, hlisten, rfl⟩ := Option.map_eq_some_iff.mp h
    obtain ⟨⟨stream, rfl⟩, _⟩ := IperfTest.dataListenCallback_inv (Fault.toOption_eq_some.mp hlisten)
    exact .streams _
  | streamEvent | streamThread | streamActivity =>
    obtain ⟨next, hnext, rfl⟩ := Option.map_eq_some_iff.mp h
    obtain ⟨stream, changed, _, _, rfl⟩ := Session.onStream_inv hnext
    exact .streams _
  | pollReady =>
    obtain rfl := Option.some.inj h
    obtain ⟨flag, hflag⟩ := s.test.isStreamReady_rest
    show Moved s.test .pollReady s.test.isStreamReady.2
    rw [hflag]
    exact .polled flag
  | tick now =>
    obtain ⟨⟨done, next⟩, htick, rfl⟩ := Option.map_eq_some_iff.mp h
    exact .ticked (Fault.toOption_eq_some.mp htick)
  | onSentFinished now =>
    have hsent := Fault.toOption_eq_some.mp h
    unfold onSentFinished at hsent
    split at hsent
    · obtain rfl := Except.ok.inj hsent
      exact .streams s.test.testStreams
    · split at hsent
      · obtain ⟨_, _, hsent⟩ := Fault.bind_eq_ok.mp hsent
        obtain rfl := Fault.pure_eq_ok.mp hsent
        exact .streams _
      · obtain rfl := Except.ok.inj hsent
        exact .streams _
  | storeState =>
    simp only [machine, step, Option.ite_none_right_eq_some, Option.some.injEq] at h
    obtain ⟨_, rfl⟩ := h
    exact .summaryStored
  | stop now =>
    obtain rfl := Option.some.inj h
    exact .stopped now

theorem step_movesForward {s t : TestRun} {a : Action} (horder : InOrder s a) (h : machine.step s a = some t) :
    s.test.state.MovesForward t.test.state := by
  have hmoved := step_moved h
  generalize t.test = next at hmoved ⊢
  cases hmoved with
  | message hhandle => exact handleControlMessage_movesForward horder hhandle
  | parametersSent =>
    have hnone : s.test.state = .testNone := horder
    rw [hnone]
    exact .inr (.inl rfl)
  | summaryStored =>
    rcases horder with hstate | hstate
    · rw [hstate]
      exact .inr (.inl rfl)
    · rw [hstate]
      exact movesForward_refl _
  | polled | streams => exact movesForward_refl _
  | ticked htick =>
    rcases (IperfTest.testFinishState_ticked htick).state with hstate | hstate
    · rw [hstate]
      exact movesForward_refl _
    · rw [hstate]
      exact movesForward_done _
  | closed now => exact stop_movesForward { s.test with ctrlChn := false } now
  | stopped now => exact stop_movesForward s.test now

theorem run_done {s t : TestRun} {acts : List Action} (horder : machine.Respects InOrder s acts)
    (hdone : s.test.state = .testDone) (hrun : machine.run s acts = some t) : t.test.state = .testDone := by
  have hkeep : ∀ (s : TestRun) (a : Action) (t : TestRun), s.test.state = .testDone → InOrder s a →
      machine.step s a = some t → t.test.state = .testDone := by
    intro s a t hdone ha hstep
    have hmoves := step_movesForward ha hstep
    rw [hdone] at hmoves
    exact TestState.eq_done_of_movesForward hmoves
  exact Machine.run_invariant hkeep hdone horder hrun

/-- In a run of steps in order every step moves the state along the line, and a test that is done stays done. -/
theorem state_moves_forward {config : TestConfig} {testId : UInt32} {first rest : List Action} {s t : TestRun}
    (horder : machine.Respects InOrder (start config testId) (first ++ rest))
    (hfirst : machine.run (start config testId) first = some s) (hrest : machine.run s rest = some t) :
    machine.Respects (fun before a => ∀ after, machine.step before a = some after →
        before.test.state.MovesForward after.test.state) (start config testId) (first ++ rest) ∧
      (s.test.state = .testDone → t.test.state = .testDone) := by
  constructor
  · exact horder.imp fun before a ha after hstep => step_movesForward ha hstep
  · intro hdone
    exact run_done ((Machine.respects_append horder).2 s hfirst) hdone hrest

/-- One stream over BRTP whose connection never comes up. -/
def lonelyConfig : TestConfig := { protocol := 1 }

/-- The ack of the parameters, as the receiver sends it. -/
def ackMessage : Octets := (start lonelyConfig 7).test.emptyMessage 4

def readyMessage : Octets := (start lonelyConfig 7).test.emptyMessage 5

/-- Up to the end of the sending: the thread finds its stream unconnected and stops it, the next tick finds no stream alive. -/
def untilDead : List Action :=
  [.ctrlEstablished, .controlMessage ackMessage (fun _ => 0) 1, .controlMessage readyMessage (fun _ => 0) 1,
    .streamThread 0 0, .tick 0]

theorem state_moves_forward_dead :
    ∃ s t, machine.run (start lonelyConfig 7) untilDead = some s ∧ machine.run s [.stop 0] = some t ∧
      machine.Respects (fun before a => ∀ after, machine.step before a = some after →
        before.test.state.MovesForward after.test.state) (start lonelyConfig 7) (untilDead ++ [.stop 0]) ∧
      s.test.state = .testDone ∧ t.test.state = .testDone := by
  have hrun : (machine.run (start lonelyConfig 7) untilDead).bind (fun s =>
      (machine.run s [.stop 0]).map fun t => (s.test.state, t.test.state)) = some (.testDone, .testDone) := by
    decide +kernel
  obtain ⟨s, hs, hrun⟩ := Option.bind_eq_some_iff.mp hrun
  obtain ⟨t, ht, hrun⟩ := Option.map_eq_some_iff.mp hrun
  obtain ⟨hdone, _⟩ := Prod.mk.inj hrun
  have hforward := state_moves_forward (show machine.Respects InOrder (start lonelyConfig 7) (untilDead ++ [.stop 0]) by
    decide +kernel) hs ht
  exact ⟨s, t, hs, ht, hforward.1, hdone, hforward.2 hdone⟩

/-- With every stream dead the test is done, and `OnSentFinished` takes it back to exchanging reports. -/
theorem state_moves_back_counterexample :
    ∃ s t, machine.run (start lonelyConfig 7) untilDead = some s ∧
      machine.run s [.onSentFinished 0, .storeState] = some t ∧ s.test.state = .testDone ∧
      t.test.state = .testExchangeReports := by
  have hrun : (machine.run (start lonelyConfig 7) untilDead).bind (fun s =>
      (machine.run s [.onSentFinished 0, .storeState]).map fun t => (s.test.state, t.test.state))
      = some (.testDone, .testExchangeReports) := by decide +kernel
  obtain ⟨s, hs, hrun⟩ := Option.bind_eq_some_iff.mp hrun
  obtain ⟨t, ht, hrun⟩ := Option.map_eq_some_iff.mp hrun
  obtain ⟨hdone, hreports⟩ := Prod.mk.inj hrun
  exact ⟨s, t, hs, ht, hdone, hreports⟩

end TestRun

end BatsIperf
