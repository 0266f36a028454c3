import BatsIperf.Foundation.Pointwise
import BatsIperf.Test.IperfTest

/-!
# What the handlers of a test can do

One lemma for each handler says what a result of it looks like. Everything about runs of a test is derived from these and from the forms of its messages.
-/

namespace BatsIperf

open Octets

namespace IperfTest

/-! ### What a message is for the end that handles it -/

theorem handleControlMessage_decode {header : IperfControlData} {bytes body : Octets}
    (hdecode : IperfControlData.decode bytes = some (header, body)) (test : IperfTest) (clock : Nat → UInt64)
    (streamId : Nat) : test.handleControlMessage bytes clock streamId = (do
      Fault.require .failedAssert (header.testId = test.testId)
      { test with ctrlChn := true }.handleAction header.actionCode bytes clock streamId) := by
  have hfields := IperfControlData.fields_of_decode hdecode
  simp only [handleControlMessage, hfields.testId, hfields.actionCode, Fault.need_some, Fault.ok_bind]

theorem handleControlMessage_encode {test : IperfTest} {header : IperfControlData} (hid : header.testId = test.testId)
    (body : Octets) (clock : Nat → UInt64) (streamId : Nat) :
    test.handleControlMessage (header.encode ++ body) clock streamId
      = { test with ctrlChn := true }.handleAction header.actionCode (header.encode ++ body) clock streamId := by
  rw [handleControlMessage_decode (IperfControlData.decode_encode header body), Fault.require_of_true hid, Fault.ok_bind]

theorem message_eq {test : IperfTest} (hid : test.testId ≠ 0) {size : Nat} {body : Octets}
    (hfit : 32 + body.length ≤ size) (actionCode numOfStreams : UInt8) :
    test.message size actionCode numOfStreams body
      = .ok ((test.controlHeader actionCode numOfStreams).encode
          ++ (body ++ List.replicate (size - (32 + body.length)) 0)) := by
  have hlength : ((test.controlHeader actionCode numOfStreams).encode ++ body).length = 32 + body.length := by
    rw [List.length_append, IperfControlData.length_encode]
  rw [message, Fault.require_of_true hid, Fault.ok_bind, fill_eq (hlength.trans_le hfit), hlength, List.append_assoc,
    Fault.need_some]

theorem message_overflow {test : IperfTest} {size : Nat} {body : Octets} (hlong : size < 32 + body.length)
    (actionCode numOfStreams : UInt8) (bytes : Octets) : test.message size actionCode numOfStreams body ≠ .ok bytes := by
  intro h
  obtain ⟨_, _, hneed⟩ := Fault.bind_eq_ok.mp h
  have hfill := Fault.need_eq_ok.mp hneed
  rw [fill_eq_none] at hfill
  · exact absurd hfill (by simp)
  · rw [List.length_append, IperfControlData.length_encode]
    exact hlong

def emptyMessage (test : IperfTest) (actionCode : UInt8) : Octets :=
  (test.controlHeader actionCode 0).encode ++ List.replicate 268 0

theorem sendAck_eq {test : IperfTest} (hid : test.testId ≠ 0) (hctrl : test.ctrlChn = true) :
    test.sendAck = .ok ({ test with state := stateAfterAck test.state }, [test.emptyMessage 4]) := by
  rw [sendAck, message_eq hid (by decide), Fault.ok_bind, Fault.require_of_true hctrl, Fault.ok_bind]
  rfl

theorem sendTestParameters_eq {test : IperfTest} (hid : test.testId ≠ 0) (hctrl : test.ctrlChn = true) :
    test.sendTestParameters = .ok ({ test with state := .testExchangeParameters },
      [(test.controlHeader 2 (.ofNat test.testStreams.length)).encode
        ++ (test.testConfig.serialize ++ List.replicate 256 0)]) := by
  have hfit : 32 + test.testConfig.serialize.length ≤ 300 := by
    rw [TestConfig.length_serialize]
    omega
  rw [sendTestParameters, message_eq hid hfit, Fault.ok_bind, Fault.require_of_true hctrl, Fault.ok_bind,
    TestConfig.length_serialize]
  rfl

/-! ### What a handler can do -/

theorem message_actionCode {test : IperfTest} {size : Nat} {code numOfStreams : UInt8} {body bytes : Octets}
    (h : test.message size code numOfStreams body = .ok bytes) : actionCode bytes = code := by
  obtain ⟨_, _, h⟩ := Fault.bind_eq_ok.mp h
  have hfill := Fault.need_eq_ok.mp h
  unfold fill at hfill
  split at hfill
  · obtain rfl := Option.some.inj hfill
    rw [List.append_assoc, actionCode_encode]
    rfl
  · exact absurd hfill (by simp)

theorem handleControlMessage_inv {test next : IperfTest} {bytes : Octets} {clock : Nat → UInt64} {streamId : Nat}
    {sent : List Octets} (h : test.handleControlMessage bytes clock streamId = .ok (next, sent)) :
    { test with ctrlChn := true }.handleAction (actionCode bytes) bytes clock streamId = .ok (next, sent) := by
  obtain ⟨_, _, h⟩ := Fault.bind_eq_ok.mp h
  obtain ⟨_, _, h⟩ := Fault.bind_eq_ok.mp h
  obtain ⟨code, hcode, h⟩ := Fault.bind_eq_ok.mp h
  rwa [actionCode, Fault.need_eq_ok.mp hcode]

theorem handleControlMessage_ack {test next : IperfTest} {bytes : Octets} {clock : Nat → UInt64} {streamId : Nat}
    {sent : List Octets} (hcode : actionCode bytes = 4)
    (h : test.handleControlMessage bytes clock streamId = .ok (next, sent)) :
    sent = [] ∧ { test with ctrlChn := true }.handleAckMessage clock streamId = .ok next := by
  have h := handleControlMessage_inv h
  rw [hcode, handleAction] at h
  obtain ⟨acked, hacked, h⟩ := Fault.bind_eq_ok.mp h
  obtain ⟨rfl, rfl⟩ := Prod.mk.inj (Fault.pure_eq_ok.mp h)
  exact ⟨rfl, hacked⟩

theorem handleControlMessage_ready {test next : IperfTest} {bytes : Octets} {clock : Nat → UInt64} {streamId : Nat}
    {sent : List Octets} (hcode : actionCode bytes = 5)
    (h : test.handleControlMessage bytes clock streamId = .ok (next, sent)) :
    sent = [] ∧ { test with ctrlChn := true }.handleReadyMessage (clock 0) = .ok next := by
  have h := handleControlMessage_inv h
  rw [hcode, handleAction] at h
  obtain ⟨ready, hready, h⟩ := Fault.bind_eq_ok.mp h
  obtain ⟨rfl, rfl⟩ := Prod.mk.inj (Fault.pure_eq_ok.mp h)
  exact ⟨rfl, hready⟩

theorem sendAck_inv {test next : IperfTest} {sent : List Octets} (h : test.sendAck = .ok (next, sent)) :
    next = { test with state := stateAfterAck test.state } ∧ ∃ bytes, sent = [bytes] ∧ actionCode bytes = 4 := by
  obtain ⟨bytes, hbytes, h⟩ := Fault.bind_eq_ok.mp h
  obtain ⟨_, _, h⟩ := Fault.bind_eq_ok.mp h
  obtain ⟨rfl, rfl⟩ := Prod.mk.inj (Fault.pure_eq_ok.mp h)
  exact ⟨rfl, bytes, rfl, message_actionCode hbytes⟩

theorem tryPrintSummary_eq (test : IperfTest) :
    ∃ streams, test.tryPrintSummary = { test with testStreams := streams } := by
  unfold tryPrintSummary
  split
  · exact ⟨_, rfl⟩
  · exact ⟨test.testStreams, rfl⟩

/-- What a handled message does to a test: parameters and summaries are answered with an ack unless the test is done. -/
inductive Handled (test : IperfTest) (clock : Nat → UInt64) (streamId : Nat) (code : UInt8) : IperfTest → List Octets → Prop
  | ack {next : IperfTest} (hcode : code = 4) (h : test.handleAckMessage clock streamId = .ok next) :
    Handled test clock streamId code next []
  | summary (streams : List IperfStream) {bytes : Octets} (hcode : code = 3) (hrunning : test.state ≠ .testDone)
      (hack : actionCode bytes = 4) :
    Handled test clock streamId code { test with state := stateAfterAck test.state, testStreams := streams } [bytes]
  | parameters (received : TestConfig) {bytes : Octets} (hcode : code = 2) (hrunning : test.state ≠ .testDone)
      (hack : actionCode bytes = 4) :
    Handled test clock streamId code
      { test with
        state := stateAfterAck test.state
        testConfig := receiverConfig test.testConfig received
        dataChnListener := some (listenConfiguration received) } [bytes]
  | ready {next : IperfTest} (hcode : code = 5) (h : test.handleReadyMessage (clock 0) = .ok next) :
    Handled test clock streamId code next []
  | done (hcode : code = 2 ∨ code = 3) (hdone : test.state = .testDone) : Handled test clock streamId code test []
  | ignored (hcode : code ≠ 2 ∧ code ≠ 3 ∧ code ≠ 4 ∧ code ≠ 5) : Handled test clock streamId code test []

theorem handleSummaryMessage_handled {test next : IperfTest} {bytes : Octets} {clock : Nat → UInt64} (streamId : Nat)
    {sent : List Octets} (h : test.handleSummaryMessage bytes (clock 0) = .ok (next, sent)) :
    Handled test clock streamId 3 next sent := by
  unfold handleSummaryMessage at h
  split at h
  · rename_i hdone
    obtain ⟨rfl, rfl⟩ := Prod.mk.inj (Except.ok.inj h)
    exact .done (.inr rfl) hdone
  · rename_i hrunning
    obtain ⟨_, _, h⟩ := Fault.bind_eq_ok.mp h
    obtain ⟨streams, _, h⟩ := Fault.bind_eq_ok.mp h
    obtain ⟨⟨acked, messages⟩, hack, h⟩ := Fault.bind_eq_ok.mp h
    obtain ⟨rfl, bytes, rfl, hbytes⟩ := sendAck_inv hack
    obtain ⟨rfl, rfl⟩ := Prod.mk.inj (Fault.pure_eq_ok.mp h)
    split
    · exact .summary streams rfl hrunning hbytes
    · obtain ⟨printed, hprinted⟩ :=
        tryPrintSummary_eq { test with state := stateAfterAck test.state, testStreams := streams }
      rw [hprinted]
      exact .summary printed rfl hrunning hbytes

theorem handleTestParameters_handled {test next : IperfTest} {body : Octets} (clock : Nat → UInt64) (streamId : Nat)
    {sent : List Octets} (h : test.handleTestParameters body = .ok (next, sent)) :
    Handled test clock streamId 2 next sent := by
  unfold handleTestParameters at h
  split at h
  · rename_i hdone
    obtain ⟨rfl, rfl⟩ := Prod.mk.inj (Except.ok.inj h)
    exact .done (.inl rfl) hdone
  · rename_i hrunning
    obtain ⟨received, _, h⟩ := Fault.bind_eq_ok.mp h
    obtain ⟨rfl, bytes, rfl, hbytes⟩ := sendAck_inv h
    exact .parameters received rfl hrunning hbytes

theorem handleControlMessage_handled {test next : IperfTest} {bytes : Octets} {clock : Nat → UInt64} {streamId : Nat}
    {sent : List Octets} (h : test.handleControlMessage bytes clock streamId = .ok (next, sent)) :
    Handled { test with ctrlChn := true } clock streamId (actionCode bytes) next sent := by
  have h := handleControlMessage_inv h
  unfold handleAction at h
  split at h
  · rename_i hcode
    obtain ⟨acked, hacked, h⟩ := Fault.bind_eq_ok.mp h
    obtain ⟨rfl, rfl⟩ := Prod.mk.inj (Fault.pure_eq_ok.mp h)
    exact .ack hcode hacked
  · rename_i hcode
    rw [hcode]
    exact handleSummaryMessage_handled streamId h
  · rename_i hcode
    rw [hcode]
    exact handleTestParameters_handled clock streamId h
  · rename_i hcode
    obtain ⟨ready, hready, h⟩ := Fault.bind_eq_ok.mp h
    obtain ⟨rfl, rfl⟩ := Prod.mk.inj (Fault.pure_eq_ok.mp h)
    exact .ready hcode hready
  · rename_i hack hsummary hparameters hready
    obtain ⟨rfl, rfl⟩ := Prod.mk.inj (Except.ok.inj h)
    exact .ignored ⟨hparameters, hsummary, hack, hready⟩

/-- An ack answers parameters and summaries, and only before the test is done. -/
structure Answers (test : IperfTest) (code : UInt8) (sent : List Octets) : Prop where
  atMostOne : sent.length ≤ 1
  isAck : ∀ message ∈ sent, actionCode message = 4
  running : sent ≠ [] → test.state ≠ .testDone
  request : sent ≠ [] → code = 2 ∨ code = 3

theorem answers_none (test : IperfTest) (code : UInt8) : Answers test code [] :=
  ⟨by simp, by simp, fun h => absurd rfl h, fun h => absurd rfl h⟩

theorem answers_ack {test : IperfTest} {bytes : Octets} {code : UInt8} (hrunning : test.state ≠ .testDone)
    (hcode : code = 2 ∨ code = 3) (hack : actionCode bytes = 4) : Answers test code [bytes] :=
  ⟨by simp, by simpa using hack, fun _ => hrunning, fun _ => hcode⟩

theorem handleControlMessage_answers {test next : IperfTest} {bytes : Octets} {clock : Nat → UInt64} {streamId : Nat}
    {sent : List Octets} (h : test.handleControlMessage bytes clock streamId = .ok (next, sent)) :
    Answers test (actionCode bytes) sent := by
  cases handleControlMessage_handled h with
  | summary _ hcode hrunning hack => exact answers_ack hrunning (.inr hcode) hack
  | parameters _ hcode hrunning hack => exact answers_ack hrunning (.inl hcode) hack
  | ack | ready | done | ignored => exact answers_none test _

theorem openStream_sendingThread {config : TestConfig} {clock : Nat → UInt64} {streamId i : Nat} {stream : IperfStream}
    (hprotocol : config.protocol ≠ 11) (h : openStream config clock streamId i = .ok stream) :
    stream.sendingThread = .notStarted := by
  obtain ⟨opened, hopened, h⟩ := Fault.bind_eq_ok.mp h
  obtain ⟨_, _, hopened⟩ := Fault.bind_eq_ok.mp hopened
  rw [if_neg hprotocol] at h
  obtain rfl := Fault.pure_eq_ok.mp hopened
  obtain rfl := Fault.pure_eq_ok.mp h
  rfl

theorem handleAckMessage_cases {test next : IperfTest} {clock : Nat → UInt64} {streamId : Nat}
    (h : test.handleAckMessage clock streamId = .ok next) :
    (test.state = .testExchangeParameters ∧ ∃ opened,
      next = { test with state := .testStart, testStreams := test.testStreams ++ opened } ∧
      List.Forall₂ (fun i stream => openStream test.testConfig clock streamId i = .ok stream)
        (List.range test.testConfig.numStreams.toNat) opened) ∨
    (test.state = .testExchangeReports ∧ next = { test with state := .testDone }) ∨
    (test.state ≠ .testExchangeParameters ∧ test.state ≠ .testExchangeReports ∧ next = test) := by
  unfold handleAckMessage at h
  split at h
  · rename_i hstate
    obtain ⟨opened, hopened, h⟩ := Fault.bind_eq_ok.mp h
    exact .inl ⟨hstate, opened, (Fault.pure_eq_ok.mp h).symm, Fault.mapM_eq_ok.mp hopened⟩
  · rename_i hstate
    exact .inr (.inl ⟨hstate, (Except.ok.inj h).symm⟩)
  all_goals
    rename_i hstate
    refine .inr (.inr ⟨?_, ?_, (Except.ok.inj h).symm⟩) <;> rw [hstate] <;> decide

theorem handleReadyMessage_cases {test next : IperfTest} {now : UInt64} (h : test.handleReadyMessage now = .ok next) :
    (test.state = .testStart ∧ ∃ streams, next = { test with isReadyReceived := true, testStreams := streams } ∧
      List.Forall₂ (fun stream started => stream.startSend now = .ok started) test.testStreams streams) ∨
    (test.state ≠ .testStart ∧ next = { test with isReadyReceived := true }) := by
  simp only [handleReadyMessage] at h
  split at h
  · rename_i hstate
    obtain ⟨streams, hstreams, h⟩ := Fault.bind_eq_ok.mp h
    exact .inl ⟨hstate, streams, (Fault.pure_eq_ok.mp h).symm, Fault.mapM_eq_ok.mp hstreams⟩
  · rename_i hstate
    exact .inr ⟨hstate, (Except.ok.inj h).symm⟩

theorem dataListenCallback_inv {test next : IperfTest} {streamId : Nat} {idealBufferLength : Int} {sent : List Octets}
    (h : test.dataListenCallback streamId idealBufferLength = .ok (next, sent)) :
    (∃ stream, next = { test with testStreams := test.testStreams ++ [stream] }) ∧
      (∀ message ∈ sent, actionCode message = 5) ∧
      (sent ≠ [] → test.testConfig.protocol ≠ 11 ∧ test.testConfig.numStreams = test.testStreams.length + 1) := by
  obtain ⟨stream, _, h⟩ := Fault.bind_eq_ok.mp h
  dsimp only at h
  split at h
  · rename_i hfull
    obtain ⟨ready, hready, h⟩ := Fault.bind_eq_ok.mp h
    obtain ⟨rfl, rfl⟩ := Prod.mk.inj (Fault.pure_eq_ok.mp h)
    refine ⟨⟨stream, rfl⟩, ?_, fun _ => ⟨hfull.1, ?_⟩⟩
    · unfold sendTestReady at hready
      split at hready
      · obtain ⟨bytes, hbytes, hready⟩ := Fault.bind_eq_ok.mp hready
        obtain rfl := Fault.pure_eq_ok.mp hready
        simpa using message_actionCode hbytes
      · obtain rfl := Except.ok.inj hready
        simp
    · simpa using hfull.2
  · obtain ⟨rfl, rfl⟩ := Prod.mk.inj (Fault.pure_eq_ok.mp h)
    exact ⟨⟨stream, rfl⟩, by simp, fun hne => absurd rfl hne⟩

/-- What a tick may do: streams keep their connections, and the state only goes to done. -/
structure Ticked (test next : IperfTest) : Prop where
  streams : List.Forall₂ IperfStream.SameConnection test.testStreams next.testStreams
  state : next.state = test.state ∨ next.state = .testDone
  rest : next = { test with state := next.state, testStreams := next.testStreams, passedTicks := next.passedTicks }

theorem tick_eq {test next : IperfTest} {expired isSnapshot : Bool} (h : test.tick = .ok (expired, isSnapshot, next)) :
    next = { test with passedTicks := test.passedTicks + 1 } := by
  unfold tick at h
  dsimp only at h
  split at h
  · obtain ⟨_, h⟩ := Prod.mk.inj (Fault.pure_eq_ok.mp h)
    exact (Prod.mk.inj h).2.symm
  · obtain ⟨_, _, h⟩ := Fault.bind_eq_ok.mp h
    obtain ⟨_, h⟩ := Prod.mk.inj (Fault.pure_eq_ok.mp h)
    exact (Prod.mk.inj h).2.symm

theorem sameConnection_all (streams : List IperfStream) :
    List.Forall₂ IperfStream.SameConnection streams streams :=
  List.forall₂_same.mpr fun stream _ => .refl stream

theorem checkStreamIntervalReceive_ticked {test next : IperfTest} {now : UInt64}
    (h : test.checkStreamIntervalReceive now = .ok next) : Ticked test next := by
  unfold checkStreamIntervalReceive at h
  split at h
  · obtain ⟨⟨expired, isSnapshot, ticked⟩, htick, h⟩ := Fault.bind_eq_ok.mp h
    obtain rfl := tick_eq htick
    obtain rfl := Fault.pure_eq_ok.mp h
    split
    · exact ⟨Pointwise.map_self (fun stream => stream.isIntervalDataReceivedTimeout_same now) _, .inl rfl, rfl⟩
    · exact ⟨sameConnection_all _, .inl rfl, rfl⟩
  · obtain rfl := Except.ok.inj h
    exact ⟨sameConnection_all _, .inl rfl, rfl⟩

theorem testFinishState_ticked {test next : IperfTest} {now : UInt64} {done : Bool}
    (h : test.testFinishState now = .ok (done, next)) : Ticked test next := by
  unfold testFinishState at h
  split at h
  · obtain ⟨checked, hchecked, h⟩ := Fault.bind_eq_ok.mp h
    obtain ⟨_, rfl⟩ := Prod.mk.inj (Fault.pure_eq_ok.mp h)
    exact checkStreamIntervalReceive_ticked hchecked
  · split at h
    · obtain ⟨_, rfl⟩ := Prod.mk.inj (Except.ok.inj h)
      exact ⟨sameConnection_all _, .inl rfl, rfl⟩
    · obtain ⟨⟨expired, isSnapshot, ticked⟩, htick, h⟩ := Fault.bind_eq_ok.mp h
      obtain rfl := tick_eq htick
      dsimp only at h
      split at h
      · obtain ⟨_, rfl⟩ := Prod.mk.inj (Fault.pure_eq_ok.mp h)
        exact ⟨sameConnection_all _, .inl rfl, rfl⟩
      split at h
      · obtain ⟨_, rfl⟩ := Prod.mk.inj (Fault.pure_eq_ok.mp h)
        exact ⟨sameConnection_all _, .inl rfl, rfl⟩
      have hsnapshot : ∀ stream : IperfStream, stream.SameConnection
          (if stream.state = .streamDone then stream else stream.snapshotReport now) := by
        intro stream
        split
        · exact .refl stream
        · exact stream.snapshotReport_same now
      split at h
      · obtain ⟨_, rfl⟩ := Prod.mk.inj (Fault.pure_eq_ok.mp h)
        exact ⟨Pointwise.map_self hsnapshot _, .inr rfl, rfl⟩
      · obtain ⟨_, rfl⟩ := Prod.mk.inj (Fault.pure_eq_ok.mp h)
        exact ⟨Pointwise.map_self hsnapshot _, .inl rfl, rfl⟩

theorem stop_eq (test : IperfTest) (now : UInt64) : test.stop now =
    if test.isStopped = true then test else { test with isStopped := true, state := .testDone, testStreams := [] } := by
  unfold stop
  split
  · rfl
  · dsimp only
    obtain ⟨printed, hprinted⟩ := tryPrintSummary_eq { test with
      isStopped := true
      state := .testDone
      testStreams := test.testStreams.map fun stream => IperfStream.stop stream now }
    rw [hprinted]

theorem isStreamReady_rest (test : IperfTest) :
    ∃ flag, test.isStreamReady.2 = { test with isReadyReceived := flag } := by
  unfold isStreamReady
  split
  · exact ⟨_, rfl⟩
  · exact ⟨test.isReadyReceived, rfl⟩

theorem isStreamReady_iff {test : IperfTest} : test.isStreamReady.1 = true ↔
    (∀ stream ∈ test.testStreams, stream.isConnected) ∧ test.testConfig.numStreams = test.testStreams.length := by
  unfold isStreamReady
  split
  · rename_i hall
    rw [List.all_eq_true] at hall
    simp only [decide_eq_true_eq]
    exact ⟨fun h => ⟨hall, by omega⟩, fun h => by omega⟩
  · rename_i hall
    rw [List.all_eq_true] at hall
    exact ⟨fun h => absurd h Bool.false_ne_true, fun h => absurd h.1 hall⟩

end IperfTest

end BatsIperf
