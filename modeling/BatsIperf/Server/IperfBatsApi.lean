import BatsIperf.FileTransfer.IperfFileTransfer
import BatsIperf.Foundation.Registry
import BatsIperf.Test.Handlers

/-!
# The server

A server keeps its tests in a table under their identifiers, which are chosen by the clients. A control message goes to the test with the identifier in its header, over whichever connection it comes; where there is none, a test is created for a request. The interval loop takes finished tests out of the table, and the connection of a test that was created tells the identifier when it is closed.
-/

namespace BatsIperf

open Octets

/-! ### Identifiers of tests -/

namespace IperfTest

theorem handleControlMessage_testId {test next : IperfTest} {bytes : Octets} {clock : Nat → UInt64} {streamId : Nat}
    {sent : List Octets} (h : test.handleControlMessage bytes clock streamId = .ok (next, sent)) :
    next.testId = test.testId := by
  cases handleControlMessage_handled h with
  | ack _ hacked => rcases handleAckMessage_cases hacked with ⟨_, _, rfl, _⟩ | ⟨_, rfl⟩ | ⟨_, _, rfl⟩ <;> rfl
  | ready _ hready => rcases handleReadyMessage_cases hready with ⟨_, _, rfl, _⟩ | ⟨_, rfl⟩ <;> rfl
  | summary | parameters | done | ignored => rfl

theorem testFinishState_testId {test next : IperfTest} {now : UInt64} {done : Bool}
    (h : test.testFinishState now = .ok (done, next)) : next.testId = test.testId := by
  rw [(testFinishState_ticked h).rest]

theorem stop_testId (test : IperfTest) (now : UInt64) : (test.stop now).testId = test.testId := by
  rw [stop_eq]
  split <;> rfl

end IperfTest

namespace IperfFileTransfer

theorem stop_testId (test : IperfFileTransfer) : test.stop.testId = test.testId := by
  unfold stop
  split <;> rfl

theorem handleControlMessage_testId {test next : IperfFileTransfer} {bytes : Octets} {available : Option Nat}
    {sent : List Octets} (h : test.handleControlMessage bytes available = .ok (next, sent)) :
    next.testId = test.testId := by
  rcases handleControlMessage_cases h with hopened | rfl | hrequest
  · obtain ⟨_, _, hopened⟩ := Fault.bind_eq_ok.mp hopened
    obtain ⟨_, _, hopened⟩ := Fault.bind_eq_ok.mp hopened
    obtain rfl := Fault.pure_eq_ok.mp hopened
    rfl
  · exact stop_testId _
  · obtain ⟨_, _, _, hrequest⟩ := handleFileTransferRequest_cases hrequest
    rcases hrequest with rfl | ⟨_, rfl⟩
    · rfl
    · rfl

theorem isStreamDone_testId (test : IperfFileTransfer) : test.isStreamDone.2.testId = test.testId := by
  unfold isStreamDone
  split
  · rfl
  split
  · rfl
  split <;> rfl

end IperfFileTransfer

/-! ### Tests -/

/-- The classes that implement `IIperfTest`. -/
inductive IIperfTest
  | iperfTest (test : IperfTest)
  | iperfFileTransfer (test : IperfFileTransfer)

/-- What the outside answers while a control message is handled: the reads of the clock, the next number of a stream and the free space. -/
structure MessageAnswers where
  clock : Nat → UInt64 := fun _ => 0
  streamId : Nat := 0
  available : Option Nat := none

namespace IIperfTest

def testId : IIperfTest → UInt32
  | .iperfTest test => test.testId
  | .iperfFileTransfer test => test.testId

def state : IIperfTest → TestState
  | .iperfTest test => test.state
  | .iperfFileTransfer test => test.state

def ctrlChn : IIperfTest → Bool
  | .iperfTest test => test.ctrlChn
  | .iperfFileTransfer test => test.ctrlChn

def configure (f : TestConfig → TestConfig) : IIperfTest → IIperfTest
  | .iperfTest test => .iperfTest { test with testConfig := f test.testConfig }
  | .iperfFileTransfer test => .iperfFileTransfer { test with testConfig := f test.testConfig }

def setRole (test : IIperfTest) (role : TestRole) : IIperfTest := test.configure fun config => { config with role := role }

def setResolution (test : IIperfTest) (resolution : ℚ) : IIperfTest :=
  test.configure fun config => { config with resolution := resolution }

def handleControlMessage (test : IIperfTest) (bytes : Octets) (answers : MessageAnswers) :
    Except Fault (IIperfTest × List Octets) :=
  match test with
  | .iperfTest test => do
    let (test, sent) ← test.handleControlMessage bytes answers.clock answers.streamId
    return (.iperfTest test, sent)
  | .iperfFileTransfer test => do
    let (test, sent) ← test.handleControlMessage bytes answers.available
    return (.iperfFileTransfer test, sent)

/-- `CloseCtrlChannel` and `Stop`. No stream of a receiver of files has a thread to wait for. -/
def closeAndStop (test : IIperfTest) (now : UInt64) : IIperfTest :=
  match test with
  | .iperfTest test => .iperfTest (test.ctrlChannelClosed now)
  | .iperfFileTransfer test =>
    let test := { test with ctrlChn := false }
    .iperfFileTransfer (if test.isStopped then test else test.stop.clearStreams)

def testFinishState (test : IIperfTest) (now : UInt64) : Except Fault IIperfTest :=
  match test with
  | .iperfTest test => do
    let (_, test) ← test.testFinishState now
    return .iperfTest test
  | .iperfFileTransfer test => .ok (.iperfFileTransfer test.testFinishState.2)

def isStreamDone : IIperfTest → Bool × IIperfTest
  | .iperfTest test => (test.isStreamDone, .iperfTest test)
  | .iperfFileTransfer test => (test.isStreamDone.1, .iperfFileTransfer test.isStreamDone.2)

theorem handleControlMessage_testId {test next : IIperfTest} {bytes : Octets} {answers : MessageAnswers}
    {sent : List Octets} (h : test.handleControlMessage bytes answers = .ok (next, sent)) : next.testId = test.testId := by
  cases test with
  | iperfTest test =>
    obtain ⟨⟨handled, _⟩, hhandled, h⟩ := Fault.bind_eq_ok.mp h
    obtain ⟨rfl, _⟩ := Prod.mk.inj (Fault.pure_eq_ok.mp h)
    exact IperfTest.handleControlMessage_testId hhandled
  | iperfFileTransfer test =>
    obtain ⟨⟨handled, _⟩, hhandled, h⟩ := Fault.bind_eq_ok.mp h
    obtain ⟨rfl, _⟩ := Prod.mk.inj (Fault.pure_eq_ok.mp h)
    exact IperfFileTransfer.handleControlMessage_testId hhandled

theorem closeAndStop_testId (test : IIperfTest) (now : UInt64) : (test.closeAndStop now).testId = test.testId := by
  cases test with
  | iperfTest test => exact IperfTest.stop_testId _ now
  | iperfFileTransfer test =>
    unfold closeAndStop
    dsimp only
    split
    · rfl
    · exact IperfFileTransfer.stop_testId _

theorem testFinishState_testId {test next : IIperfTest} {now : UInt64} (h : test.testFinishState now = .ok next) :
    next.testId = test.testId := by
  cases test with
  | iperfTest test =>
    obtain ⟨⟨_, ticked⟩, hticked, h⟩ := Fault.bind_eq_ok.mp h
    obtain rfl := Fault.pure_eq_ok.mp h
    exact IperfTest.testFinishState_testId hticked
  | iperfFileTransfer test =>
    obtain rfl := Except.ok.inj h
    exact IperfFileTransfer.isStreamDone_testId test

theorem isStreamDone_testId (test : IIperfTest) : test.isStreamDone.2.testId = test.testId := by
  cases test with
  | iperfTest test => rfl
  | iperfFileTransfer test => exact IperfFileTransfer.isStreamDone_testId test

end IIperfTest

/-! ### The table -/

/-- A test of the table. `ctrlConn` is the connection `ctrl_chn_` points to where it is set, and `owner` the one whose message created the test. -/
structure TableEntry (Conn : Type) where
  test : IIperfTest
  ctrlConn : Conn
  owner : Conn
  hasId : test.testId ≠ 0

variable {Conn : Type}

namespace TableEntry

def testId (entry : TableEntry Conn) : UInt32 := entry.test.testId

/-- The connection a test keeps when a message with the action code comes over another: a throughput test the first one, a file transfer that of the last request. -/
def ctrlConnAfter (entry : TableEntry Conn) (conn : Conn) (actionCode : UInt8) : Conn :=
  match entry.test with
  | .iperfTest test => if test.ctrlChn then entry.ctrlConn else conn
  | .iperfFileTransfer _ => if actionCode = 1 then conn else entry.ctrlConn

/-- The entry after a message, and what the test answers on its control channel. -/
def handleControlMessage (entry : TableEntry Conn) (conn : Conn) (bytes : Octets) (answers : MessageAnswers) :
    Except Fault (TableEntry Conn × List (Conn × Octets)) :=
  match h : entry.test.handleControlMessage bytes answers with
  | .error fault => .error fault
  | .ok (test, sent) =>
    let ctrlConn := entry.ctrlConnAfter conn (actionCode bytes)
    .ok ({ entry with
        test := test
        ctrlConn := ctrlConn
        hasId := IIperfTest.handleControlMessage_testId h ▸ entry.hasId },
      sent.map fun message => (ctrlConn, message))

theorem handleControlMessage_eq_error {entry : TableEntry Conn} {conn : Conn} {bytes : Octets} {answers : MessageAnswers}
    {fault : Fault} :
    entry.handleControlMessage conn bytes answers = .error fault
      ↔ entry.test.handleControlMessage bytes answers = .error fault := by
  unfold handleControlMessage
  split
  · rename_i other hother
    constructor
    · intro h
      rw [hother, Except.error.inj h]
    · intro h
      exact congrArg Except.error (Except.error.inj (hother.symm.trans h))
  · rename_i hhandled
    exact iff_of_false (by simp) (by simp [hhandled])

theorem handleControlMessage_inv {entry next : TableEntry Conn} {conn : Conn} {bytes : Octets} {answers : MessageAnswers}
    {replies : List (Conn × Octets)} (h : entry.handleControlMessage conn bytes answers = .ok (next, replies)) :
    next.testId = entry.testId ∧ next.owner = entry.owner ∧
      next.ctrlConn = entry.ctrlConnAfter conn (actionCode bytes) ∧ ∃ sent,
        entry.test.handleControlMessage bytes answers = .ok (next.test, sent) ∧
        replies = sent.map fun message => (next.ctrlConn, message) := by
  unfold handleControlMessage at h
  split at h
  · exact absurd h (by simp)
  · rename_i test sent hhandled
    obtain ⟨rfl, rfl⟩ := Prod.mk.inj (Except.ok.inj h)
    exact ⟨IIperfTest.handleControlMessage_testId hhandled, rfl, rfl, sent, hhandled, rfl⟩

def closeAndStop (entry : TableEntry Conn) (now : UInt64) : TableEntry Conn where
  test := entry.test.closeAndStop now
  ctrlConn := entry.ctrlConn
  owner := entry.owner
  hasId := entry.test.closeAndStop_testId now ▸ entry.hasId

end TableEntry

/-- How the handling of a control message ends without a result: by a call through the null pointer `received_test`, or by a fault in a method of a test. -/
inductive ServerFault
  | nullTest
  | inTest (fault : Fault)
  deriving DecidableEq

structure IperfBatsApi (Conn : Type) where
  userInputConfig : TestConfig
  testTbl : Registry (@TableEntry.testId Conn) := .empty
  /-- The identifier in the callback of a connection; 0 is the null pointer. -/
  user : Conn → UInt32 := fun _ => 0

namespace IperfBatsApi

def defaultResolution : ℚ := 10

/-- `received_test` behind the switch on the action code; it stays null for every other code. -/
def receivedTest (api : IperfBatsApi Conn) (actionCode : UInt8) (testId : UInt32) : Option IIperfTest :=
  match actionCode with
  | 1 => some (.iperfFileTransfer (.receiver api.userInputConfig testId))
  | 2 => some (.iperfTest { testConfig := api.userInputConfig, testId := testId })
  | _ => none

variable [DecidableEq Conn]

/-- A test that was created takes its message, and is inserted under `Id()`, which asserts that it is not 0. -/
def createTest (api : IperfBatsApi Conn) (conn : Conn) (test : IIperfTest) (bytes : Octets) (answers : MessageAnswers) :
    Except ServerFault (IperfBatsApi Conn × List (Conn × Octets)) :=
  match ((test.setRole .roleReceiver).setResolution defaultResolution).handleControlMessage bytes answers with
  | .error fault => .error (.inTest fault)
  | .ok (test, sent) =>
    if hasId : test.testId ≠ 0 then
      let entry : TableEntry Conn := { test := test, ctrlConn := conn, owner := conn, hasId := hasId }
      .ok ({ api with
          testTbl := api.testTbl.insert entry
          user := Function.update api.user conn test.testId },
        sent.map fun message => (conn, message))
    else .error (.inTest .failedAssert)

/-- The server after a control message, and what its tests answer, with the connections they answer on. -/
def handleControlMessage (api : IperfBatsApi Conn) (conn : Conn) (bytes : Octets) (answers : MessageAnswers) :
    Except ServerFault (IperfBatsApi Conn × List (Conn × Octets)) :=
  match IperfControlData.actionCodeAt bytes, IperfControlData.testIdAt bytes with
  | none, _ | _, none => .error (.inTest .outOfBounds)
  | some actionCode, some testId =>
    match api.testTbl.find testId with
    | none =>
      match api.receivedTest actionCode testId with
      | none => .error .nullTest
      | some test => api.createTest conn test bytes answers
    | some entry =>
      match entry.handleControlMessage conn bytes answers with
      | .error fault => .error (.inTest fault)
      | .ok (entry, replies) => .ok ({ api with testTbl := api.testTbl.insert entry }, replies)

/-- `BATS_CONNECTION_FAILED`, `BATS_CONNECTION_CLOSED` and `BATS_CONNECTION_SHUTDOWN_BY_PEER` on a control connection. -/
def ctrlChannelClosed (api : IperfBatsApi Conn) (conn : Conn) (now : UInt64) : IperfBatsApi Conn :=
  if api.user conn ≠ 0 then
    match api.testTbl.find (api.user conn) with
    | some entry => { api with testTbl := api.testTbl.insert (entry.closeAndStop now) }
    | none => api
  else api

/-- What the interval loop does to one test: a test that is finished leaves the table. The call of `IsStreamDone` in the trace of the other branch is a call as well. -/
def poll (api : IperfBatsApi Conn) (id : UInt32) (now : UInt64) : Except Fault (IperfBatsApi Conn) :=
  match api.testTbl.find id with
  | none => .ok api
  | some entry =>
    match h : entry.test.testFinishState now with
    | .error fault => .error fault
    | .ok test =>
      if test.state = .testDone ∧ test.isStreamDone.1 then .ok { api with testTbl := api.testTbl.erase id }
      else
        .ok { api with testTbl := api.testTbl.insert { entry with
          test := test.isStreamDone.2
          hasId := test.isStreamDone_testId ▸ IIperfTest.testFinishState_testId h ▸ entry.hasId } }

end IperfBatsApi

end BatsIperf
