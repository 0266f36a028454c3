import BatsIperf.Foundation.Machine
import BatsIperf.Test.Handlers

/-!
# A sender and a receiver over one control channel

The two ends of a test as one machine. The control channel is a FIFO of messages in each direction, the connection events of the data streams come in any order, and the main thread of the sender runs next to its callbacks. `SendTestSummary` takes two steps of the main thread, the send and the write of the state, since a control message may be handled between them.

A step whose code faults has no result. `Stop` of a test is not among the actions, and neither is the loss of the control channel, which calls it.
-/

namespace BatsIperf

/-- Where the main thread of the sender is: in `RunTest` before `EnterSenderIntervalLoop`, in the interval loop, and between the parts of `OnSentFinished`. -/
inductive MainLoop
  | waitReady | interval | finished | reported | summarySent | waitDone
  deriving DecidableEq

/-- A message to the sender, with the action code of the message it answers. The bytes alone do not tell, since both acks are the same message. -/
structure Reply where
  answers : UInt8
  bytes : Octets
  deriving DecidableEq

/-- What the receiver sends while it handles one message. -/
def replies (code : UInt8) (sent : List Octets) : List Reply :=
  sent.map fun message => { answers := code, bytes := message }

structure Session where
  client : IperfTest
  main : MainLoop := .waitReady
  server : IperfTest
  toServer : List Octets := []
  toClient : List Reply := []
  /-- The summary message once it is sent. -/
  summary : Option Octets := none
  /-- The summary messages whose reports the receiver has processed. -/
  processed : List Octets := []

namespace Session

inductive Action
  | ctrlEstablished
  | serverReceive (clock : Nat → UInt64) (streamId : Nat)
  | clientReceive (clock : Nat → UInt64) (streamId : Nat)
  | clientEvent (i : Nat) (event : ConnEvent)
  | clientThread (i : Nat) (now : UInt64)
  | clientActivity (i : Nat) (activity : IperfStream.Activity)
  | accept (streamId : Nat) (idealBufferLength : Int)
  | serverEvent (i : Nat) (event : ConnEvent)
  | serverActivity (i : Nat) (activity : IperfStream.Activity)
  | serverTick (now : UInt64)
  | pollReady
  | clientTick (now : UInt64)
  | finishReports (now : UInt64)
  | sendSummary
  | storeState

def start (config serverConfig : TestConfig) (testId : UInt32) : Session where
  client := { testConfig := { config with role := .roleSender }, testId := testId }
  server := { testConfig := { serverConfig with role := .roleReceiver }, testId := testId }

def onStream (test : IperfTest) (i : Nat) (f : IperfStream → Except Fault IperfStream) : Option IperfTest := do
  let stream ← test.testStreams[i]?
  let stream ← (f stream).toOption
  return { test with testStreams := test.testStreams.set i stream }

/-- The first check of the sending thread of a stream, once it is started. -/
def threadStep (now : UInt64) (stream : IperfStream) : Except Fault IperfStream := do
  Fault.require .noProgress (stream.sendingThread = .starting)
  return stream.sendingThreadStart now

def serverReceive (s : Session) (clock : Nat → UInt64) (streamId : Nat) : Option Session :=
  match s.toServer with
  | [] => none
  | bytes :: rest => do
    let (server, sent) ← (s.server.handleControlMessage bytes clock streamId).toOption
    return { s with
      server := server
      toServer := rest
      toClient := s.toClient ++ replies (actionCode bytes) sent
      processed := if actionCode bytes = 3 ∧ s.server.state ≠ .testDone then s.processed ++ [bytes] else s.processed }

def clientReceive (s : Session) (clock : Nat → UInt64) (streamId : Nat) : Option Session :=
  match s.toClient with
  | [] => none
  | reply :: rest =>
    if s.client.ctrlChn then do
      let (client, sent) ← (s.client.handleControlMessage reply.bytes clock streamId).toOption
      return { s with client := client, toClient := rest, toServer := s.toServer ++ sent }
    else none

def ctrlEstablished (s : Session) : Option Session :=
  if s.client.ctrlChn then none
  else do
    let (client, sent) ← s.client.ctrlChannelEstablished.toOption
    return { s with client := client, toServer := s.toServer ++ sent }

/-- A data connection reaches the listener, once there is one. -/
def accept (s : Session) (streamId : Nat) (idealBufferLength : Int) : Option Session :=
  if s.server.dataChnListener.isSome then do
    let (server, sent) ← (s.server.dataListenCallback streamId idealBufferLength).toOption
    return { s with
      server := server
      toClient := s.toClient ++ replies 0 sent }
  else none

/-- The condition of the waiting loop in `RunTest`. -/
def pollReady (s : Session) : Option Session :=
  if s.main = .waitReady then
    let (ready, client) := s.client.isStreamReady
    some { s with client := client, main := if ready then .interval else .waitReady }
  else none

def clientTick (s : Session) (now : UInt64) : Option Session :=
  if s.main = .interval then do
    let (done, client) ← (s.client.testFinishState now).toOption
    return { s with client := client, main := if done then .finished else .interval }
  else none

def sendSummary (s : Session) : Option Session :=
  if s.main = .reported then
    if s.client.ctrlChn then do
      let bytes ← s.client.testSummary.toOption
      return { s with main := .summarySent, toServer := s.toServer ++ [bytes], summary := some bytes }
    else some { s with main := .waitDone }
  else none

def step (s : Session) : Action → Option Session
  | .ctrlEstablished => s.ctrlEstablished
  | .serverReceive clock streamId => s.serverReceive clock streamId
  | .clientReceive clock streamId => s.clientReceive clock streamId
  | .clientEvent i event =>
    (onStream s.client i (·.connectionCallback event)).map fun client => { s with client := client }
  | .clientThread i now =>
    (onStream s.client i (threadStep now)).map fun client => { s with client := client }
  | .clientActivity i activity =>
    (onStream s.client i (fun stream => .ok (stream.act activity))).map fun client => { s with client := client }
  | .accept streamId idealBufferLength => s.accept streamId idealBufferLength
  | .serverEvent i event =>
    (onStream s.server i (·.connectionCallback event)).map fun server => { s with server := server }
  | .serverActivity i activity =>
    (onStream s.server i (fun stream => .ok (stream.act activity))).map fun server => { s with server := server }
  | .serverTick now =>
    (s.server.testFinishState now).toOption.map fun result => { s with server := result.2 }
  | .pollReady => s.pollReady
  | .clientTick now => s.clientTick now
  | .finishReports now =>
    if s.main = .finished then some { s with client := s.client.finishReports now, main := .reported } else none
  | .sendSummary => s.sendSummary
  | .storeState =>
    if s.main = .summarySent then
      some { s with client := { s.client with state := .testExchangeReports }, main := .waitDone }
    else none

def machine : Machine Session Action where
  step := step

/-! ### Steps next to the control channel -/

/-- A step that leaves both queues and what the main thread decides alone. -/
structure Local (s t : Session) : Prop where
  main : t.main = s.main
  toServer : t.toServer = s.toServer
  toClient : t.toClient = s.toClient
  summary : t.summary = s.summary
  processed : t.processed = s.processed
  testConfig : t.client.testConfig = s.client.testConfig
  ctrlChn : t.client.ctrlChn = s.client.ctrlChn
  state : t.client.state = s.client.state
  streams : t.client.testStreams.length = s.client.testStreams.length

theorem onStream_inv {test next : IperfTest} {i : Nat} {f : IperfStream → Except Fault IperfStream}
    (h : onStream test i f = some next) : ∃ stream changed, test.testStreams[i]? = some stream ∧ f stream = .ok changed ∧
      next = { test with testStreams := test.testStreams.set i changed } := by
  obtain ⟨stream, hstream, h⟩ := Option.bind_eq_some_iff.mp h
  obtain ⟨changed, hchanged, h⟩ := Option.bind_eq_some_iff.mp h
  exact ⟨stream, changed, hstream, Fault.toOption_eq_some.mp hchanged, (Option.some.inj h).symm⟩

theorem onClient_local {s t : Session} {i : Nat} {f : IperfStream → Except Fault IperfStream}
    (h : (onStream s.client i f).map (fun client => { s with client := client }) = some t) : Local s t := by
  obtain ⟨client, hclient, rfl⟩ := Option.map_eq_some_iff.mp h
  obtain ⟨stream, changed, _, _, rfl⟩ := onStream_inv hclient
  constructor <;> first | rfl | exact List.length_set

theorem onServer_local {s t : Session} {server : IperfTest} (h : t = { s with server := server }) : Local s t := by
  subst h
  constructor <;> rfl

def Action.isLocal : Action → Bool
  | .clientEvent .. | .clientThread .. | .clientActivity .. | .serverEvent .. | .serverActivity .. | .serverTick .. => true
  | _ => false

theorem step_local {s t : Session} {a : Action} (h : machine.step s a = some t) (ha : a.isLocal) : Local s t := by
  cases a with
  | clientEvent | clientThread | clientActivity => exact onClient_local h
  | serverEvent | serverActivity | serverTick =>
    obtain ⟨_, _, rfl⟩ := Option.map_eq_some_iff.mp h
    exact onServer_local rfl
  | _ => exact absurd ha Bool.false_ne_true

/-! ### Steps on the control channel -/

theorem serverReceive_inv {s t : Session} {clock : Nat → UInt64} {streamId : Nat}
    (h : s.serverReceive clock streamId = some t) : ∃ bytes rest server sent, s.toServer = bytes :: rest ∧
      s.server.handleControlMessage bytes clock streamId = .ok (server, sent) ∧
      t = { s with
        server := server
        toServer := rest
        toClient := s.toClient ++ replies (actionCode bytes) sent
        processed := if actionCode bytes = 3 ∧ s.server.state ≠ .testDone then s.processed ++ [bytes]
          else s.processed } := by
  unfold serverReceive at h
  split at h
  · exact absurd h (by simp)
  · rename_i bytes rest hqueue
    obtain ⟨⟨server, sent⟩, hhandle, h⟩ := Option.bind_eq_some_iff.mp h
    exact ⟨bytes, rest, server, sent, hqueue, Fault.toOption_eq_some.mp hhandle, (Option.some.inj h).symm⟩

theorem clientReceive_inv {s t : Session} {clock : Nat → UInt64} {streamId : Nat}
    (h : s.clientReceive clock streamId = some t) : ∃ reply rest client sent, s.toClient = reply :: rest ∧
      s.client.ctrlChn = true ∧ s.client.handleControlMessage reply.bytes clock streamId = .ok (client, sent) ∧
      t = { s with client := client, toClient := rest, toServer := s.toServer ++ sent } := by
  unfold clientReceive at h
  split at h
  · exact absurd h (by simp)
  · rename_i reply rest hqueue
    split at h
    · rename_i hctrl
      obtain ⟨⟨client, sent⟩, hhandle, h⟩ := Option.bind_eq_some_iff.mp h
      exact ⟨reply, rest, client, sent, hqueue, hctrl, Fault.toOption_eq_some.mp hhandle, (Option.some.inj h).symm⟩
    · exact absurd h (by simp)

theorem ctrlEstablished_inv {s t : Session} (h : s.ctrlEstablished = some t) : s.client.ctrlChn = false ∧
    ∃ bytes, actionCode bytes = 2 ∧ t = { s with
      client := { s.client with ctrlChn := true, state := .testExchangeParameters }
      toServer := s.toServer ++ [bytes] } := by
  unfold ctrlEstablished at h
  split at h
  · exact absurd h (by simp)
  · rename_i hctrl
    obtain ⟨⟨client, sent⟩, hsend, h⟩ := Option.bind_eq_some_iff.mp h
    obtain ⟨bytes, hbytes, hsend⟩ := Fault.bind_eq_ok.mp (Fault.toOption_eq_some.mp hsend)
    obtain ⟨_, _, hsend⟩ := Fault.bind_eq_ok.mp hsend
    obtain ⟨rfl, rfl⟩ := Prod.mk.inj (Fault.pure_eq_ok.mp hsend)
    exact ⟨by simpa using hctrl, bytes, IperfTest.message_actionCode hbytes, (Option.some.inj h).symm⟩

theorem accept_inv {s t : Session} {streamId : Nat} {idealBufferLength : Int}
    (h : s.accept streamId idealBufferLength = some t) : ∃ server sent,
      s.server.dataListenCallback streamId idealBufferLength = .ok (server, sent) ∧ t = { s with
        server := server
        toClient := s.toClient ++ replies 0 sent } := by
  unfold accept at h
  split at h
  · obtain ⟨⟨server, sent⟩, hlisten, h⟩ := Option.bind_eq_some_iff.mp h
    exact ⟨server, sent, Fault.toOption_eq_some.mp hlisten, (Option.some.inj h).symm⟩
  · exact absurd h (by simp)

/-! ### Steps of the main thread -/

theorem pollReady_inv {s t : Session} (h : s.pollReady = some t) : s.main = .waitReady ∧
    ∃ flag, t = { s with
      client := { s.client with isReadyReceived := flag }
      main := if s.client.isStreamReady.1 then .interval else .waitReady } := by
  unfold pollReady at h
  split at h
  · rename_i hmain
    obtain ⟨flag, hflag⟩ := s.client.isStreamReady_rest
    exact ⟨hmain, flag, hflag ▸ (Option.some.inj h).symm⟩
  · exact absurd h (by simp)

theorem clientTick_inv {s t : Session} {now : UInt64} (h : s.clientTick now = some t) : s.main = .interval ∧
    ∃ (done : Bool) (client : IperfTest), IperfTest.Ticked s.client client ∧
      t = { s with client := client, main := if done then .finished else .interval } := by
  unfold clientTick at h
  split at h
  · rename_i hmain
    obtain ⟨⟨done, client⟩, htick, h⟩ := Option.bind_eq_some_iff.mp h
    exact ⟨hmain, done, client, IperfTest.testFinishState_ticked (Fault.toOption_eq_some.mp htick),
      (Option.some.inj h).symm⟩
  · exact absurd h (by simp)

theorem sendSummary_inv {s t : Session} (h : s.sendSummary = some t) : s.main = .reported ∧
    ((∃ bytes, actionCode bytes = 3 ∧
        t = { s with main := .summarySent, toServer := s.toServer ++ [bytes], summary := some bytes }) ∨
      (s.client.ctrlChn = false ∧ t = { s with main := .waitDone })) := by
  unfold sendSummary at h
  split at h
  · rename_i hmain
    refine ⟨hmain, ?_⟩
    split at h
    · obtain ⟨bytes, hbytes, h⟩ := Option.bind_eq_some_iff.mp h
      exact .inl ⟨bytes, IperfTest.message_actionCode (Fault.toOption_eq_some.mp hbytes), (Option.some.inj h).symm⟩
    · rename_i hctrl
      exact .inr ⟨by simpa using hctrl, (Option.some.inj h).symm⟩
  · exact absurd h (by simp)

theorem finishReports_inv {s t : Session} {now : UInt64} (h : machine.step s (.finishReports now) = some t) :
    s.main = .finished ∧ t = { s with client := s.client.finishReports now, main := .reported } := by
  change (if _ then _ else _) = _ at h
  split at h
  · rename_i hmain
    exact ⟨hmain, (Option.some.inj h).symm⟩
  · exact absurd h (by simp)

theorem storeState_inv {s t : Session} (h : machine.step s .storeState = some t) : s.main = .summarySent ∧
    t = { s with client := { s.client with state := .testExchangeReports }, main := .waitDone } := by
  change (if _ then _ else _) = _ at h
  split at h
  · rename_i hmain
    exact ⟨hmain, (Option.some.inj h).symm⟩
  · exact absurd h (by simp)

end Session

end BatsIperf
