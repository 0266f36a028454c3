import BatsIperf.FileTransfer.Handlers
import BatsIperf.FileTransfer.SendingThread
import BatsIperf.Foundation.Machine

/-!
# A file sender and a file receiver

The two ends of a transfer as one machine, from the moment the request is answered. The threads of the sender and the callbacks at both ends take their steps in any order. What `SendData` accepts on a stream stays in the order in which it was accepted, and the receiver handles one block at a time.

`Stop` is two steps, since it waits for the threads. A step whose code faults has no result.
-/

namespace BatsIperf

open Octets IperfFileTransfer

structure FileSession where
  sender : IperfFileTransfer
  receiver : IperfFileTransfer
  /-- The disk of the receiver. -/
  disk : Disk
  /-- The blocks accepted on each stream of the sender. -/
  wire : Nat → List Octets := fun _ => []
  /-- Whether a stream has accepted data since the last `BATS_CONNECTION_ALL_DATA_ACKED`. -/
  unacked : Nat → Bool := fun _ => false
  /-- The files in the order in which they were fetched, with the streams that fetched them. -/
  fetched : List (Nat × File) := []
  /-- The stream of the sender behind each stream of the receiver. -/
  peers : List Nat := []
  /-- How many blocks of each stream of the sender the receiver has handled. -/
  handled : Nat → Nat := fun _ => 0

namespace FileSession

inductive Action
  | event (i : Nat) (event : ConnEvent)
  | thread (i : Nat) (answers : ThreadAnswers)
  | poll
  | stop
  | clearStreams
  | accept (i : Nat)
  | receiverEvent (j : Nat) (event : ConnEvent)
  | deliver (j : Nat) (answers : FileAnswers)
  | receiverPoll
  deriving DecidableEq

def requester (senderDisk : Disk) (config : TestConfig) (testId : UInt32) : IperfFileTransfer :=
  ((IperfFileTransfer.sender senderDisk { config with role := .roleFileSender } testId).start true).2

def responder (serverConfig : TestConfig) (testId : UInt32) : IperfFileTransfer :=
  .receiver { serverConfig with role := .roleReceiver } testId

/-- The request, its answer and the streams the sender opens then. -/
def start (senderDisk : Disk) (config serverConfig : TestConfig) (testId : UInt32) (available : Option Nat)
    (disk : Disk) : Except Fault FileSession := do
  let (client, sent) ← (requester senderDisk config testId).ctrlChannelEstablished
  let request ← Fault.need .noProgress sent.head?
  let (server, sent) ← (responder serverConfig testId).handleControlMessage request available
  let response ← Fault.need .noProgress sent.head?
  let (client, _) ← client.handleControlMessage response none
  return { sender := client, receiver := server, disk := disk }

/-- `BATS_CONNECTION_ALL_DATA_ACKED` is not emitted again without new data. -/
def event (s : FileSession) (i : Nat) (event : ConnEvent) : Option FileSession :=
  if event = .allDataAcked ∧ s.unacked i = false then none
  else do
    let sender ← (s.sender.connectionCallback i event).toOption
    return { s with
      sender := sender
      unacked := if event = .allDataAcked then Function.update s.unacked i false else s.unacked }

def fetchedIn (i : Nat) (stream : FileStream) : List (Nat × File) :=
  match stream.thread with
  | .openFile file => [(i, file)]
  | _ => []

def thread (senderDisk : Disk) (density : Density) (s : FileSession) (i : Nat) (answers : ThreadAnswers) :
    Option FileSession := do
  let stream ← s.sender.streams[i]?
  let result ← (threadStep senderDisk density s.sender stream answers).toOption
  return { s with
    sender := { s.sender with streams := s.sender.streams.set i result.stream, pendingFiles := result.pendingFiles }
    wire := Function.update s.wire i (s.wire i ++ result.accepted.toList)
    unacked := Function.update s.unacked i (s.unacked i || result.accepted.isSome)
    fetched := s.fetched ++ fetchedIn i result.stream }

/-- A thread that takes no step any more, or none yet. -/
def joinable (stream : FileStream) : Bool :=
  stream.thread = .notStarted ∨ stream.thread = .finished ∨ stream.thread = .aborted

def accept (s : FileSession) (i : Nat) : Option FileSession :=
  if i < s.sender.streams.length ∧ i ∉ s.peers ∧ s.receiver.dataChnListener.isSome then
    some { s with receiver := s.receiver.dataListenCallback, peers := s.peers ++ [i] }
  else none

/-- The next block of the stream behind a stream of the receiver. -/
def deliver (density : Density) (s : FileSession) (j : Nat) (answers : FileAnswers) : Option FileSession := do
  let i ← s.peers[j]?
  let block ← (s.wire i)[s.handled i]?
  let (receiver, disk) ← (s.receiver.handleReceivedFileData s.disk density j block answers).toOption
  return { s with receiver := receiver, disk := disk, handled := Function.update s.handled i (s.handled i + 1) }

def step (senderDisk : Disk) (density : Density) (s : FileSession) : Action → Option FileSession
  | .event i event => s.event i event
  | .thread i answers => thread senderDisk density s i answers
  | .poll => some { s with sender := s.sender.testFinishState.2 }
  | .stop => some { s with sender := s.sender.stop }
  | .clearStreams =>
    if s.sender.isStopped ∧ s.sender.streams.all joinable then some { s with sender := s.sender.clearStreams } else none
  | .accept i => s.accept i
  | .receiverEvent j event =>
    (s.receiver.connectionCallback j event).toOption.map fun receiver => { s with receiver := receiver }
  | .deliver j answers => deliver density s j answers
  | .receiverPoll => some { s with receiver := s.receiver.testFinishState.2 }

def machine (senderDisk : Disk) (density : Density) : Machine FileSession Action where
  step := step senderDisk density

/-! ### The start -/

def opened (senderDisk : Disk) (config : TestConfig) (testId : UInt32) : IperfFileTransfer :=
  { requester senderDisk config testId with
    dataChnConnector := some (dataConfiguration config.protocol)
    ctrlChn := true
    state := .testExchangeParameters
    streams := (List.range config.numStreams.toNat).map fun i => ({ id := .ofNat i } : FileStream) }

def denied (senderDisk : Disk) (config : TestConfig) (testId : UInt32) (available : Option Nat) : Bool :=
  lacksSpace available (announcedBytes (requester senderDisk config testId).testConfig)

def answered (senderDisk : Disk) (config serverConfig : TestConfig) (testId : UInt32) (available : Option Nat) :
    IperfFileTransfer :=
  if denied senderDisk config testId available then { responder serverConfig testId with ctrlChn := true }
  else takeOver (responder serverConfig testId) (requester senderDisk config testId).testConfig
    (requester senderDisk config testId).requestHeader.param0

theorem onRecvResponse_eq {test next : IperfFileTransfer} (h : test.onRecvResponse = .ok next) : next = { test with
    dataChnConnector := some (dataConfiguration test.testConfig.protocol)
    streams := test.streams ++ (List.range test.testConfig.numStreams.toNat).map fun i =>
      ({ id := .ofNat i } : FileStream) } := by
  obtain ⟨_, _, h⟩ := Fault.bind_eq_ok.mp h
  obtain ⟨_, _, h⟩ := Fault.bind_eq_ok.mp h
  exact (Fault.pure_eq_ok.mp h).symm

theorem ctrlChannelEstablished_eq {test next : IperfFileTransfer} {sent : List Octets}
    (h : test.ctrlChannelEstablished = .ok (next, sent)) : test.testId ≠ 0 ∧
      next = { test with ctrlChn := true, state := .testExchangeParameters } ∧
      sent = [test.requestHeader.encode ++ (test.testConfig.serialize ++ List.replicate 256 0)] := by
  have hid : test.testId ≠ 0 := by
    obtain ⟨_, hmessage, _⟩ := Fault.bind_eq_ok.mp h
    obtain ⟨_, hrequire, _⟩ := Fault.bind_eq_ok.mp hmessage
    exact Fault.require_eq_ok.mp hrequire
  have hsend : test.ctrlChannelEstablished = _ := sendFileTransferRequest_eq hid rfl
  obtain ⟨rfl, rfl⟩ := Prod.mk.inj (Except.ok.inj (h.symm.trans hsend))
  exact ⟨hid, rfl, rfl⟩

theorem start_cases {senderDisk : Disk} {config serverConfig : TestConfig} {testId : UInt32} {available : Option Nat}
    {disk : Disk} {s : FileSession} (h : start senderDisk config serverConfig testId available disk = .ok s) :
    s = { sender := s.sender, receiver := answered senderDisk config serverConfig testId available, disk := disk } ∧
      if denied senderDisk config testId available then s.sender.streams = []
      else s.sender = opened senderDisk config testId := by
  obtain ⟨⟨client, sent⟩, hrequest, h⟩ := Fault.bind_eq_ok.mp h
  obtain ⟨hid, rfl, rfl⟩ := ctrlChannelEstablished_eq hrequest
  have hserver := handleControlMessage_request hid (show (requester senderDisk config testId).testId
    = (responder serverConfig testId).testId from rfl) available (List.replicate 256 0)
  dsimp only [List.head?_cons] at h
  rw [Fault.need_some, Fault.ok_bind, hserver, Fault.ok_bind] at h
  dsimp only [List.head?_cons] at h
  rw [Fault.need_some, Fault.ok_bind] at h
  obtain ⟨⟨client, _⟩, hresponse, h⟩ := Fault.bind_eq_ok.mp h
  obtain rfl := Fault.pure_eq_ok.mp h
  refine ⟨rfl, ?_⟩
  rw [handleControlMessage_response (by rfl)] at hresponse
  change (if denied senderDisk config testId available then _ else _) = _ at hresponse
  split at hresponse
  · rename_i hdenied
    rw [if_pos hdenied]
    obtain ⟨rfl, _⟩ := Prod.mk.inj (Except.ok.inj hresponse)
    rfl
  · rename_i haccepted
    rw [if_neg haccepted]
    obtain ⟨started, hstarted, hresponse⟩ := Fault.bind_eq_ok.mp hresponse
    obtain ⟨rfl, _⟩ := Prod.mk.inj (Fault.pure_eq_ok.mp hresponse)
    exact onRecvResponse_eq hstarted

/-! ### What a step does to one stream of the sender -/

/-- An event of the stream, a step of its thread, or a step that leaves it alone. -/
inductive Moved (senderDisk : Disk) (density : Density) (s : FileSession) (i : Nat) (stream : FileStream) :
    Action → FileStream → Prop
  | event {event : ConnEvent} {next : FileStream} (h : s.sender.streamEvent event stream = .ok next)
      (hunacked : event = .allDataAcked → s.unacked i = true) :
      Moved senderDisk density s i stream (.event i event) next
  | thread {answers : ThreadAnswers} {result : ThreadResult}
      (h : threadStep senderDisk density s.sender stream answers = .ok result) :
      Moved senderDisk density s i stream (.thread i answers) result.stream
  | other {a : Action} (hevent : ∀ event, a ≠ .event i event) (hthread : ∀ answers, a ≠ .thread i answers) :
      Moved senderDisk density s i stream a stream

theorem onStream_inv {test next : IperfFileTransfer} {i : Nat} {f : FileStream → Except Fault FileStream}
    (h : test.onStream i f = .ok next) : ∃ stream changed, test.streams[i]? = some stream ∧ f stream = .ok changed ∧
      next = { test with streams := test.streams.set i changed } := by
  obtain ⟨stream, hstream, h⟩ := Fault.bind_eq_ok.mp h
  obtain ⟨changed, hchanged, h⟩ := Fault.bind_eq_ok.mp h
  exact ⟨stream, changed, Fault.need_eq_ok.mp hstream, hchanged, (Fault.pure_eq_ok.mp h).symm⟩

/-- An event changes its stream, where there is one, and nothing else. -/
theorem connectionCallback_cases {test next : IperfFileTransfer} {i : Nat} {event : ConnEvent}
    (h : test.connectionCallback i event = .ok next) :
    (∃ stream changed, test.streams[i]? = some stream ∧ test.streamEvent event stream = .ok changed ∧
      next = { test with streams := test.streams.set i changed }) ∨ (next = test ∧ test.streams[i]? = none) ∨
      (next = test ∧ ∀ stream, test.streamEvent event stream = .ok stream) := by
  cases event with
  | none | failed | sendComplete | error | alreadyConnected =>
    exact .inr (.inr ⟨(Except.ok.inj h).symm, fun _ => rfl⟩)
  | closed | shutdownByPeer =>
    simp only [connectionCallback] at h
    split at h
    · rename_i hmissing
      exact .inr (.inl ⟨(Except.ok.inj h).symm, List.getElem?_eq_none hmissing⟩)
    · exact .inl (onStream_inv h)
  | established | timeout | writable | sendDataError | bufferFull | idealBufferLength | allDataAcked =>
    exact .inl (onStream_inv h)

theorem event_inv {s t : FileSession} {i : Nat} {event : ConnEvent} (h : s.event i event = some t) :
    (event = .allDataAcked → s.unacked i = true) ∧ ∃ sender, s.sender.connectionCallback i event = .ok sender ∧
      t = { s with
        sender := sender
        unacked := if event = .allDataAcked then Function.update s.unacked i false else s.unacked } := by
  unfold FileSession.event at h
  split at h
  · exact absurd h (by simp)
  · rename_i hopen
    obtain ⟨sender, hsender, h⟩ := Option.bind_eq_some_iff.mp h
    refine ⟨fun hacked => ?_, sender, Fault.toOption_eq_some.mp hsender, (Option.some.inj h).symm⟩
    simpa [hacked] using hopen

theorem thread_inv {senderDisk : Disk} {density : Density} {s t : FileSession} {i : Nat} {answers : ThreadAnswers}
    (h : thread senderDisk density s i answers = some t) : ∃ stream result, s.sender.streams[i]? = some stream ∧
      threadStep senderDisk density s.sender stream answers = .ok result ∧
      t = { s with
        sender := { s.sender with
          streams := s.sender.streams.set i result.stream, pendingFiles := result.pendingFiles }
        wire := Function.update s.wire i (s.wire i ++ result.accepted.toList)
        unacked := Function.update s.unacked i (s.unacked i || result.accepted.isSome)
        fetched := s.fetched ++ fetchedIn i result.stream } := by
  obtain ⟨stream, hstream, h⟩ := Option.bind_eq_some_iff.mp h
  obtain ⟨result, hresult, h⟩ := Option.bind_eq_some_iff.mp h
  exact ⟨stream, result, hstream, Fault.toOption_eq_some.mp hresult, (Option.some.inj h).symm⟩

theorem accept_inv {s t : FileSession} {i : Nat} (h : s.accept i = some t) :
    i < s.sender.streams.length ∧ i ∉ s.peers ∧
      t = { s with receiver := s.receiver.dataListenCallback, peers := s.peers ++ [i] } := by
  unfold accept at h
  split at h
  · rename_i hopen
    exact ⟨hopen.1, hopen.2.1, (Option.some.inj h).symm⟩
  · exact absurd h (by simp)

theorem deliver_inv {density : Density} {s t : FileSession} {j : Nat} {answers : FileAnswers}
    (h : deliver density s j answers = some t) : ∃ i block receiver disk, s.peers[j]? = some i ∧
      (s.wire i)[s.handled i]? = some block ∧
      s.receiver.handleReceivedFileData s.disk density j block answers = .ok (receiver, disk) ∧
      t = { s with
        receiver := receiver, disk := disk, handled := Function.update s.handled i (s.handled i + 1) } := by
  obtain ⟨i, hpeer, h⟩ := Option.bind_eq_some_iff.mp h
  obtain ⟨block, hblock, h⟩ := Option.bind_eq_some_iff.mp h
  obtain ⟨⟨receiver, disk⟩, hhandle, h⟩ := Option.bind_eq_some_iff.mp h
  exact ⟨i, block, receiver, disk, hpeer, hblock, Fault.toOption_eq_some.mp hhandle, (Option.some.inj h).symm⟩

theorem getElem?_set_cases {streams : List FileStream} {i k : Nat} {stream changed x : FileStream}
    (hi : streams[i]? = some stream) (hx : (streams.set i changed)[k]? = some x) :
    (k = i ∧ x = changed) ∨ (k ≠ i ∧ streams[k]? = some x) := by
  by_cases hk : k = i
  · subst hk
    rw [List.getElem?_set_self (List.getElem?_eq_some_iff.mp hi).1] at hx
    exact .inl ⟨rfl, (Option.some.inj hx).symm⟩
  · rw [List.getElem?_set_ne (Ne.symm hk)] at hx
    exact .inr ⟨hk, hx⟩

theorem isStreamDone_streams (test : IperfFileTransfer) : test.isStreamDone.2.streams = test.streams := by
  unfold isStreamDone
  split
  · rfl
  split
  · rfl
  split <;> rfl

theorem stop_streams (test : IperfFileTransfer) : test.stop.streams = test.streams := by
  unfold IperfFileTransfer.stop
  split <;> rfl

theorem clearStreams_inv {senderDisk : Disk} {density : Density} {s t : FileSession}
    (hstep : (machine senderDisk density).step s .clearStreams = some t) :
    t = { s with sender := s.sender.clearStreams } := by
  change (if _ then _ else _) = _ at hstep
  split at hstep
  · exact (Option.some.inj hstep).symm
  · exact absurd hstep (by simp)

def Action.atReceiver : Action → Bool
  | .accept _ | .receiverEvent .. | .deliver .. | .receiverPoll => true
  | _ => false

theorem sender_unchanged {senderDisk : Disk} {density : Density} {s t : FileSession} {a : Action}
    (hstep : (machine senderDisk density).step s a = some t) (ha : a.atReceiver = true) :
    t.sender = s.sender ∧ t.wire = s.wire ∧ t.unacked = s.unacked ∧ t.fetched = s.fetched := by
  cases a with
  | event | thread | poll | stop | clearStreams => exact absurd ha Bool.false_ne_true
  | accept k =>
    obtain ⟨_, _, rfl⟩ := accept_inv hstep
    exact ⟨rfl, rfl, rfl, rfl⟩
  | receiverEvent j event =>
    obtain ⟨_, _, rfl⟩ := Option.map_eq_some_iff.mp hstep
    exact ⟨rfl, rfl, rfl, rfl⟩
  | deliver j answers =>
    obtain ⟨_, _, _, _, _, _, _, rfl⟩ := deliver_inv hstep
    exact ⟨rfl, rfl, rfl, rfl⟩
  | receiverPoll =>
    obtain rfl := Option.some.inj hstep
    exact ⟨rfl, rfl, rfl, rfl⟩

theorem stream_moved {senderDisk : Disk} {density : Density} {s t : FileSession} {a : Action} {i : Nat} {next : FileStream}
    (hstep : (machine senderDisk density).step s a = some t) (hnext : t.sender.streams[i]? = some next) :
    ∃ stream, s.sender.streams[i]? = some stream ∧ Moved senderDisk density s i stream a next := by
  have hsame (ha : (∀ event, a ≠ .event i event) ∧ ∀ answers, a ≠ .thread i answers)
      (h : s.sender.streams[i]? = some next) :
      ∃ stream, s.sender.streams[i]? = some stream ∧ Moved senderDisk density s i stream a next :=
    ⟨next, h, .other ha.1 ha.2⟩
  cases a with
  | event k event =>
    obtain ⟨hunacked, sender, hcallback, rfl⟩ := event_inv hstep
    rcases connectionCallback_cases hcallback with ⟨stream, changed, hstream, hchanged, rfl⟩ | ⟨rfl, hnone⟩ | ⟨rfl, hquiet⟩
    · rcases getElem?_set_cases hstream hnext with ⟨rfl, rfl⟩ | ⟨hk, hnext⟩
      · exact ⟨stream, hstream, .event hchanged hunacked⟩
      · exact hsame ⟨fun event h => hk (Action.event.inj h).1.symm, fun _ h => Action.noConfusion h⟩ hnext
    · refine hsame ⟨fun event h => ?_, fun _ h => Action.noConfusion h⟩ hnext
      rw [(Action.event.inj h).1] at hnone
      exact absurd (hnone.symm.trans hnext) (by simp)
    · by_cases hk : k = i
      · subst hk
        exact ⟨next, hnext, .event (hquiet next) hunacked⟩
      · exact hsame ⟨fun event h => hk (Action.event.inj h).1, fun _ h => Action.noConfusion h⟩ hnext
  | thread k answers =>
    obtain ⟨stream, result, hstream, hresult, rfl⟩ := thread_inv hstep
    rcases getElem?_set_cases hstream hnext with ⟨rfl, rfl⟩ | ⟨hk, hnext⟩
    · exact ⟨stream, hstream, .thread hresult⟩
    · exact hsame ⟨fun _ h => Action.noConfusion h, fun answers h => hk (Action.thread.inj h).1.symm⟩ hnext
  | poll =>
    obtain rfl := Option.some.inj hstep
    refine hsame ⟨fun _ h => Action.noConfusion h, fun _ h => Action.noConfusion h⟩ ?_
    rw [← hnext]
    exact congrArg (·[i]?) (isStreamDone_streams s.sender).symm
  | stop =>
    obtain rfl := Option.some.inj hstep
    refine hsame ⟨fun _ h => Action.noConfusion h, fun _ h => Action.noConfusion h⟩ ?_
    rw [← hnext]
    exact congrArg (·[i]?) (stop_streams s.sender).symm
  | clearStreams =>
    obtain rfl := clearStreams_inv hstep
    exact absurd hnext (by simp [IperfFileTransfer.clearStreams])
  | accept | receiverEvent | deliver | receiverPoll =>
    rw [(sender_unchanged hstep rfl).1] at hnext
    exact hsame ⟨fun _ h => Action.noConfusion h, fun _ h => Action.noConfusion h⟩ hnext

theorem unsent_of_not_thread {senderDisk : Disk} {density : Density} {s t : FileSession} {a : Action}
    (hstep : (machine senderDisk density).step s a = some t) (ha : ∀ i answers, a ≠ .thread i answers) :
    t.wire = s.wire ∧ t.fetched = s.fetched ∧ ∀ i, t.unacked i = true → s.unacked i = true := by
  cases a with
  | thread i answers => exact absurd rfl (ha i answers)
  | event k event =>
    obtain ⟨_, _, _, rfl⟩ := event_inv hstep
    refine ⟨rfl, rfl, fun i hunacked => ?_⟩
    dsimp only at hunacked
    split at hunacked
    · by_cases hk : i = k
      · rw [hk, Function.update_self] at hunacked
        exact absurd hunacked Bool.false_ne_true
      · rwa [Function.update_of_ne hk] at hunacked
    · exact hunacked
  | poll | stop =>
    obtain rfl := Option.some.inj hstep
    exact ⟨rfl, rfl, fun _ => id⟩
  | clearStreams =>
    obtain rfl := clearStreams_inv hstep
    exact ⟨rfl, rfl, fun _ => id⟩
  | accept | receiverEvent | deliver | receiverPoll =>
    obtain ⟨_, hwire, hunacked, hfetched⟩ := sender_unchanged hstep rfl
    exact ⟨hwire, hfetched, fun i h => hunacked ▸ h⟩

theorem isStreamDone_testConfig (test : IperfFileTransfer) : test.isStreamDone.2.testConfig = test.testConfig := by
  unfold isStreamDone
  split
  · rfl
  split
  · rfl
  split <;> rfl

theorem testConfig_step {senderDisk : Disk} {density : Density} {s t : FileSession} {a : Action}
    (hstep : (machine senderDisk density).step s a = some t) : t.sender.testConfig = s.sender.testConfig := by
  cases a with
  | event k event =>
    obtain ⟨_, sender, hcallback, rfl⟩ := event_inv hstep
    rcases connectionCallback_cases hcallback with ⟨_, _, _, _, rfl⟩ | ⟨rfl, _⟩ | ⟨rfl, _⟩ <;> rfl
  | thread k answers =>
    obtain ⟨_, _, _, _, rfl⟩ := thread_inv hstep
    rfl
  | poll =>
    obtain rfl := Option.some.inj hstep
    exact isStreamDone_testConfig s.sender
  | stop =>
    obtain rfl := Option.some.inj hstep
    change s.sender.stop.testConfig = _
    unfold IperfFileTransfer.stop
    split <;> rfl
  | clearStreams =>
    obtain rfl := clearStreams_inv hstep
    rfl
  | accept | receiverEvent | deliver | receiverPoll => rw [(sender_unchanged hstep rfl).1]

end FileSession

end BatsIperf
