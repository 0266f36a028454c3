import BatsIperf.FileTransfer.ClosedStreams
import BatsIperf.FileTransfer.Completion

/-!
# The data connections of a file transfer

One object, sender or receiver, with the connections that were made for its streams. The user pointer of a connection is the address of the `id` of a stream, and the callback reads the number of the stream through it. A stream lives until `Stop` empties the vector; what the library still delivers on its connection afterwards finds the pointer as it was.

Everything the object can be called for is a step, in any order: the control channel, the listener for data streams, events and blocks on any connection, the threads, the main loop and `Stop`. The callback of a data connection takes a step for the read of the number and one for each access to the streams, which most branches make without the mutex, so that `Stop` may come between any two of them.
-/

namespace BatsIperf

open Octets IperfFileTransfer

/-- The branch of the callback for the event reads the number of the stream. -/
def ConnEvent.namesStream : ConnEvent → Bool
  | .none | .failed | .sendComplete | .error | .alreadyConnected => false
  | _ => true

/-- What the library delivers on a data connection. -/
inductive DataEvent
  | conn (event : ConnEvent)
  | received (data : Octets) (answers : FileAnswers)
  deriving DecidableEq

namespace DataEvent

def namesStream : DataEvent → Bool
  | .conn event => event.namesStream
  | .received .. => true

/-- The stream is looked up without a comparison of its number with their number. -/
def indexes : DataEvent → Bool
  | .conn event => event.namesStream && !event.closes
  | .received .. => false

end DataEvent

/-- The user pointer of a data connection: the place of its stream among the streams, and whether the stream has been destroyed. -/
structure Channel where
  position : Nat
  freed : Bool := false
  deriving DecidableEq

/-- A call of the callback that has read the number of its stream, with the accesses to the streams it has made since. -/
structure Callback where
  k : Nat
  event : DataEvent
  streamId : Int
  accesses : Nat := 0
  deriving DecidableEq

def Callback.next (callback : Callback) : Callback := { callback with accesses := callback.accesses + 1 }

structure DataChannels where
  test : IperfFileTransfer
  disk : Disk
  channels : List Channel := []
  callbacks : List Callback := []
  /-- `Stop` has emptied the streams, which it does once. -/
  isCleared : Bool := false

namespace DataChannels

inductive Action
  | start (keyFilesExist : Bool)
  | ctrlEstablished
  | ctrlReceived (bytes : Octets) (available : Option Nat)
  | ctrlClosed
  | accept
  | data (k : Nat) (event : DataEvent)
  | access (j : Nat)
  | thread (i : Nat) (answers : ThreadAnswers)
  | poll
  | stop
  | clearStreams
  deriving DecidableEq

/-- The number of the stream, read as an `int` through the user pointer. -/
def streamId (s : DataChannels) (channel : Channel) : Except Fault Int := do
  Fault.require .outOfBounds (channel.freed = false)
  let stream ← Fault.need .outOfBounds s.test.streams[channel.position]?
  return Narrowing.signed 32 stream.id.toNat

/-- The callback starts with the number of the stream, where its branch reads it. -/
def onData (s : DataChannels) (k : Nat) (channel : Channel) (event : DataEvent) : Except Fault DataChannels :=
  if event.namesStream then do
    let id ← s.streamId channel
    return { s with callbacks := s.callbacks ++ [{ k := k, event := event, streamId := id }] }
  else return s

/-- One access to the streams, and whether the branch makes another one. An `int` that indexes the streams is converted to the unsigned type of 64 bits. -/
def access (density : Density) (s : DataChannels) (callback : Callback) : Except Fault (DataChannels × Bool) :=
  let index := Narrowing.unsigned 64 callback.streamId
  match callback.event, callback.accesses with
  | .conn .timeout, 0 => do
    let stream ← Fault.need .outOfBounds s.test.streams[index]?
    return (s, decide (stream.retryCnt < 3))
  | .conn .timeout, 1 => do
    -- the connection is opened again with the address of the number that is looked up here
    let _ ← Fault.need .outOfBounds s.test.streams[index]?
    Fault.require .nullPointer s.test.dataChnConnector.isSome
    return ({ s with channels := s.channels ++ [{ position := index }] }, true)
  | .conn .timeout, _ => do
    let test ← s.test.onStream index fun stream => .ok { stream with retryCnt := stream.retryCnt + 1 }
    return ({ s with test := test }, false)
  | .conn .writable, 0 => do
    let test ← s.test.onStream index (s.test.streamEvent .writable)
    return ({ s with test := test }, true)
  | .conn .writable, _ => do
    let _ ← Fault.need .outOfBounds s.test.streams[index]?
    return (s, false)
  | .conn .allDataAcked, 0 => do
    let stream ← Fault.need .outOfBounds s.test.streams[index]?
    return (s, stream.isDone)
  | .conn .allDataAcked, _ => do
    let test ← s.test.onStream index fun stream => .ok { stream with allAcked := true }
    return ({ s with test := test }, false)
  | .conn event, _ => do
    let test ← s.test.connectionCallback index event
    return ({ s with test := test }, false)
  | .received data answers, _ => do
    let (test, disk) ← s.test.handleReceivedFileData s.disk density index data answers
    return ({ s with test := test, disk := disk }, false)

def proceed (density : Density) (s : DataChannels) (j : Nat) : Option DataChannels := do
  let callback ← s.callbacks[j]?
  let (t, goesOn) ← (access density s callback).toOption
  return { t with callbacks := if goesOn then s.callbacks.set j callback.next else s.callbacks.eraseIdx j }

/-- The connections of a response are opened with the addresses of the numbers of the first streams of the vector. -/
def openedChannels (count : Nat) : List Channel := (List.range count).map fun i => { position := i }

def receive (s : DataChannels) (bytes : Octets) (available : Option Nat) : Option DataChannels := do
  let (test, _) ← (s.test.handleControlMessage bytes available).toOption
  return { s with
    test := test
    channels := s.channels ++ openedChannels (test.streams.length - s.test.streams.length) }

def thread (density : Density) (s : DataChannels) (i : Nat) (answers : ThreadAnswers) : Option DataChannels := do
  let stream ← s.test.streams[i]?
  let result ← (threadStep s.disk density s.test stream answers).toOption
  return { s with
    test := { s.test with streams := s.test.streams.set i result.stream, pendingFiles := result.pendingFiles } }

def accept (s : DataChannels) : Option DataChannels :=
  if s.test.dataChnListener.isSome then
    some { s with
      test := s.test.dataListenCallback
      channels := s.channels ++ [{ position := s.test.streams.length }] }
  else none

/-- The end of `Stop`, once the threads have ended: the streams are destroyed. -/
def clear (s : DataChannels) : DataChannels :=
  { s with
    test := s.test.clearStreams
    channels := s.channels.map fun channel => { channel with freed := true }
    isCleared := true }

def step (density : Density) (s : DataChannels) : Action → Option DataChannels
  | .start keyFilesExist => some { s with test := (s.test.start keyFilesExist).2 }
  | .ctrlEstablished => s.test.ctrlChannelEstablished.toOption.map fun result => { s with test := result.1 }
  | .ctrlReceived bytes available => s.receive bytes available
  | .ctrlClosed => some { s with test := { s.test with ctrlChn := false }.stop }
  | .accept => s.accept
  | .data k event => do
    let channel ← s.channels[k]?
    (onData s k channel event).toOption
  | .access j => proceed density s j
  | .thread i answers => thread density s i answers
  | .poll => some { s with test := s.test.testFinishState.2 }
  | .stop => some { s with test := s.test.stop }
  | .clearStreams =>
    if s.test.isStopped ∧ s.isCleared = false ∧ s.test.streams.all FileSession.joinable then some s.clear else none

def machine (density : Density) : Machine DataChannels Action where
  step := step density

inductive IsNew : DataChannels → Prop
  | sender (config : TestConfig) (testId : UInt32) (disk : Disk) :
    IsNew { test := .sender disk config testId, disk := disk }
  | receiver (config : TestConfig) (testId : UInt32) (disk : Disk) :
    IsNew { test := .receiver config testId, disk := disk }

/-! ### What a step does to the streams and to the connections -/

/-- The numbers of the streams, in the order of the vector. -/
def ids (s : DataChannels) : List UInt32 := s.test.streams.map FileStream.id

/-- The streams keep their numbers, are joined by new ones, or are destroyed. -/
inductive Rearranged (s : DataChannels) : Action → DataChannels → Prop
  | same {a : Action} {t : DataChannels} (ha : a ≠ .clearStreams) (hids : t.ids = s.ids)
      (hchannels : t.channels = s.channels) : Rearranged s a t
  | retried {a : Action} {t : DataChannels} {index : Nat} (ha : a ≠ .clearStreams) (hids : t.ids = s.ids)
      (hindex : index < s.ids.length) (hchannels : t.channels = s.channels ++ [{ position := index }]) : Rearranged s a t
  | opened {a : Action} {t : DataChannels} {count : Nat} (ha : a ≠ .clearStreams)
      (hids : t.ids = s.ids ++ (List.range count).map .ofNat)
      (hchannels : t.channels = s.channels ++ openedChannels count) : Rearranged s a t
  | accepted {a : Action} {t : DataChannels} (ha : a ≠ .clearStreams)
      (hids : t.ids = s.ids ++ [.ofNat s.ids.length])
      (hchannels : t.channels = s.channels ++ [{ position := s.ids.length }]) : Rearranged s a t
  | cleared : Rearranged s .clearStreams s.clear

variable {density : Density} {s t : DataChannels} {a : Action}

theorem map_id_set {streams : List FileStream} {i : Nat} {stream next : FileStream} (hstream : streams[i]? = some stream)
    (hid : next.id = stream.id) : (streams.set i next).map FileStream.id = streams.map FileStream.id := by
  obtain ⟨hi, rfl⟩ := List.getElem?_eq_some_iff.mp hstream
  have hlength : i < (streams.map FileStream.id).length := by rwa [List.length_map]
  have hget : (streams.map FileStream.id)[i] = streams[i].id := List.getElem_map _
  rw [List.map_set, hid, ← hget, List.set_getElem_self]

theorem streamEvent_id {test : IperfFileTransfer} {event : ConnEvent} {stream next : FileStream}
    (h : test.streamEvent event stream = .ok next) : next.id = stream.id := by
  cases streamEvent_move h <;> rfl

theorem connectionCallback_ids {test next : IperfFileTransfer} {i : Nat} {event : ConnEvent}
    (h : test.connectionCallback i event = .ok next) :
    next.streams.map FileStream.id = test.streams.map FileStream.id := by
  rcases FileSession.connectionCallback_cases h with ⟨stream, changed, hstream, hchanged, rfl⟩ | ⟨rfl, _⟩ | ⟨rfl, _⟩
  · exact map_id_set hstream (streamEvent_id hchanged)
  · rfl
  · rfl

theorem handleReceivedFileData_ids {test next : IperfFileTransfer} {disk after : Disk} {i : Nat} {data : Octets}
    {answers : FileAnswers} (h : test.handleReceivedFileData disk density i data answers = .ok (next, after)) :
    next.streams.map FileStream.id = test.streams.map FileStream.id := by
  cases hstream : test.streams[i]? with
  | none => rw [handleReceivedFileData_ignored hstream h]
  | some stream =>
    cases handleReceivedFileData_wrote hstream h with
    | ongoing written hid => exact map_id_set hstream hid
    | finished written hid =>
      unfold finishFile
      split <;> exact map_id_set hstream hid

theorem handleControlMessage_streams {test next : IperfFileTransfer} {bytes : Octets} {available : Option Nat}
    {sent : List Octets} (h : test.handleControlMessage bytes available = .ok (next, sent)) :
    next.streams = test.streams ∨
      ∃ count, next.streams = test.streams ++ (List.range count).map fun i => ({ id := .ofNat i } : FileStream) := by
  rcases handleControlMessage_cases h with hopened | rfl | hrequest
  · rw [FileSession.onRecvResponse_eq hopened]
    exact .inr ⟨_, rfl⟩
  · exact .inl (FileSession.stop_streams _)
  · obtain ⟨_, _, _, hrequest⟩ := handleFileTransferRequest_cases hrequest
    rcases hrequest with rfl | ⟨_, rfl⟩
    · exact .inl rfl
    · exact .inl rfl

theorem receive_inv {bytes : Octets} {available : Option Nat} (h : s.receive bytes available = some t) :
    ∃ count, t.ids = s.ids ++ (List.range count).map .ofNat ∧ t.channels = s.channels ++ openedChannels count := by
  obtain ⟨⟨test, sent⟩, hreceive, h⟩ := Option.bind_eq_some_iff.mp h
  obtain rfl := Option.some.inj h
  have hadded : ∃ count, test.streams = s.test.streams ++
      (List.range count).map fun i => ({ id := .ofNat i } : FileStream) := by
    rcases handleControlMessage_streams (Fault.toOption_eq_some.mp hreceive) with hsame | hopened
    · exact ⟨0, hsame.trans (List.append_nil _).symm⟩
    · exact hopened
  obtain ⟨count, hadded⟩ := hadded
  refine ⟨count, ?_, ?_⟩
  · change test.streams.map FileStream.id = s.test.streams.map FileStream.id ++ _
    rw [hadded, List.map_append, List.map_map]
    rfl
  · dsimp only
    rw [hadded, List.length_append, List.length_map, List.length_range, Nat.add_sub_cancel_left]

theorem onData_inv {k : Nat} {channel : Channel} {event : DataEvent} (h : onData s k channel event = .ok t) :
    t = s ∨ ∃ id, s.streamId channel = .ok id ∧
      t = { s with callbacks := s.callbacks ++ [{ k := k, event := event, streamId := id }] } := by
  unfold onData at h
  split at h
  · obtain ⟨id, hid, h⟩ := Fault.bind_eq_ok.mp h
    exact .inr ⟨id, hid, (Fault.pure_eq_ok.mp h).symm⟩
  · exact .inl (Fault.pure_eq_ok.mp h).symm

theorem onStream_ids {test next : IperfFileTransfer} {i : Nat} {f : FileStream → Except Fault FileStream}
    (hf : ∀ stream changed, f stream = .ok changed → changed.id = stream.id) (h : test.onStream i f = .ok next) :
    next.streams.map FileStream.id = test.streams.map FileStream.id := by
  obtain ⟨stream, hstream, h⟩ := Fault.bind_eq_ok.mp h
  obtain ⟨changed, hchanged, h⟩ := Fault.bind_eq_ok.mp h
  obtain rfl := Fault.pure_eq_ok.mp h
  exact map_id_set (Fault.need_eq_ok.mp hstream) (hf stream changed hchanged)

/-- What an access leaves: no number of a stream is changed, and a connection that has timed out may be opened again. -/
structure Accessed (s t : DataChannels) : Prop where
  ids : t.ids = s.ids
  callbacks : t.callbacks = s.callbacks
  channels : t.channels = s.channels ∨
    ∃ index, index < s.ids.length ∧ t.channels = s.channels ++ [{ position := index }]

theorem access_inv {callback : Callback} {goesOn : Bool} (h : access density s callback = .ok (t, goesOn)) :
    Accessed s t := by
  have hunchanged {stream : Option FileStream} {found : FileStream → Bool}
      (h : (Fault.need .outOfBounds stream).bind (fun stream => pure (s, found stream)) = .ok (t, goesOn)) :
      Accessed s t := by
    obtain ⟨_, _, h⟩ := Fault.bind_eq_ok.mp h
    obtain ⟨rfl, _⟩ := Prod.mk.inj (Fault.pure_eq_ok.mp h)
    exact ⟨rfl, rfl, .inl rfl⟩
  have htest {result : Except Fault IperfFileTransfer} {more : Bool}
      (hids : ∀ test, result = .ok test → test.streams.map FileStream.id = s.test.streams.map FileStream.id)
      (h : result.bind (fun test => pure ({ s with test := test }, more)) = .ok (t, goesOn)) : Accessed s t := by
    obtain ⟨test, hresult, h⟩ := Fault.bind_eq_ok.mp h
    obtain ⟨rfl, _⟩ := Prod.mk.inj (Fault.pure_eq_ok.mp h)
    exact ⟨hids test hresult, rfl, .inl rfl⟩
  unfold access at h
  dsimp only at h
  split at h
  · exact hunchanged h
  · obtain ⟨_, hstream, h⟩ := Fault.bind_eq_ok.mp h
    obtain ⟨_, _, h⟩ := Fault.bind_eq_ok.mp h
    obtain ⟨rfl, _⟩ := Prod.mk.inj (Fault.pure_eq_ok.mp h)
    refine ⟨rfl, rfl, .inr ⟨_, ?_, rfl⟩⟩
    rw [ids, List.length_map]
    exact (List.getElem?_eq_some_iff.mp (Fault.need_eq_ok.mp hstream)).1
  · refine htest (fun test => onStream_ids fun stream changed hchanged => ?_) h
    rw [← Except.ok.inj hchanged]
  · exact htest (fun test => onStream_ids fun stream changed hchanged => streamEvent_id hchanged) h
  · exact hunchanged h
  · exact hunchanged h
  · refine htest (fun test => onStream_ids fun stream changed hchanged => ?_) h
    rw [← Except.ok.inj hchanged]
  · exact htest (fun test => connectionCallback_ids) h
  · obtain ⟨⟨test, disk⟩, hhandle, h⟩ := Fault.bind_eq_ok.mp h
    obtain ⟨rfl, _⟩ := Prod.mk.inj (Fault.pure_eq_ok.mp h)
    exact ⟨handleReceivedFileData_ids hhandle, rfl, .inl rfl⟩

/-! ### A callback that nothing comes between -/

/-- The accesses of a branch in a row, at most as many. -/
def finish (density : Density) : Nat → DataChannels → Callback → Except Fault DataChannels
  | 0, s, _ => .ok s
  | n + 1, s, callback => do
    let (t, goesOn) ← access density s callback
    if goesOn then finish density n t callback.next else return t

/-- A connection that has timed out is opened again while its stream has tries left. -/
def retried (test : IperfFileTransfer) (event : ConnEvent) (index : Nat) : List Channel :=
  if event = .timeout ∧ test.streams[index]?.any fun stream => decide (stream.retryCnt < 3) then [{ position := index }]
  else []

theorem streams_set_self (test : IperfFileTransfer) {i : Nat} {stream : FileStream} (h : test.streams[i]? = some stream) :
    { test with streams := test.streams.set i stream } = test := by
  obtain ⟨hi, rfl⟩ := List.getElem?_eq_some_iff.mp h
  rw [List.set_getElem_self]

/-- Three accesses are enough, and together they are the callback of the whole event. -/
theorem finish_conn {event : ConnEvent} (hnames : event.namesStream = true) (k : Nat) (id : Int) :
    finish density 3 s { k := k, event := .conn event, streamId := id } = do
      let test ← s.test.connectionCallback (Narrowing.unsigned 64 id) event
      return { s with test := test, channels := s.channels ++ retried s.test event (Narrowing.unsigned 64 id) } := by
  have hretried (hother : event ≠ .timeout) :
      s.channels ++ retried s.test event (Narrowing.unsigned 64 id) = s.channels := by
    rw [retried, if_neg fun h => hother h.1, List.append_nil]
  cases event with
  | none | failed | sendComplete | error | alreadyConnected => cases hnames
  | closed | shutdownByPeer | established | sendDataError | bufferFull | idealBufferLength =>
    rw [hretried (by simp)]
    simp [finish, access]
  | writable =>
    rw [hretried (by simp)]
    cases hstream : s.test.streams[Narrowing.unsigned 64 id]? with
    | none =>
      simp [finish, access, connectionCallback, onStream, hstream, Fault.need]
      rfl
    | some stream =>
      have hi := (List.getElem?_eq_some_iff.mp hstream).1
      simp [finish, access, Callback.next, connectionCallback, onStream, streamEvent, hi]
  | allDataAcked =>
    rw [hretried (by simp)]
    cases hstream : s.test.streams[Narrowing.unsigned 64 id]? with
    | none =>
      simp [finish, access, connectionCallback, onStream, hstream, Fault.need]
      rfl
    | some stream =>
      have hself := streams_set_self s.test hstream
      cases hdone : stream.isDone with
      | true => simp [finish, access, Callback.next, connectionCallback, onStream, streamEvent, hstream, hdone]
      | false =>
        simp [finish, access, connectionCallback, onStream, streamEvent, hstream, hdone, hself]
        rfl
  | timeout =>
    cases hstream : s.test.streams[Narrowing.unsigned 64 id]? with
    | none =>
      simp [finish, access, connectionCallback, onStream, hstream, Fault.need]
      rfl
    | some stream =>
      have hself := streams_set_self s.test hstream
      by_cases htries : stream.retryCnt < 3
      · cases hconnector : s.test.dataChnConnector.isSome with
        | true =>
          simp [finish, access, Callback.next, connectionCallback, onStream, streamEvent, retried, hstream, htries,
            hconnector, Fault.require]
        | false =>
          simp [finish, access, Callback.next, connectionCallback, onStream, streamEvent, hstream, htries, hconnector,
            Fault.require]
          rfl
      · simp [finish, access, connectionCallback, onStream, streamEvent, retried, hstream, htries, hself]

theorem step_rearranged (hstep : (machine density).step s a = some t) : Rearranged s a t := by
  cases a with
  | start keyFilesExist =>
    obtain rfl := Option.some.inj hstep
    refine .same Action.noConfusion ?_ rfl
    cases keyFilesExist <;> rfl
  | ctrlEstablished =>
    obtain ⟨⟨test, sent⟩, hrequest, rfl⟩ := Option.map_eq_some_iff.mp hstep
    obtain ⟨_, rfl, _⟩ := FileSession.ctrlChannelEstablished_eq (Fault.toOption_eq_some.mp hrequest)
    exact .same Action.noConfusion rfl rfl
  | ctrlReceived bytes available =>
    obtain ⟨count, hids, hchannels⟩ := receive_inv hstep
    exact .opened Action.noConfusion hids hchannels
  | ctrlClosed =>
    obtain rfl := Option.some.inj hstep
    exact .same Action.noConfusion (congrArg (List.map FileStream.id) (FileSession.stop_streams _)) rfl
  | accept =>
    change s.accept = some t at hstep
    unfold accept at hstep
    split at hstep
    · obtain rfl := Option.some.inj hstep
      refine .accepted Action.noConfusion ?_ ?_
      · simp [ids, dataListenCallback]
      · simp [ids]
    · exact absurd hstep (by simp)
  | data k event =>
    obtain ⟨channel, _, hstep⟩ := Option.bind_eq_some_iff.mp hstep
    rcases onData_inv (Fault.toOption_eq_some.mp hstep) with rfl | ⟨_, _, rfl⟩
    · exact .same Action.noConfusion rfl rfl
    · exact .same Action.noConfusion rfl rfl
  | access j =>
    obtain ⟨callback, _, hstep⟩ := Option.bind_eq_some_iff.mp hstep
    obtain ⟨⟨u, goesOn⟩, haccess, hstep⟩ := Option.bind_eq_some_iff.mp hstep
    obtain rfl := Option.some.inj hstep
    obtain ⟨hids, _, hsame | ⟨index, hindex, hretried⟩⟩ := access_inv (Fault.toOption_eq_some.mp haccess)
    · exact .same Action.noConfusion hids hsame
    · exact .retried Action.noConfusion hids hindex hretried
  | thread i answers =>
    obtain ⟨stream, hstream, hstep⟩ := Option.bind_eq_some_iff.mp hstep
    obtain ⟨result, hresult, hstep⟩ := Option.bind_eq_some_iff.mp hstep
    obtain rfl := Option.some.inj hstep
    obtain ⟨_, _, hframe⟩ := (threadStep_stepped (Fault.toOption_eq_some.mp hresult)).frame
    have hid : result.stream.id = stream.id := by rw [hframe]
    exact .same Action.noConfusion (map_id_set hstream hid) rfl
  | poll =>
    obtain rfl := Option.some.inj hstep
    exact .same Action.noConfusion (congrArg (List.map FileStream.id) (FileSession.isStreamDone_streams s.test)) rfl
  | stop =>
    obtain rfl := Option.some.inj hstep
    exact .same Action.noConfusion (congrArg (List.map FileStream.id) (FileSession.stop_streams s.test)) rfl
  | clearStreams =>
    change (if _ then _ else _) = _ at hstep
    split at hstep
    · obtain rfl := Option.some.inj hstep
      exact .cleared
    · exact absurd hstep (by simp)

end DataChannels

end BatsIperf
