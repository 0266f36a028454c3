import BatsIperf.FileTransfer.IperfFileTransfer

/-!
# What the handlers of a file transfer do

The forms of the control messages, and what the request and its response do to the end that handles them.
-/

namespace BatsIperf

open Octets

namespace IperfFileTransfer

theorem message_eq {test : IperfFileTransfer} (hid : test.testId ≠ 0) (header : IperfControlData) {body : Octets}
    (hfit : 32 + body.length ≤ 300) :
    test.message header body = .ok (header.encode ++ (body ++ List.replicate (300 - (32 + body.length)) 0)) := by
  have hlength : (header.encode ++ body).length = 32 + body.length := by
    rw [List.length_append, IperfControlData.length_encode]
  rw [message, Fault.require_of_true hid, Fault.ok_bind, fill_eq (hlength.trans_le hfit), hlength, List.append_assoc,
    Fault.need_some]

theorem sendFileTransferRequest_eq {test : IperfFileTransfer} (hid : test.testId ≠ 0) (hctrl : test.ctrlChn = true) :
    test.sendFileTransferRequest = .ok ({ test with state := .testExchangeParameters },
      [test.requestHeader.encode ++ (test.testConfig.serialize ++ List.replicate 256 0)]) := by
  have hfit : 32 + test.testConfig.serialize.length ≤ 300 := by
    rw [TestConfig.length_serialize]
    omega
  rw [sendFileTransferRequest, message_eq hid _ hfit, Fault.ok_bind, Fault.require_of_true hctrl, Fault.ok_bind,
    TestConfig.length_serialize]
  rfl

theorem sendResponse_eq (test : IperfFileTransfer) (hid : test.testId ≠ 0) (hctrl : test.ctrlChn = true) (denied : Bool) :
    test.sendResponse denied = .ok [(test.responseHeader denied).encode ++ List.replicate 268 0] := by
  rw [sendResponse, message_eq hid _ (by decide), Fault.ok_bind, Fault.require_of_true hctrl, Fault.ok_bind]
  rfl

/-- The number of bytes the receiver compares with its free space. -/
def announcedBytes (config : TestConfig) : Nat := Narrowing.unsigned 64 config.totalBytesInFiles

theorem announcedBytes_eq (test : IperfFileTransfer) :
    test.requestHeader.param1.toNat * 2 ^ 32 + test.requestHeader.param2.toNat = announcedBytes test.testConfig := by
  have hhigh := Narrowing.unsigned_lt 32 (test.testConfig.totalBytesInFiles / 2 ^ 32)
  have hlow := Narrowing.unsigned_lt 32 test.testConfig.totalBytesInFiles
  rw [requestHeader, UInt32.toNat_ofNat_of_lt' hhigh, UInt32.toNat_ofNat_of_lt' hlow, announcedBytes]
  simp only [Narrowing.unsigned]
  omega

/-- The receiver once it has taken over a request. -/
def takeOver (server : IperfFileTransfer) (sent : TestConfig) (param0 : UInt32) : IperfFileTransfer :=
  { server with
    ctrlChn := true
    dataChnListener := some (dataConfiguration sent.received.protocol)
    testConfig := receiverConfig server.testConfig sent.received param0 }

theorem handleControlMessage_request {client server : IperfFileTransfer} (hid : client.testId ≠ 0)
    (hsame : client.testId = server.testId) (available : Option Nat) (rest : Octets) :
    server.handleControlMessage (client.requestHeader.encode ++ (client.testConfig.serialize ++ rest)) available
      = .ok (if lacksSpace available (announcedBytes client.testConfig) then { server with ctrlChn := true }
          else takeOver server client.testConfig client.requestHeader.param0,
        [(server.responseHeader (lacksSpace available (announcedBytes client.testConfig))).encode
          ++ List.replicate 268 0]) := by
  have hid' : client.requestHeader.testId = server.testId := hsame
  have hrequest : client.requestHeader.actionCode = 1 := rfl
  have hserver : server.testId ≠ 0 := hsame ▸ hid
  have hdecode := IperfControlData.decode_encode client.requestHeader (client.testConfig.serialize ++ rest)
  rw [handleControlMessage_decode hdecode, Fault.require_of_true hid', Fault.ok_bind,
    Fault.require_of_true (.inl hrequest), Fault.ok_bind, hrequest, if_neg (by decide),
    handleFileTransferRequest_decode hdecode, TestConfig.deserialize_default, Fault.need_some, Fault.ok_bind,
    announcedBytes_eq]
  dsimp only
  cases lacksSpace available (announcedBytes client.testConfig) with
  | true =>
    rw [if_pos rfl, if_pos rfl, sendResponse_eq { server with ctrlChn := true } hserver rfl]
    rfl
  | false =>
    have hsend := sendResponse_eq (takeOver server client.testConfig client.requestHeader.param0) hserver rfl false
    rw [if_neg Bool.false_ne_true, if_neg Bool.false_ne_true]
    change (IperfFileTransfer.sendResponse (takeOver server client.testConfig client.requestHeader.param0) false >>= _) = _
    rw [hsend]
    rfl

theorem handleControlMessage_response {client server : IperfFileTransfer} (hsame : server.testId = client.testId)
    (denied : Bool) (rest : Octets) (available : Option Nat) :
    client.handleControlMessage ((server.responseHeader denied).encode ++ rest) available
      = if denied then .ok ({ client with ctrlChn := false }.stop, [])
        else do
          let client ← client.onRecvResponse
          return (client, []) := by
  have hid : (server.responseHeader denied).testId = client.testId := hsame
  have hresponse : (server.responseHeader denied).actionCode = 4 := rfl
  rw [handleControlMessage_decode (IperfControlData.decode_encode _ rest), Fault.require_of_true hid, Fault.ok_bind,
    Fault.require_of_true (.inr hresponse), Fault.ok_bind, hresponse, if_pos rfl]
  cases denied with
  | true => rfl
  | false => rfl

/-! ### The events of a data stream -/

/-- What an event does to its stream where the callback returns. -/
inductive StreamMove (stream : FileStream) : ConnEvent → FileStream → Prop
  | retried : StreamMove stream .timeout { stream with retryCnt := stream.retryCnt + 1 }
  | givenUp : StreamMove stream .timeout stream
  | closed {event : ConnEvent} (hevent : event = .closed ∨ event = .shutdownByPeer) :
    StreamMove stream event { stream with stream := false }
  | established {length : Int} (hthread : stream.thread = .notStarted) :
    StreamMove stream (.established length)
      { stream with stream := true, isConnected := true, idealBufferLength := length, thread := .outerHead }
  | full : StreamMove stream .bufferFull { stream with isWritable := false }
  | writable : StreamMove stream .writable { stream with isWritable := true }
  | measured {length : Int} : StreamMove stream (.idealBufferLength length) { stream with idealBufferLength := length }
  | acked (hdone : stream.isDone = true) : StreamMove stream .allDataAcked { stream with allAcked := true }
  | ackedEarly (hdone : stream.isDone = false) : StreamMove stream .allDataAcked stream
  | sendDataError : StreamMove stream .sendDataError { stream with hasErrInSend := true }
  | other {event : ConnEvent} (hevent : event ∈ [.none, .failed, .sendComplete, .error, .alreadyConnected]) :
    StreamMove stream event stream

theorem streamEvent_move {test : IperfFileTransfer} {event : ConnEvent} {stream next : FileStream}
    (h : test.streamEvent event stream = .ok next) : StreamMove stream event next := by
  cases event with
  | none | failed | sendComplete | error | alreadyConnected =>
    obtain rfl := Except.ok.inj h
    exact .other (by simp)
  | closed | shutdownByPeer =>
    obtain rfl := Except.ok.inj h
    exact .closed (by simp)
  | bufferFull =>
    obtain rfl := Except.ok.inj h
    exact .full
  | writable =>
    obtain rfl := Except.ok.inj h
    exact .writable
  | idealBufferLength =>
    obtain rfl := Except.ok.inj h
    exact .measured
  | sendDataError =>
    obtain rfl := Except.ok.inj h
    exact .sendDataError
  | timeout =>
    simp only [streamEvent] at h
    split at h
    · obtain ⟨_, _, h⟩ := Fault.bind_eq_ok.mp h
      obtain rfl := Fault.pure_eq_ok.mp h
      exact .retried
    · obtain rfl := Fault.pure_eq_ok.mp h
      exact .givenUp
  | established length =>
    obtain ⟨_, hthread, h⟩ := Fault.bind_eq_ok.mp h
    obtain rfl := Fault.pure_eq_ok.mp h
    exact .established (Fault.require_eq_ok.mp hthread)
  | allDataAcked =>
    obtain rfl := Except.ok.inj h
    split
    · rename_i hdone
      exact .acked hdone
    · rename_i hdone
      exact .ackedEarly (Bool.eq_false_iff.mpr hdone)

/-- An event starts the thread of a stream or leaves it alone, and only the thread stores `is_done`. -/
structure Notified (event : ConnEvent) (stream next : FileStream) : Prop where
  isDone : next.isDone = stream.isDone
  allAcked : next.allAcked = (stream.allAcked || (decide (event = .allDataAcked) && stream.isDone))
  hasErrInSend : next.hasErrInSend = (stream.hasErrInSend || decide (event = .sendDataError))
  thread : next.thread = stream.thread ∨ stream.thread = .notStarted ∧ next.thread = .outerHead
  fileWriter : next.fileWriter = stream.fileWriter

theorem streamEvent_notified {test : IperfFileTransfer} {event : ConnEvent} {stream next : FileStream}
    (h : test.streamEvent event stream = .ok next) : Notified event stream next := by
  cases streamEvent_move h with
  | established hthread =>
    constructor
    case thread => exact .inr ⟨hthread, rfl⟩
    all_goals simp
  | closed hevent =>
    rcases hevent with rfl | rfl <;> constructor <;> simp
  | other hevent =>
    simp only [List.mem_cons, List.not_mem_nil, or_false] at hevent
    rcases hevent with rfl | rfl | rfl | rfl | rfl <;> constructor <;> simp
  | acked hdone | ackedEarly hdone => constructor <;> simp [hdone]
  | retried | givenUp | full | writable | measured | sendDataError => constructor <;> simp

end IperfFileTransfer

end BatsIperf
