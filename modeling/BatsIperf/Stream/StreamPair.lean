import BatsIperf.Stream.Handover
import BatsIperf.Stream.ReadLengths

/-!
# A sending stream and the stream that accepts its connection

The two ends of one connection over a reliable protocol: what `SendData` accepts at one end arrives at the other, block by block and in the order in which it was accepted, and a connection that is lost only cuts the order off. The FIN-ACK comes back the same way.

Every other step of the two streams may come in between: the events, the steps of the sending thread, the calls of the two tests.
-/

namespace BatsIperf

open Octets

/-! ### What is read of a block -/

theorem wordAt_take {data : Octets} {length offset : Nat} {word : UInt64}
    (h : wordAt (data.take length) offset = .ok word) : wordAt data offset = .ok word := by
  by_cases hshort : (data.take length).length < offset + 8
  · rw [wordAt_short hshort] at h
    cases h
  · have hcut : offset + 8 ≤ min length data.length := by
      rw [List.length_take] at hshort
      omega
    have hdrop : (data.take length).drop offset = (data.drop offset).take (length - offset) := List.drop_take
    have hnext : nextWord ((data.drop offset).take (length - offset))
        = (nextWord (data.drop offset)).map fun read => (read.1, read.2.take (length - offset - 8)) := by
      have hlong : 8 ≤ (data.drop offset).length := by
        rw [List.length_drop]
        omega
      have hcutLong : 8 ≤ ((data.drop offset).take (length - offset)).length := by
        rw [List.length_take, List.length_drop]
        omega
      rw [nextWord, nextWord, nextLE, nextLE, next, next, if_pos hlong, if_pos hcutLong, List.take_take,
        min_eq_left (by omega), List.drop_take]
      rfl
    unfold wordAt at h ⊢
    rw [hdrop, hnext] at h
    cases hread : nextWord (data.drop offset) with
    | none =>
      rw [hread] at h
      cases h
    | some read =>
      rw [hread] at h
      exact h

theorem flagsAt_take {data : Octets} {length : Nat} {flags : TestFlags} (h : flagsAt (data.take length) = .ok flags) :
    flagsAt data = .ok flags := by
  obtain ⟨octet, hoctet, h⟩ := Fault.bind_eq_ok.mp h
  have hoctet : data[32]? = some octet := by
    have hread := Fault.need_eq_ok.mp hoctet
    rw [List.getElem?_take] at hread
    split at hread
    · exact hread
    · cases hread
  rw [flagsAt, octetAt, hoctet]
  exact h

theorem packet_eq_take (data : IperfData) (length : Nat) :
    data.packet length = (data.packet (max 72 length)).take length := by
  have hfill : max 72 length - 72 = length - 72 := by omega
  rw [IperfData.packet, IperfData.packet, hfill, List.take_take, min_eq_left (Nat.le_max_right 72 length)]

theorem length_packet_eq (data : IperfData) (length : Nat) : (data.packet length).length = length := by
  rw [packet_eq_take, List.length_take, length_packet (Nat.le_max_left 72 length),
    min_eq_left (Nat.le_max_right 72 length)]

/-- Where the flags of a packet can be read at all, they are those of the header. -/
theorem flagsAt_packet_of_ok {data : IperfData} {length : Nat} {flags : TestFlags}
    (h : flagsAt (data.packet length) = .ok flags) : flags =
      { grpId := data.header.grpId, last := data.header.last, ack := data.header.ack
        hasInterval := data.header.hasInterval } := by
  rw [packet_eq_take] at h
  exact Except.ok.inj ((flagsAt_take h).symm.trans (flagsAt_packet data (Nat.le_max_left 72 length)))

theorem wordAt_packet_of_ok {data : IperfData} {length : Nat} {word : UInt64} :
    (wordAt (data.packet length) 0 = .ok word → word = data.header.magic) ∧
      (wordAt (data.packet length) 8 = .ok word → word = data.header.streamIdentifier) ∧
      (wordAt (data.packet length) 16 = .ok word → word = data.header.seq) := by
  obtain ⟨hmagic, hidentifier, hseq, _⟩ := wordAt_packet data (Nat.le_max_left 72 length)
  rw [packet_eq_take]
  exact ⟨fun h => Except.ok.inj ((wordAt_take h).symm.trans hmagic),
    fun h => Except.ok.inj ((wordAt_take h).symm.trans hidentifier),
    fun h => Except.ok.inj ((wordAt_take h).symm.trans hseq)⟩

/-! ### The pair -/

structure StreamPair (Recorder : Type) where
  sender : LiveStream Recorder
  receiver : LiveStream Recorder
  /-- The blocks that the sender has handed over, and how many of them the receiver has handled. -/
  wire : List WireBlock := []
  handled : Nat := 0
  /-- The same for the FIN-ACK on its way back. -/
  acks : List WireBlock := []
  acked : Nat := 0
  /-- How many blocks the sending thread has given up. -/
  givenUp : Nat := 0

namespace StreamPair

variable {Recorder : Type} (tools : SeqTools Recorder)

inductive Action
  | sender (action : LiveStream.Action)
  | deliver (reception : Reception)
  | receiver (action : LiveStream.Action)
  | deliverAck (reception : Reception)

/-- The steps of the sender but for what it receives. The pair shares one connection, so once a block was handed over there is no other one. -/
def admitsSender (s : StreamPair Recorder) : LiveStream.Action → Bool
  | .event (.established _) => s.wire.isEmpty
  | action => action.isSending

/-- The steps of the receiver but for what it receives from the sender. -/
def admitsReceiver : LiveStream.Action → Bool
  | .received _ => false
  | action => action.isReceiving

def ofBlock (reception : Reception) (block : WireBlock) : Reception := { reception with data := block.octets }

def step (s : StreamPair Recorder) : Action → Option (StreamPair Recorder)
  | .sender action =>
    if s.admitsSender action then do
      let sender ← (LiveStream.machine tools).step s.sender action
      return { s with
        sender := sender
        wire := s.wire ++ LiveStream.handedOver s.sender sender
        givenUp := s.givenUp + (s.sender.givesUp action).toNat }
    else none
  | .deliver reception => do
    let block ← s.wire[s.handled]?
    let receiver ← (LiveStream.machine tools).step s.receiver (.received (ofBlock reception block))
    return { s with
      receiver := receiver
      handled := s.handled + 1
      acks := s.acks ++ LiveStream.handedOver s.receiver receiver }
  | .receiver action =>
    if admitsReceiver action then do
      let receiver ← (LiveStream.machine tools).step s.receiver action
      return { s with receiver := receiver }
    else none
  | .deliverAck reception => do
    let block ← s.acks[s.acked]?
    let sender ← (LiveStream.machine tools).step s.sender (.received (ofBlock reception block))
    return { s with sender := sender, acked := s.acked + 1 }

def machine : Machine (StreamPair Recorder) Action where
  step := step tools

/-- A connecting stream, and the stream that the listener has made of its connection. -/
def start (config : TestConfig) (streamId : Nat) (now : UInt64) (recorder : Recorder) (accepted : IperfStream)
    (recorderOfReceiver : Recorder) : StreamPair Recorder where
  sender := .connecting config streamId now recorder
  receiver := .fresh accepted recorderOfReceiver

variable {tools}

/-- The four kinds of steps, where they have a result. -/
inductive Moved (tools : SeqTools Recorder) (s : StreamPair Recorder) : Action → StreamPair Recorder → Prop
  | sender {action : LiveStream.Action} {sender : LiveStream Recorder} (hadmits : s.admitsSender action = true)
    (hstep : (LiveStream.machine tools).step s.sender action = some sender) :
    Moved tools s (.sender action) { s with
      sender := sender
      wire := s.wire ++ LiveStream.handedOver s.sender sender
      givenUp := s.givenUp + (s.sender.givesUp action).toNat }
  | deliver {reception : Reception} {block : WireBlock} {receiver : LiveStream Recorder}
    (hblock : s.wire[s.handled]? = some block)
    (hstep : s.receiver.updateReceived tools (ofBlock reception block) = .ok receiver) :
    Moved tools s (.deliver reception) { s with
      receiver := receiver
      handled := s.handled + 1
      acks := s.acks ++ LiveStream.handedOver s.receiver receiver }
  | receiver {action : LiveStream.Action} {receiver : LiveStream Recorder} (hadmits : admitsReceiver action = true)
    (hstep : (LiveStream.machine tools).step s.receiver action = some receiver) :
    Moved tools s (.receiver action) { s with receiver := receiver }
  | deliverAck {reception : Reception} {block : WireBlock} {sender : LiveStream Recorder}
    (hblock : s.acks[s.acked]? = some block)
    (hstep : s.sender.updateReceived tools (ofBlock reception block) = .ok sender) :
    Moved tools s (.deliverAck reception) { s with sender := sender, acked := s.acked + 1 }

theorem step_moved {s t : StreamPair Recorder} {a : Action} (h : (machine tools).step s a = some t) :
    Moved tools s a t := by
  cases a with
  | sender action =>
    change (if s.admitsSender action then _ else none) = some t at h
    split at h
    · rename_i hadmits
      obtain ⟨sender, hstep, h⟩ := Option.bind_eq_some_iff.mp h
      obtain rfl := Option.some.inj h
      exact .sender hadmits hstep
    · cases h
  | deliver reception =>
    obtain ⟨block, hblock, h⟩ := Option.bind_eq_some_iff.mp h
    obtain ⟨receiver, hstep, h⟩ := Option.bind_eq_some_iff.mp h
    obtain rfl := Option.some.inj h
    exact .deliver hblock (LiveStream.step_eq_some.mp hstep)
  | receiver action =>
    change (if admitsReceiver action then _ else none) = some t at h
    split at h
    · rename_i hadmits
      obtain ⟨receiver, hstep, h⟩ := Option.bind_eq_some_iff.mp h
      obtain rfl := Option.some.inj h
      exact .receiver hadmits hstep
    · cases h
  | deliverAck reception =>
    obtain ⟨block, hblock, h⟩ := Option.bind_eq_some_iff.mp h
    obtain ⟨sender, hstep, h⟩ := Option.bind_eq_some_iff.mp h
    obtain rfl := Option.some.inj h
    exact .deliverAck hblock (LiveStream.step_eq_some.mp hstep)

end StreamPair

end BatsIperf
