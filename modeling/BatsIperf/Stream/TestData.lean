import BatsIperf.Stream.Report

/-!
# The data a stream sends

Every packet of a stream is cut from one buffer: a header, the words of the last interval of the sender, and filling. The receiver reads the header and the words at their places in what arrived, and a read past its end is a fault.
-/

namespace BatsIperf

open Octets

def iperfChar : UInt8 := 0x77

/-- `iperf_test_header`. `interval_id` and the padding keep what the buffer was filled with. -/
structure IperfTestHeader where
  magic : UInt64 := batsIperfMagicCode
  streamIdentifier : UInt64
  seq : UInt64
  time : UInt64
  grpId : Bool
  last : Bool
  ack : Bool
  hasInterval : Bool
  reserved : BitVec 4 := 7
  deriving DecidableEq

namespace IperfTestHeader

def size : Nat := 40

/-- The bit fields, the first one in the lowest bit. -/
def flags (header : IperfTestHeader) : UInt8 :=
  .ofNat (header.grpId.toNat + 2 * header.last.toNat + 4 * header.ack.toNat + 8 * header.hasInterval.toNat
    + 16 * header.reserved.toNat)

def encode (header : IperfTestHeader) : Octets :=
  words [header.magic, header.streamIdentifier, header.seq, header.time]
    ++ header.flags :: List.replicate 7 iperfChar

theorem length_encode (header : IperfTestHeader) : header.encode.length = size := by
  simp [encode, size]

end IperfTestHeader

/-! ### Intervals on the wire -/

def serializeInterval (interval : TestInterval) : Octets :=
  words [interval.bytes, interval.datagrams, interval.startSeq, TestReportOfStream.bitrateWord interval.bitrate]

def deserializeInterval (cursor : Octets) : Except Fault TestInterval := do
  let (bytes, cursor) ← Fault.need .outOfBounds (nextWord cursor)
  let (datagrams, cursor) ← Fault.need .outOfBounds (nextWord cursor)
  let (startSeq, cursor) ← Fault.need .outOfBounds (nextWord cursor)
  let (bitrate, _) ← Fault.need .outOfBounds (nextWord cursor)
  return { bytes := bytes, datagrams := datagrams, startSeq := startSeq, bitrate := bitrate.toNat / 100 }

/-- `sizeof(uint64_t) * 4`. -/
def intervalDataSize : Nat := 32

theorem length_serializeInterval (interval : TestInterval) : (serializeInterval interval).length = intervalDataSize :=
  length_words _

theorem deserializeInterval_serializeInterval (interval : TestInterval) (rest : Octets) :
    deserializeInterval (serializeInterval interval ++ rest)
      = .ok { bytes := interval.bytes, datagrams := interval.datagrams, startSeq := interval.startSeq
              bitrate := (TestReportOfStream.bitrateWord interval.bitrate).toNat / 100 } := by
  simp only [deserializeInterval, serializeInterval, nextWord_words_cons, Fault.need_some, Fault.ok_bind]
  rfl

/-! ### The buffer of a stream -/

/-- `iperf_data_`: the header and the room for an interval behind it. The rest of the buffer is `iperf_char` throughout. -/
structure IperfData where
  header : IperfTestHeader
  interval : CharArray intervalDataSize

namespace IperfData

/-- A buffer filled with `iperf_char` and the two fields of the header the constructors set. -/
def fresh (streamIdentifier : UInt64) : IperfData where
  header :=
    { streamIdentifier := streamIdentifier
      seq := 0x7777777777777777, time := 0x7777777777777777
      grpId := true, last := true, ack := true, hasInterval := false }
  interval := ⟨List.replicate intervalDataSize iperfChar, List.length_replicate⟩

/-- `SerializeInterval` behind the header. -/
def setInterval (data : IperfData) (interval : TestInterval) : IperfData :=
  { data with interval := ⟨serializeInterval interval, length_serializeInterval interval⟩ }

/-- The first `length` octets of the buffer. -/
def packet (data : IperfData) (length : Nat) : Octets :=
  (data.header.encode ++ data.interval.bytes ++ List.replicate (length - 72) iperfChar).take length

end IperfData

/-! ### What the receiver reads -/

def wordAt (data : Octets) (offset : Nat) : Except Fault UInt64 :=
  (Fault.need .outOfBounds (nextWord (data.drop offset))).map Prod.fst

def octetAt (data : Octets) (offset : Nat) : Except Fault UInt8 := Fault.need .outOfBounds data[offset]?

/-- The bit fields of a header, read with one octet. -/
structure TestFlags where
  grpId : Bool
  last : Bool
  ack : Bool
  hasInterval : Bool
  deriving DecidableEq

def flagsAt (data : Octets) : Except Fault TestFlags := do
  let flags ← octetAt data 32
  return { grpId := flags.toNat.testBit 0, last := flags.toNat.testBit 1, ack := flags.toNat.testBit 2
           hasInterval := flags.toNat.testBit 3 }

/-- `link_mtu`. -/
def linkMtu : Nat := 1500

/-- The magic number and three characters of the filling. -/
def validateReceivedData (data : Octets) : Except Fault Bool := do
  let magic ← wordAt data 0
  if magic ≠ batsIperfMagicCode then return false
  if data.length ≤ IperfTestHeader.size + intervalDataSize then return true
  let first ← octetAt data (IperfTestHeader.size + intervalDataSize)
  if first ≠ iperfChar then return false
  let last ← octetAt data (data.length - 1)
  if last ≠ iperfChar then return false
  if linkMtu + IperfTestHeader.size + intervalDataSize < data.length then
    let mid ← octetAt data (data.length - 1 - linkMtu)
    if mid ≠ iperfChar then return false
  return true

/-! ### What is read from a packet of the buffer -/

theorem wordAt_words (before after : List UInt64) (word : UInt64) (rest : Octets) :
    wordAt (words (before ++ word :: after) ++ rest) (8 * before.length) = .ok word := by
  have hdrop : (words (before ++ word :: after) ++ rest).drop (8 * before.length) = words (word :: after) ++ rest := by
    rw [words_append, List.append_assoc, ← length_words before, List.drop_left]
  rw [wordAt, hdrop, nextWord_words_cons, Fault.need_some]
  rfl

theorem flags_testBit : ∀ (header : IperfTestHeader),
    (TestFlags.mk (header.flags.toNat.testBit 0) (header.flags.toNat.testBit 1) (header.flags.toNat.testBit 2)
        (header.flags.toNat.testBit 3))
      = { grpId := header.grpId, last := header.last, ack := header.ack, hasInterval := header.hasInterval } := by
  have hall : ∀ (grpId last ack hasInterval : Bool) (reserved : BitVec 4),
      (TestFlags.mk ((IperfTestHeader.mk 0 0 0 0 grpId last ack hasInterval reserved).flags.toNat.testBit 0)
          ((IperfTestHeader.mk 0 0 0 0 grpId last ack hasInterval reserved).flags.toNat.testBit 1)
          ((IperfTestHeader.mk 0 0 0 0 grpId last ack hasInterval reserved).flags.toNat.testBit 2)
          ((IperfTestHeader.mk 0 0 0 0 grpId last ack hasInterval reserved).flags.toNat.testBit 3))
        = ⟨grpId, last, ack, hasInterval⟩ := by
    decide +kernel
  rintro ⟨magic, streamIdentifier, seq, time, grpId, last, ack, hasInterval, reserved⟩
  exact hall grpId last ack hasInterval reserved

/-- A packet with room for the interval is the header, the interval and filling. -/
theorem packet_eq {data : IperfData} {length : Nat} (h : 72 ≤ length) :
    data.packet length = data.header.encode ++ (data.interval.bytes ++ List.replicate (length - 72) iperfChar) := by
  rw [IperfData.packet, List.take_of_length_le, List.append_assoc]
  rw [List.length_append, List.length_append, data.header.length_encode, data.interval.length_bytes,
    List.length_replicate, IperfTestHeader.size, intervalDataSize]
  omega

theorem length_packet {data : IperfData} {length : Nat} (h : 72 ≤ length) : (data.packet length).length = length := by
  rw [packet_eq h, List.length_append, List.length_append, data.header.length_encode, data.interval.length_bytes,
    List.length_replicate, IperfTestHeader.size, intervalDataSize]
  omega

theorem wordAt_packet (data : IperfData) {length : Nat} (h : 72 ≤ length) :
    wordAt (data.packet length) 0 = .ok data.header.magic ∧
      wordAt (data.packet length) 8 = .ok data.header.streamIdentifier ∧
      wordAt (data.packet length) 16 = .ok data.header.seq ∧ wordAt (data.packet length) 24 = .ok data.header.time := by
  rw [packet_eq h, IperfTestHeader.encode, List.append_assoc]
  exact ⟨wordAt_words [] _ _ _, wordAt_words [_] _ _ _, wordAt_words [_, _] _ _ _, wordAt_words [_, _, _] _ _ _⟩

theorem flagsAt_packet (data : IperfData) {length : Nat} (h : 72 ≤ length) :
    flagsAt (data.packet length) = .ok
      { grpId := data.header.grpId, last := data.header.last, ack := data.header.ack
        hasInterval := data.header.hasInterval } := by
  have hoctet : octetAt (data.packet length) 32 = .ok data.header.flags := by
    rw [octetAt, packet_eq h, IperfTestHeader.encode, List.append_assoc, List.getElem?_append_right (by simp)]
    simp
  rw [flagsAt, hoctet, Fault.ok_bind, ← flags_testBit]
  rfl

theorem drop_packet (data : IperfData) {length : Nat} (h : 72 ≤ length) :
    (data.packet length).drop IperfTestHeader.size
      = data.interval.bytes ++ List.replicate (length - 72) iperfChar := by
  rw [packet_eq h, ← data.header.length_encode, List.drop_left]

theorem octetAt_packet (data : IperfData) {length index : Nat} (h : 72 ≤ length) (hlow : 72 ≤ index)
    (hhigh : index < length) : octetAt (data.packet length) index = .ok iperfChar := by
  have hindex : index = IperfTestHeader.size + (intervalDataSize + (index - 72)) := by
    rw [IperfTestHeader.size, intervalDataSize]
    omega
  have hdrop : (data.packet length)[index]?
      = ((data.packet length).drop IperfTestHeader.size)[intervalDataSize + (index - 72)]? := by
    rw [List.getElem?_drop, ← hindex]
  have hbehind : data.interval.bytes.length ≤ intervalDataSize + (index - 72) := by
    rw [data.interval.length_bytes]
    exact Nat.le_add_right _ _
  rw [octetAt, hdrop, drop_packet data h, List.getElem?_append_right hbehind, data.interval.length_bytes,
    Nat.add_sub_cancel_left, List.getElem?_replicate_of_lt (by omega)]
  rfl

theorem validateReceivedData_packet {data : IperfData} {length : Nat} (h : 72 ≤ length)
    (hmagic : data.header.magic = batsIperfMagicCode) : validateReceivedData (data.packet length) = .ok true := by
  obtain ⟨hword, _⟩ := wordAt_packet data h
  unfold validateReceivedData
  rw [hword, Fault.ok_bind, length_packet h, if_neg (not_not_intro hmagic)]
  by_cases hshort : length ≤ IperfTestHeader.size + intervalDataSize
  · rw [if_pos hshort]
    rfl
  · have hlong : 72 < length := by
      rw [IperfTestHeader.size, intervalDataSize] at hshort
      omega
    have hfirst := octetAt_packet data h (le_refl 72) hlong
    have hlast := octetAt_packet data h (show 72 ≤ length - 1 by omega) (by omega)
    rw [if_neg hshort]
    simp only [IperfTestHeader.size, intervalDataSize, linkMtu]
    rw [hfirst, Fault.ok_bind, if_neg (not_not_intro rfl), hlast, Fault.ok_bind, if_neg (not_not_intro rfl)]
    by_cases hmid : 1572 < length
    · have hoctet := octetAt_packet data h (show 72 ≤ length - 1 - 1500 by omega) (by omega)
      rw [if_pos hmid, hoctet, Fault.ok_bind, if_neg (not_not_intro rfl)]
      rfl
    · rw [if_neg hmid]
      rfl
end BatsIperf
