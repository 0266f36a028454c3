import BatsIperf.Foundation.Marking
import BatsIperf.Stream.Handling

/-!
# How a receiver finds the intervals of the sender

The data packets of a sender are delivered with loss, duplication and reordering. The receiver takes the first packet of a colour for the start of a group, hands the interval in it to `OnReceivedIntervalData` and counts what it has recorded of that interval. `Detecting` says what the receiver knows after each delivery.

The comparison on the ring of 64-bit numbers is right as long as a late packet is at most half the ring behind the threshold beyond the last boundary, and the first packet of a group less than half the ring ahead of it.
-/

namespace BatsIperf

open Octets Marking

/-- A data packet of a group, as the receiver reads it. The identifier of a stream is a clock plus the number of the stream, which is not 0. -/
structure IsDataPacket (boundary : Nat → Nat) (group seq : Nat) (data : Octets) : Prop where
  inGroup : InGroup boundary group seq
  seq : wordAt data 16 = .ok (.ofNat seq)
  identifier : ∃ identifier, identifier ≠ 0 ∧ wordAt data 8 = .ok identifier
  time : ∃ time, wordAt data 24 = .ok time
  flags : flagsAt data
    = .ok { grpId := colour group, last := false, ack := false, hasInterval := decide (0 < group) }
  intact : validateReceivedData data = .ok true
  interval : ∀ k, group = k + 1 → ∃ interval, deserializeInterval (data.drop IperfTestHeader.size) = .ok interval ∧
    interval.startSeq = .ofNat (boundary k) ∧ interval.datagrams = .ofNat (boundary (k + 1) - boundary k)

theorem IsDataPacket.ne_nil {boundary : Nat → Nat} {group seq : Nat} {data : Octets}
    (hpacket : IsDataPacket boundary group seq data) : data ≠ [] := by
  rintro rfl
  have hseq := hpacket.seq
  cases hseq

/-- Whatever its length, a packet of the buffer with the marks of a group is a data packet. -/
theorem isDataPacket_packet {boundary : Nat → Nat} {group seq length : Nat} {data : IperfData} (hlength : 72 ≤ length)
    (hin : InGroup boundary group seq) (hmagic : data.header.magic = batsIperfMagicCode)
    (hidentifier : data.header.streamIdentifier ≠ 0) (hseq : data.header.seq = .ofNat seq)
    (hgrpId : data.header.grpId = colour group) (hfin : data.header.last = false ∧ data.header.ack = false)
    (hbit : data.header.hasInterval = decide (0 < group))
    (hinterval : ∀ k, group = k + 1 → ∃ interval, data.interval.bytes = serializeInterval interval ∧
      interval.startSeq = .ofNat (boundary k) ∧ interval.datagrams = .ofNat (boundary (k + 1) - boundary k)) :
    IsDataPacket boundary group seq (data.packet length) := by
  obtain ⟨_, hidentifierWord, hseqWord, htimeWord⟩ := wordAt_packet data hlength
  constructor
  · exact hin
  · rw [hseqWord, hseq]
  · exact ⟨data.header.streamIdentifier, hidentifier, hidentifierWord⟩
  · exact ⟨data.header.time, htimeWord⟩
  · rw [flagsAt_packet data hlength, hgrpId, hfin.1, hfin.2, hbit]
  · exact validateReceivedData_packet hlength hmagic
  · intro k hk
    obtain ⟨interval, hbytes, hstart, hdatagrams⟩ := hinterval k hk
    have hread := deserializeInterval_serializeInterval interval (List.replicate (length - 72) iperfChar)
    rw [← hbytes, ← drop_packet data hlength] at hread
    exact ⟨_, hread, hstart, hdatagrams⟩

structure Delivery where
  group : Nat
  seq : Nat
  reception : Reception

/-- The sequence numbers delivered so far. -/
def deliveredSeqs (deliveries : List Delivery) : Finset Nat := (deliveries.map Delivery.seq).toFinset

namespace LiveStream

variable {Recorder : Type} {tools : SeqTools Recorder} {seqs : Recorder → Finset Nat}

/-! ### What detection works with -/

/-- Two states of a stream between which nothing was detected. -/
structure SameDetection (s t : LiveStream Recorder) : Prop where
  config : t.config = s.config
  streamIdentifier : t.streamIdentifier = s.streamIdentifier
  lastGrpId : t.lastGrpId = s.lastGrpId
  seqOfLastChangedGrpId : t.seqOfLastChangedGrpId = s.seqOfLastChangedGrpId
  recvSeqRecorder : t.recvSeqRecorder = s.recvSeqRecorder
  intervalCalls : t.log.intervalCalls = s.log.intervalCalls

theorem updateJitter_sameDetection (s : LiveStream Recorder) (arrival time : UInt64) :
    SameDetection s (s.updateJitter arrival time) := by
  unfold updateJitter
  dsimp only
  split <;> constructor <;> rfl

theorem resetSeqRecord_keeps (htools : tools.Lawful seqs) {s : LiveStream Recorder}
    (hmax : (tools.maxSeqRecorded s.recvSeqRecorder).toNat + 1 < 2 ^ 64) :
    ∃ recorder, s.resetSeqRecord tools = .ok { s with recvSeqRecorder := recorder } ∧
      ∀ seq, seq ∈ seqs recorder ↔ seq ∈ seqs s.recvSeqRecorder ∧ s.seqOfLastChangedGrpId.toNat ≤ seq := by
  let kept := ((List.range' s.seqOfLastChangedGrpId.toNat
    ((tools.maxSeqRecorded s.recvSeqRecorder).toNat + 1 - s.seqOfLastChangedGrpId.toNat)).map UInt64.ofNat).filter
      (tools.has s.recvSeqRecorder)
  refine ⟨kept.foldl tools.record (tools.reset s.recvSeqRecorder), ?_, ?_⟩
  · rw [resetSeqRecord, Fault.require_of_true hmax, Fault.ok_bind]
    rfl
  · intro seq
    rw [htools.seqs_foldl_record, htools.reset, Finset.empty_union, List.mem_toFinset, List.mem_map]
    constructor
    · rintro ⟨word, hword, rfl⟩
      obtain ⟨hrange, hhas⟩ := List.mem_filter.mp hword
      obtain ⟨number, hnumber, rfl⟩ := List.mem_map.mp hrange
      rw [htools.has] at hhas
      rw [List.mem_range'_1] at hnumber
      refine ⟨hhas, ?_⟩
      rw [UInt64.toNat_ofNat', Nat.mod_eq_of_lt (by omega)]
      exact hnumber.1
    · rintro ⟨hrecorded, hboundary⟩
      have hle := htools.le_max _ seq hrecorded
      have hword : (UInt64.ofNat seq).toNat = seq := by
        rw [UInt64.toNat_ofNat', Nat.mod_eq_of_lt (by omega)]
      refine ⟨.ofNat seq, List.mem_filter.mpr ⟨List.mem_map_of_mem ?_, ?_⟩, hword⟩
      · rw [List.mem_range'_1]
        omega
      · rw [htools.has, hword]
        exact hrecorded

/-- What a call with an interval leaves, where the recorder counts no more than the interval has. -/
theorem onReceivedIntervalData_detects (htools : tools.Lawful seqs) {s : LiveStream Recorder} {data : Octets}
    {now : UInt64} {received : TestInterval} {actualReceived : Nat} (hrole : s.config.role = .roleReceiver)
    (hread : deserializeInterval data = .ok received)
    (hcount : tools.recordedNumInRange s.recvSeqRecorder received.startSeq (received.startSeq + received.datagrams)
      = actualReceived)
    (hle : actualReceived ≤ received.datagrams.toNat)
    (hmax : (tools.maxSeqRecorded s.recvSeqRecorder).toNat + 1 < 2 ^ 64) :
    ∃ t, s.onReceivedIntervalData tools data now = .ok t ∧ t.config = s.config ∧
      t.streamIdentifier = s.streamIdentifier ∧ t.lastGrpId = s.lastGrpId ∧
      t.seqOfLastChangedGrpId = received.startSeq + received.datagrams ∧
      t.log.intervalCalls = s.log.intervalCalls ++ [⟨received, actualReceived⟩] ∧
      ∀ seq, seq ∈ seqs t.recvSeqRecorder ↔
        seq ∈ seqs s.recvSeqRecorder ∧ (received.startSeq + received.datagrams).toNat ≤ seq := by
  let called : LiveStream Recorder := { s with
    seqOfLastChangedGrpId := received.startSeq + received.datagrams
    log := { s.log with intervalCalls := s.log.intervalCalls ++ [⟨received, actualReceived⟩] } }
  have hmax : (tools.maxSeqRecorded called.recvSeqRecorder).toNat + 1 < 2 ^ 64 := hmax
  obtain ⟨recorder, hreset, hkeeps⟩ := resetSeqRecord_keeps htools hmax
  unfold onReceivedIntervalData
  rw [if_pos hrole, hread, Fault.ok_bind]
  dsimp only
  rw [hcount, Fault.require_of_true hle, Fault.ok_bind]
  have hcalled : resetSeqRecord tools called = .ok { called with recvSeqRecorder := recorder } := hreset
  rw [hcalled, Fault.ok_bind]
  refine ⟨_, rfl, ?_⟩
  split <;> exact ⟨rfl, rfl, rfl, rfl, rfl, hkeeps⟩

theorem onReceivedIntervalData_endless {s : LiveStream Recorder} {data : Octets} {now : UInt64} {received : TestInterval}
    {actualReceived : Nat} (hrole : s.config.role = .roleReceiver) (hread : deserializeInterval data = .ok received)
    (hcount : tools.recordedNumInRange s.recvSeqRecorder received.startSeq (received.startSeq + received.datagrams)
      = actualReceived)
    (hle : actualReceived ≤ received.datagrams.toNat)
    (hmax : ¬ (tools.maxSeqRecorded s.recvSeqRecorder).toNat + 1 < 2 ^ 64) :
    s.onReceivedIntervalData tools data now = .error .noProgress := by
  unfold onReceivedIntervalData
  rw [if_pos hrole, hread, Fault.ok_bind]
  dsimp only
  rw [hcount, Fault.require_of_true hle, Fault.ok_bind, resetSeqRecord, Fault.require_eq_error.mpr hmax]
  rfl

/-! ### One delivery -/

/-- What the receiver knows of the delivered numbers, after it has taken `count - 1` for the group of the last packet that opened one. -/
structure Detecting (seqs : Recorder → Finset Nat) (boundary : Nat → Nat) (delivered : Finset Nat) (count : Nat)
    (s : LiveStream Recorder) : Prop where
  role : s.config.role = .roleReceiver
  lastGrpId : s.lastGrpId = if count = 0 then none else some (colour (count - 1))
  lastBoundary : s.seqOfLastChangedGrpId.toNat = boundary (count - 1)
  onlyDelivered : seqs s.recvSeqRecorder ⊆ delivered
  recorded : ∀ seq ∈ delivered, boundary (count - 1) ≤ seq → seq ∈ seqs s.recvSeqRecorder

/-- A call carries the interval between two boundaries. -/
structure Carries (boundary : Nat → Nat) (k : Nat) (call : IntervalCall) : Prop where
  startSeq : call.received.startSeq = .ofNat (boundary k)
  datagrams : call.received.datagrams = .ofNat (boundary (k + 1) - boundary k)

/-- The numbers among some that lie between two boundaries. -/
def between (boundary : Nat → Nat) (k : Nat) (delivered : Finset Nat) : Finset Nat :=
  delivered.filter fun seq => boundary k ≤ seq ∧ seq < boundary (k + 1)

theorem card_between_le (boundary : Nat → Nat) (k : Nat) (delivered : Finset Nat) :
    (between boundary k delivered).card ≤ boundary (k + 1) - boundary k := by
  have hsub : between boundary k delivered ⊆ Finset.Ico (boundary k) (boundary (k + 1)) := by
    intro seq hseq
    exact Finset.mem_Ico.mpr (Finset.mem_filter.mp hseq).2
  have hcard := Finset.card_le_card hsub
  rwa [Nat.card_Ico] at hcard

/-- A packet of a group that ends at or before the last boundary, with the other colour than the last one, is at most half the ring behind the threshold. -/
def InReach (boundary : Nat → Nat) (s : LiveStream Recorder) (group seq : Nat) : Prop :=
  boundary (group + 1) ≤ s.seqOfLastChangedGrpId.toNat → s.lastGrpId ≠ some (colour group) →
    (s.seqOfLastChangedGrpId.toNat + 128 - seq) % 2 ^ 64 ≤ 2 ^ 63

theorem hasNewGrpId_threshold {s : LiveStream Recorder} {grpId : Bool} (hlast : s.lastGrpId = some grpId) (flag : Bool)
    (seq : Nat) : s.hasNewGrpId tools flag (.ofNat seq)
      = if grpId ≠ flag ∧ tools.isLessThanInHalfRing (.ofNat (s.seqOfLastChangedGrpId.toNat + 128)) (.ofNat seq) then
          (true, { s with lastGrpId := some flag })
        else (false, s) := by
  have hthreshold : s.seqOfLastChangedGrpId + seqReorderThreshold = .ofNat (s.seqOfLastChangedGrpId.toNat + 128) := by
    rw [UInt64.ofNat_add, UInt64.ofNat_toNat]
    rfl
  rw [hasNewGrpId, hlast, hthreshold]

/-- A packet that is taken for the first of its group is not from a group before the last one. -/
theorem hasNewGrpId_detecting (htools : tools.Lawful seqs) {boundary : Nat → Nat} (hspaced : Spaced boundary 128)
    {s : LiveStream Recorder} {delivered : Finset Nat} {count group seq : Nat}
    (h : Detecting seqs boundary delivered count s) (hseq : InGroup boundary group seq)
    (hreach : s.InReach boundary group seq) :
    (s.hasNewGrpId tools (colour group) (.ofNat seq) = (true, { s with lastGrpId := some (colour group) }) ∧
        count ≤ group) ∨
      (s.hasNewGrpId tools (colour group) (.ofNat seq) = (false, s) ∧ count ≠ 0) := by
  have hlast := h.lastGrpId
  cases count with
  | zero =>
    rw [if_pos rfl] at hlast
    exact .inl ⟨by rw [hasNewGrpId, hlast], Nat.zero_le group⟩
  | succ highest =>
    rw [if_neg (Nat.succ_ne_zero highest), Nat.add_sub_cancel] at hlast
    have hboundary := h.lastBoundary
    rw [Nat.add_sub_cancel] at hboundary
    rw [hasNewGrpId_threshold hlast]
    split
    · rename_i hopens
      refine .inl ⟨rfl, ?_⟩
      by_contra hearly
      have hne : group ≠ highest := fun heq => hopens.1 (heq ▸ rfl)
      have hle : boundary (group + 1) ≤ boundary highest := hspaced.monotone (show group + 1 ≤ highest by omega)
      have hcolour : s.lastGrpId ≠ some (colour group) := by
        rw [hlast]
        exact fun heq => hopens.1 (Option.some.inj heq)
      have hbehind := hreach (hle.trans hboundary.ge) hcolour
      have hhigh := hseq.2
      have hnot := htools.not_isLess_of_behind (by omega) hbehind
      exact Bool.false_ne_true (hnot.symm.trans hopens.2)
    · exact .inr ⟨rfl, Nat.succ_ne_zero highest⟩

/-- What is counted for an interval is what was delivered from it, as long as nothing of it was forgotten. -/
theorem recordedNumInRange_detecting (htools : tools.Lawful seqs) {boundary : Nat → Nat} (hspaced : Spaced boundary 128)
    {s : LiveStream Recorder} {delivered : Finset Nat} {count k seq : Nat} {received : TestInterval}
    (h : Detecting seqs boundary delivered count s) (hcount : count ≤ k + 1) (hword : seq < 2 ^ 64)
    (hseq : seq ∈ seqs s.recvSeqRecorder) (hbeyond : boundary (k + 1) ≤ seq)
    (hstart : received.startSeq = .ofNat (boundary k))
    (hdatagrams : received.datagrams = .ofNat (boundary (k + 1) - boundary k)) :
    (received.startSeq + received.datagrams).toNat = boundary (k + 1) ∧
      received.datagrams.toNat = boundary (k + 1) - boundary k ∧
      tools.recordedNumInRange s.recvSeqRecorder received.startSeq (received.startSeq + received.datagrams)
        = (between boundary k delivered).card := by
  have hstep := hspaced.step k
  have hlast : boundary (count - 1) ≤ boundary k := hspaced.monotone (by omega)
  have hnext : received.startSeq + received.datagrams = .ofNat (boundary (k + 1)) := by
    rw [hstart, hdatagrams, ← UInt64.ofNat_add]
    congr 1
    omega
  have hnextNat : (received.startSeq + received.datagrams).toNat = boundary (k + 1) := by
    rw [hnext, UInt64.toNat_ofNat', Nat.mod_eq_of_lt (by omega)]
  have hstartNat : received.startSeq.toNat = boundary k := by
    rw [hstart, UInt64.toNat_ofNat', Nat.mod_eq_of_lt (by omega)]
  have hbetween : (seqs s.recvSeqRecorder).filter (fun seq => boundary k ≤ seq ∧ seq < boundary (k + 1))
      = between boundary k delivered := by
    ext number
    rw [between, Finset.mem_filter, Finset.mem_filter]
    constructor
    · rintro ⟨hnumber, hrange⟩
      exact ⟨h.onlyDelivered hnumber, hrange⟩
    · rintro ⟨hnumber, hrange⟩
      exact ⟨h.recorded number hnumber (hlast.trans hrange.1), hrange⟩
  refine ⟨hnextNat, ?_, ?_⟩
  · rw [hdatagrams, UInt64.toNat_ofNat', Nat.mod_eq_of_lt (by omega)]
  · rw [htools.count_eq hseq (by omega), hstartNat, hnextNat, hbetween]

/-- The call a delivery leads to, with the interval before its group and the number of packets delivered from it. -/
structure CallsFor (tools : SeqTools Recorder) (boundary : Nat → Nat) (delivered : Finset Nat) (recorder : Recorder)
    (d : Delivery) (k : Nat) (call : IntervalCall) : Prop where
  group : d.group = k + 1
  read : deserializeInterval (d.reception.data.drop IperfTestHeader.size) = .ok call.received
  carries : Carries boundary k call
  counted : tools.recordedNumInRange recorder call.received.startSeq
    (call.received.startSeq + call.received.datagrams) = call.actualReceived
  actual : call.actualReceived = (between boundary k delivered).card

/-- How a delivery is handled once it is recorded: without a call, or with one that returns unless the largest number is recorded. -/
inductive Handled (tools : SeqTools Recorder) (seqs : Recorder → Finset Nat) (boundary : Nat → Nat)
    (delivered : Finset Nat) (count : Nat) (recorder : Recorder) (calls : List IntervalCall) (d : Delivery) :
    Bool → Except Fault (LiveStream Recorder) → Prop
  | silent {t : LiveStream Recorder} (hfirst : count = 0 → d.group = 0) (hcalls : t.log.intervalCalls = calls)
      (hdetecting : Detecting seqs boundary delivered (if count = 0 then 1 else count) t) :
      Handled tools seqs boundary delivered count recorder calls d false (.ok t)
  | called {t : LiveStream Recorder} {k : Nat} {call : IntervalCall}
      (hcall : CallsFor tools boundary delivered recorder d k call) (hcount : count ≤ k + 1)
      (hcalls : t.log.intervalCalls = calls ++ [call]) (hdetecting : Detecting seqs boundary delivered (k + 2) t) :
      Handled tools seqs boundary delivered count recorder calls d true (.ok t)
  | endless {k : Nat} {call : IntervalCall} (hcall : CallsFor tools boundary delivered recorder d k call)
      (hcount : count ≤ k + 1) (hmax : 2 ^ 64 - 1 ∈ delivered) :
      Handled tools seqs boundary delivered count recorder calls d true (.error .noProgress)

variable {boundary : Nat → Nat} {s : LiveStream Recorder} {delivered : Finset Nat} {count : Nat} {d : Delivery}

theorem Handled.of_restarts {recorder : Recorder} {calls : List IntervalCall}
    {result : Except Fault (LiveStream Recorder)}
    (h : Handled tools seqs boundary delivered count recorder calls d true result) :
    ∃ k call, CallsFor tools boundary delivered recorder d k call ∧ count ≤ k + 1 ∧
      ((∃ t, result = .ok t ∧ t.log.intervalCalls = calls ++ [call] ∧ Detecting seqs boundary delivered (k + 2) t) ∨
        (result = .error .noProgress ∧ 2 ^ 64 - 1 ∈ delivered)) := by
  cases h with
  | called hcall hcount hcalls hdetecting => exact ⟨_, _, hcall, hcount, .inl ⟨_, rfl, hcalls, hdetecting⟩⟩
  | endless hcall hcount hmax => exact ⟨_, _, hcall, hcount, .inr ⟨rfl, hmax⟩⟩

theorem Handled.of_not_restarts {recorder : Recorder} {calls : List IntervalCall}
    {result : Except Fault (LiveStream Recorder)}
    (h : Handled tools seqs boundary delivered count recorder calls d false result) :
    ∃ t, result = .ok t ∧ (count = 0 → d.group = 0) ∧ t.log.intervalCalls = calls ∧
      Detecting seqs boundary delivered (if count = 0 then 1 else count) t := by
  cases h with
  | silent hfirst hcalls hdetecting => exact ⟨_, rfl, hfirst, hcalls, hdetecting⟩

def packetFlags (d : Delivery) : TestFlags :=
  { grpId := colour d.group, last := false, ack := false, hasInterval := decide (0 < d.group) }

theorem onReceivedIntervalData_detecting (htools : tools.Lawful seqs) (hspaced : Spaced boundary 128)
    (h : Detecting seqs boundary delivered count s) (hpacket : IsDataPacket boundary d.group d.seq d.reception.data)
    (hword : d.seq < 2 ^ 64) (hseq : d.seq ∈ seqs s.recvSeqRecorder) {k : Nat} (hk : d.group = k + 1)
    (hcount : count ≤ k + 1) (now : UInt64) :
    Handled tools seqs boundary delivered count s.recvSeqRecorder s.log.intervalCalls d true
      ({ s with lastGrpId := some (colour (k + 1)) }.onReceivedIntervalData tools
        (d.reception.data.drop IperfTestHeader.size) now) := by
  obtain ⟨received, hread, hstart, hdatagrams⟩ := hpacket.interval k hk
  have hbeyond : boundary (k + 1) ≤ d.seq := hk ▸ hpacket.inGroup.1
  obtain ⟨hnext, hnumber, hrange⟩ :=
    recordedNumInRange_detecting htools hspaced h hcount hword hseq hbeyond hstart hdatagrams
  have hcall : CallsFor tools boundary delivered s.recvSeqRecorder d k ⟨received, (between boundary k delivered).card⟩ :=
    ⟨hk, hread, ⟨hstart, hdatagrams⟩, hrange, rfl⟩
  have hle : (between boundary k delivered).card ≤ received.datagrams.toNat := by
    rw [hnumber]
    exact card_between_le boundary k delivered
  let marked : LiveStream Recorder := { s with lastGrpId := some (colour (k + 1)) }
  have hrole : marked.config.role = .roleReceiver := h.role
  change Handled tools seqs boundary delivered count s.recvSeqRecorder s.log.intervalCalls d true
    (marked.onReceivedIntervalData tools (d.reception.data.drop IperfTestHeader.size) now)
  by_cases hmax : (tools.maxSeqRecorded s.recvSeqRecorder).toNat + 1 < 2 ^ 64
  · obtain ⟨t, ht, hconfig, _, hgrpId, hlast, hcalls, hkeeps⟩ :
        ∃ t, marked.onReceivedIntervalData tools (d.reception.data.drop IperfTestHeader.size) now = .ok t ∧ _ :=
      onReceivedIntervalData_detects htools hrole hread hrange hle hmax
    rw [ht]
    refine .called hcall hcount hcalls ⟨(congrArg TestConfig.role hconfig).trans h.role, hgrpId, ?_, ?_, ?_⟩
    · rw [hlast, hnext]
      rfl
    · exact fun number hnumber => h.onlyDelivered ((hkeeps number).mp hnumber).1
    · intro number hnumber hlow
      have hlater : boundary (count - 1) ≤ boundary (k + 1) := hspaced.monotone (by omega)
      exact (hkeeps number).mpr ⟨h.recorded number hnumber (hlater.trans hlow), hnext.trans_le hlow⟩
  · have hendless : marked.onReceivedIntervalData tools (d.reception.data.drop IperfTestHeader.size) now
        = .error .noProgress := onReceivedIntervalData_endless hrole hread hrange hle hmax
    rw [hendless]
    have hlargest : (tools.maxSeqRecorded s.recvSeqRecorder).toNat = 2 ^ 64 - 1 := by
      have hlt := (tools.maxSeqRecorded s.recvSeqRecorder).toNat_lt
      omega
    exact .endless hcall hcount (hlargest ▸ h.onlyDelivered (htools.max_mem _ ⟨d.seq, hseq⟩))

theorem onInterval_detecting (htools : tools.Lawful seqs) (hspaced : Spaced boundary 128)
    (h : Detecting seqs boundary delivered count s) (hpacket : IsDataPacket boundary d.group d.seq d.reception.data)
    (hword : d.seq < 2 ^ 64) (hseq : d.seq ∈ seqs s.recvSeqRecorder) (hreach : s.InReach boundary d.group d.seq)
    (now : UInt64) :
    Handled tools seqs boundary delivered count s.recvSeqRecorder s.log.intervalCalls d
      (s.takesInterval tools (packetFlags d) (.ofNat d.seq))
      (s.onInterval tools (packetFlags d) (.ofNat d.seq) (d.reception.data.drop IperfTestHeader.size) now) := by
  unfold onInterval takesInterval packetFlags
  rcases hasNewGrpId_detecting htools hspaced h hpacket.inGroup hreach with ⟨hnew, hcount⟩ | ⟨hold, hcount⟩
  · rw [hnew]
    cases hk : d.group with
    | zero =>
      have hzero : count = 0 := Nat.le_zero.mp (hk ▸ hcount)
      subst hzero
      refine .silent (fun _ => hk) rfl ⟨h.role, ?_, h.lastBoundary, h.onlyDelivered, h.recorded⟩
      rw [if_pos rfl]
      rfl
    | succ k =>
      rw [hk] at hcount
      have hinterval : decide (0 < k + 1) = true := decide_eq_true (Nat.succ_pos k)
      rw [hinterval, decide_eq_true h.role]
      dsimp only
      rw [if_pos ⟨rfl, rfl⟩]
      exact onReceivedIntervalData_detecting htools hspaced h hpacket hword hseq hk hcount now
  · rw [hold, Bool.false_and, Bool.false_and]
    dsimp only
    rw [if_neg fun hnew => Bool.false_ne_true hnew.1]
    refine .silent (fun hzero => absurd hzero hcount) rfl ?_
    rw [if_neg hcount]
    exact h

/-- Data packets pass the check of the magic number, and the first one gives the stream its identifier. -/
theorem learnIdentifier_detecting {boundary : Nat → Nat} {s : LiveStream Recorder} {group seq : Nat} {data : Octets}
    (hpacket : IsDataPacket boundary group seq data)
    (hfirst : s.streamIdentifier = 0 → s.config.protocol = 1 ∨ s.config.protocol = 10 → seq = 0) :
    ∃ identifier, identifier ≠ 0 ∧
      s.learnIdentifier data (.ofNat seq) = .ok { s with streamIdentifier := identifier } := by
  unfold learnIdentifier
  by_cases hidentifier : s.streamIdentifier = 0
  · obtain ⟨identifier, hne, hread⟩ := hpacket.identifier
    have hallowed : UInt64.ofNat seq = 0 ∨ ¬ (s.config.protocol = 1 ∨ s.config.protocol = 10) := by
      by_cases hprotocol : s.config.protocol = 1 ∨ s.config.protocol = 10
      · exact .inl (congrArg UInt64.ofNat (hfirst hidentifier hprotocol))
      · exact .inr hprotocol
    refine ⟨identifier, hne, ?_⟩
    rw [if_pos hidentifier, hread, Fault.ok_bind, Fault.require_of_true hallowed]
    rfl
  · exact ⟨s.streamIdentifier, hidentifier, if_neg hidentifier⟩

theorem checkData_ok {boundary : Nat → Nat} {group seq : Nat} {data : Octets}
    (hpacket : IsDataPacket boundary group seq data) (s : LiveStream Recorder) : s.checkData data = .ok () := by
  unfold checkData
  split
  · rfl
  · rw [hpacket.intact]
    rfl

/-- The stream with a delivery counted and recorded. -/
def recorded (tools : SeqTools Recorder) (s : LiveStream Recorder) (d : Delivery) (identifier : UInt64) :
    LiveStream Recorder :=
  { s.countReceived d.reception.data.length d.reception.countedAt with
    recvSeqRecorder := tools.record s.recvSeqRecorder (.ofNat d.seq), streamIdentifier := identifier }

theorem updateReceived_packet (hpacket : IsDataPacket boundary d.group d.seq d.reception.data)
    (hfirst : s.streamIdentifier = 0 → s.config.protocol = 1 ∨ s.config.protocol = 10 → d.seq = 0) :
    ∃ identifier time, identifier ≠ 0 ∧ s.updateReceived tools d.reception
      = ((recorded tools s d identifier).onInterval tools (packetFlags d) (.ofNat d.seq)
          (d.reception.data.drop IperfTestHeader.size) d.reception.snapshotAt).map
            fun detected => detected.updateJitter d.reception.arrival time := by
  let counted : LiveStream Recorder := { s.countReceived d.reception.data.length d.reception.countedAt with
    recvSeqRecorder := tools.record s.recvSeqRecorder (.ofNat d.seq) }
  have hfirst : counted.streamIdentifier = 0 → counted.config.protocol = 1 ∨ counted.config.protocol = 10 →
    d.seq = 0 := hfirst
  obtain ⟨identifier, hidentifier, hlearn⟩ := learnIdentifier_detecting hpacket hfirst
  obtain ⟨time, htime⟩ := hpacket.time
  refine ⟨identifier, time, hidentifier, ?_⟩
  unfold updateReceived
  rw [if_neg hpacket.ne_nil]
  dsimp only
  rw [hpacket.seq, Fault.ok_bind, checkData_ok hpacket, Fault.ok_bind]
  have hlearn : counted.learnIdentifier d.reception.data (.ofNat d.seq) = .ok (recorded tools s d identifier) := hlearn
  change (counted.learnIdentifier d.reception.data (.ofNat d.seq) >>= _) = _
  rw [hlearn, Fault.ok_bind, hpacket.flags, Fault.ok_bind, onFlags, if_neg Bool.false_ne_true, Fault.ok_bind, htime]
  change Except.bind ((recorded tools s d identifier).onInterval tools (packetFlags d) (.ofNat d.seq)
    (d.reception.data.drop IperfTestHeader.size) d.reception.snapshotAt) _ = _
  cases (recorded tools s d identifier).onInterval tools (packetFlags d) (.ofNat d.seq)
    (d.reception.data.drop IperfTestHeader.size) d.reception.snapshotAt <;> rfl

theorem Detecting.of_same {t : LiveStream Recorder} (h : Detecting seqs boundary delivered count s)
    (hsame : SameDetection s t) : Detecting seqs boundary delivered count t where
  role := (congrArg TestConfig.role hsame.config).trans h.role
  lastGrpId := hsame.lastGrpId.trans h.lastGrpId
  lastBoundary := (congrArg UInt64.toNat hsame.seqOfLastChangedGrpId).trans h.lastBoundary
  onlyDelivered := hsame.recvSeqRecorder ▸ h.onlyDelivered
  recorded := hsame.recvSeqRecorder ▸ h.recorded

theorem Handled.map {recorder : Recorder} {calls : List IntervalCall} {restarts : Bool}
    {result : Except Fault (LiveStream Recorder)}
    (h : Handled tools seqs boundary delivered count recorder calls d restarts result)
    {after : LiveStream Recorder → LiveStream Recorder} (hsame : ∀ t, SameDetection t (after t)) :
    Handled tools seqs boundary delivered count recorder calls d restarts (result.map after) := by
  cases h with
  | silent hfirst hcalls hdetecting =>
    exact .silent hfirst ((hsame _).intervalCalls.trans hcalls) (hdetecting.of_same (hsame _))
  | called hcall hcount hcalls hdetecting =>
    exact .called hcall hcount ((hsame _).intervalCalls.trans hcalls) (hdetecting.of_same (hsame _))
  | endless hcall hcount hmax => exact .endless hcall hcount hmax

/-- The number of a delivery is recorded first, so nothing delivered from the last boundary on is missing. -/
theorem recorded_detecting (htools : tools.Lawful seqs) (h : Detecting seqs boundary delivered count s)
    (hword : d.seq < 2 ^ 64) (identifier : UInt64) :
    Detecting seqs boundary (insert d.seq delivered) count (recorded tools s d identifier) ∧
      d.seq ∈ seqs (recorded tools s d identifier).recvSeqRecorder := by
  have hrecorder : seqs (recorded tools s d identifier).recvSeqRecorder = insert d.seq (seqs s.recvSeqRecorder) := by
    show seqs (tools.record _ _) = _
    rw [htools.record, UInt64.toNat_ofNat', Nat.mod_eq_of_lt hword]
  refine ⟨⟨h.role, h.lastGrpId, h.lastBoundary, ?_, ?_⟩, hrecorder ▸ Finset.mem_insert_self _ _⟩
  · exact hrecorder ▸ Finset.insert_subset_insert _ h.onlyDelivered
  · intro seq hseq hle
    rw [hrecorder, Finset.mem_insert]
    exact (Finset.mem_insert.mp hseq).imp_right fun hmem => h.recorded seq hmem hle

theorem restartsAt_packet (hpacket : IsDataPacket boundary d.group d.seq d.reception.data) :
    s.restartsAt tools d.reception.data = s.takesInterval tools (packetFlags d) (.ofNat d.seq) := by
  unfold restartsAt
  rw [hpacket.flags, hpacket.seq]
  rfl

/-- Less than half the ring past the threshold, the first packet of the next group is taken for one. -/
theorem restartsAt_opening (htools : tools.Lawful seqs) (hspaced : Spaced boundary 128) {highest : Nat}
    (h : Detecting seqs boundary delivered (highest + 1) s)
    (hpacket : IsDataPacket boundary d.group d.seq d.reception.data) (hgroup : d.group = highest + 1)
    (hahead : d.seq < boundary highest + 128 + 2 ^ 63) : s.restartsAt tools d.reception.data = true := by
  have hlast := h.lastGrpId
  rw [if_neg (Nat.succ_ne_zero highest), Nat.add_sub_cancel] at hlast
  have hboundary := h.lastBoundary
  rw [Nat.add_sub_cancel] at hboundary
  obtain ⟨hcolour, hbeyond⟩ := (hspaced.opens_iff hgroup.le hpacket.inGroup).mpr hgroup
  have hinterval : decide (0 < d.group) = true := decide_eq_true (by omega)
  rw [restartsAt_packet hpacket, takesInterval, packetFlags, hinterval, decide_eq_true h.role]
  dsimp only
  rw [hasNewGrpId_threshold hlast, hboundary, if_pos ⟨hcolour, (htools.isLess_iff (by omega) (by omega)).mpr hbeyond⟩]
  rfl

theorem updateReceived_detecting (htools : tools.Lawful seqs) (hspaced : Spaced boundary 128)
    (h : Detecting seqs boundary delivered count s) (hpacket : IsDataPacket boundary d.group d.seq d.reception.data)
    (hword : d.seq < 2 ^ 64) (hreach : s.InReach boundary d.group d.seq)
    (hfirst : s.streamIdentifier = 0 → s.config.protocol = 1 ∨ s.config.protocol = 10 → d.seq = 0) :
    Handled tools seqs boundary (insert d.seq delivered) count (tools.record s.recvSeqRecorder (.ofNat d.seq))
        s.log.intervalCalls d (s.restartsAt tools d.reception.data) (s.updateReceived tools d.reception) ∧
      ∀ t, s.updateReceived tools d.reception = .ok t → t.config = s.config ∧ t.streamIdentifier ≠ 0 := by
  obtain ⟨identifier, time, hidentifier, hresult⟩ : ∃ identifier time, identifier ≠ 0 ∧
      s.updateReceived tools d.reception = _ := updateReceived_packet hpacket hfirst
  obtain ⟨hdetecting, hseq⟩ := recorded_detecting htools h hword identifier
  have hhandled := onInterval_detecting htools hspaced hdetecting hpacket hword hseq hreach d.reception.snapshotAt
  have htakes : (recorded tools s d identifier).takesInterval tools = s.takesInterval tools :=
    takesInterval_congr rfl rfl rfl
  rw [htakes, ← restartsAt_packet hpacket] at hhandled
  rw [hresult]
  refine ⟨hhandled.map fun t => updateJitter_sameDetection t _ time, fun t ht => ?_⟩
  cases hdetected : (recorded tools s d identifier).onInterval tools (packetFlags d) (.ofNat d.seq)
    (d.reception.data.drop IperfTestHeader.size) d.reception.snapshotAt with
  | error fault =>
    rw [hdetected] at ht
    cases ht
  | ok detected =>
    rw [hdetected] at ht
    obtain rfl := Except.ok.inj ht
    have hjitter := updateJitter_sameDetection detected d.reception.arrival time
    rw [hjitter.config, hjitter.streamIdentifier]
    obtain ⟨found, rfl | ⟨received, actual, escaped, rfl⟩⟩ := onInterval_cases hdetected <;> exact ⟨rfl, hidentifier⟩

end LiveStream

end BatsIperf
