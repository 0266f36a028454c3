import BatsIperf.Stream.IntervalDetection
import BatsIperf.Stream.SendingLoop

/-!
# The intervals a receiver reports

Runs of a receiver in which the data packets of a sender are delivered. `Received` carries what one delivery preserves along such a run, whichever groups were recognised, and what is counted at a call follows from it. `Recognised` adds that every group was recognised at its first delivery, which takes the first packet of a group to lie less than half the ring past the last threshold.
-/

namespace BatsIperf

open Octets Marking

/-- Data packets of a sender as they may arrive: lost, twice and out of order, but each group for the first time after the groups before it. A reliable protocol delivers the packet with number 0 first. -/
structure DataDelivery (boundary : Nat → Nat) (protocol : Int) (deliveries : List Delivery) : Prop where
  packets : ∀ d ∈ deliveries, IsDataPacket boundary d.group d.seq d.reception.data
  words : ∀ d ∈ deliveries, d.seq < 2 ^ 64
  order : FirstsInOrder (deliveries.map Delivery.group)
  first : protocol = 1 ∨ protocol = 10 → ∀ d ∈ deliveries.head?, d.seq = 0

/-- The first packet of a group lies less than half the ring past the threshold behind the boundary before, and a packet of an earlier group that has not the colour of the highest group so far is at most half the ring behind the threshold. -/
structure WithinHalfRing (boundary : Nat → Nat) (deliveries : List Delivery) : Prop where
  ahead : ∀ first d rest, deliveries = first ++ d :: rest → ∀ k, d.group = k + 1 →
    d.group ∉ first.map Delivery.group → d.seq < boundary k + 128 + 2 ^ 63
  behind : ∀ first d rest, deliveries = first ++ d :: rest → ∀ highest ∈ first.map Delivery.group,
    (∀ group ∈ first.map Delivery.group, group ≤ highest) → d.group < highest → colour highest ≠ colour d.group →
      (boundary highest + 128 - d.seq) % 2 ^ 64 ≤ 2 ^ 63

variable {boundary : Nat → Nat} {protocol : Int} {deliveries first rest : List Delivery} {d : Delivery}

theorem DataDelivery.of_append (h : DataDelivery boundary protocol (first ++ rest)) :
    DataDelivery boundary protocol first where
  packets d hd := h.packets d (List.mem_append_left rest hd)
  words d hd := h.words d (List.mem_append_left rest hd)
  order := by
    have horder := h.order
    rw [List.map_append] at horder
    exact horder.of_append
  first hprotocol d hd := by
    apply h.first hprotocol
    rw [List.head?_append, Option.mem_def.mp hd]
    rfl

theorem WithinHalfRing.of_append (h : WithinHalfRing boundary (first ++ rest)) : WithinHalfRing boundary first where
  ahead before d after hsplit := by
    apply h.ahead before d (after ++ rest)
    rw [hsplit, List.append_assoc, List.cons_append]
  behind before d after hsplit := by
    apply h.behind before d (after ++ rest)
    rw [hsplit, List.append_assoc, List.cons_append]

theorem DataDelivery.of_split (h : DataDelivery boundary protocol deliveries) (hsplit : deliveries = first ++ d :: rest) :
    DataDelivery boundary protocol (first ++ [d]) := by
  rw [hsplit, ← List.singleton_append, ← List.append_assoc] at h
  exact h.of_append

theorem WithinHalfRing.of_split (h : WithinHalfRing boundary deliveries) (hsplit : deliveries = first ++ d :: rest) :
    WithinHalfRing boundary (first ++ [d]) := by
  rw [hsplit, ← List.singleton_append, ← List.append_assoc] at h
  exact h.of_append

/-- Numbers that are all less than half the ring are within half the ring of every boundary that is reached. -/
theorem withinHalfRing_of_below (hdelivery : DataDelivery boundary protocol deliveries)
    (hbelow : ∀ d ∈ deliveries, d.seq ≤ 2 ^ 63 - 128) : WithinHalfRing boundary deliveries where
  ahead first d rest hsplit k _ _ := by
    have hle := hbelow d (hsplit ▸ List.mem_append_right first List.mem_cons_self)
    omega
  behind first d rest hsplit highest hhighest _ _ _ := by
    obtain ⟨e, he, hgroup⟩ := List.mem_map.mp hhighest
    have hmem : e ∈ deliveries := hsplit ▸ List.mem_append_left (d :: rest) he
    have hreached := (hdelivery.packets e hmem).inGroup.1
    have hle := hbelow e hmem
    rw [hgroup] at hreached
    omega

theorem deliveredSeqs_append (first : List Delivery) (d : Delivery) :
    deliveredSeqs (first ++ [d]) = insert d.seq (deliveredSeqs first) := by
  rw [deliveredSeqs, List.map_append, List.toFinset_append, Finset.union_comm]
  rfl

theorem mem_deliveredSeqs {seq : Nat} : seq ∈ deliveredSeqs deliveries ↔ ∃ d ∈ deliveries, d.seq = seq := by
  rw [deliveredSeqs, List.mem_toFinset, List.mem_map]

/-- A data packet without filling, of a sender whose boundaries are `width` apart. -/
def sampleData (width group seq : Nat) : IperfData where
  header :=
    { streamIdentifier := 1, seq := .ofNat seq, time := 0
      grpId := colour group, last := false, ack := false, hasInterval := decide (0 < group) }
  interval := ⟨serializeInterval
    { startSeq := .ofNat (width * (group - 1)), datagrams := .ofNat (width * group - width * (group - 1)) },
    length_serializeInterval _⟩

def sample (width group seq : Nat) : Delivery where
  group := group
  seq := seq
  reception :=
    { data := (sampleData width group seq).packet 72, countedAt := 0, snapshotAt := 0, arrival := 0
      fin := { sendOk := true, views := [], now := 0 } }

theorem isDataPacket_sample {width group seq : Nat} (h : InGroup (fun group => width * group) group seq) :
    IsDataPacket (fun group => width * group) group seq (sample width group seq).reception.data := by
  have hidentifier : (1 : UInt64) ≠ 0 := by decide
  refine isDataPacket_packet (le_refl 72) h rfl hidentifier rfl rfl ⟨rfl, rfl⟩ rfl ?_
  rintro k rfl
  exact ⟨_, rfl, rfl, rfl⟩

namespace LiveStream

variable {Recorder : Type} {tools : SeqTools Recorder} {seqs : Recorder → Finset Nat}

def deliver (deliveries : List Delivery) : List Action := deliveries.map fun d => .received d.reception

theorem accepted_eq {config : TestConfig} {streamId : Nat} {length : Int} {stream : IperfStream}
    (h : IperfStream.accepted config streamId length = .ok stream) :
    stream.config = config ∧ stream.streamIdentifier = 0 := by
  rw [IperfStream.switchDataBlockLength_eq h]
  exact ⟨rfl, rfl⟩

/-! ### The deliveries of a run -/

/-- A receiver after some deliveries, with `count - 1` the group of the last packet it took for the first of its group. -/
structure Received (seqs : Recorder → Finset Nat) (boundary : Nat → Nat) (protocol : Int) (deliveries : List Delivery)
    (count : Nat) (s : LiveStream Recorder) : Prop where
  detecting : Detecting seqs boundary (deliveredSeqs deliveries) count s
  protocol : s.config.protocol = protocol
  identified : s.streamIdentifier = 0 → deliveries = []

theorem received_fresh {stream : IperfStream} {recorder : Recorder} (hspaced : Spaced boundary 128)
    (hrole : stream.config.role = .roleReceiver) (hrecorder : seqs recorder = ∅) :
    Received seqs boundary stream.config.protocol [] 0 (fresh stream recorder) where
  detecting :=
    { role := hrole
      lastGrpId := rfl
      lastBoundary := hspaced.zero.symm
      onlyDelivered := hrecorder.le
      recorded := fun seq hseq => absurd hseq (Finset.notMem_empty seq) }
  protocol := rfl
  identified _ := rfl

variable {count : Nat} {s : LiveStream Recorder}

theorem Received.deliver (htools : tools.Lawful seqs) (hspaced : Spaced boundary 128)
    (h : Received seqs boundary protocol first count s) (hdelivery : DataDelivery boundary protocol (first ++ [d]))
    (hreach : s.InReach boundary d.group d.seq) :
    Handled tools seqs boundary (deliveredSeqs (first ++ [d])) count (tools.record s.recvSeqRecorder (.ofNat d.seq))
        s.log.intervalCalls d (s.restartsAt tools d.reception.data) (s.perform tools (.received d.reception)) ∧
      ∀ t, s.perform tools (.received d.reception) = .ok t →
        ∀ next, Detecting seqs boundary (deliveredSeqs (first ++ [d])) next t →
          Received seqs boundary protocol (first ++ [d]) next t := by
  have hlast : d ∈ first ++ [d] := List.mem_append_right first List.mem_cons_self
  have hfirst : s.streamIdentifier = 0 → s.config.protocol = 1 ∨ s.config.protocol = 10 → d.seq = 0 := by
    intro hidentifier hprotocol
    obtain rfl := h.identified hidentifier
    exact hdelivery.first (h.protocol ▸ hprotocol) d rfl
  obtain ⟨hhandled, hkept⟩ := updateReceived_detecting htools hspaced h.detecting (hdelivery.packets d hlast)
    (hdelivery.words d hlast) hreach hfirst
  rw [← deliveredSeqs_append] at hhandled
  refine ⟨hhandled, fun t ht next hdetecting => ?_⟩
  obtain ⟨hconfig, hidentifier⟩ := hkept t ht
  exact ⟨hdetecting, hconfig ▸ h.protocol, fun hzero => absurd hzero hidentifier⟩

theorem run_deliver_append {s₀ t : LiveStream Recorder} :
    (machine tools).run s₀ (LiveStream.deliver (first ++ [d])) = some t ↔
      ∃ s, (machine tools).run s₀ (LiveStream.deliver first) = some s ∧
        s.perform tools (.received d.reception) = .ok t := by
  rw [LiveStream.deliver, List.map_append, Machine.run_append]
  refine exists_congr fun s => and_congr_right fun _ => ?_
  rw [List.map_singleton, Machine.run_cons]
  constructor
  · rintro ⟨next, hstep, hend⟩
    obtain rfl := Option.some.inj hend
    exact step_eq_some.mp hstep
  · intro ht
    exact ⟨t, step_eq_some.mpr ht, rfl⟩

theorem received_run (htools : tools.Lawful seqs) (hspaced : Spaced boundary 128) {s₀ : LiveStream Recorder}
    (hstart : Received seqs boundary protocol [] 0 s₀) (hdelivery : DataDelivery boundary protocol deliveries)
    (hreach : ∀ first d rest s, deliveries = first ++ d :: rest →
      (machine tools).run s₀ (LiveStream.deliver first) = some s → s.InReach boundary d.group d.seq)
    (hrun : (machine tools).run s₀ (LiveStream.deliver deliveries) = some s) :
    ∃ count, Received seqs boundary protocol deliveries count s := by
  induction deliveries using List.reverseRecOn generalizing s with
  | nil =>
    obtain rfl := Option.some.inj hrun
    exact ⟨0, hstart⟩
  | append_singleton first d ih =>
    obtain ⟨before, hbefore, hs⟩ := run_deliver_append.mp hrun
    obtain ⟨count, hreceived⟩ := ih hdelivery.of_append (fun earlier e later t hsplit ht =>
      hreach earlier e (later ++ [d]) t (by rw [hsplit, List.append_assoc, List.cons_append]) ht) hbefore
    obtain ⟨hhandled, hkept⟩ :=
      hreceived.deliver htools hspaced hdelivery (hreach first d [] before rfl hbefore)
    rw [hs] at hhandled
    cases hrestarts : before.restartsAt tools d.reception.data with
    | true =>
      rw [hrestarts] at hhandled
      obtain ⟨k, _, _, _, ⟨t, ht, _, hdetecting⟩ | ⟨hfault, _⟩⟩ := hhandled.of_restarts
      · obtain rfl := Except.ok.inj ht
        exact ⟨k + 2, hkept s hs _ hdetecting⟩
      · cases hfault
    | false =>
      rw [hrestarts] at hhandled
      obtain ⟨t, ht, _, _, hdetecting⟩ := hhandled.of_not_restarts
      obtain rfl := Except.ok.inj ht
      exact ⟨_, hkept s hs _ hdetecting⟩

/-- A receiver that has taken the first delivery of every group for one. -/
structure Recognised (seqs : Recorder → Finset Nat) (boundary : Nat → Nat) (protocol : Int) (deliveries : List Delivery)
    (count : Nat) (s : LiveStream Recorder) : Prop extends Received seqs boundary protocol deliveries count s where
  groups : ∀ group, group ∈ deliveries.map Delivery.group ↔ group < count
  calls : s.log.intervalCalls.length = count - 1 ∧
    ∀ (k : Nat) (call : IntervalCall), s.log.intervalCalls[k]? = some call → Carries boundary k call

theorem Recognised.inReach (hspaced : Spaced boundary 128) (h : Recognised seqs boundary protocol first count s)
    (hring : WithinHalfRing boundary (first ++ [d])) : s.InReach boundary d.group d.seq := by
  intro hlate hcolour
  have hboundary := h.detecting.lastBoundary
  have hstep := hspaced.step d.group
  rw [hboundary] at hlate ⊢
  have hearlier : d.group < count - 1 := by
    by_contra hge
    have hmono := hspaced.monotone (show count - 1 ≤ d.group by omega)
    omega
  have hlast := h.detecting.lastGrpId
  rw [if_neg (by omega)] at hlast
  rw [hlast] at hcolour
  refine hring.behind first d [] rfl (count - 1) ((h.groups _).mpr (by omega)) (fun group hgroup => ?_) hearlier
    (fun heq => hcolour (congrArg some heq))
  have hlt := (h.groups group).mp hgroup
  omega

/-- The first delivery of a group restarts the recorder, and no other one does. -/
theorem Recognised.restarts_iff (htools : tools.Lawful seqs) (hspaced : Spaced boundary 128)
    (h : Recognised seqs boundary protocol first count s) (hdelivery : DataDelivery boundary protocol (first ++ [d]))
    (hring : WithinHalfRing boundary (first ++ [d])) :
    s.restartsAt tools d.reception.data = true ↔ 0 < d.group ∧ d.group ∉ first.map Delivery.group := by
  obtain ⟨hhandled, _⟩ := h.toReceived.deliver htools hspaced hdelivery (h.inReach hspaced hring)
  constructor
  · intro hrestarts
    rw [hrestarts] at hhandled
    obtain ⟨k, _, hcall, hcount, _⟩ := hhandled.of_restarts
    have hgroup := hcall.group
    rw [h.groups]
    omega
  · rintro ⟨hpos, hnew⟩
    have hle : d.group ≤ count := by
      have horder := hdelivery.order
      rw [List.map_append] at horder
      exact horder.le_count h.groups
    obtain ⟨highest, hhighest⟩ : ∃ highest, d.group = highest + 1 := ⟨d.group - 1, by omega⟩
    have hcount : count = highest + 1 := by
      rw [h.groups] at hnew
      omega
    subst hcount
    exact restartsAt_opening htools hspaced h.detecting
      (hdelivery.packets d (List.mem_append_right first List.mem_cons_self)) hhighest
      (hring.ahead first d [] rfl highest hhighest hnew)

/-- One more call, for the group behind those so far. -/
theorem carries_append {calls : List IntervalCall} {k : Nat} {call : IntervalCall} (hlength : calls.length = k)
    (hcarries : ∀ (j : Nat) (other : IntervalCall), calls[j]? = some other → Carries boundary j other)
    (hcall : Carries boundary k call) (j : Nat) (other : IntervalCall) (hj : (calls ++ [call])[j]? = some other) :
    Carries boundary j other := by
  rcases Nat.lt_or_ge j calls.length with hlt | hge
  · rw [List.getElem?_append_left hlt] at hj
    exact hcarries j other hj
  · rw [List.getElem?_append_right hge] at hj
    obtain ⟨hindex, heq⟩ := List.getElem?_eq_some_iff.mp hj
    rw [List.length_singleton] at hindex
    obtain rfl : j = k := by omega
    rw [List.getElem_singleton] at heq
    exact heq ▸ hcall

/-- Where the handling of one more delivery returns, it was recognised or belongs to a group that was. -/
theorem Recognised.deliver (htools : tools.Lawful seqs) (hspaced : Spaced boundary 128) {t : LiveStream Recorder}
    (h : Recognised seqs boundary protocol first count s) (hdelivery : DataDelivery boundary protocol (first ++ [d]))
    (hring : WithinHalfRing boundary (first ++ [d])) (ht : s.perform tools (.received d.reception) = .ok t) :
    Recognised seqs boundary protocol (first ++ [d]) (if d.group = count then count + 1 else count) t := by
  obtain ⟨hhandled, hkept⟩ := h.toReceived.deliver htools hspaced hdelivery (h.inReach hspaced hring)
  have hrestarts := h.restarts_iff htools hspaced hdelivery hring
  have hle : d.group ≤ count := by
    have horder := hdelivery.order
    rw [List.map_append] at horder
    exact horder.le_count h.groups
  have hgroups : ∀ group, group ∈ (first ++ [d]).map Delivery.group ↔
      group < if d.group = count then count + 1 else count := by
    intro group
    rw [List.map_append, List.mem_append, h.groups, List.map_singleton, List.mem_singleton]
    split <;> omega
  rw [ht] at hhandled
  rw [h.groups] at hrestarts
  cases hcase : s.restartsAt tools d.reception.data with
  | true =>
    rw [hcase] at hhandled
    obtain ⟨k, call, hcall, hcount, ⟨u, hu, hcalls, hdetecting⟩ | ⟨hfault, _⟩⟩ := hhandled.of_restarts
    · obtain rfl := Except.ok.inj hu
      have hnew := hrestarts.mp hcase
      have hgroup := hcall.group
      obtain rfl : count = k + 1 := by omega
      rw [if_pos hgroup] at hgroups ⊢
      refine ⟨hkept t ht _ hdetecting, hgroups, ?_, ?_⟩
      · rw [hcalls, List.length_append, h.calls.1]
        rfl
      · rw [hcalls]
        exact carries_append h.calls.1 h.calls.2 hcall.carries
    · cases hfault
  | false =>
    rw [hcase] at hhandled
    have hold : ¬ (0 < d.group ∧ ¬ d.group < count) := fun hnew => Bool.false_ne_true (hcase.symm.trans (hrestarts.mpr hnew))
    obtain ⟨u, hu, hfirst, hcalls, hdetecting⟩ := hhandled.of_not_restarts
    obtain rfl := Except.ok.inj hu
    have hnext : (if d.group = count then count + 1 else count) = if count = 0 then 1 else count := by
      split <;> split <;> omega
    rw [← hnext] at hdetecting
    refine ⟨hkept t ht _ hdetecting, hgroups, ?_, ?_⟩
    · rw [hcalls, h.calls.1]
      split <;> omega
    · rw [hcalls]
      exact h.calls.2

theorem recognised_run (htools : tools.Lawful seqs) (hspaced : Spaced boundary 128) {s₀ : LiveStream Recorder}
    (hstart : Recognised seqs boundary protocol [] 0 s₀) (hdelivery : DataDelivery boundary protocol deliveries)
    (hring : WithinHalfRing boundary deliveries)
    (hrun : (machine tools).run s₀ (LiveStream.deliver deliveries) = some s) :
    ∃ count, Recognised seqs boundary protocol deliveries count s := by
  induction deliveries using List.reverseRecOn generalizing s with
  | nil =>
    obtain rfl := Option.some.inj hrun
    exact ⟨0, hstart⟩
  | append_singleton first d ih =>
    obtain ⟨before, hbefore, hs⟩ := run_deliver_append.mp hrun
    obtain ⟨count, hrecognised⟩ := ih hdelivery.of_append hring.of_append hbefore
    exact ⟨_, hrecognised.deliver htools hspaced hdelivery hring hs⟩

/-- Only the largest number, as the first of its group, keeps the handling of a delivery from returning. -/
theorem Recognised.fault_largest (htools : tools.Lawful seqs) (hspaced : Spaced boundary 128) {fault : Fault}
    (h : Recognised seqs boundary protocol first count s) (hdelivery : DataDelivery boundary protocol (first ++ [d]))
    (hring : WithinHalfRing boundary (first ++ [d]))
    (hfault : s.perform tools (.received d.reception) = .error fault) :
    fault = .noProgress ∧ d.seq = 2 ^ 64 - 1 ∧ s.restartsAt tools d.reception.data = true := by
  obtain ⟨hhandled, _⟩ := h.toReceived.deliver htools hspaced hdelivery (h.inReach hspaced hring)
  rw [hfault] at hhandled
  cases hcase : s.restartsAt tools d.reception.data with
  | true =>
    rw [hcase] at hhandled
    obtain ⟨k, call, hcall, hcount, ⟨u, hu, _, _⟩ | ⟨hendless, hmax⟩⟩ := hhandled.of_restarts
    · cases hu
    · obtain rfl := Except.error.inj hendless
      refine ⟨rfl, ?_, rfl⟩
      have hlast : d ∈ first ++ [d] := List.mem_append_right first List.mem_cons_self
      have hword := hdelivery.words d hlast
      have hlow := (hdelivery.packets d hlast).inGroup.1
      obtain ⟨e, he, hseq⟩ := mem_deliveredSeqs.mp hmax
      rcases List.mem_append.mp he with hearlier | hd
      · -- an earlier packet with the largest number belongs to a group before this one
        have hnew := ((h.restarts_iff htools hspaced hdelivery hring).mp hcase).2
        have hgroup : e.group < count := (h.groups _).mp (List.mem_map_of_mem hearlier)
        have hcallGroup := hcall.group
        have hmono := hspaced.monotone (show e.group + 1 ≤ d.group by omega)
        have hhigh := (hdelivery.packets e he).inGroup.2
        omega
      · obtain rfl := List.mem_singleton.mp hd
        exact hseq
  | false =>
    rw [hcase] at hhandled
    obtain ⟨u, hu, _⟩ := hhandled.of_not_restarts
    cases hu

/-- Where no group starts with the largest number, a run of deliveries goes through. -/
theorem run_recognised (htools : tools.Lawful seqs) (hspaced : Spaced boundary 128) {s₀ : LiveStream Recorder}
    (hstart : Recognised seqs boundary protocol [] 0 s₀) (hdelivery : DataDelivery boundary protocol deliveries)
    (hring : WithinHalfRing boundary deliveries)
    (hlargest : ∀ first d rest, deliveries = first ++ d :: rest → 0 < d.group →
      d.group ∉ first.map Delivery.group → d.seq ≠ 2 ^ 64 - 1) :
    ∃ count s, (machine tools).run s₀ (LiveStream.deliver deliveries) = some s ∧
      Recognised seqs boundary protocol deliveries count s := by
  induction deliveries using List.reverseRecOn with
  | nil => exact ⟨0, s₀, rfl, hstart⟩
  | append_singleton first d ih =>
    obtain ⟨count, s, hrun, hrecognised⟩ := ih hdelivery.of_append hring.of_append fun before e after hsplit =>
      hlargest before e (after ++ [d]) (by rw [hsplit, List.append_assoc, List.cons_append])
    cases hresult : s.perform tools (.received d.reception) with
    | error fault =>
      obtain ⟨_, hseq, hrestarts⟩ := hrecognised.fault_largest htools hspaced hdelivery hring hresult
      obtain ⟨hpos, hnew⟩ := (hrecognised.restarts_iff htools hspaced hdelivery hring).mp hrestarts
      exact absurd hseq (hlargest first d [] rfl hpos hnew)
    | ok t =>
      exact ⟨_, t, run_deliver_append.mpr ⟨s, hrun, hresult⟩, hrecognised.deliver htools hspaced hdelivery hring hresult⟩

/-! ### The calls -/

section

variable {config : TestConfig} {streamId : Nat} {length : Int} {stream : IperfStream} {recorder : Recorder}

theorem received_accepted (hspaced : Spaced boundary 128)
    (haccepted : IperfStream.accepted { config with role := .roleReceiver } streamId length = .ok stream)
    (hrecorder : seqs recorder = ∅) : Received seqs boundary config.protocol [] 0 (fresh stream recorder) := by
  obtain ⟨hconfig, _⟩ := accepted_eq haccepted
  have hrole : stream.config.role = .roleReceiver := congrArg TestConfig.role hconfig
  have hprotocol : stream.config.protocol = config.protocol := by rw [hconfig]
  exact hprotocol ▸ received_fresh hspaced hrole hrecorder

theorem recognised_accepted (hspaced : Spaced boundary 128)
    (haccepted : IperfStream.accepted { config with role := .roleReceiver } streamId length = .ok stream)
    (hrecorder : seqs recorder = ∅) : Recognised seqs boundary config.protocol [] 0 (fresh stream recorder) where
  toReceived := received_accepted hspaced haccepted hrecorder
  groups group := ⟨fun h => absurd h List.not_mem_nil, fun h => absurd h (Nat.not_lt_zero group)⟩
  calls := ⟨rfl, fun _ _ h => by cases h⟩

/-- Every group behind the first is detected once, at its first delivery, with the interval before it. Only where that delivery has the largest number does its handling not return. -/
theorem groups_detected_once (htools : tools.Lawful seqs) (hspaced : Spaced boundary 128)
    (haccepted : IperfStream.accepted { config with role := .roleReceiver } streamId length = .ok stream)
    (hrecorder : seqs recorder = ∅) (hdelivery : DataDelivery boundary config.protocol deliveries)
    (hring : WithinHalfRing boundary deliveries) :
    (∀ first d rest s, deliveries = first ++ d :: rest →
      (machine tools).run (fresh stream recorder) (LiveStream.deliver first) = some s →
        (s.restartsAt tools d.reception.data = true ↔ 0 < d.group ∧ d.group ∉ first.map Delivery.group) ∧
        (0 < d.group → d.group ∉ first.map Delivery.group →
          ∃ call, deserializeInterval (d.reception.data.drop IperfTestHeader.size) = .ok call.received ∧
            Carries boundary (d.group - 1) call ∧
            ∀ t, s.perform tools (.received d.reception) = .ok t →
              t.log.intervalCalls = s.log.intervalCalls ++ [call]) ∧
        (d.group = 0 ∨ d.group ∈ first.map Delivery.group →
          ∃ t, s.perform tools (.received d.reception) = .ok t ∧ t.log.intervalCalls = s.log.intervalCalls) ∧
        ∀ fault, s.perform tools (.received d.reception) = .error fault → fault = .noProgress ∧ d.seq = 2 ^ 64 - 1) ∧
    ((∀ first d rest, deliveries = first ++ d :: rest → 0 < d.group → d.group ∉ first.map Delivery.group →
        d.seq ≠ 2 ^ 64 - 1) →
      ∃ count s, (machine tools).run (fresh stream recorder) (LiveStream.deliver deliveries) = some s ∧
        (∀ group, group ∈ deliveries.map Delivery.group ↔ group < count) ∧
        s.log.intervalCalls.length = count - 1 ∧
        ∀ (k : Nat) (call : IntervalCall), s.log.intervalCalls[k]? = some call → Carries boundary k call) := by
  have hstart := recognised_accepted hspaced haccepted hrecorder
  constructor
  · intro first d rest s hsplit hrun
    have hdelivery := hdelivery.of_split hsplit
    have hring := hring.of_split hsplit
    obtain ⟨count, hrecognised⟩ := recognised_run htools hspaced hstart hdelivery.of_append hring.of_append hrun
    have hrestarts := hrecognised.restarts_iff htools hspaced hdelivery hring
    obtain ⟨hhandled, _⟩ := hrecognised.toReceived.deliver htools hspaced hdelivery (hrecognised.inReach hspaced hring)
    refine ⟨hrestarts, fun hpos hnew => ?_, fun hseen => ?_, fun fault hfault => ?_⟩
    · rw [hrestarts.mpr ⟨hpos, hnew⟩] at hhandled
      obtain ⟨k, call, hcall, _, hreturns⟩ := hhandled.of_restarts
      refine ⟨call, hcall.read, hcall.group ▸ hcall.carries, fun t ht => ?_⟩
      obtain ⟨u, hu, hcalls, _⟩ | ⟨hfault, _⟩ := hreturns
      · obtain rfl := Except.ok.inj (ht.symm.trans hu)
        exact hcalls
      · cases ht.symm.trans hfault
    · have hnot : s.restartsAt tools d.reception.data = false := by
        rw [← Bool.not_eq_true, hrestarts]
        rintro ⟨hpos, hnew⟩
        exact hseen.elim (fun hzero => absurd hzero (by omega)) hnew
      rw [hnot] at hhandled
      obtain ⟨t, ht, _, hcalls, _⟩ := hhandled.of_not_restarts
      exact ⟨t, ht, hcalls⟩
    · obtain ⟨hkind, hseq, _⟩ := hrecognised.fault_largest htools hspaced hdelivery hring hfault
      exact ⟨hkind, hseq⟩
  · intro hlargest
    obtain ⟨count, s, hrun, hrecognised⟩ := run_recognised htools hspaced hstart hdelivery hring hlargest
    exact ⟨count, s, hrun, hrecognised.groups, hrecognised.calls⟩

theorem dataDelivery_samples {width : Nat} {samples : List (Nat × Nat)}
    (hin : ∀ sent ∈ samples, InGroup (fun group => width * group) sent.1 sent.2 ∧ sent.2 < 2 ^ 64)
    (horder : FirstsInOrder (samples.map Prod.fst))
    (hfirst : protocol = 1 ∨ protocol = 10 → ∀ sent ∈ samples.head?, sent.2 = 0) :
    DataDelivery (fun group => width * group) protocol (samples.map fun sent => sample width sent.1 sent.2) where
  packets d hd := by
    obtain ⟨sent, hsent, rfl⟩ := List.mem_map.mp hd
    exact isDataPacket_sample (hin sent hsent).1
  words d hd := by
    obtain ⟨sent, hsent, rfl⟩ := List.mem_map.mp hd
    exact (hin sent hsent).2
  order := by
    rw [List.map_map]
    exact horder
  first hprotocol d hd := by
    rw [List.head?_map] at hd
    obtain ⟨sent, hsent, rfl⟩ := Option.mem_map.mp hd
    exact hfirst hprotocol sent hsent

/-- The second packet of two is the first one of its group. -/
theorem groups_detected_once_second :
    ∃ stream s, IperfStream.accepted { protocol := 1, role := .roleReceiver } 1 1000 = .ok stream ∧
      (machine SeqTools.ofLists).run (fresh stream []) (LiveStream.deliver [sample 129 0 0, sample 129 1 130]) = some s ∧
      s.log.intervalCalls.length = 1 ∧
      ∀ (k : Nat) (call : IntervalCall), s.log.intervalCalls[k]? = some call → Carries (fun group => 129 * group) k call := by
  have hdelivery : DataDelivery (fun group => 129 * group) 1 [sample 129 0 0, sample 129 1 130] :=
    @dataDelivery_samples _ 129 [(0, 0), (1, 130)] (by unfold InGroup; decide) (by decide)
      fun _ => by decide
  have hbelow : ∀ d ∈ [sample 129 0 0, sample 129 1 130], d.seq ≤ 2 ^ 63 - 128 := by decide
  have hspaced : Spaced (fun group => 129 * group) 128 := spaced_mul (by decide)
  obtain ⟨stream, haccepted⟩ : ∃ stream,
    IperfStream.accepted { protocol := 1, role := .roleReceiver } 1 1000 = .ok stream := ⟨_, rfl⟩
  obtain ⟨_, hwhole⟩ := @groups_detected_once _ _ _ _ _ { protocol := 1 } _ _ _ []
    SeqTools.ofLists_lawful hspaced haccepted rfl hdelivery (withinHalfRing_of_below hdelivery hbelow)
  obtain ⟨count, s, hrun, hgroups, hlength, hcarries⟩ := hwhole fun first d rest hsplit _ _ heq => by
    have hle := hbelow d (hsplit ▸ List.mem_append_right first List.mem_cons_self)
    omega
  refine ⟨stream, s, haccepted, hrun, ?_, hcarries⟩
  have htwo : count = 2 := by
    have hone := (hgroups 1).mp (by decide)
    have hnot := mt (hgroups 2).mpr (by decide)
    omega
  rw [hlength, htwo]

/-- The intervals a receiver was called with after some samples, where it handles them all. -/
def callsAfter (protocol : Int) (width : Nat) (samples : List (Nat × Nat)) : Option (List (Nat × Nat × Nat)) :=
  (IperfStream.accepted { protocol := protocol, role := .roleReceiver } 1 1000).toOption.bind fun stream =>
    ((machine SeqTools.ofLists).run (fresh stream []) (LiveStream.deliver
      (samples.map fun sent => sample width sent.1 sent.2))).map fun s => s.log.intervalCalls.map fun call =>
        (call.received.startSeq.toNat, call.received.datagrams.toNat, call.actualReceived)

/-- Half the ring ahead, the first packet of a group is not taken for one; more than half the ring behind, a late packet is, and its interval and the next are handed over again; and behind a group that starts with the largest number none is detected. -/
theorem groups_missed_counterexample :
    SeqTools.ofLists.Lawful (fun recorder => (recorder.map UInt64.toNat).toFinset) ∧
      (Spaced (fun group => (2 ^ 63 + 1000) * group) 128 ∧
        DataDelivery (fun group => (2 ^ 63 + 1000) * group) 1
          ([(0, 0), (1, 2 ^ 63 + 1000)].map fun sent => sample (2 ^ 63 + 1000) sent.1 sent.2) ∧
        callsAfter 1 (2 ^ 63 + 1000) [(0, 0), (1, 2 ^ 63 + 1000)] = some []) ∧
      (Spaced (fun group => 2 ^ 63 * group) 128 ∧
        DataDelivery (fun group => 2 ^ 63 * group) 0
          ([(0, 5), (1, 2 ^ 63), (0, 0), (1, 2 ^ 63 + 129)].map fun sent => sample (2 ^ 63) sent.1 sent.2) ∧
        callsAfter 0 (2 ^ 63) [(0, 5), (1, 2 ^ 63), (0, 0), (1, 2 ^ 63 + 129)]
          = some [(0, 2 ^ 63, 1), (0, 2 ^ 63, 1)]) ∧
      Spaced (fun group => (2 ^ 64 - 1) / 5 * group) 128 ∧
      DataDelivery (fun group => (2 ^ 64 - 1) / 5 * group) 1
        ([(0, 0), (1, (2 ^ 64 - 1) / 5), (2, (2 ^ 64 - 1) / 5 * 2), (3, (2 ^ 64 - 1) / 5 * 3), (4, 2 ^ 64 - 1),
          (5, 2 ^ 64 - 1)].map fun sent => sample ((2 ^ 64 - 1) / 5) sent.1 sent.2) ∧
      callsAfter 1 ((2 ^ 64 - 1) / 5) [(0, 0), (1, (2 ^ 64 - 1) / 5), (2, (2 ^ 64 - 1) / 5 * 2),
        (3, (2 ^ 64 - 1) / 5 * 3), (4, 2 ^ 64 - 1)] = none := by
  refine ⟨SeqTools.ofLists_lawful, ⟨spaced_mul (by decide), ?_, by decide +kernel⟩,
    ⟨spaced_mul (by decide), ?_, by decide +kernel⟩, spaced_mul (by decide), ?_, by decide +kernel⟩
  · exact dataDelivery_samples (by unfold InGroup; decide) (by decide) fun _ => by decide
  · exact dataDelivery_samples (by unfold InGroup; decide) (by decide) fun hprotocol => absurd hprotocol (by decide)
  · exact dataDelivery_samples (by unfold InGroup; decide) (by decide) fun _ => by decide

/-- A call counts what was delivered of its interval, so what is missing from the interval is what was not. -/
structure CountsExactly (delivered : Finset Nat) (call : IntervalCall) : Prop where
  actual : call.actualReceived = (delivered ∩ Finset.Ico call.received.startSeq.toNat
    (call.received.startSeq.toNat + call.received.datagrams.toNat)).card
  atMost : call.actualReceived ≤ call.received.datagrams.toNat
  missing : call.received.datagrams.toNat - call.actualReceived
    = (Finset.Ico call.received.startSeq.toNat
        (call.received.startSeq.toNat + call.received.datagrams.toNat) \ delivered).card

theorem CallsFor.countsExactly {delivered : Finset Nat} {k : Nat} {call : IntervalCall}
    (h : CallsFor tools boundary delivered recorder d k call) (hspaced : Spaced boundary 128) (hword : d.seq < 2 ^ 64)
    (hin : InGroup boundary d.group d.seq) : CountsExactly delivered call := by
  have hstep := hspaced.step k
  have hlow : boundary (k + 1) ≤ d.seq := h.group ▸ hin.1
  have hstartSeq : call.received.startSeq.toNat = boundary k := by
    rw [h.carries.startSeq, UInt64.toNat_ofNat', Nat.mod_eq_of_lt (by omega)]
  have hdatagrams : call.received.datagrams.toNat = boundary (k + 1) - boundary k := by
    rw [h.carries.datagrams, UInt64.toNat_ofNat', Nat.mod_eq_of_lt (by omega)]
  have hrange : Finset.Ico call.received.startSeq.toNat (call.received.startSeq.toNat + call.received.datagrams.toNat)
      = Finset.Ico (boundary k) (boundary (k + 1)) := by
    rw [hstartSeq, hdatagrams, Nat.add_sub_cancel' (by omega)]
  have hbetween : between boundary k delivered = delivered ∩ Finset.Ico (boundary k) (boundary (k + 1)) := by
    ext seq
    rw [between, Finset.mem_filter, Finset.mem_inter, Finset.mem_Ico]
  have hcard := Finset.card_sdiff_add_card_inter (Finset.Ico (boundary k) (boundary (k + 1))) delivered
  rw [Nat.card_Ico, Finset.inter_comm, ← hbetween, ← h.actual, ← hdatagrams] at hcard
  constructor
  · rw [hrange, h.actual, hbetween]
  · omega
  · rw [hrange]
    omega

/-- At every call the number counted is that of the packets delivered from the interval, and no assertion fails. A late packet that is not in reach of the comparison is left out. -/
theorem losses_exact (htools : tools.Lawful seqs) (hspaced : Spaced boundary 128)
    (haccepted : IperfStream.accepted { config with role := .roleReceiver } streamId length = .ok stream)
    (hrecorder : seqs recorder = ∅) (hdelivery : DataDelivery boundary config.protocol deliveries)
    (hreach : ∀ first d rest s, deliveries = first ++ d :: rest →
      (machine tools).run (fresh stream recorder) (LiveStream.deliver first) = some s →
        s.InReach boundary d.group d.seq) :
    ∀ first d rest s, deliveries = first ++ d :: rest →
      (machine tools).run (fresh stream recorder) (LiveStream.deliver first) = some s →
        (s.restartsAt tools d.reception.data = true →
          ∃ call, deserializeInterval (d.reception.data.drop IperfTestHeader.size) = .ok call.received ∧
            tools.recordedNumInRange (tools.record s.recvSeqRecorder (.ofNat d.seq)) call.received.startSeq
              (call.received.startSeq + call.received.datagrams) = call.actualReceived ∧
            CountsExactly (deliveredSeqs (first ++ [d])) call ∧
            ∀ t, s.perform tools (.received d.reception) = .ok t →
              t.log.intervalCalls = s.log.intervalCalls ++ [call]) ∧
        (s.restartsAt tools d.reception.data = false →
          ∃ t, s.perform tools (.received d.reception) = .ok t ∧ t.log.intervalCalls = s.log.intervalCalls) ∧
        s.perform tools (.received d.reception) ≠ .error .failedAssert := by
  intro first d rest s hsplit hrun
  have hstart := received_accepted hspaced haccepted hrecorder
  have hnow := hreach first d rest s hsplit hrun
  have hearlier : ∀ before e after t, first = before ++ e :: after →
      (machine tools).run (fresh stream recorder) (LiveStream.deliver before) = some t →
        t.InReach boundary e.group e.seq := by
    intro before e after t hfirst
    exact hreach before e (after ++ d :: rest) t (by rw [hsplit, hfirst, List.append_assoc, List.cons_append])
  have hdelivery := hdelivery.of_split hsplit
  obtain ⟨count, hreceived⟩ := received_run htools hspaced hstart hdelivery.of_append hearlier hrun
  obtain ⟨hhandled, _⟩ := hreceived.deliver htools hspaced hdelivery hnow
  cases hcase : s.restartsAt tools d.reception.data with
  | true =>
    rw [hcase] at hhandled
    obtain ⟨k, call, hcall, _, hreturns⟩ := hhandled.of_restarts
    have hlast : d ∈ first ++ [d] := List.mem_append_right first List.mem_cons_self
    have hexact := hcall.countsExactly hspaced (hdelivery.words d hlast) (hdelivery.packets d hlast).inGroup
    refine ⟨fun _ => ⟨call, hcall.read, hcall.counted, hexact, fun t ht => ?_⟩,
      fun hnot => absurd hnot.symm Bool.false_ne_true, fun hassert => ?_⟩
    · obtain ⟨u, hu, hcalls, _⟩ | ⟨hfault, _⟩ := hreturns
      · obtain rfl := Except.ok.inj (ht.symm.trans hu)
        exact hcalls
      · cases ht.symm.trans hfault
    · obtain ⟨u, hu, _⟩ | ⟨hfault, _⟩ := hreturns
      · cases hassert.symm.trans hu
      · cases hassert.symm.trans hfault
  | false =>
    rw [hcase] at hhandled
    obtain ⟨t, ht, _, hcalls, _⟩ := hhandled.of_not_restarts
    refine ⟨fun hrestarts => absurd hrestarts Bool.false_ne_true, fun _ => ⟨t, ht, hcalls⟩, fun hassert => ?_⟩
    cases hassert.symm.trans ht

/-- Of the 129 packets before the second group one was delivered. -/
theorem losses_exact_second :
    ∃ stream s t call, IperfStream.accepted { role := .roleReceiver } 1 1000 = .ok stream ∧
      (machine SeqTools.ofLists).run (fresh stream []) (LiveStream.deliver [sample 129 0 5]) = some s ∧
      s.perform SeqTools.ofLists (.received (sample 129 1 130).reception) = .ok t ∧
      t.log.intervalCalls = s.log.intervalCalls ++ [call] ∧
      t.log.intervalCalls.map IntervalCall.actualReceived = [1] ∧
      CountsExactly (deliveredSeqs [sample 129 0 5, sample 129 1 130]) call := by
  have hdelivery : DataDelivery (fun group => 129 * group) 0 [sample 129 0 5, sample 129 1 130] :=
    @dataDelivery_samples _ 129 [(0, 5), (1, 130)] (by unfold InGroup; decide) (by decide)
      fun hprotocol => absurd hprotocol (by decide)
  have hring := withinHalfRing_of_below hdelivery (by decide)
  have hspaced : Spaced (fun group => 129 * group) 128 := spaced_mul (by decide)
  obtain ⟨stream, haccepted⟩ : ∃ stream, IperfStream.accepted { role := .roleReceiver } 1 1000 = .ok stream := ⟨_, rfl⟩
  have hstart : Recognised (fun recorder => (recorder.map UInt64.toNat).toFinset) (fun group => 129 * group) 0 [] 0
    (fresh stream []) := @recognised_accepted _ _ _ {} _ _ _ [] hspaced haccepted rfl
  have hrecognised : ∀ first d rest s, [sample 129 0 5, sample 129 1 130] = first ++ d :: rest →
      (machine SeqTools.ofLists).run (fresh stream []) (LiveStream.deliver first) = some s →
        ∃ count, Recognised (fun recorder => (recorder.map UInt64.toNat).toFinset) (fun group => 129 * group) 0 first count s := by
    intro first d rest s hsplit hrun
    exact recognised_run SeqTools.ofLists_lawful hspaced hstart (hdelivery.of_split hsplit).of_append
      (hring.of_split hsplit).of_append hrun
  have hreach : ∀ first d rest s, [sample 129 0 5, sample 129 1 130] = first ++ d :: rest →
      (machine SeqTools.ofLists).run (fresh stream []) (LiveStream.deliver first) = some s →
        s.InReach (fun group => 129 * group) d.group d.seq := by
    intro first d rest s hsplit hrun
    obtain ⟨count, hrecognised⟩ := hrecognised first d rest s hsplit hrun
    exact hrecognised.inReach hspaced (hring.of_split hsplit)
  have heval : callsAfter 0 129 [(0, 5), (1, 130)] = some [(0, 129, 1)] := by decide +kernel
  unfold callsAfter at heval
  rw [haccepted] at heval
  obtain ⟨t, ht, hcalls⟩ := Option.map_eq_some_iff.mp heval
  obtain ⟨s, hrun, hlast⟩ := (@run_deliver_append [sample 129 0 5] (sample 129 1 130) _ _ _ _).mp ht
  obtain ⟨hcall, _⟩ := @losses_exact _ _ _ _ _ {} _ _ _ [] SeqTools.ofLists_lawful hspaced haccepted rfl hdelivery hreach
    [sample 129 0 5] (sample 129 1 130) [] s rfl hrun
  obtain ⟨count, hfirst⟩ := hrecognised [sample 129 0 5] (sample 129 1 130) [] s rfl hrun
  have hrestarts := (hfirst.restarts_iff SeqTools.ofLists_lawful hspaced hdelivery hring).mpr ⟨Nat.one_pos, by decide⟩
  obtain ⟨call, _, _, hexact, hlogged⟩ := hcall hrestarts
  refine ⟨stream, s, t, call, haccepted, hrun, hlast, hlogged t hlast, ?_, hexact⟩
  have hactual := congrArg (List.map fun counted => counted.2.2) hcalls
  rwa [List.map_map] at hactual

/-- More than half the ring behind, a late packet makes the receiver hand over an interval twice, and the second time it counts one packet of the two delivered. -/
theorem losses_overstated_counterexample :
    SeqTools.ofLists.Lawful (fun recorder => (recorder.map UInt64.toNat).toFinset) ∧
      Spaced (fun group => 2 ^ 63 * group) 128 ∧
      DataDelivery (fun group => 2 ^ 63 * group) 0
        ([(0, 5), (1, 2 ^ 63), (0, 0), (1, 2 ^ 63 + 129)].map fun sent => sample (2 ^ 63) sent.1 sent.2) ∧
      callsAfter 0 (2 ^ 63) [(0, 5), (1, 2 ^ 63), (0, 0), (1, 2 ^ 63 + 129)]
        = some [(0, 2 ^ 63, 1), (0, 2 ^ 63, 1)] ∧
      (deliveredSeqs ([(0, 5), (1, 2 ^ 63), (0, 0), (1, 2 ^ 63 + 129)].map fun sent =>
        sample (2 ^ 63) sent.1 sent.2)).filter (fun seq => seq < 2 ^ 63) = {5, 0} := by
  refine ⟨SeqTools.ofLists_lawful, spaced_mul (by decide), ?_, by decide +kernel, by decide +kernel⟩
  exact dataDelivery_samples (by unfold InGroup; decide) (by decide) fun hprotocol => absurd hprotocol (by decide)

end

end LiveStream

end BatsIperf
