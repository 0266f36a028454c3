import BatsIperf.Foundation.Marking
import BatsIperf.Stream.SendingLoop
import Mathlib.Data.UInt

/-!
# A sender of marked packets

What the sending thread and the snapshots do to each other, without the connection: packets are built, counted and now and then the counters are cut into an interval. The snapshots may come between the building of a packet and its counting. `Marked` is what holds between any two steps, and `Step.marked` is the one place where the steps are looked at.
-/

namespace BatsIperf

/-- A thread that has not begun, one that builds packets, and one that builds no more. -/
inductive ThreadPhase
  | waiting | looping | closing
  deriving DecidableEq

structure MarkingSender where
  bytes : UInt64
  datagrams : UInt64
  /-- The counters at the last snapshot. -/
  snapshotBytes : UInt64
  snapshotDatagrams : UInt64
  lastInterval : TestInterval
  snapshotCnt : Int
  data : IperfData
  grpId : Bool
  phase : ThreadPhase
  /-- How many datagrams were counted, without the wrap of the counter. -/
  counted : Nat
  intervals : List TestInterval
  bounds : List Nat
  built : List BuiltPacket

namespace MarkingSender

open Marking

/-- The number of datagrams counted at a snapshot, 0 before the first one, and what is counted so far where it is yet to come. -/
def boundary (v : MarkingSender) (k : Nat) : Nat := (0 :: v.bounds)[k]?.getD v.counted

/-- The buffer and the thread's colour once the next header is built. -/
def header (v : MarkingSender) (time : UInt64) : IperfTestHeader :=
  { v.data.header with
    seq := v.datagrams
    time := time
    grpId := decide (v.snapshotCnt % 2 = 1)
    last := false
    ack := false
    hasInterval := if v.snapshotCnt ≤ 0 then false else v.data.header.hasInterval }

def OpensColour (v : MarkingSender) : Prop := 0 < v.snapshotCnt ∧ v.grpId ≠ decide (v.snapshotCnt % 2 = 1)

instance (v : MarkingSender) : Decidable v.OpensColour := inferInstanceAs (Decidable (_ ∧ _))

def nextData (v : MarkingSender) (time : UInt64) : IperfData :=
  if v.OpensColour then
    ({ v.data with header := { v.header time with hasInterval := true } } : IperfData).setInterval v.lastInterval
  else { v.data with header := v.header time }

def build (v : MarkingSender) (time : UInt64) : MarkingSender :=
  { v with
    data := v.nextData time
    grpId := if v.OpensColour then decide (v.snapshotCnt % 2 = 1) else v.grpId
    built := v.built ++ [{ data := v.nextData time, snapshots := v.intervals.length, index := v.counted }] }

inductive Step : MarkingSender → MarkingSender → Prop
  | stay (v : MarkingSender) : Step v v
  | start (v : MarkingSender) (hphase : v.phase = .waiting) : Step v { v with phase := .looping, grpId := false }
  | build (v : MarkingSender) (time : UInt64) (hphase : v.phase = .looping) : Step v (v.build time)
  | countBytes (v : MarkingSender) (bytes : UInt64) : Step v { v with bytes := bytes }
  | countDatagram (v : MarkingSender) : Step v { v with datagrams := v.datagrams + 1, counted := v.counted + 1 }
  | snapshot (v : MarkingSender) (interval : TestInterval) (hbytes : interval.bytes = v.bytes - v.snapshotBytes)
      (hdatagrams : interval.datagrams = v.datagrams - v.snapshotDatagrams)
      (hstart : interval.startSeq = v.snapshotDatagrams) :
      Step v { v with
        snapshotBytes := v.bytes
        snapshotDatagrams := v.datagrams
        lastInterval := interval
        snapshotCnt := v.snapshotCnt + 1
        intervals := v.intervals ++ [interval]
        bounds := v.bounds ++ [v.counted] }
  | close (v : MarkingSender) (data : IperfData) : Step v { v with phase := .closing, data := data }

/-- Every interval but the last one has a packet that was built in it. The packets before the first snapshot do not matter. -/
def Dense (v : MarkingSender) : Prop :=
  ∀ k, 0 < k → k < v.intervals.length → ∃ packet ∈ v.built, packet.snapshots = k

/-- Whether a packet was built since the last snapshot. -/
def IsOpened (v : MarkingSender) : Prop := ∃ packet ∈ v.built, packet.snapshots = v.intervals.length

/-- A packet carries the interval whose snapshot opened its colour. -/
def Embeds (v : MarkingSender) (data : IperfData) (k : Nat) : Prop :=
  data.header.hasInterval = true ∧
    ∃ interval, v.intervals[k]? = some interval ∧ data.interval.bytes = serializeInterval interval

structure Marked (v : MarkingSender) : Prop where
  length_bounds : v.bounds.length = v.intervals.length
  snapshotCnt : v.snapshotCnt = v.intervals.length
  datagrams : v.datagrams = .ofNat v.counted
  snapshotDatagrams : v.snapshotDatagrams = .ofNat (v.boundary v.intervals.length)
  boundary_le : ∀ k, v.boundary k ≤ v.boundary (k + 1)
  intervals : ∀ (k : Nat) (interval : TestInterval), v.intervals[k]? = some interval →
    interval.startSeq = .ofNat (v.boundary k) ∧
      interval.datagrams = .ofNat (v.boundary (k + 1)) - .ofNat (v.boundary k)
  sumBytes : (v.intervals.map TestInterval.bytes).sum = v.snapshotBytes
  sumDatagrams : (v.intervals.map TestInterval.datagrams).sum = v.snapshotDatagrams
  lastInterval : ∀ k, v.intervals.length = k + 1 → v.intervals[k]? = some v.lastInterval
  packets : ∀ packet ∈ v.built, packet.snapshots ≤ v.intervals.length ∧
    packet.data.header.grpId = colour packet.snapshots ∧ packet.data.header.seq = .ofNat packet.index ∧
    v.boundary packet.snapshots ≤ packet.index ∧ packet.index ≤ v.boundary (packet.snapshots + 1)
  waiting : v.phase = .waiting → v.built = []
  opened : v.Dense → v.phase = .looping → v.IsOpened →
    v.grpId = colour v.intervals.length ∧ ∀ k, v.intervals.length = k + 1 → v.Embeds v.data k
  unopened : v.Dense → v.phase = .looping → ¬ v.IsOpened → v.grpId = colour (v.intervals.length - 1)
  embedded : v.Dense → ∀ packet ∈ v.built, ∀ k, packet.snapshots = k + 1 → v.Embeds packet.data k

/-! ### The boundaries -/

theorem boundary_of_lt {v : MarkingSender} {k : Nat} (h : v.bounds.length < k) : v.boundary k = v.counted := by
  rw [boundary, List.getElem?_eq_none (by rw [List.length_cons]; omega), Option.getD_none]

theorem boundary_congr {v w : MarkingSender} (hbounds : w.bounds = v.bounds) {k : Nat} (hk : k ≤ v.bounds.length) :
    w.boundary k = v.boundary k := by
  have hsome : k < (0 :: v.bounds).length := by
    rw [List.length_cons]
    omega
  rw [boundary, boundary, hbounds, List.getElem?_eq_getElem hsome, Option.getD_some, Option.getD_some]

theorem boundary_snapshot {v w : MarkingSender} (hbounds : w.bounds = v.bounds ++ [v.counted])
    (hcounted : w.counted = v.counted) (k : Nat) : w.boundary k = v.boundary k := by
  rw [boundary, boundary, hbounds, hcounted, ← List.cons_append, List.getElem?_append]
  split
  · rfl
  · rename_i hk
    rw [List.getElem?_eq_none (Nat.le_of_not_lt hk), Option.getD_none]
    cases h : [v.counted][k - (0 :: v.bounds).length]? with
    | none => rfl
    | some c => exact List.mem_singleton.mp (List.mem_of_getElem? h)

theorem boundary_le_count {v w : MarkingSender} (hbounds : w.bounds = v.bounds) (hcounted : w.counted = v.counted + 1)
    (k : Nat) : v.boundary k ≤ w.boundary k := by
  by_cases hk : k ≤ v.bounds.length
  · exact (boundary_congr hbounds hk).ge
  · rw [boundary_of_lt (Nat.lt_of_not_le hk), boundary_of_lt (by rw [hbounds]; omega), hcounted]
    omega

/-! ### What the steps preserve -/

theorem Marked.colour_eq {v : MarkingSender} (h : Marked v) :
    decide (v.snapshotCnt % 2 = 1) = colour v.intervals.length := by
  rw [h.snapshotCnt, colour, Bool.eq_iff_iff, decide_eq_true_iff, beq_iff_eq]
  omega

theorem Marked.snapshotCnt_pos {v : MarkingSender} (h : Marked v) : 0 < v.snapshotCnt ↔ 0 < v.intervals.length := by
  rw [h.snapshotCnt, Int.natCast_pos]

theorem Marked.boundary_succ {v : MarkingSender} (h : Marked v) : v.boundary (v.intervals.length + 1) = v.counted :=
  boundary_of_lt (by rw [h.length_bounds]; omega)

theorem Embeds.append {v w : MarkingSender} {interval : TestInterval} {data : IperfData} {k : Nat}
    (hintervals : w.intervals = v.intervals ++ [interval]) (h : v.Embeds data k) : w.Embeds data k := by
  obtain ⟨hbit, taken, htaken, hbytes⟩ := h
  refine ⟨hbit, taken, ?_, hbytes⟩
  rw [hintervals, List.getElem?_append_left (List.getElem?_eq_some_iff.mp htaken).1, htaken]

theorem marked_start {v : MarkingSender} (h : Marked v) (hphase : v.phase = .waiting) :
    Marked { v with phase := .looping, grpId := false } where
  length_bounds := h.length_bounds
  snapshotCnt := h.snapshotCnt
  datagrams := h.datagrams
  snapshotDatagrams := h.snapshotDatagrams
  boundary_le := h.boundary_le
  intervals := h.intervals
  sumBytes := h.sumBytes
  sumDatagrams := h.sumDatagrams
  lastInterval := h.lastInterval
  packets := h.packets
  waiting _ := h.waiting hphase
  opened _ _ hopened := by
    obtain ⟨packet, hpacket, _⟩ := hopened
    rw [h.waiting hphase] at hpacket
    exact absurd hpacket List.not_mem_nil
  unopened hdense _ _ := by
    -- nothing was built, so at most one snapshot has been taken
    have hfew : v.intervals.length - 1 = 0 := by
      by_contra hmany
      obtain ⟨packet, hpacket, _⟩ := hdense 1 Nat.one_pos (show 1 < v.intervals.length by omega)
      have hpacket : packet ∈ v.built := hpacket
      rw [h.waiting hphase] at hpacket
      exact List.not_mem_nil hpacket
    show false = colour (v.intervals.length - 1)
    rw [hfew]
    rfl
  embedded _ packet hpacket := by
    have hpacket : packet ∈ v.built := hpacket
    rw [h.waiting hphase] at hpacket
    exact absurd hpacket List.not_mem_nil

theorem marked_close {v : MarkingSender} (h : Marked v) (data : IperfData) :
    Marked { v with phase := .closing, data := data } where
  length_bounds := h.length_bounds
  snapshotCnt := h.snapshotCnt
  datagrams := h.datagrams
  snapshotDatagrams := h.snapshotDatagrams
  boundary_le := h.boundary_le
  intervals := h.intervals
  sumBytes := h.sumBytes
  sumDatagrams := h.sumDatagrams
  lastInterval := h.lastInterval
  packets := h.packets
  waiting hphase := ThreadPhase.noConfusion hphase
  opened _ hphase := ThreadPhase.noConfusion hphase
  unopened _ hphase := ThreadPhase.noConfusion hphase
  embedded := h.embedded

theorem marked_countBytes {v : MarkingSender} (h : Marked v) (bytes : UInt64) : Marked { v with bytes := bytes } where
  length_bounds := h.length_bounds
  snapshotCnt := h.snapshotCnt
  datagrams := h.datagrams
  snapshotDatagrams := h.snapshotDatagrams
  boundary_le := h.boundary_le
  intervals := h.intervals
  sumBytes := h.sumBytes
  sumDatagrams := h.sumDatagrams
  lastInterval := h.lastInterval
  packets := h.packets
  waiting := h.waiting
  opened := h.opened
  unopened := h.unopened
  embedded := h.embedded

theorem marked_countDatagram {v w : MarkingSender} (h : Marked v)
    (hw : w = { v with datagrams := v.datagrams + 1, counted := v.counted + 1 }) : Marked w := by
  have hbounds : w.bounds = v.bounds := by rw [hw]
  have hcounted : w.counted = v.counted + 1 := by rw [hw]
  have hlength : w.bounds.length = v.intervals.length := by rw [hbounds, h.length_bounds]
  have hsame : ∀ k ≤ v.intervals.length, w.boundary k = v.boundary k := by
    intro k hk
    exact boundary_congr hbounds (h.length_bounds ▸ hk)
  have hgrow := boundary_le_count hbounds hcounted
  subst hw
  refine { h with length_bounds := ?_, datagrams := ?_, snapshotDatagrams := ?_, boundary_le := ?_, intervals := ?_, packets := ?_ }
  · exact h.length_bounds
  · show v.datagrams + 1 = UInt64.ofNat (v.counted + 1)
    rw [h.datagrams, UInt64.ofNat_add]
    rfl
  · rw [hsame _ le_rfl]
    exact h.snapshotDatagrams
  · intro k
    rcases Nat.lt_or_ge v.intervals.length k with hk | hk
    · rw [boundary_of_lt (hlength.trans_lt hk), boundary_of_lt (hlength.trans_lt (Nat.lt_succ_of_lt hk))]
    · rw [hsame k hk]
      exact (h.boundary_le k).trans (hgrow (k + 1))
  · intro k interval hk
    have hlt := (List.getElem?_eq_some_iff.mp hk).1
    rw [hsame k (Nat.le_of_lt hlt), hsame (k + 1) hlt]
    exact h.intervals k interval hk
  · intro packet hpacket
    obtain ⟨hle, hcolour, hseq, hlow, hhigh⟩ := h.packets packet hpacket
    refine ⟨hle, hcolour, hseq, ?_, hhigh.trans (hgrow _)⟩
    rw [hsame _ hle]
    exact hlow

/-- The interval that is cut lies between the last two boundaries, as each one before it lies between its own. -/
theorem Marked.intervals_append {v : MarkingSender} (h : Marked v) {interval : TestInterval}
    (hdatagrams : interval.datagrams = v.datagrams - v.snapshotDatagrams)
    (hstart : interval.startSeq = v.snapshotDatagrams) {k : Nat} {taken : TestInterval}
    (hk : (v.intervals ++ [interval])[k]? = some taken) :
    taken.startSeq = .ofNat (v.boundary k) ∧
      taken.datagrams = .ofNat (v.boundary (k + 1)) - .ofNat (v.boundary k) := by
  rcases Nat.lt_or_ge k v.intervals.length with hlt | hge
  · rw [List.getElem?_append_left hlt] at hk
    exact h.intervals k taken hk
  · rw [List.getElem?_append_right hge] at hk
    have hk0 : k = v.intervals.length := by
      have hlt := (List.getElem?_eq_some_iff.mp hk).1
      rw [List.length_singleton] at hlt
      omega
    rw [hk0, Nat.sub_self, List.getElem?_cons_zero] at hk
    obtain rfl := Option.some.inj hk
    rw [hk0, h.boundary_succ, hstart, hdatagrams, ← h.snapshotDatagrams, ← h.datagrams]
    exact ⟨rfl, rfl⟩

/-- Where every interval begun has a packet, the thread has the colour of the current one. -/
theorem Marked.grpId_of_begun {v : MarkingSender} (h : Marked v) (hdense : v.Dense) (hphase : v.phase = .looping)
    (hbegun : 0 < v.intervals.length → v.IsOpened) : v.grpId = colour v.intervals.length := by
  by_cases hopened : v.IsOpened
  · exact (h.opened hdense hphase hopened).1
  · -- without a packet since the last snapshot there has been none
    have hfirst : v.intervals.length = 0 := Nat.eq_zero_of_not_pos fun hpos => hopened (hbegun hpos)
    have hcolour := h.unopened hdense hphase hopened
    rw [hfirst] at hcolour ⊢
    exact hcolour

theorem marked_snapshot {v w : MarkingSender} (h : Marked v) {interval : TestInterval}
    (hbytes : interval.bytes = v.bytes - v.snapshotBytes)
    (hdatagrams : interval.datagrams = v.datagrams - v.snapshotDatagrams)
    (hstart : interval.startSeq = v.snapshotDatagrams)
    (hw : w = { v with
      snapshotBytes := v.bytes
      snapshotDatagrams := v.datagrams
      lastInterval := interval
      snapshotCnt := v.snapshotCnt + 1
      intervals := v.intervals ++ [interval]
      bounds := v.bounds ++ [v.counted] }) : Marked w := by
  have hboundary : ∀ k, w.boundary k = v.boundary k := boundary_snapshot (by rw [hw]) (by rw [hw])
  have hintervals : w.intervals = v.intervals ++ [interval] := by rw [hw]
  have hlength : w.intervals.length = v.intervals.length + 1 := by rw [hintervals, List.length_append]; rfl
  have hbuilt : w.built = v.built := by rw [hw]
  have hphase : w.phase = v.phase := by rw [hw]
  have hnotOpened : ¬ w.IsOpened := by
    rintro ⟨packet, hpacket, hsnapshots⟩
    have hle := (h.packets packet (hbuilt ▸ hpacket)).1
    omega
  have hdense : w.Dense → v.Dense := by
    intro hdense k hpos hk
    obtain ⟨packet, hpacket, hsnapshots⟩ := hdense k hpos (by omega)
    exact ⟨packet, hbuilt ▸ hpacket, hsnapshots⟩
  have hbegun (hdense : w.Dense) (hpos : 0 < v.intervals.length) : v.IsOpened := by
    obtain ⟨packet, hpacket, hsnapshots⟩ := hdense v.intervals.length hpos (by omega)
    exact ⟨packet, hbuilt ▸ hpacket, hsnapshots⟩
  refine ⟨?_, ?_, ?_, ?_, ?_, ?_, ?_, ?_, ?_, ?_, ?_, ?_, ?_, ?_⟩
  · rw [hlength, ← h.length_bounds, hw, List.length_append]
    rfl
  · rw [hlength, hw]
    show v.snapshotCnt + 1 = _
    rw [h.snapshotCnt]
    push_cast
    rfl
  · rw [hw]
    exact h.datagrams
  · rw [hlength, hboundary, h.boundary_succ, hw]
    exact h.datagrams
  · intro k
    rw [hboundary, hboundary]
    exact h.boundary_le k
  · intro k taken hk
    rw [hboundary, hboundary]
    exact h.intervals_append hdatagrams hstart (hintervals ▸ hk)
  · rw [hintervals, List.map_append, List.sum_append, h.sumBytes, hw, List.map_singleton, List.sum_singleton, hbytes]
    show v.snapshotBytes + (v.bytes - v.snapshotBytes) = v.bytes
    rw [UInt64.add_comm, UInt64.sub_add_cancel]
  · rw [hintervals, List.map_append, List.sum_append, h.sumDatagrams, hw, List.map_singleton, List.sum_singleton,
      hdatagrams]
    show v.snapshotDatagrams + (v.datagrams - v.snapshotDatagrams) = v.datagrams
    rw [UInt64.add_comm, UInt64.sub_add_cancel]
  · intro k hk
    have hk0 : k = v.intervals.length := by omega
    rw [hintervals, hk0, List.getElem?_append_right le_rfl, Nat.sub_self, hw]
    rfl
  · intro packet hpacket
    obtain ⟨hle, hcolour, hseq, hlow, hhigh⟩ := h.packets packet (hbuilt ▸ hpacket)
    rw [hboundary, hboundary]
    exact ⟨by omega, hcolour, hseq, hlow, hhigh⟩
  · intro hwaiting
    rw [hbuilt]
    exact h.waiting (hphase ▸ hwaiting)
  · intro _ _ hopened
    exact absurd hopened hnotOpened
  · intro hdensew hlooping _
    have hgrpId : w.grpId = v.grpId := by rw [hw]
    rw [hgrpId, hlength, Nat.add_sub_cancel]
    exact h.grpId_of_begun (hdense hdensew) (hphase ▸ hlooping) (hbegun hdensew)
  · intro hdensew packet hpacket k hk
    exact (h.embedded (hdense hdensew) packet (hbuilt ▸ hpacket) k hk).append hintervals

/-! ### Building a packet -/

theorem header_seq (v : MarkingSender) (time : UInt64) : (v.nextData time).header.seq = v.datagrams := by
  unfold nextData
  split <;> rfl

theorem header_grpId (v : MarkingSender) (time : UInt64) :
    (v.nextData time).header.grpId = decide (v.snapshotCnt % 2 = 1) := by
  unfold nextData
  split <;> rfl

theorem embeds_nextData_of_opened {v : MarkingSender} (h : Marked v) (hdense : v.Dense) (hphase : v.phase = .looping)
    (hopened : v.IsOpened) (time : UInt64) {k : Nat} (hk : v.intervals.length = k + 1) :
    v.Embeds (v.nextData time) k := by
  obtain ⟨hcolour, hembeds⟩ := h.opened hdense hphase hopened
  have hsame : ¬ v.OpensColour := by
    rintro ⟨_, hne⟩
    exact hne (hcolour.trans h.colour_eq.symm)
  have hpos : ¬ v.snapshotCnt ≤ 0 := by
    rw [not_le, h.snapshotCnt_pos]
    omega
  obtain ⟨hbit, hinterval⟩ := hembeds k hk
  rw [nextData, if_neg hsame]
  refine ⟨?_, hinterval⟩
  rw [header, if_neg hpos]
  exact hbit

theorem embeds_nextData_of_unopened {v : MarkingSender} (h : Marked v) (hdense : v.Dense) (hphase : v.phase = .looping)
    (hopened : ¬ v.IsOpened) (time : UInt64) {k : Nat} (hk : v.intervals.length = k + 1) :
    v.OpensColour ∧ v.Embeds (v.nextData time) k := by
  have hcolour := h.unopened hdense hphase hopened
  have hopens : v.OpensColour := by
    refine ⟨h.snapshotCnt_pos.mpr (by omega), ?_⟩
    rw [h.colour_eq, hcolour, hk, Nat.add_sub_cancel, colour_succ]
    simp
  refine ⟨hopens, ?_⟩
  rw [nextData, if_pos hopens]
  exact ⟨rfl, v.lastInterval, h.lastInterval k hk, rfl⟩

theorem embeds_nextData {v : MarkingSender} (h : Marked v) (hdense : v.Dense) (hphase : v.phase = .looping)
    (time : UInt64) {k : Nat} (hk : v.intervals.length = k + 1) : v.Embeds (v.nextData time) k := by
  by_cases hopened : v.IsOpened
  · exact embeds_nextData_of_opened h hdense hphase hopened time hk
  · exact (embeds_nextData_of_unopened h hdense hphase hopened time hk).2

theorem grpId_build {v : MarkingSender} (h : Marked v) (hdense : v.Dense) (hphase : v.phase = .looping)
    (time : UInt64) : (v.build time).grpId = colour v.intervals.length := by
  show (if v.OpensColour then decide (v.snapshotCnt % 2 = 1) else v.grpId) = _
  split
  · exact h.colour_eq
  · rename_i hsame
    by_cases hopened : v.IsOpened
    · exact (h.opened hdense hphase hopened).1
    · cases hlength : v.intervals.length with
      | zero =>
        have hcolour := h.unopened hdense hphase hopened
        rw [hlength] at hcolour
        exact hcolour
      | succ k => exact absurd (embeds_nextData_of_unopened h hdense hphase hopened time hlength).1 hsame

theorem marked_build {v : MarkingSender} (h : Marked v) (hphase : v.phase = .looping) (time : UInt64) :
    Marked (v.build time) := by
  have hdense : (v.build time).Dense → v.Dense := by
    intro hdense k hpos hk
    obtain ⟨packet, hpacket, hsnapshots⟩ := hdense k hpos hk
    rcases List.mem_append.mp hpacket with hpacket | hpacket
    · exact ⟨packet, hpacket, hsnapshots⟩
    · obtain rfl := List.mem_singleton.mp hpacket
      exact absurd hsnapshots.symm (Nat.ne_of_lt hk)
  have hopened : (v.build time).IsOpened :=
    ⟨_, List.mem_append.mpr (.inr (List.mem_singleton.mpr rfl)), rfl⟩
  refine { h with packets := ?_, waiting := ?_, opened := ?_, unopened := ?_, embedded := ?_ }
  · intro packet hpacket
    rcases List.mem_append.mp hpacket with hpacket | hpacket
    · exact h.packets packet hpacket
    · obtain rfl := List.mem_singleton.mp hpacket
      refine ⟨le_rfl, (v.header_grpId time).trans h.colour_eq, (v.header_seq time).trans h.datagrams, ?_, ?_⟩
      · exact (h.boundary_le _).trans h.boundary_succ.le
      · exact h.boundary_succ.ge
  · intro hwaiting
    exact ThreadPhase.noConfusion (hphase.symm.trans hwaiting)
  · intro hdensew _ _
    refine ⟨grpId_build h (hdense hdensew) hphase time, ?_⟩
    intro k hk
    exact embeds_nextData h (hdense hdensew) hphase time hk
  · intro _ _ hnot
    exact absurd hopened hnot
  · intro hdensew packet hpacket k hk
    rcases List.mem_append.mp hpacket with hpacket | hpacket
    · exact h.embedded (hdense hdensew) packet hpacket k hk
    · obtain rfl := List.mem_singleton.mp hpacket
      exact embeds_nextData h (hdense hdensew) hphase time hk

theorem Step.marked {v w : MarkingSender} (hstep : Step v w) (h : Marked v) : Marked w := by
  cases hstep with
  | stay => exact h
  | start hphase => exact marked_start h hphase
  | build time hphase => exact marked_build h hphase time
  | countBytes bytes => exact marked_countBytes h bytes
  | countDatagram => exact marked_countDatagram h rfl
  | snapshot interval hbytes hdatagrams hstart => exact marked_snapshot h hbytes hdatagrams hstart rfl
  | close data => exact marked_close h data

end MarkingSender

end BatsIperf
