import BatsIperf.Stream.IntervalDetection
import BatsIperf.Stream.PairDelivery

/-!
# The intervals of a pair

Over a connection that keeps the order, the groups of the blocks on the wire only grow, and the receiver has recorded each number from its last boundary up to the block that it handles. So the packet that opens a group for the receiver is behind all datagrams of the interval it carries.

The sender may skip a group, where two snapshots come between two blocks. The group of the buffer is the number of snapshots when the thread last opened a colour.
-/

namespace BatsIperf

open Octets Marking

namespace MarkingSender

/-! ### The group of the buffer -/

/-- The interval of the snapshot that has opened a group. -/
def HasInterval (v : MarkingSender) (data : IperfData) (group : Nat) : Prop :=
  ∀ k, group = k + 1 → ∃ interval, v.intervals[k]? = some interval ∧ data.interval.bytes = serializeInterval interval

/-- The header that is built last and the thread's colour are those of a group. -/
structure Loaded (v : MarkingSender) (group : Nat) : Prop where
  le : group ≤ v.intervals.length
  waiting : v.phase = .waiting → group = 0
  thread : v.phase = .looping → v.grpId = colour group
  grpId : v.phase ≠ .closing → v.data.header.last = false → v.data.header.grpId = colour group
  bit : v.phase ≠ .closing → v.data.header.hasInterval = decide (0 < group)
  interval : v.phase ≠ .closing → v.HasInterval v.data group

structure Announces (v : MarkingSender) (data : IperfData) (group : Nat) : Prop where
  le : group ≤ v.intervals.length
  grpId : data.header.grpId = colour group
  bit : data.header.hasInterval = decide (0 < group)
  interval : v.HasInterval data group

theorem Loaded.announces {v : MarkingSender} {group : Nat} (h : Loaded v group) (hphase : v.phase ≠ .closing)
    (hlast : v.data.header.last = false) : v.Announces v.data group :=
  ⟨h.le, h.grpId hphase hlast, h.bit hphase, h.interval hphase⟩

/-- What is known of the groups begun stays as it is. -/
structure Keeps (v w : MarkingSender) : Prop where
  intervals : v.intervals <+: w.intervals
  boundary : ∀ k ≤ v.intervals.length, w.boundary k = v.boundary k

theorem Keeps.refl (v : MarkingSender) : Keeps v v := ⟨List.prefix_refl _, fun _ _ => rfl⟩

theorem Step.keeps {v w : MarkingSender} (hstep : Step v w) (h : Marked v) : Keeps v w := by
  have hcongr {u : MarkingSender} (hintervals : u.intervals = v.intervals) (hbounds : u.bounds = v.bounds) : Keeps v u := by
    refine ⟨hintervals ▸ List.prefix_refl _, fun k hk => ?_⟩
    exact boundary_congr hbounds (h.length_bounds ▸ hk)
  cases hstep with
  | snapshot =>
    refine ⟨List.prefix_append _ _, fun k _ => ?_⟩
    apply boundary_snapshot
    · rfl
    · rfl
  | _ => exact hcongr rfl rfl

theorem HasInterval.keeps {v w : MarkingSender} {data : IperfData} {group : Nat} (h : v.HasInterval data group)
    (hkeeps : Keeps v w) : w.HasInterval data group := by
  intro k hk
  obtain ⟨interval, hinterval, hbytes⟩ := h k hk
  have hlt := (List.getElem?_eq_some_iff.mp hinterval).1
  obtain ⟨later, hlater⟩ := hkeeps.intervals
  refine ⟨interval, ?_, hbytes⟩
  rw [← hlater, List.getElem?_append_left hlt, hinterval]

theorem Announces.keeps {v w : MarkingSender} {data : IperfData} {group : Nat} (h : v.Announces data group)
    (hkeeps : Keeps v w) : w.Announces data group :=
  ⟨h.le.trans hkeeps.intervals.length_le, h.grpId, h.bit, h.interval.keeps hkeeps⟩

def nextGroup (v : MarkingSender) (group : Nat) : Nat := if v.OpensColour then v.intervals.length else group

theorem loaded_build {v : MarkingSender} {group : Nat} (h : Loaded v group) (hmarked : Marked v)
    (hphase : v.phase = .looping) (time : UInt64) : Loaded (v.build time) (v.nextGroup group) := by
  have hopen : v.phase ≠ .closing := by
    rw [hphase]
    decide
  have hcolour := hmarked.colour_eq
  by_cases hopens : v.OpensColour
  · have hdata : (v.build time).data =
        ({ v.data with header := { v.header time with hasInterval := true } } : IperfData).setInterval v.lastInterval :=
      if_pos hopens
    have hpos : 0 < v.intervals.length := hmarked.snapshotCnt_pos.mp hopens.1
    have hgrpId : (v.build time).grpId = decide (v.snapshotCnt % 2 = 1) := if_pos hopens
    rw [nextGroup, if_pos hopens]
    refine ⟨Nat.le_refl _, fun hwaiting => ?_, fun _ => hgrpId.trans hcolour, fun _ _ => ?_, fun _ => ?_, fun _ k hk => ?_⟩
    · exact ThreadPhase.noConfusion (hphase.symm.trans hwaiting)
    · rw [hdata]
      exact hcolour
    · rw [hdata, decide_eq_true hpos]
      rfl
    · refine ⟨v.lastInterval, hmarked.lastInterval k hk, ?_⟩
      rw [hdata]
      rfl
  · have hdata : (v.build time).data = { v.data with header := v.header time } := if_neg hopens
    have hgrpId : (v.build time).grpId = v.grpId := if_neg hopens
    rw [nextGroup, if_neg hopens]
    -- no colour is opened before the first snapshot, and none where the thread has it already
    have hsame : colour v.intervals.length = colour group ∧
        (v.header time).hasInterval = decide (0 < group) := by
      by_cases hfirst : v.snapshotCnt ≤ 0
      · have hnone : v.intervals.length = 0 :=
          Nat.eq_zero_of_not_pos fun hpos => absurd (hmarked.snapshotCnt_pos.mpr hpos) (by omega)
        have hgroup : group = 0 := Nat.le_zero.mp (hnone ▸ h.le)
        rw [hnone, hgroup, header, if_pos hfirst]
        exact ⟨rfl, rfl⟩
      · have hthread : v.grpId = decide (v.snapshotCnt % 2 = 1) := by
          by_contra hne
          exact hopens ⟨by omega, hne⟩
        rw [header, if_neg hfirst]
        exact ⟨hcolour.symm.trans (hthread.symm.trans (h.thread hphase)), h.bit hopen⟩
    refine ⟨h.le, fun hwaiting => ?_, fun _ => hgrpId.trans (h.thread hphase), fun _ _ => ?_, fun _ => ?_, fun _ => ?_⟩
    · exact ThreadPhase.noConfusion (hphase.symm.trans hwaiting)
    · rw [hdata]
      exact hcolour.trans hsame.1
    · rw [hdata]
      exact hsame.2
    · rw [hdata]
      exact h.interval hopen

theorem Step.loaded {v w : MarkingSender} {group : Nat} (hstep : Step v w) (hmarked : Marked v) (h : Loaded v group) :
    ∃ next, group ≤ next ∧ Loaded w next := by
  have hkeeps := hstep.keeps hmarked
  cases hstep with
  | stay => exact ⟨group, Nat.le_refl group, h⟩
  | start hphase =>
    have hopen : v.phase ≠ .closing := by
      rw [hphase]
      decide
    have hgroup := h.waiting hphase
    refine ⟨group, Nat.le_refl group, h.le, fun hwaiting => ThreadPhase.noConfusion hwaiting, fun _ => ?_,
      fun _ => h.grpId hopen, fun _ => h.bit hopen, fun _ => h.interval hopen⟩
    rw [hgroup]
    rfl
  | build time hphase =>
    refine ⟨v.nextGroup group, ?_, loaded_build h hmarked hphase time⟩
    unfold nextGroup
    split
    · exact h.le
    · exact Nat.le_refl group
  | countBytes => exact ⟨group, Nat.le_refl group, h.le, h.waiting, h.thread, h.grpId, h.bit, h.interval⟩
  | countDatagram => exact ⟨group, Nat.le_refl group, h.le, h.waiting, h.thread, h.grpId, h.bit, h.interval⟩
  | snapshot =>
    exact ⟨group, Nat.le_refl group, h.le.trans hkeeps.intervals.length_le, h.waiting, h.thread, h.grpId, h.bit,
      fun hopen => (h.interval hopen).keeps hkeeps⟩
  | close =>
    exact ⟨group, Nat.le_refl group, h.le, fun hphase => ThreadPhase.noConfusion hphase,
      fun hphase => ThreadPhase.noConfusion hphase, fun hopen => absurd rfl hopen, fun hopen => absurd rfl hopen,
      fun hopen => absurd rfl hopen⟩

theorem Loaded.boundary_le {v : MarkingSender} {group : Nat} (h : Loaded v group) (hmarked : Marked v) :
    v.boundary group ≤ v.counted := by
  have hmono : Monotone v.boundary := monotone_nat_of_le_succ hmarked.boundary_le
  rw [← hmarked.boundary_succ]
  exact hmono (Nat.le_succ_of_le h.le)

end MarkingSender

namespace LiveStream

variable {Recorder : Type} {tools : SeqTools Recorder}

/-! ### The groups on the wire -/

def BareFin (data : IperfData) : Prop := data.header.last = true → data.header.hasInterval = false

theorem bareFin_step {s t : LiveStream Recorder} {a : Action} (ha : a.isSending) (h : BareFin s.iperfData)
    (hstep : (machine tools).step s a = some t) : BareFin t.iperfData := by
  rw [step_data hstep]
  unfold dataAfter
  cases a with
  | thread input =>
    dsimp only
    split
    · cases s.point with
      | build =>
        -- a data block is no FIN
        have hlast : (s.buildHeader input.time).iperfData.header.last = false := by
          unfold buildHeader
          dsimp only
          split <;> rfl
        exact fun hfin => absurd (hlast.symm.trans hfin) Bool.false_ne_true
      | fin =>
        dsimp only
        split
        · exact fun _ => rfl
        · exact h
      | check | errorCheck | waitWritable | send | retry | countBytes | countDatagrams | finSend | finRetry
        | finCountBytes | finCountDatagrams => exact h
    · exact h
  | received => exact absurd ha Bool.false_ne_true
  | event | startSend | snapshotReport | poll | summary | finishReport | stop => exact h

/-- The blocks on the wire and their groups, and the group of the buffer. -/
structure Grouped (s : LiveStream Recorder) (wire : List WireBlock) (groups : List Nat) (current : Nat) : Prop where
  loaded : s.view.Loaded current
  bareFin : BareFin s.iperfData
  length : groups.length = wire.length
  sorted : groups.Pairwise (· ≤ ·)
  le_current : ∀ group ∈ groups, group ≤ current
  fin : ∀ block ∈ wire, BareFin block.data
  blocks : ∀ (k : Nat) (block : WireBlock) (group : Nat), wire[k]? = some block → groups[k]? = some group →
    block.data.header.last = false → s.view.Announces block.data group ∧ s.view.boundary group ≤ k

theorem grouped_connecting (config : TestConfig) (streamId : Nat) (now : UInt64) (recorder : Recorder) :
    Grouped (connecting config streamId now recorder) [] [] 0 where
  loaded := by
    refine ⟨Nat.le_refl 0, fun _ => rfl, fun hphase => ThreadPhase.noConfusion hphase, fun _ hlast => ?_, fun _ => rfl,
      fun _ k hk => absurd hk (Nat.succ_ne_zero k).symm⟩
    exact Bool.noConfusion hlast
  bareFin _ := rfl
  length := rfl
  sorted := List.Pairwise.nil
  le_current _ hgroup := absurd hgroup List.not_mem_nil
  fin _ hblock := absurd hblock List.not_mem_nil
  blocks k block group hblock := absurd hblock (by simp)

theorem Grouped.keeps {s t : LiveStream Recorder} {wire : List WireBlock} {groups : List Nat} {current next : Nat}
    (h : Grouped s wire groups current) (hkeeps : MarkingSender.Keeps s.view t.view) (hloaded : t.view.Loaded next)
    (hle : current ≤ next) (hbare : BareFin t.iperfData) : Grouped t wire groups next where
  loaded := hloaded
  bareFin := hbare
  length := h.length
  sorted := h.sorted
  le_current group hgroup := (h.le_current group hgroup).trans hle
  fin := h.fin
  blocks k block group hblock hgroup hlast := by
    obtain ⟨hannounces, hboundary⟩ := h.blocks k block group hblock hgroup hlast
    refine ⟨hannounces.keeps hkeeps, ?_⟩
    rw [hkeeps.boundary group hannounces.le]
    exact hboundary

theorem Grouped.handOver {s : LiveStream Recorder} {wire : List WireBlock} {groups : List Nat} {current : Nat}
    (h : Grouped s wire groups current) (hmarked : s.view.Marked) (length : Int)
    (hbuffer : s.iperfData.header.last = false → s.view.phase ≠ .closing ∧ s.view.counted = wire.length) :
    Grouped s (wire ++ [{ data := s.iperfData, length := length }]) (groups ++ [current]) current where
  loaded := h.loaded
  bareFin := h.bareFin
  length := by rw [List.length_append, List.length_append, h.length, List.length_singleton, List.length_singleton]
  sorted := by
    rw [List.pairwise_append]
    refine ⟨h.sorted, List.pairwise_singleton _ _, fun group hgroup last hlast => ?_⟩
    obtain rfl := List.mem_singleton.mp hlast
    exact h.le_current group hgroup
  le_current group hgroup := by
    rcases List.mem_append.mp hgroup with hgroup | hgroup
    · exact h.le_current group hgroup
    · obtain rfl := List.mem_singleton.mp hgroup
      exact Nat.le_refl _
  fin block hblock := by
    rcases List.mem_append.mp hblock with hblock | hblock
    · exact h.fin block hblock
    · obtain rfl := List.mem_singleton.mp hblock
      exact h.bareFin
  blocks k block group hblock hgroup hlast := by
    rcases Nat.lt_or_ge k wire.length with hk | hk
    · rw [List.getElem?_append_left hk] at hblock
      rw [List.getElem?_append_left (h.length ▸ hk)] at hgroup
      exact h.blocks k block group hblock hgroup hlast
    · have hlt := (List.getElem?_eq_some_iff.mp hblock).1
      rw [List.length_append, List.length_singleton] at hlt
      obtain rfl : k = wire.length := by omega
      rw [List.getElem?_concat_length] at hblock
      rw [← h.length, List.getElem?_concat_length] at hgroup
      obtain rfl := Option.some.inj hblock
      obtain rfl := Option.some.inj hgroup
      obtain ⟨hphase, hcounted⟩ := hbuffer hlast
      exact ⟨h.loaded.announces hphase hlast, (h.loaded.boundary_le hmarked).trans hcounted.le⟩

theorem sending_grouped {s t : LiveStream Recorder} {a : Action} {wire : List WireBlock} {givenUp : Nat}
    {groups : List Nat} {current : Nat} (ha : a.isSending) (hmarked : s.view.Marked) (hhanding : Handing s wire givenUp)
    (h : Grouped s wire groups current) (hstep : (machine tools).step s a = some t) :
    ∃ new next, current ≤ next ∧ (∀ group ∈ new, current ≤ group) ∧
      Grouped t (wire ++ handedOver s t) (groups ++ new) next := by
  have hbare := bareFin_step ha h.bareFin hstep
  rcases handedOver_cases ha hstep with hnone | ⟨length, hover⟩
  · have hview := step_view ha hstep
    obtain ⟨next, hle, hloaded⟩ := hview.loaded hmarked h.loaded
    refine ⟨[], next, hle, fun group hgroup => absurd hgroup List.not_mem_nil, ?_⟩
    rw [hnone, List.append_nil, List.append_nil]
    exact h.keeps (hview.keeps hmarked) hloaded hle hbare
  · have hbuffer : s.iperfData.header.last = false → s.view.phase ≠ .closing ∧ s.view.counted = wire.length := by
      intro hlast
      have hplace := hhanding.place
      rw [hover.sendingThread] at hplace
      rcases hover.point with hpoint | ⟨_, hpoint⟩
      · have hlooping : s.phase = .looping := by
          apply phase_looping hover.sendingThread
          rcases hpoint with hpoint | hpoint <;> rw [hpoint] <;> rfl
        refine ⟨fun hclosing => ThreadPhase.noConfusion (hlooping.symm.trans hclosing), ?_⟩
        rcases hpoint with hpoint | hpoint
        · rw [hpoint] at hplace
          exact hplace.2.1
        · rw [hpoint] at hplace
          exact hplace.2.1
      · -- the thread has built the FIN
        have hfin : s.iperfData.header.last = true := by
          rcases hpoint with hpoint | hpoint
          · rw [hpoint] at hplace
            exact hplace.2.last
          · rw [hpoint] at hplace
            exact hplace.2.last
        exact absurd (hlast.symm.trans hfin) Bool.false_ne_true
    refine ⟨[current], current, Nat.le_refl current, fun group hgroup => (List.mem_singleton.mp hgroup).ge, ?_⟩
    rw [hover.handedOver]
    have hkeeps : MarkingSender.Keeps s.view t.view := by
      rw [hover.view]
      exact .refl _
    have hloaded : t.view.Loaded current := by
      rw [hover.view]
      exact h.loaded
    exact (h.handOver hmarked length hbuffer).keeps hkeeps hloaded (Nat.le_refl current) hbare

/-! ### What the receiver finds -/

/-- A call hands over an interval of the sender and finds all its datagrams. -/
structure Reports (interval : TestInterval) (call : IntervalCall) : Prop where
  bytes : call.received.bytes = interval.bytes
  datagrams : call.received.datagrams = interval.datagrams
  startSeq : call.received.startSeq = interval.startSeq
  complete : call.actualReceived = interval.datagrams.toNat

/-- The calls are for intervals of the sender before the group seen last, in their order. -/
def Reported (v : MarkingSender) (seen : Nat) (s : LiveStream Recorder) : Prop :=
  ∃ reported, List.Sublist reported (v.intervals.take seen) ∧ List.Forall₂ Reports reported s.log.intervalCalls

theorem Reported.mono {v : MarkingSender} {seen group : Nat} {s t : LiveStream Recorder} (h : Reported v seen s)
    (hle : seen ≤ group) (hcalls : t.log.intervalCalls = s.log.intervalCalls) : Reported v group t := by
  obtain ⟨reported, hsub, hall⟩ := h
  refine ⟨reported, hsub.trans (List.take_sublist_take_left hle), ?_⟩
  rw [hcalls]
  exact hall

theorem Reported.keeps {v w : MarkingSender} {seen : Nat} {s : LiveStream Recorder} (h : Reported v seen s)
    (hkeeps : MarkingSender.Keeps v w) (hseen : seen ≤ v.intervals.length) : Reported w seen s := by
  obtain ⟨reported, hsub, hall⟩ := h
  obtain ⟨later, hlater⟩ := hkeeps.intervals
  refine ⟨reported, ?_, hall⟩
  rw [← hlater, List.take_append_of_le_length hseen]
  exact hsub

/-- The colour is that of the group seen last, and every number from a boundary up to it on is recorded. -/
structure Watching (seqs : Recorder → Finset Nat) (v : MarkingSender) (handled seen : Nat) (s : LiveStream Recorder) :
    Prop where
  lastGrpId : s.lastGrpId = none ∧ seen = 0 ∨ s.lastGrpId = some (colour seen)
  recorded : ∃ low ≤ v.boundary seen, seqs s.recvSeqRecorder = Finset.Ico low handled

theorem Watching.keeps {seqs : Recorder → Finset Nat} {v w : MarkingSender} {handled seen : Nat} {s : LiveStream Recorder}
    (h : Watching seqs v handled seen s) (hkeeps : MarkingSender.Keeps v w) (hseen : seen ≤ v.intervals.length) :
    Watching seqs w handled seen s := by
  refine ⟨h.lastGrpId, ?_⟩
  rw [hkeeps.boundary seen hseen]
  exact h.recorded

theorem hasNewGrpId_watching {s : LiveStream Recorder} {seen group : Nat}
    (hlast : s.lastGrpId = none ∧ seen = 0 ∨ s.lastGrpId = some (colour seen)) (hle : seen ≤ group) (seq : UInt64) :
    s.hasNewGrpId tools (colour group) seq = (false, s) ∨
      s.hasNewGrpId tools (colour group) seq = (true, { s with lastGrpId := some (colour group) }) ∧
        (0 < group → seen < group) := by
  rcases hlast with ⟨hnone, hseen⟩ | hsome
  · right
    rw [hasNewGrpId, hnone]
    exact ⟨rfl, fun hpos => hseen ▸ hpos⟩
  · rw [hasNewGrpId, hsome]
    dsimp only
    split
    · rename_i hnew
      refine .inr ⟨rfl, fun _ => lt_of_le_of_ne hle fun heq => ?_⟩
      exact hnew.1 (heq ▸ rfl)
    · exact .inl rfl

theorem deserializeInterval_block {block : WireBlock} {interval received : TestInterval}
    (hbytes : block.data.interval.bytes = serializeInterval interval)
    (h : deserializeInterval (block.octets.drop IperfTestHeader.size) = .ok received) :
    received.bytes = interval.bytes ∧ received.datagrams = interval.datagrams ∧
      received.startSeq = interval.startSeq := by
  have hlong : 72 ≤ block.length.toNat := by
    have hread : Fault.Avoids .outOfBounds (deserializeInterval (block.octets.drop IperfTestHeader.size)) := by
      rw [h]
      exact Fault.avoids_ok received
    rw [deserializeInterval_avoids_iff, List.length_drop, WireBlock.octets, length_packet_eq, IperfTestHeader.size,
      intervalDataSize] at hread
    omega
  rw [WireBlock.octets, drop_packet block.data hlong, hbytes, deserializeInterval_serializeInterval] at h
  obtain rfl := Except.ok.inj h
  exact ⟨rfl, rfl, rfl⟩

theorem interval_numbers {v : MarkingSender} (hmarked : v.Marked) {k : Nat} {interval : TestInterval}
    (hinterval : v.intervals[k]? = some interval) (hfew : v.boundary (k + 1) < 2 ^ 64) :
    interval.startSeq.toNat = v.boundary k ∧ (interval.startSeq + interval.datagrams).toNat = v.boundary (k + 1) ∧
      interval.datagrams.toNat = v.boundary (k + 1) - v.boundary k := by
  obtain ⟨hstart, hdatagrams⟩ := hmarked.intervals k interval hinterval
  have hle := hmarked.boundary_le k
  rw [hstart, hdatagrams, UInt64.add_comm, UInt64.sub_add_cancel, UInt64.toNat_sub, UInt64.toNat_ofNat',
    UInt64.toNat_ofNat', Nat.mod_eq_of_lt hfew, Nat.mod_eq_of_lt (hle.trans_lt hfew)]
  refine ⟨rfl, rfl, ?_⟩
  omega

variable {seqs : Recorder → Finset Nat}

theorem onReceivedIntervalData_watching (htools : tools.Lawful seqs) {v : MarkingSender} (hmarked : v.Marked)
    {s t : LiveStream Recorder} {seen low number k : Nat} {block : WireBlock} {now : UInt64}
    (hannounces : v.Announces block.data (k + 1)) (hboundary : v.boundary (k + 1) ≤ number) (hfew : number + 1 < 2 ^ 64)
    (hseen : seen ≤ k) (hlow : low ≤ v.boundary seen) (hrecorded : seqs s.recvSeqRecorder = Finset.Ico low (number + 1))
    (hreported : Reported v seen s) (hgroup : s.lastGrpId = some (colour (k + 1)))
    (h : s.onReceivedIntervalData tools (block.octets.drop IperfTestHeader.size) now = .ok t) :
    Watching seqs v (number + 1) (k + 1) t ∧ Reported v (k + 1) t := by
  have hmono : Monotone v.boundary := monotone_nat_of_le_succ hmarked.boundary_le
  have hbelow : low ≤ v.boundary k := hlow.trans (hmono hseen)
  have hnext := hmarked.boundary_le k
  by_cases hrole : s.config.role = .roleReceiver
  · obtain ⟨interval, hinterval, hbytes⟩ := hannounces.interval k rfl
    obtain ⟨received, hread⟩ :
        ∃ received, deserializeInterval (block.octets.drop IperfTestHeader.size) = .ok received := by
      unfold onReceivedIntervalData at h
      rw [if_pos hrole] at h
      obtain ⟨received, hread, _⟩ := Fault.bind_eq_ok.mp h
      exact ⟨received, hread⟩
    obtain ⟨hreceivedBytes, hdatagrams, hstart⟩ := deserializeInterval_block hbytes hread
    obtain ⟨hstartNat, hendNat, hdatagramsNat⟩ := interval_numbers hmarked hinterval (by omega)
    rw [← hstart] at hstartNat
    rw [← hstart, ← hdatagrams] at hendNat
    have hmem : number ∈ seqs s.recvSeqRecorder := by
      rw [hrecorded, Finset.mem_Ico]
      omega
    have hcount : tools.recordedNumInRange s.recvSeqRecorder received.startSeq (received.startSeq + received.datagrams)
        = interval.datagrams.toNat := by
      have hall : (Finset.Ico low (number + 1)).filter (fun seq => v.boundary k ≤ seq ∧ seq < v.boundary (k + 1))
          = Finset.Ico (v.boundary k) (v.boundary (k + 1)) := by
        ext seq
        rw [Finset.mem_filter, Finset.mem_Ico, Finset.mem_Ico]
        omega
      rw [htools.count_eq hmem (by omega), hstartNat, hendNat, hrecorded, hall, Nat.card_Ico, hdatagramsNat]
    have hmax : (tools.maxSeqRecorded s.recvSeqRecorder).toNat + 1 < 2 ^ 64 := by
      have hmax := htools.max_mem _ ⟨number, hmem⟩
      rw [hrecorded, Finset.mem_Ico] at hmax
      omega
    obtain ⟨u, hu, _, _, hgrpId, _, hcalls, hkeeps⟩ :
        ∃ u, s.onReceivedIntervalData tools (block.octets.drop IperfTestHeader.size) now = .ok u ∧ _ :=
      onReceivedIntervalData_detects htools hrole hread hcount (by rw [hdatagrams]) hmax
    obtain rfl := Except.ok.inj (hu.symm.trans h)
    refine ⟨⟨.inr (hgrpId.trans hgroup), v.boundary (k + 1), Nat.le_refl _, ?_⟩, ?_⟩
    · ext seq
      rw [hkeeps, hrecorded, hendNat, Finset.mem_Ico, Finset.mem_Ico]
      omega
    · obtain ⟨reported, hsub, hall⟩ := hreported
      refine ⟨reported ++ [interval], ?_, ?_⟩
      · have hlt := (List.getElem?_eq_some_iff.mp hinterval).1
        rw [List.take_add_one, hinterval]
        exact (hsub.trans (List.take_sublist_take_left hseen)).append (List.Sublist.refl _)
      · rw [hcalls]
        exact List.rel_append hall (.cons ⟨hreceivedBytes, hdatagrams, hstart, rfl⟩ .nil)
  · -- a stream in another role leaves the intervals alone
    unfold onReceivedIntervalData at h
    rw [if_neg hrole] at h
    obtain rfl := Except.ok.inj h
    exact ⟨⟨.inr hgroup, low, hbelow.trans hnext, hrecorded⟩, hreported.mono (Nat.le_succ_of_le hseen) rfl⟩

/-- A block is no less than the group seen last, which is its own where it brings a new colour. -/
theorem onInterval_watching (htools : tools.Lawful seqs) {v : MarkingSender} (hmarked : v.Marked)
    {s t : LiveStream Recorder} {seen group low number : Nat} {block : WireBlock} {seq now : UInt64}
    (hannounces : v.Announces block.data group) (hboundary : v.boundary group ≤ number) (hfew : number + 1 < 2 ^ 64)
    (hle : seen ≤ group) (hlast : s.lastGrpId = none ∧ seen = 0 ∨ s.lastGrpId = some (colour seen))
    (hlow : low ≤ v.boundary seen) (hrecorded : seqs s.recvSeqRecorder = Finset.Ico low (number + 1))
    (hreported : Reported v seen s)
    (h : s.onInterval tools (flagsOf block) seq (block.octets.drop IperfTestHeader.size) now = .ok t) :
    ∃ last, last ≤ group ∧ Watching seqs v (number + 1) last t ∧ Reported v last t := by
  have hmono : Monotone v.boundary := monotone_nat_of_le_succ hmarked.boundary_le
  have hgrpId : (flagsOf block).grpId = colour group := hannounces.grpId
  have hbit : (flagsOf block).hasInterval = decide (0 < group) := hannounces.bit
  unfold onInterval at h
  rw [hgrpId] at h
  rcases (hasNewGrpId_watching hlast hle seq : s.hasNewGrpId tools (colour group) seq = _ ∨ _) with hold | ⟨hnew, hlater⟩
  · rw [hold] at h
    dsimp only at h
    rw [if_neg fun hboth => Bool.false_ne_true hboth.1] at h
    obtain rfl := Except.ok.inj h
    exact ⟨seen, hle, ⟨hlast, low, hlow, hrecorded⟩, hreported⟩
  · rw [hnew] at h
    dsimp only at h
    refine ⟨group, Nat.le_refl group, ?_⟩
    cases group with
    | zero =>
      rw [if_neg fun hboth => by rw [hbit] at hboth; exact Bool.false_ne_true hboth.2] at h
      obtain rfl := Except.ok.inj h
      exact ⟨⟨.inr rfl, low, hlow.trans (hmono hle), hrecorded⟩, hreported.mono hle rfl⟩
    | succ k =>
      rw [if_pos ⟨rfl, hbit.trans (decide_eq_true (Nat.succ_pos k))⟩] at h
      let coloured : LiveStream Recorder := { s with lastGrpId := some (colour (k + 1)) }
      have hcalls : Reported v seen coloured := hreported
      have hrecorder : seqs coloured.recvSeqRecorder = Finset.Ico low (number + 1) := hrecorded
      exact onReceivedIntervalData_watching htools hmarked hannounces hboundary hfew
        (Nat.le_of_lt_succ (hlater (Nat.succ_pos k))) hlow hrecorder hcalls rfl h

theorem updateReceived_watching (htools : tools.Lawful seqs) {v : MarkingSender} (hmarked : v.Marked)
    {s t : LiveStream Recorder} {seen group number : Nat} {block : WireBlock} {reception : Reception}
    (hlength : 0 < block.length) (hlast : block.data.header.last = false) (hseq : block.data.header.seq = .ofNat number)
    (hannounces : v.Announces block.data group) (hboundary : v.boundary group ≤ number) (hfew : number + 1 < 2 ^ 64)
    (hle : seen ≤ group) (h : Watching seqs v number seen s) (hreported : Reported v seen s)
    (hstep : s.updateReceived tools (StreamPair.ofBlock reception block) = .ok t) :
    ∃ last, last ≤ group ∧ Watching seqs v (number + 1) last t ∧ Reported v last t := by
  have hmono : Monotone v.boundary := monotone_nat_of_le_succ hmarked.boundary_le
  obtain ⟨identified, flagged, detected, time, hidentified, hflagged, hdetected, rfl⟩ := block_stages hlength hstep
  obtain rfl := learnIdentifier_block hidentified
  rw [onFlags, show (flagsOf block).last = false from hlast, if_neg Bool.false_ne_true] at hflagged
  obtain rfl := Except.ok.inj hflagged
  obtain ⟨low, hlow, hrecorded⟩ := h.recorded
  have hnumber : block.data.header.seq.toNat = number := by
    rw [hseq, UInt64.toNat_ofNat', Nat.mod_eq_of_lt (by omega)]
  let recorded : LiveStream Recorder := { s.countReceived block.octets.length reception.countedAt with
    recvSeqRecorder := tools.record s.recvSeqRecorder block.data.header.seq
    streamIdentifier := s.identifierAfter block }
  have hnow : seqs recorded.recvSeqRecorder = Finset.Ico low (number + 1) := by
    show seqs (tools.record s.recvSeqRecorder block.data.header.seq) = _
    have hstart : low ≤ number := hlow.trans ((hmono hle).trans hboundary)
    rw [htools.record, hrecorded, hnumber]
    ext seq
    rw [Finset.mem_insert, Finset.mem_Ico, Finset.mem_Ico]
    omega
  have hcounted : recorded.lastGrpId = none ∧ seen = 0 ∨ recorded.lastGrpId = some (colour seen) := h.lastGrpId
  have hsame : Reported v seen recorded := hreported
  obtain ⟨last, hbelow, hwatching, hcalls⟩ :=
    onInterval_watching htools hmarked hannounces hboundary hfew hle hcounted hlow hnow hsame hdetected
  have hjitter := updateJitter_sameDetection detected reception.arrival time
  refine ⟨last, hbelow, ⟨?_, ?_⟩, hcalls.mono (Nat.le_refl last) hjitter.intervalCalls⟩
  · rw [hjitter.lastGrpId]
    exact hwatching.lastGrpId
  · rw [hjitter.recvSeqRecorder]
    exact hwatching.recorded

/-- The FIN brings no interval, so there is no call. -/
theorem updateReceived_fin_calls {s t : LiveStream Recorder} {reception : Reception} {block : WireBlock}
    (hlength : 0 < block.length) (hbit : block.data.header.hasInterval = false)
    (hstep : s.updateReceived tools (StreamPair.ofBlock reception block) = .ok t) :
    t.log.intervalCalls = s.log.intervalCalls := by
  obtain ⟨identified, flagged, detected, time, hidentified, hflagged, hdetected, rfl⟩ := block_stages hlength hstep
  obtain rfl := learnIdentifier_block hidentified
  have hdetectedCalls : detected.log.intervalCalls = flagged.log.intervalCalls := by
    obtain ⟨grpId, hmarked⟩ : ∃ grpId, (flagged.hasNewGrpId tools (flagsOf block).grpId block.data.header.seq).2 =
        { flagged with lastGrpId := grpId } := flagged.hasNewGrpId_eq _ _
    unfold onInterval at hdetected
    dsimp only at hdetected
    rw [hmarked, if_neg fun hboth => Bool.false_ne_true (hbit.symm.trans hboth.2)] at hdetected
    obtain rfl := Except.ok.inj hdetected
    rfl
  rw [(updateJitter_sameDetection detected reception.arrival time).intervalCalls, hdetectedCalls]
  unfold onFlags at hflagged
  split at hflagged
  · split at hflagged
    · obtain rfl := Except.ok.inj hflagged
      rfl
    · obtain ⟨stream, _, hflagged⟩ := Fault.bind_eq_ok.mp hflagged
      obtain rfl := Fault.pure_eq_ok.mp hflagged
      rfl
  · obtain rfl := Except.ok.inj hflagged
    rfl

end LiveStream

namespace StreamPair

open LiveStream

variable {Recorder : Type} {tools : SeqTools Recorder} {seqs : Recorder → Finset Nat} {identifier : UInt64}

/-- The groups on the wire, and the one that the receiver has seen last. -/
structure Ordered (seqs : Recorder → Finset Nat) (s : StreamPair Recorder) (groups : List Nat) (current seen : Nat) :
    Prop where
  grouped : s.sender.Grouped s.wire groups current
  seen_le : seen ≤ current
  reported : Reported s.sender.view seen s.receiver
  watching : s.receiver.isFinReceived = false → Watching seqs s.sender.view s.handled seen s.receiver
  ahead : ∀ (k group : Nat), s.handled ≤ k → groups[k]? = some group → seen ≤ group

theorem Ordered.seen_le_intervals {s : StreamPair Recorder} {groups : List Nat} {current seen : Nat}
    (h : Ordered seqs s groups current seen) : seen ≤ s.sender.view.intervals.length :=
  h.seen_le.trans h.grouped.loaded.le

theorem ordered_sender {s : StreamPair Recorder} {groups : List Nat} {current seen : Nat} {a : LiveStream.Action}
    {sender : LiveStream Recorder} (hlinked : Linked identifier s) (h : Ordered seqs s groups current seen)
    (ha : a.isSending = true) (hstep : (LiveStream.machine tools).step s.sender a = some sender) (givenUp : Nat) :
    ∃ groups current, Ordered seqs { s with
      sender := sender
      wire := s.wire ++ handedOver s.sender sender
      givenUp := givenUp } groups current seen := by
  obtain ⟨new, next, hle, hnew, hgrouped⟩ := sending_grouped ha hlinked.marked hlinked.handing h.grouped hstep
  have hkeeps := (step_view ha hstep).keeps hlinked.marked
  have hseen := h.seen_le_intervals
  refine ⟨groups ++ new, next, hgrouped, h.seen_le.trans hle, h.reported.keeps hkeeps hseen,
    fun hfin => (h.watching hfin).keeps hkeeps hseen, fun k group hk hgroup => ?_⟩
  rcases Nat.lt_or_ge k groups.length with hold | hold
  · rw [List.getElem?_append_left hold] at hgroup
    exact h.ahead k group hk hgroup
  · rw [List.getElem?_append_right hold] at hgroup
    exact h.seen_le.trans (hnew group (List.mem_of_getElem? hgroup))

theorem ordered_deliver (htools : tools.Lawful seqs) {s : StreamPair Recorder} {groups : List Nat} {current seen : Nat}
    {reception : Reception} {block : WireBlock} {receiver : LiveStream Recorder} (hlinked : Linked identifier s)
    (h : Ordered seqs s groups current seen) (hfew : s.wire.length < 2 ^ 64) (hblock : s.wire[s.handled]? = some block)
    (hstep : s.receiver.updateReceived tools (ofBlock reception block) = .ok receiver) (acks : List WireBlock) :
    ∃ seen, Ordered seqs { s with receiver := receiver, handled := s.handled + 1, acks := acks } groups current seen := by
  have hlt := (List.getElem?_eq_some_iff.mp hblock).1
  have hmem := List.mem_of_getElem? hblock
  have hpos := (hlinked.headers block hmem).1
  have hcases := hlinked.handing.place.wire_cases
  cases hlast : block.data.header.last with
  | true =>
    have hcalls := updateReceived_fin_calls hpos (h.grouped.fin block hmem hlast) hstep
    have hheard := updateReceived_fin hpos hlast (wire_ack hcases block hmem) hstep
    refine ⟨seen, h.grouped, h.seen_le, h.reported.mono (Nat.le_refl seen) hcalls, fun hfin => ?_,
      fun k group hk => h.ahead k group (Nat.le_of_succ_le hk)⟩
    exact absurd (hfin.symm.trans hheard.isFinReceived) Bool.false_ne_true
  | false =>
    have hfin : s.receiver.isFinReceived = false := by
      cases hfin : s.receiver.isFinReceived with
      | false => rfl
      | true =>
        have hall := all_of_fin hcases hlinked.handled_le (hlinked.fin.mp hfin)
        omega
    obtain ⟨group, hgroup⟩ : ∃ group, groups[s.handled]? = some group :=
      ⟨_, List.getElem?_eq_getElem (h.grouped.length ▸ hlt)⟩
    obtain ⟨hannounces, hboundary⟩ := h.grouped.blocks s.handled block group hblock hgroup hlast
    have hseq : block.data.header.seq = .ofNat s.handled := by
      rcases wire_block hcases hblock with hdata | ⟨_, hfinBlock⟩
      · exact hdata.seq
      · exact absurd (hlast.symm.trans hfinBlock.last) Bool.false_ne_true
    obtain ⟨last, hbelow, hwatching, hreported⟩ := updateReceived_watching htools hlinked.marked hpos hlast hseq
      hannounces hboundary (by omega) (h.ahead s.handled group (Nat.le_refl _) hgroup) (h.watching hfin) h.reported hstep
    refine ⟨last, h.grouped, ?_, hreported, fun _ => hwatching, fun k later hk hlater => ?_⟩
    · exact hbelow.trans (h.grouped.le_current group (List.mem_of_getElem? hgroup))
    · -- the groups behind the block are no less than its own
      have hsorted := List.pairwise_iff_getElem.mp h.grouped.sorted
      obtain ⟨hkLt, rfl⟩ := List.getElem?_eq_some_iff.mp hlater
      obtain ⟨hgroupLt, rfl⟩ := List.getElem?_eq_some_iff.mp hgroup
      exact hbelow.trans (hsorted s.handled k hgroupLt hkLt hk)

theorem ordered_receiver {s : StreamPair Recorder} {groups : List Nat} {current seen : Nat} {a : LiveStream.Action}
    {receiver : LiveStream Recorder} (h : Ordered seqs s groups current seen) (ha : admitsReceiver a = true)
    (hstep : (LiveStream.machine tools).step s.receiver a = some receiver) :
    Ordered seqs { s with receiver := receiver } groups current seen := by
  have hsame := receiver_same ha hstep
  have hrecord := hsame.groupRecord
  refine ⟨h.grouped, h.seen_le, h.reported.mono (Nat.le_refl seen) (congrArg GroupRecord.intervalCalls hrecord),
    fun hfin => ?_, h.ahead⟩
  obtain ⟨hlast, hrecorded⟩ := h.watching (hsame.isFinReceived.symm.trans hfin)
  refine ⟨?_, ?_⟩
  · rw [show receiver.lastGrpId = s.receiver.lastGrpId from congrArg GroupRecord.lastGrpId hrecord]
    exact hlast
  · rw [show receiver.recvSeqRecorder = s.receiver.recvSeqRecorder from congrArg GroupRecord.recvSeqRecorder hrecord]
    exact hrecorded

theorem ordered_deliverAck {s : StreamPair Recorder} {groups : List Nat} {current seen : Nat} {reception : Reception}
    {block : WireBlock} {sender : LiveStream Recorder} (hlinked : Linked identifier s)
    (h : Ordered seqs s groups current seen) (hblock : s.acks[s.acked]? = some block)
    (hstep : s.sender.updateReceived tools (ofBlock reception block) = .ok sender) :
    Ordered seqs { s with sender := sender, acked := s.acked + 1 } groups current seen := by
  have hpart : sender.sendingPart = s.sender.sendingPart := finAck_sendingPart hlinked hblock hstep
  have hview : sender.view = s.sender.view := view_congr hpart
  have hkeeps : MarkingSender.Keeps s.sender.view sender.view := by
    rw [hview]
    exact .refl _
  have hloaded : sender.view.Loaded current := by
    rw [hview]
    exact h.grouped.loaded
  have hbare : BareFin sender.iperfData := by
    rw [show sender.iperfData = s.sender.iperfData from congrArg SendingPart.iperfData hpart]
    exact h.grouped.bareFin
  have hseen := h.seen_le_intervals
  exact ⟨h.grouped.keeps hkeeps hloaded (Nat.le_refl current) hbare, h.seen_le, h.reported.keeps hkeeps hseen,
    fun hfin => (h.watching hfin).keeps hkeeps hseen, h.ahead⟩

/-- As long as there are fewer blocks than numbers. -/
def IsOrdered (seqs : Recorder → Finset Nat) (s : StreamPair Recorder) : Prop :=
  s.wire.length < 2 ^ 64 → ∃ groups current seen, Ordered seqs s groups current seen

theorem step_ordered (htools : tools.Lawful seqs) {s t : StreamPair Recorder} {a : Action} (hlinked : Linked identifier s)
    (h : IsOrdered seqs s) (hstep : (machine tools).step s a = some t) : IsOrdered seqs t := by
  intro hfew
  cases step_moved hstep with
  | sender hadmits hsent =>
    obtain ⟨groups, current, seen, hordered⟩ := h (lt_of_le_of_lt (by simp) hfew)
    obtain ⟨groups, current, hordered⟩ := ordered_sender hlinked hordered (admitsSender_isSending hadmits) hsent _
    exact ⟨groups, current, seen, hordered⟩
  | deliver hblock hreceived =>
    obtain ⟨groups, current, seen, hordered⟩ := h hfew
    obtain ⟨seen, hordered⟩ := ordered_deliver htools hlinked hordered hfew hblock hreceived _
    exact ⟨groups, current, seen, hordered⟩
  | receiver hadmits hown =>
    obtain ⟨groups, current, seen, hordered⟩ := h hfew
    exact ⟨groups, current, seen, ordered_receiver hordered hadmits hown⟩
  | deliverAck hblock hreceived =>
    obtain ⟨groups, current, seen, hordered⟩ := h hfew
    exact ⟨groups, current, seen, ordered_deliverAck hlinked hordered hblock hreceived⟩

variable {config serverConfig : TestConfig} {streamId serverStreamId : Nat} {now : UInt64} {length : Int}
  {accepted : IperfStream} {recorder serverRecorder : Recorder} {acts : List Action} {s : StreamPair Recorder}

theorem ordered_start (hempty : seqs serverRecorder = ∅) :
    IsOrdered seqs (start config streamId now recorder accepted serverRecorder) := by
  intro _
  refine ⟨[], 0, 0, grouped_connecting config streamId now recorder, Nat.le_refl 0, ⟨[], List.nil_sublist _, .nil⟩,
    fun _ => ⟨.inl ⟨rfl, rfl⟩, 0, Nat.zero_le _, ?_⟩, fun k group _ _ => Nat.zero_le group⟩
  rw [show seqs (start config streamId now recorder accepted serverRecorder).receiver.recvSeqRecorder = ∅ from hempty]
  exact (Finset.Ico_self 0).symm

/-- In every interleaving of the two ends of a connection that keeps the order, the receiver reports intervals of the sender, in their order and each at most once, and misses no datagram of any. -/
theorem intervals_complete (htools : tools.Lawful seqs) (hempty : seqs serverRecorder = ∅)
    (haccepted : IperfStream.accepted serverConfig serverStreamId length = .ok accepted)
    (hrun : (machine tools).run (start config streamId now recorder accepted serverRecorder) acts = some s)
    (hfew : s.wire.length < 2 ^ 64) : ∃ reported, List.Sublist reported s.sender.log.intervals ∧
      List.Forall₂ Reports reported s.receiver.log.intervalCalls := by
  have hpreserves (s : StreamPair Recorder) (a : Action) (t : StreamPair Recorder)
      (h : Linked (now + .ofNat streamId) s ∧ IsOrdered seqs s) (hstep : (machine tools).step s a = some t) :
      Linked (now + .ofNat streamId) t ∧ IsOrdered seqs t :=
    ⟨step_linked h.1 hstep, step_ordered htools h.1 h.2 hstep⟩
  have hstart : Linked (now + .ofNat streamId) (start config streamId now recorder accepted serverRecorder) ∧
      IsOrdered seqs (start config streamId now recorder accepted serverRecorder) :=
    ⟨linked_start haccepted, ordered_start hempty⟩
  obtain ⟨_, hordered⟩ := Machine.run_preserves hpreserves hstart hrun
  obtain ⟨groups, current, seen, hordered⟩ := hordered hfew
  obtain ⟨reported, hsub, hall⟩ := hordered.reported
  exact ⟨reported, hsub.trans (List.take_sublist _ _), hall⟩

/-- A snapshot behind 129 blocks. The next block brings the new colour beyond the threshold of reordering. -/
def untilInterval : List Action :=
  ([LiveStream.Action.event (.established 72), .event .writable, .startSend 0] ++ List.replicate (1 + 7 * 129) acceptedStep
    ++ LiveStream.Action.snapshotReport 1000 :: List.replicate 7 acceptedStep).map .sender
    ++ List.replicate 130 (.deliver (received []))

set_option maxRecDepth 10000 in
theorem intervals_complete_first :
    ∃ s interval call, pairRun untilInterval = some s ∧ s.sender.log.intervals = [interval] ∧
      s.receiver.log.intervalCalls = [call] ∧ interval.datagrams = 129 ∧ Reports interval call := by
  have hfound : (pairRun untilInterval).map (fun s => (s.wire.length, s.sender.log.intervals.map TestInterval.datagrams,
      s.receiver.log.intervalCalls.length)) = some (130, [129], 1) := by
    decide +kernel
  obtain ⟨s, hs, hfound⟩ := Option.map_eq_some_iff.mp hfound
  obtain ⟨hwire, hfound⟩ := Prod.mk.inj hfound
  obtain ⟨hintervals, hcalls⟩ := Prod.mk.inj hfound
  obtain ⟨accepted, haccepted, hrun⟩ := pairRun_eq_some hs
  obtain ⟨interval, hinterval, hdatagrams⟩ := List.map_eq_singleton_iff.mp hintervals
  obtain ⟨call, hcall⟩ := List.length_eq_one_iff.mp hcalls
  obtain ⟨reported, hsub, hall⟩ :=
    intervals_complete SeqTools.ofLists_lawful rfl haccepted hrun (by rw [hwire]; decide)
  have hone : reported = [interval] := by
    rw [hinterval] at hsub
    apply hsub.eq_of_length
    rw [hall.length_eq, hcalls]
    rfl
  rw [hone, hcall] at hall
  obtain ⟨hreports, _⟩ := List.forall₂_cons.mp hall
  exact ⟨s, interval, call, hs, hinterval, hcall, hdatagrams, hreports⟩

end StreamPair

end BatsIperf
