import BatsIperf.Stream.IntervalDetection
import BatsIperf.Stream.SenderIntervals

/-!
# The packets a sender builds are the packets a receiver expects

The detection of intervals is stated for data packets with certain marks. The packets that the sending thread builds have them: `Headed` is what the marks of a sender leave out, the fixed fields of the header.
-/

namespace BatsIperf

open Octets Marking

/-- The fields of a header that do not depend on the group. -/
structure IsDataHeader (identifier : UInt64) (header : IperfTestHeader) : Prop where
  magic : header.magic = batsIperfMagicCode
  streamIdentifier : header.streamIdentifier = identifier
  last : header.last = false
  ack : header.ack = false

namespace MarkingSender

structure Headed (identifier : UInt64) (v : MarkingSender) : Prop where
  data : v.phase ≠ .closing →
    v.data.header.magic = batsIperfMagicCode ∧ v.data.header.streamIdentifier = identifier
  built : ∀ packet ∈ v.built, IsDataHeader identifier packet.data.header ∧
    (packet.snapshots = 0 → packet.data.header.hasInterval = false)

theorem nextData_header (v : MarkingSender) (time : UInt64) :
    (v.nextData time).header.magic = v.data.header.magic ∧
      (v.nextData time).header.streamIdentifier = v.data.header.streamIdentifier ∧
      (v.nextData time).header.last = false ∧ (v.nextData time).header.ack = false := by
  unfold nextData
  split <;> exact ⟨rfl, rfl, rfl, rfl⟩

theorem nextData_hasInterval {v : MarkingSender} (h : Marked v) (hfirst : v.intervals.length = 0) (time : UInt64) :
    (v.nextData time).header.hasInterval = false := by
  have hcnt : v.snapshotCnt = 0 := by rw [h.snapshotCnt, hfirst]; rfl
  have hcloses : ¬ v.OpensColour := by
    rintro ⟨hpos, _⟩
    omega
  rw [nextData, if_neg hcloses]
  exact if_pos hcnt.le

theorem Step.headed {identifier : UInt64} {v w : MarkingSender} (hstep : Step v w) (hmarked : Marked v)
    (h : Headed identifier v) : Headed identifier w := by
  cases hstep with
  | stay => exact h
  | start hphase =>
    have hphase : v.phase ≠ .closing := by
      rw [hphase]
      decide
    exact ⟨fun _ => h.data hphase, h.built⟩
  | build time hphase =>
    have hphase : v.phase ≠ .closing := by
      rw [hphase]
      decide
    obtain ⟨hmagic, hidentifier⟩ := h.data hphase
    obtain ⟨hsameMagic, hsameIdentifier, hlast, hack⟩ := v.nextData_header time
    refine ⟨fun _ => ⟨hsameMagic.trans hmagic, hsameIdentifier.trans hidentifier⟩, fun packet hpacket => ?_⟩
    rcases List.mem_append.mp hpacket with hpacket | hpacket
    · exact h.built packet hpacket
    · obtain rfl := List.mem_singleton.mp hpacket
      exact ⟨⟨hsameMagic.trans hmagic, hsameIdentifier.trans hidentifier, hlast, hack⟩,
        fun hfirst => nextData_hasInterval hmarked hfirst time⟩
  | countBytes | countDatagram | snapshot => exact ⟨h.data, h.built⟩
  | close => exact ⟨fun hphase => absurd rfl hphase, h.built⟩

end MarkingSender

namespace LiveStream

variable {Recorder : Type} {tools : SeqTools Recorder} {config : TestConfig} {streamId : Nat} {now : UInt64}
  {recorder : Recorder} {acts : List Action} {s : LiveStream Recorder}

theorem run_headed (hsending : ∀ a ∈ acts, a.isSending)
    (hrun : (machine tools).run (connecting config streamId now recorder) acts = some s) :
    MarkingSender.Headed (now + .ofNat streamId) s.view := by
  have hallowed : (machine tools).Respects (fun _ a => a.isSending = true)
      (connecting config streamId now recorder) acts := by
    apply Machine.respects_of_mem
    exact hsending
  have hstart : MarkingSender.Headed (now + .ofNat streamId) (connecting config streamId now recorder).view :=
    ⟨fun _ => ⟨rfl, rfl⟩, fun packet hpacket => absurd hpacket List.not_mem_nil⟩
  have hstep : ∀ (s : LiveStream Recorder) (a : Action) (t : LiveStream Recorder),
      s.view.Marked ∧ s.view.Headed (now + .ofNat streamId) → a.isSending = true →
      (machine tools).step s a = some t → t.view.Marked ∧ t.view.Headed (now + .ofNat streamId) := by
    intro s a t ⟨hmarked, hheaded⟩ ha hstep
    exact ⟨(step_view ha hstep).marked hmarked, (step_view ha hstep).headed hmarked hheaded⟩
  exact (Machine.run_invariant hstep ⟨marked_connecting config streamId now recorder, hstart⟩ hallowed hrun).2

/-- What the sending thread hands to the connection is a data packet of its group, for every sequence of boundaries that goes on from the snapshots taken. -/
theorem built_isDataPacket (hsending : ∀ a ∈ acts, a.isSending)
    (hrun : (machine tools).run (connecting config streamId now recorder) acts = some s)
    (hidentifier : now + .ofNat streamId ≠ 0) (hdense : s.view.Dense) {boundary : Nat → Nat}
    (hagrees : ∀ k ≤ s.log.intervals.length, boundary k = s.view.boundary k)
    (hlast : s.log.counted ≤ boundary (s.log.intervals.length + 1)) {packet : BuiltPacket}
    (hpacket : packet ∈ s.log.built) {length : Nat} (hlength : 72 ≤ length) :
    IsDataPacket boundary packet.snapshots packet.index (packet.data.packet length) := by
  have hmarked := run_marked hsending hrun
  obtain ⟨hheader, hfirst⟩ := (run_headed hsending hrun).built packet hpacket
  obtain ⟨hle, hcolour, hseq, hlow, hhigh⟩ := hmarked.packets packet hpacket
  have hin : InGroup boundary packet.snapshots packet.index := by
    refine ⟨(hagrees _ hle).trans_le hlow, ?_⟩
    rcases Nat.lt_or_ge packet.snapshots s.log.intervals.length with hlt | hge
    · rw [hagrees _ hlt]
      exact hhigh
    · have heq : packet.snapshots = s.log.intervals.length := le_antisymm hle hge
      rw [heq] at hhigh ⊢
      exact (hhigh.trans hmarked.boundary_succ.le).trans hlast
  have hembeds := hmarked.embedded hdense packet hpacket
  refine isDataPacket_packet hlength hin hheader.magic ?_ hseq hcolour ⟨hheader.last, hheader.ack⟩ ?_ ?_
  · rw [hheader.streamIdentifier]
    exact hidentifier
  · cases hk : packet.snapshots with
    | zero => exact hfirst hk
    | succ k => exact (hembeds k hk).1.trans (decide_eq_true (Nat.succ_pos k)).symm
  · intro k hk
    obtain ⟨_, interval, hinterval, hbytes⟩ := hembeds k hk
    obtain ⟨hstart, hdatagrams⟩ := hmarked.intervals k interval hinterval
    have hle : k + 1 ≤ s.log.intervals.length := hk ▸ hle
    rw [← hagrees k (by omega)] at hstart
    rw [← hagrees k (by omega), ← hagrees (k + 1) hle, ← UInt64.ofNat_sub] at hdatagrams
    · exact ⟨interval, hbytes, hstart, hdatagrams⟩
    · rw [hagrees k (by omega), hagrees (k + 1) hle]
      exact hmarked.boundary_le k

end LiveStream

end BatsIperf
