import BatsIperf.Stream.PairDelivery

/-!
# When a block of the sender ends the receiver

The receiver ends its process where the first data over BRTP or TCP does not have number 0. A sender that gives up its first block has used that number up, and then its FIN is the first data.
-/

namespace BatsIperf

open Octets

namespace LiveStream

open StreamPair (ofBlock)

variable {Recorder : Type} {tools : SeqTools Recorder}

/-! ### Stages that do not end the program -/

theorem wordAt_notTerminated (data : Octets) (offset : Nat) : Fault.Avoids .terminated (wordAt data offset) := by
  unfold wordAt
  cases nextWord (data.drop offset) with
  | none => exact fun h => Fault.noConfusion (Except.error.inj h)
  | some word => exact Fault.avoids_ok word.1

theorem flagsAt_notTerminated (data : Octets) : Fault.Avoids .terminated (flagsAt data) :=
  (Fault.avoids_need (by decide) _).bind fun _ => Fault.avoids_pure _

theorem onFlags_notTerminated (s : LiveStream Recorder) (flags : TestFlags) (answer : FinAnswer) :
    Fault.Avoids .terminated (s.onFlags flags answer) := by
  unfold onFlags
  split
  · split
    · exact Fault.avoids_ok _
    · apply Fault.Avoids.bind
      · apply (Fault.avoids_require (by decide) _).bind
        intro _
        exact (sendFinAck_avoids (by decide) (by decide) answer).bind fun _ => Fault.avoids_pure _
      · exact fun _ => Fault.avoids_pure _
  · exact Fault.avoids_ok s

theorem onInterval_notTerminated (s : LiveStream Recorder) (flags : TestFlags) (seq : UInt64) (data : Octets)
    (now : UInt64) : Fault.Avoids .terminated (s.onInterval tools flags seq data now) := by
  unfold onInterval
  dsimp only
  split
  · unfold onReceivedIntervalData
    split
    · rw [deserializeInterval_eq]
      apply (Fault.avoids_need (by decide) _).bind
      intro received
      apply (Fault.avoids_require (by decide) _).bind
      intro _
      apply Fault.Avoids.bind
      · exact (Fault.avoids_require (by decide) _).bind fun _ => Fault.avoids_pure _
      · exact fun _ => Fault.avoids_pure _
    · exact Fault.avoids_ok _
  · exact Fault.avoids_ok _

theorem afterCheck_terminated_iff {s : LiveStream Recorder} {reception : Reception} {seq : UInt64}
    (hlength : 24 ≤ reception.data.length) :
    (do
      let t ← s.learnIdentifier reception.data seq
      let flags ← flagsAt reception.data
      let t ← t.onFlags flags reception.fin
      let t ← t.onInterval tools flags seq (reception.data.drop IperfTestHeader.size) reception.snapshotAt
      let time ← wordAt reception.data 24
      return t.updateJitter reception.arrival time) = .error .terminated ↔ s.refusesStart seq = true := by
  cases hrefuses : s.refusesStart seq with
  | true =>
    rw [learnIdentifier_of_refuses (by omega) hrefuses]
    exact iff_of_true rfl rfl
  | false =>
    obtain ⟨identifier, hlearn⟩ := learnIdentifier_of_not_refuses (show 16 ≤ reception.data.length by omega) hrefuses
    rw [hlearn, Fault.ok_bind]
    refine iff_of_false ?_ Bool.false_ne_true
    apply (flagsAt_notTerminated _).bind
    intro flags
    apply (onFlags_notTerminated _ _ _).bind
    intro flagged
    apply (onInterval_notTerminated _ _ _ _ _).bind
    intro detected
    exact (wordAt_notTerminated _ _).bind fun _ => Fault.avoids_pure _

/-! ### A block -/

theorem validateReceivedData_block {block : WireBlock} (hmagic : block.data.header.magic = batsIperfMagicCode)
    (hlength : 8 ≤ block.octets.length) : validateReceivedData block.octets = .ok true := by
  by_cases hlong : 72 ≤ block.length.toNat
  · exact validateReceivedData_packet hlong hmagic
  · obtain ⟨word, hword⟩ := wordAt_ok (show 0 + 8 ≤ block.octets.length by omega)
    have hshort : block.octets.length ≤ IperfTestHeader.size + intervalDataSize := by
      rw [WireBlock.octets, length_packet_eq, IperfTestHeader.size, intervalDataSize]
      omega
    obtain rfl := wordAt_packet_of_ok.1 hword
    unfold validateReceivedData
    rw [hword, Fault.ok_bind, if_neg (not_not_intro hmagic), if_pos hshort]
    rfl

/-- A block of a sender ends the program where the stream refuses its number, and nowhere else. -/
theorem updateReceived_terminated_iff {s : LiveStream Recorder} {reception : Reception} {block : WireBlock}
    (hmagic : block.data.header.magic = batsIperfMagicCode) (hlength : 0 < block.length) :
    s.updateReceived tools (ofBlock reception block) = .error .terminated ↔
      24 ≤ block.length ∧ s.refusesStart block.data.header.seq = true := by
  have hoctets : block.octets.length = block.length.toNat := length_packet_eq _ _
  have hne : block.octets ≠ [] := by
    rw [Ne, ← List.length_eq_zero_iff]
    omega
  have hdata : (ofBlock reception block).data = block.octets := rfl
  unfold updateReceived
  rw [hdata, if_neg hne]
  dsimp only
  by_cases hshort : block.octets.length < 24
  · rw [wordAt_short (show block.octets.length < 16 + 8 by omega)]
    refine iff_of_false (fun h => Fault.noConfusion (Except.error.inj h)) fun h => ?_
    omega
  · obtain ⟨seq, hseq⟩ := wordAt_ok (show 16 + 8 ≤ block.octets.length by omega)
    have hvalid := validateReceivedData_block hmagic (show 8 ≤ block.octets.length by omega)
    obtain rfl := wordAt_packet_of_ok.2.2 hseq
    have haccepts : s.rejects block.octets = false := by
      rw [rejects, hvalid]
      exact Bool.and_false _
    have hcheck : (s.countReceived block.octets.length reception.countedAt).checkData block.octets = .ok () :=
      checkData_of_not_rejects (by omega) haccepts
    have hcounted : (ofBlock reception block).countedAt = reception.countedAt := rfl
    rw [hseq, Fault.ok_bind, hcounted, hcheck, Fault.ok_bind, and_iff_right (show 24 ≤ block.length by omega)]
    have hsame : ({ s.countReceived block.octets.length reception.countedAt with
        recvSeqRecorder := tools.record s.recvSeqRecorder block.data.header.seq } : LiveStream Recorder).refusesStart
          block.data.header.seq = s.refusesStart block.data.header.seq := rfl
    rw [← hsame]
    exact @afterCheck_terminated_iff _ tools _ (ofBlock reception block) _ (by rw [hdata]; omega)

end LiveStream

namespace StreamPair

open LiveStream

variable {Recorder : Type} {tools : SeqTools Recorder} {config serverConfig : TestConfig} {streamId serverStreamId : Nat}
  {now : UInt64} {length : Int} {accepted : IperfStream} {recorder serverRecorder : Recorder} {acts : List Action}
  {s : StreamPair Recorder}

/-- In every interleaving, and for every block that comes next: it ends the process of the receiver exactly where it is the first one, over BRTP or TCP, and a FIN behind a block that the sending thread has given up. -/
theorem receiver_exits_iff (haccepted : IperfStream.accepted serverConfig serverStreamId length = .ok accepted)
    (hidentifier : now + .ofNat streamId ≠ 0)
    (hrun : (machine tools).run (start config streamId now recorder accepted serverRecorder) acts = some s)
    {block : WireBlock} (hblock : s.wire[s.handled]? = some block) (reception : Reception) :
    s.receiver.updateReceived tools (ofBlock reception block) = .error .terminated ↔
      s.handled = 0 ∧ (s.receiver.config.protocol = 1 ∨ s.receiver.config.protocol = 10) ∧
        block.data.header.last = true ∧ s.givenUp = 1 ∧ 24 ≤ block.length := by
  have hlinked := run_linked haccepted hrun
  obtain ⟨hpos, hmagic, _⟩ := hlinked.headers block (List.mem_of_getElem? hblock)
  obtain ⟨hone, hnumbered⟩ := wire_numbered haccepted hrun
  have hnumber := hnumbered s.handled block hblock
  have hunknown : s.receiver.streamIdentifier = 0 ↔ s.handled = 0 := by
    rw [hlinked.identifier]
    split
    · rename_i hfirst
      exact iff_of_true rfl hfirst
    · rename_i hlater
      exact iff_of_false hidentifier hlater
  have hseq : s.handled = 0 →
      (block.data.header.seq ≠ 0 ↔ block.data.header.last = true ∧ s.givenUp = 1) := by
    intro hfirst
    rw [hfirst] at hnumber
    cases hlast : block.data.header.last with
    | false =>
      rw [hlast, if_neg Bool.false_ne_true] at hnumber
      exact iff_of_false (not_not_intro hnumber) fun h => Bool.false_ne_true h.1
    | true =>
      rw [hlast, if_pos rfl, Nat.zero_add] at hnumber
      rw [hnumber.2]
      rcases Nat.le_one_iff_eq_zero_or_eq_one.mp hone with hnone | hgiven
      · rw [hnone]
        exact iff_of_false (not_not_intro rfl) fun h => Nat.zero_ne_one h.2
      · rw [hgiven]
        exact iff_of_true (by decide) ⟨rfl, rfl⟩
  rw [updateReceived_terminated_iff hmagic hpos, refusesStart, decide_eq_true_iff, hunknown]
  constructor
  · rintro ⟨hlength, hfirst, hnonzero, hprotocol⟩
    obtain ⟨hlast, hgiven⟩ := (hseq hfirst).mp hnonzero
    exact ⟨hfirst, hprotocol, hlast, hgiven, hlength⟩
  · rintro ⟨hfirst, hprotocol, hlast, hgiven, hlength⟩
    exact ⟨hlength, hfirst, (hseq hfirst).mpr ⟨hlast, hgiven⟩, hprotocol⟩

/-- The first block is given up, and the FIN ends the receiver. -/
theorem receiver_exits_iff_fin :
    ∃ s fin, pairRun untilLoneFin = some s ∧ s.wire[s.handled]? = some fin ∧
      s.receiver.updateReceived SeqTools.ofLists (ofBlock (received []) fin) = .error .terminated := by
  have hfound : (pairRun untilLoneFin).map (fun s => (s.handled, s.receiver.config.protocol, s.givenUp,
      s.wire.map fun block => (block.data.header.last, block.length))) = some (0, 1, 1, [(true, 72)]) := by
    decide +kernel
  obtain ⟨s, hs, hfound⟩ := Option.map_eq_some_iff.mp hfound
  simp only [Prod.mk.injEq] at hfound
  obtain ⟨hhandled, hprotocol, hgiven, hwire⟩ := hfound
  obtain ⟨accepted, haccepted, hrun⟩ := pairRun_eq_some hs
  obtain ⟨fin, hwire, hfin⟩ := List.map_eq_singleton_iff.mp hwire
  obtain ⟨hlast, hlength⟩ := Prod.mk.inj hfin
  have hnext : s.wire[s.handled]? = some fin := by
    rw [hwire, hhandled]
    rfl
  refine ⟨s, fin, hs, hnext, ?_⟩
  apply (receiver_exits_iff haccepted (by decide) hrun hnext (received [])).mpr
  exact ⟨hhandled, .inl hprotocol, hlast, hgiven, by omega⟩

end StreamPair

end BatsIperf
