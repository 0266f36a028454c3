import BatsIperf.Stream.BlockReception

/-!
# What the FIN-ACK says

A sender that has the FIN-ACK knows that every block it has handed over was handled: the FIN is the last block on the wire, the receiver handles the blocks in their order, and it answers nothing but the FIN. `Linked` is what holds of a pair between any two steps.
-/

namespace BatsIperf

namespace LiveStream

variable {Recorder : Type} {tools : SeqTools Recorder}

/-! ### Lengths -/

/-- A connected stream has an ideal length, and the length of a block that is being sent was one. -/
structure Sized (s : LiveStream Recorder) : Prop where
  ideal : s.isConnected = true ∨ s.sendingThread = .sending → 0 < s.idealLength
  block : ∀ length, s.point = .send length ∨ s.point = .retry length → 0 < length

theorem switchDataBlockLength_pos {stream switched : IperfStream} {length : Int}
    (h : stream.switchDataBlockLength length = .ok switched) : 0 < length := by
  obtain ⟨_, hpos, _⟩ := Fault.bind_eq_ok.mp h
  exact Fault.require_eq_ok.mp hpos

theorem connectionCallback_ideal {stream next : IperfStream} {event : ConnEvent}
    (h : stream.connectionCallback event = .ok next) :
    0 < next.idealLength ∨
      next.idealLength = stream.idealLength ∧ (next.isConnected = true → stream.isConnected = true) := by
  cases event with
  | established length =>
    simp only [IperfStream.connectionCallback] at h
    split at h
    · have hpos := switchDataBlockLength_pos h
      obtain rfl := IperfStream.switchDataBlockLength_eq h
      exact .inl hpos
    · obtain rfl := Except.ok.inj h
      exact .inr ⟨rfl, id⟩
  | idealBufferLength length =>
    have hpos := switchDataBlockLength_pos h
    obtain rfl := IperfStream.switchDataBlockLength_eq h
    exact .inl hpos
  | none | failed | timeout | shutdownByPeer | writable | sendComplete | sendDataError | bufferFull | closed | error
    | alreadyConnected | allDataAcked =>
    right
    cases IperfStream.connectionCallback_move h with
    | retried | closed => exact ⟨rfl, fun hconnected => absurd hconnected Bool.false_ne_true⟩
    | _ => exact ⟨rfl, id⟩

theorem Sized.goOn {s t : LiveStream Recorder} (h : Sized s) (hideal : t.idealLength = s.idealLength)
    (hconnected : t.isConnected = true ∨ t.sendingThread = .sending → s.isConnected = true ∨ s.sendingThread = .sending)
    (hpoint : ∀ length, t.point = .send length ∨ t.point = .retry length → 0 < length) : Sized t where
  ideal hat := by
    rw [hideal]
    exact h.ideal (hconnected hat)
  block := hpoint

theorem loopStep_sized {s t : LiveStream Recorder} {input : ThreadInput} (hthread : s.sendingThread = .sending)
    (h : Sized s) (hstep : s.loopStep input = .ok t) : Sized t := by
  have hgoOn {u : LiveStream Recorder} (hideal : u.idealLength = s.idealLength)
      (hpoint : ∀ length, u.point = .send length ∨ u.point = .retry length → 0 < length) : Sized u :=
    h.goOn hideal (fun _ => .inr hthread) hpoint
  cases loopStep_move hstep with
  | waits => exact h
  | goesOn _ hto =>
    refine hgoOn rfl fun length hpoint => ?_
    rcases hpoint with rfl | rfl <;> exact absurd hto Bool.false_ne_true
  | leaves | fails | givesUp | countsBytes | countsDatagram | buildsFin | countsFinBytes | countsFinDatagram =>
    refine hgoOn rfl fun length hpoint => ?_
    rcases hpoint with hpoint | hpoint <;> cases hpoint
  | builds =>
    refine hgoOn (congrArg IperfStream.idealLength (s.buildHeader_stream input.time)) fun length hpoint => ?_
    rcases hpoint with hpoint | hpoint
    · obtain rfl := SendPoint.send.inj hpoint
      exact h.ideal (.inr hthread)
    · cases hpoint
  | @sendsBlock length _ hfrom hsend =>
    obtain ⟨_, rfl⟩ := sendData_eq hsend
    have hpos := h.block length hfrom
    refine hgoOn (by split <;> rfl) fun other hpoint => ?_
    split at hpoint
    · rcases hpoint with hpoint | hpoint <;> cases hpoint
    · rcases hpoint with hpoint | hpoint
      · cases hpoint
      · obtain rfl := SendPoint.retry.inj hpoint
        exact hpos
  | sendsFin _ hsend =>
    obtain ⟨_, rfl⟩ := sendData_eq hsend
    refine hgoOn (by split <;> rfl) fun other hpoint => ?_
    split at hpoint <;> rcases hpoint with hpoint | hpoint <;> cases hpoint
  | ends => exact hgoOn rfl h.block

theorem stop_connected (stream : IperfStream) (now : UInt64) :
    (stream.stop now).isConnected = true → stream.isConnected = true := by
  unfold IperfStream.stop
  split
  · exact id
  · exact fun h => absurd h Bool.false_ne_true

theorem step_sized {s t : LiveStream Recorder} {a : Action} (ha : a.isSending) (h : Sized s)
    (hstep : (machine tools).step s a = some t) : Sized t := by
  have hperform := step_eq_some.mp hstep
  cases a with
  | event event =>
    obtain ⟨stream, hstream, hperform⟩ := Fault.bind_eq_ok.mp hperform
    obtain ⟨_, hthread⟩ := connectionCallback_report hstream
    obtain rfl := Fault.pure_eq_ok.mp hperform
    refine ⟨fun hat => ?_, h.block⟩
    rcases connectionCallback_ideal hstream with hpos | ⟨hideal, hconnected⟩
    · exact hpos
    · rw [show ({ s with toIperfStream := stream } : LiveStream Recorder).idealLength = s.idealLength from hideal]
      exact h.ideal (hat.imp hconnected hthread.symm.trans)
  | startSend now =>
    obtain ⟨stream, hstream, hperform⟩ := Fault.bind_eq_ok.mp hperform
    obtain ⟨_, _, hstream⟩ := Fault.bind_eq_ok.mp hstream
    obtain rfl := Fault.pure_eq_ok.mp hstream
    obtain rfl := Fault.pure_eq_ok.mp hperform
    exact h.goOn rfl (fun hat => hat.imp_right SendingThread.noConfusion) h.block
  | thread input =>
    change s.threadStep input = .ok t at hperform
    unfold threadStep at hperform
    cases hthread : s.sendingThread with
    | notStarted | ended =>
      rw [hthread] at hperform
      cases hperform
    | starting =>
      rw [hthread] at hperform
      obtain rfl := Except.ok.inj hperform
      split
      · rename_i hconnected
        refine h.goOn rfl (fun _ => .inl hconnected) fun length hpoint => ?_
        rcases hpoint with hpoint | hpoint <;> cases hpoint
      · refine h.goOn (stop_sender s.toIperfStream input.now).2.2.1 (fun hat => ?_) h.block
        rcases hat with hat | hat
        · exact .inl (stop_connected s.toIperfStream input.now hat)
        · cases hat
    | sending =>
      rw [hthread] at hperform
      exact loopStep_sized hthread h hperform
  | snapshotReport now =>
    obtain rfl := Except.ok.inj hperform
    unfold snapshotReport IperfStream.snapshotReport
    dsimp only
    split <;> split <;> exact h.goOn rfl id h.block
  | finishReport now =>
    obtain rfl := Except.ok.inj hperform
    have hsame := s.toIperfStream.finishReport_same now
    refine h.goOn (finishReport_sender s.toIperfStream now).2.2 (fun hat => ?_) h.block
    exact hat.imp hsame.isConnected.symm.trans hsame.sendingThread.symm.trans
  | stop now =>
    obtain rfl := Except.ok.inj hperform
    obtain ⟨_, _, hideal, hthread⟩ := stop_sender s.toIperfStream now
    exact h.goOn hideal (fun hat => hat.imp (stop_connected s.toIperfStream now) hthread.symm.trans) h.block
  | received | poll | summary => exact absurd ha Bool.false_ne_true

/-- The thread hands over the block in its buffer, a data block or the FIN. -/
structure HandsOver (s t : LiveStream Recorder) (length : Int) : Prop where
  handedOver : handedOver s t = [{ data := s.iperfData, length := length }]
  sendingThread : s.sendingThread = .sending
  point : (s.point = .send length ∨ s.point = .retry length) ∨
    length = s.idealLength ∧ (s.point = .finSend ∨ s.point = .finRetry)
  view : t.view = s.view
  iperfData : t.iperfData = s.iperfData

theorem sendData_handsOver {s t : LiveStream Recorder} {length : Int} {sendOk : Bool} {sent unsent : SendPoint}
    (hthread : s.sendingThread = .sending) (hpoint : (s.point = .send length ∨ s.point = .retry length) ∨
      length = s.idealLength ∧ (s.point = .finSend ∨ s.point = .finRetry))
    (hview : t.view = s.view) (hsend : s.sendData length sendOk sent unsent = .ok t) :
    handedOver s t = [] ∨ HandsOver s t length := by
  obtain ⟨_, ht⟩ := sendData_eq hsend
  cases sendOk with
  | false => exact .inl (handedOver_of_same (by rw [ht]; rfl))
  | true =>
    have hdata : t.iperfData = s.iperfData := by rw [ht]; rfl
    refine .inr ⟨?_, hthread, hpoint, hview, hdata⟩
    rw [← hdata]
    exact handedOver_of_sent (by rw [ht]; rfl)

theorem handedOver_cases {s t : LiveStream Recorder} {a : Action} (ha : a.isSending)
    (hstep : (machine tools).step s a = some t) : handedOver s t = [] ∨ ∃ length, HandsOver s t length := by
  have hperform := step_eq_some.mp hstep
  cases a with
  | event event => exact .inl (handedOver_of_same (onEvent_aside hperform).sends)
  | startSend now =>
    obtain ⟨stream, _, hperform⟩ := Fault.bind_eq_ok.mp hperform
    obtain rfl := Fault.pure_eq_ok.mp hperform
    exact .inl (handedOver_of_same rfl)
  | thread input =>
    change s.threadStep input = .ok t at hperform
    unfold threadStep at hperform
    cases hthread : s.sendingThread with
    | notStarted | ended =>
      rw [hthread] at hperform
      cases hperform
    | starting =>
      rw [hthread] at hperform
      obtain rfl := Except.ok.inj hperform
      refine .inl (handedOver_of_same ?_)
      split <;> rfl
    | sending =>
      rw [hthread] at hperform
      cases loopStep_move hperform with
      | sendsBlock hpoint hsend =>
        have hlooping : isLooping s.point = true := by rcases hpoint with hpoint | hpoint <;> rw [hpoint] <;> rfl
        have hview := sendData_view hthread (hlooping ▸ rfl) (hlooping ▸ rfl) hsend
        exact (sendData_handsOver hthread (.inl hpoint) hview hsend).imp_right fun h => ⟨_, h⟩
      | sendsFin hpoint hsend =>
        have hclosing : isLooping s.point = false := by rcases hpoint with hpoint | hpoint <;> rw [hpoint] <;> rfl
        have hview := sendData_view hthread (hclosing ▸ rfl) (hclosing ▸ rfl) hsend
        exact (sendData_handsOver hthread (.inr ⟨rfl, hpoint⟩) hview hsend).imp_right fun h => ⟨_, h⟩
      | _ => exact .inl (handedOver_of_same rfl)
  | snapshotReport now =>
    obtain rfl := Except.ok.inj hperform
    exact .inl (handedOver_of_same (s.snapshotReport_aside now).sends)
  | finishReport now | stop now =>
    obtain rfl := Except.ok.inj hperform
    exact .inl (handedOver_of_same rfl)
  | received | poll | summary => exact absurd ha Bool.false_ne_true

theorem handedOver_pos {s t : LiveStream Recorder} {a : Action} (ha : a.isSending) (h : Sized s)
    (hstep : (machine tools).step s a = some t) : ∀ block ∈ handedOver s t, 0 < block.length := by
  intro block hblock
  rcases handedOver_cases ha hstep with hnone | ⟨length, hover⟩
  · rw [hnone] at hblock
    exact absurd hblock List.not_mem_nil
  · rw [hover.handedOver] at hblock
    obtain rfl := List.mem_singleton.mp hblock
    rcases hover.point with hpoint | ⟨hlength, _⟩
    · exact h.block length hpoint
    · rw [hlength]
      exact h.ideal (.inr hover.sendingThread)

/-! ### The header -/

theorem sending_header {s t : LiveStream Recorder} {a : Action} (ha : a.isSending)
    (hstep : (machine tools).step s a = some t) :
    t.iperfData.header.magic = s.iperfData.header.magic ∧
      t.iperfData.header.streamIdentifier = s.iperfData.header.streamIdentifier := by
  rw [step_data hstep]
  refine ⟨s.dataAfter_magic a, ?_⟩
  unfold dataAfter
  cases a with
  | thread input =>
    dsimp only
    split
    · cases s.point with
      | build =>
        dsimp only
        unfold buildHeader
        dsimp only
        split <;> rfl
      | fin =>
        dsimp only
        split <;> rfl
      | check | errorCheck | waitWritable | send | retry | countBytes | countDatagrams | finSend | finRetry
        | finCountBytes | finCountDatagrams => rfl
    · rfl
  | received => exact absurd ha Bool.false_ne_true
  | event | startSend | snapshotReport | poll | summary | finishReport | stop => rfl

theorem handedOver_header {s t : LiveStream Recorder} : ∀ block ∈ handedOver s t, block.data = t.iperfData := by
  intro block hblock
  obtain ⟨length, _, rfl⟩ := List.mem_map.mp hblock
  rfl

theorem sending_finAcked {s t : LiveStream Recorder} {a : Action} (ha : a.isSending)
    (hstep : (machine tools).step s a = some t) : t.isFinAcked = s.isFinAcked := by
  have hfinish (stream : IperfStream) (now : UInt64) : (stream.finishReport now).isFinAcked = stream.isFinAcked := by
    unfold IperfStream.finishReport
    split
    · split <;> rfl
    all_goals rfl
  have hstop (stream : IperfStream) (now : UInt64) : (stream.stop now).isFinAcked = stream.isFinAcked := by
    unfold IperfStream.stop
    split
    · rfl
    · dsimp only
      split
      · exact hfinish { stream with isStopped := true } now
      · rfl
  have hperform := step_eq_some.mp hstep
  cases a with
  | event event =>
    obtain ⟨stream, hstream, hperform⟩ := Fault.bind_eq_ok.mp hperform
    obtain rfl := Fault.pure_eq_ok.mp hperform
    cases IperfStream.connectionCallback_move hstream <;> rfl
  | startSend now =>
    obtain ⟨stream, hstream, hperform⟩ := Fault.bind_eq_ok.mp hperform
    obtain ⟨_, _, hstream⟩ := Fault.bind_eq_ok.mp hstream
    obtain rfl := Fault.pure_eq_ok.mp hstream
    obtain rfl := Fault.pure_eq_ok.mp hperform
    rfl
  | thread input =>
    change s.threadStep input = .ok t at hperform
    unfold threadStep at hperform
    cases hthread : s.sendingThread with
    | notStarted | ended =>
      rw [hthread] at hperform
      cases hperform
    | starting =>
      rw [hthread] at hperform
      obtain rfl := Except.ok.inj hperform
      split
      · rfl
      · exact hstop s.toIperfStream input.now
    | sending =>
      rw [hthread] at hperform
      cases loopStep_move hperform with
      | builds => exact congrArg IperfStream.isFinAcked (s.buildHeader_stream input.time)
      | sendsBlock _ hsend | sendsFin _ hsend =>
        obtain ⟨_, rfl⟩ := sendData_eq hsend
        split <;> rfl
      | _ => rfl
  | snapshotReport now =>
    obtain rfl := Except.ok.inj hperform
    unfold snapshotReport IperfStream.snapshotReport
    dsimp only
    split <;> split <;> rfl
  | finishReport now =>
    obtain rfl := Except.ok.inj hperform
    exact hfinish s.toIperfStream now
  | stop now =>
    obtain rfl := Except.ok.inj hperform
    exact hstop s.toIperfStream now
  | received | poll | summary => exact absurd ha Bool.false_ne_true

end LiveStream

namespace StreamPair

open LiveStream

variable {Recorder : Type} {tools : SeqTools Recorder}

/-- What holds of a pair whose sender has the given identifier. -/
structure Linked (identifier : UInt64) (s : StreamPair Recorder) : Prop where
  marked : s.sender.view.Marked
  handing : s.sender.Handing s.wire s.givenUp
  sized : s.sender.Sized
  header : s.sender.iperfData.header.magic = batsIperfMagicCode ∧
    s.sender.iperfData.header.streamIdentifier = identifier
  headers : ∀ block ∈ s.wire, 0 < block.length ∧ block.data.header.magic = batsIperfMagicCode ∧
    block.data.header.streamIdentifier = identifier
  handled_le : s.handled ≤ s.wire.length
  bytes : s.receiver.receivedBytes = ((s.wire.take s.handled).map fun block => UInt64.ofNat block.octets.length).sum
  fin : s.receiver.isFinReceived = true ↔ ∃ block ∈ s.wire.take s.handled, block.data.header.last = true
  identifier : s.receiver.streamIdentifier = if s.handled = 0 then 0 else identifier
  acks : ∀ block ∈ s.acks, block.data.header.last = true ∧ block.data.header.ack = true
  answered : s.acks ≠ [] → s.receiver.isFinReceived = true
  finAcked : s.sender.isFinAcked = true → s.acks ≠ []

/-- A block on the wire is a data block with the number of its place, or the FIN at the end. -/
theorem wire_block {wire : List WireBlock} {givenUp : Nat} (h : IsBlocks wire ∨ IsClosed wire givenUp) {k : Nat}
    {block : WireBlock} (hblock : wire[k]? = some block) :
    IsBlock block.data.header k ∨ k + 1 = wire.length ∧ IsFin block.data.header (k + givenUp) := by
  rcases h with h | ⟨blocks, fin, rfl, h, hfin⟩
  · exact .inl (h k block hblock)
  · rcases Nat.lt_or_ge k blocks.length with hk | hk
    · rw [List.getElem?_append_left hk] at hblock
      exact .inl (h k block hblock)
    · have hlt := (List.getElem?_eq_some_iff.mp hblock).1
      rw [List.length_append, List.length_singleton] at hlt
      obtain rfl : k = blocks.length := by omega
      rw [List.getElem?_concat_length] at hblock
      obtain rfl := Option.some.inj hblock
      exact .inr ⟨by rw [List.length_append, List.length_singleton], hfin⟩

theorem wire_ack {wire : List WireBlock} {givenUp : Nat} (h : IsBlocks wire ∨ IsClosed wire givenUp) :
    ∀ block ∈ wire, block.data.header.ack = false := by
  intro block hblock
  obtain ⟨k, hk⟩ := List.mem_iff_getElem?.mp hblock
  rcases wire_block h hk with hdata | ⟨_, hfin⟩
  · exact hdata.ack
  · exact hfin.ack

theorem admitsSender_isSending {s : StreamPair Recorder} {a : LiveStream.Action} (h : s.admitsSender a = true) :
    a.isSending = true := by
  cases a with
  | event => rfl
  | _ => exact h

/-- The receiver has handled a part of the wire that more blocks do not change. -/
theorem take_append {wire new : List WireBlock} {handled : Nat} (h : handled ≤ wire.length) :
    (wire ++ new).take handled = wire.take handled := List.take_append_of_le_length h

theorem linked_sender {identifier : UInt64} {s : StreamPair Recorder} {a : LiveStream.Action}
    {sender : LiveStream Recorder} (h : Linked identifier s) (ha : a.isSending = true)
    (hstep : (LiveStream.machine tools).step s.sender a = some sender) :
    Linked identifier { s with
      sender := sender
      wire := s.wire ++ handedOver s.sender sender
      givenUp := s.givenUp + (s.sender.givesUp a).toNat } := by
  have hheader := sending_header ha hstep
  have hsame := @take_append s.wire (handedOver s.sender sender) s.handled h.handled_le
  constructor
  · exact (step_view ha hstep).marked h.marked
  · exact step_handing ha h.marked.datagrams h.handing hstep
  · exact step_sized ha h.sized hstep
  · exact ⟨hheader.1.trans h.header.1, hheader.2.trans h.header.2⟩
  · intro block hblock
    rcases List.mem_append.mp hblock with hblock | hblock
    · exact h.headers block hblock
    · rw [handedOver_header block hblock]
      exact ⟨handedOver_pos ha h.sized hstep block hblock, hheader.1.trans h.header.1, hheader.2.trans h.header.2⟩
  · show s.handled ≤ (s.wire ++ handedOver s.sender sender).length
    rw [List.length_append]
    exact h.handled_le.trans (Nat.le_add_right _ _)
  · show _ = (((s.wire ++ handedOver s.sender sender).take s.handled).map _).sum
    rw [hsame]
    exact h.bytes
  · show _ ↔ ∃ block ∈ (s.wire ++ handedOver s.sender sender).take s.handled, _
    rw [hsame]
    exact h.fin
  · exact h.identifier
  · exact h.acks
  · exact h.answered
  · intro hacked
    exact h.finAcked ((sending_finAcked ha hstep).symm.trans hacked)

theorem linked_deliver {identifier : UInt64} {s : StreamPair Recorder} {reception : Reception} {block : WireBlock}
    {receiver : LiveStream Recorder} (h : Linked identifier s) (hblock : s.wire[s.handled]? = some block)
    (hstep : s.receiver.updateReceived tools (ofBlock reception block) = .ok receiver) :
    Linked identifier { s with
      receiver := receiver
      handled := s.handled + 1
      acks := s.acks ++ handedOver s.receiver receiver } := by
  have hmem : block ∈ s.wire := List.mem_of_getElem? hblock
  obtain ⟨hpos, _, hidentifier⟩ := h.headers block hmem
  have hack := wire_ack h.handing.place.wire_cases block hmem
  have hlt : s.handled < s.wire.length := (List.getElem?_eq_some_iff.mp hblock).1
  have htake : s.wire.take (s.handled + 1) = s.wire.take s.handled ++ [block] := by
    rw [List.take_add_one, hblock]
    rfl
  have hbytes {after : UInt64} (hafter : after = s.receiver.receivedBytes + .ofNat block.octets.length) :
      after = ((s.wire.take (s.handled + 1)).map fun block => UInt64.ofNat block.octets.length).sum := by
    rw [hafter, htake, List.map_append, List.sum_append, h.bytes, List.map_singleton, List.sum_singleton]
  have hlearned : s.receiver.identifierAfter block = if s.handled + 1 = 0 then 0 else identifier := by
    rw [identifierAfter, hidentifier, h.identifier, if_neg (Nat.succ_ne_zero _)]
    by_cases hfirst : s.handled = 0
    · rw [if_pos hfirst, if_pos rfl]
    · rw [if_neg hfirst]
      exact ite_self identifier
  cases hlast : block.data.header.last with
  | false =>
    have hheard := updateReceived_heard hpos (fun htrue => absurd (hlast.symm.trans htrue) Bool.false_ne_true) hstep
    have hsends : receiver.log.sends = s.receiver.log.sends := congrArg SendingPart.sends hheard.sendingPart
    refine ⟨h.marked, h.handing, h.sized, h.header, h.headers, hlt, hbytes hheard.bytes, ?_, ?_, ?_, ?_, ?_⟩
    · show receiver.isFinReceived = true ↔ ∃ other ∈ s.wire.take (s.handled + 1), other.data.header.last = true
      rw [hheard.isFinReceived, h.fin, htake]
      constructor
      · rintro ⟨other, hother, hfin⟩
        exact ⟨other, List.mem_append_left _ hother, hfin⟩
      · rintro ⟨other, hother, hfin⟩
        rcases List.mem_append.mp hother with hother | hother
        · exact ⟨other, hother, hfin⟩
        · obtain rfl := List.mem_singleton.mp hother
          exact absurd (hlast.symm.trans hfin) Bool.false_ne_true
    · exact hheard.identifier.trans hlearned
    · rw [handedOver_of_same hsends, List.append_nil]
      exact h.acks
    · rw [handedOver_of_same hsends, List.append_nil]
      exact fun hne => hheard.isFinReceived.trans (h.answered hne)
    · rw [handedOver_of_same hsends, List.append_nil]
      exact h.finAcked
  | true =>
    have hheard := updateReceived_fin hpos hlast hack hstep
    refine ⟨h.marked, h.handing, h.sized, h.header, h.headers, hlt, hbytes hheard.bytes, ?_, ?_, ?_, ?_, ?_⟩
    · refine iff_of_true hheard.isFinReceived ⟨block, ?_, hlast⟩
      show block ∈ s.wire.take (s.handled + 1)
      rw [htake]
      exact List.mem_append_right _ (List.mem_singleton.mpr rfl)
    · exact hheard.identifier.trans hlearned
    · intro other hother
      rcases List.mem_append.mp hother with hother | hother
      · exact h.acks other hother
      · rw [handedOver_header other hother]
        exact hheard.answer
    · exact fun _ => hheard.isFinReceived
    · intro hacked
      exact List.append_ne_nil_of_left_ne_nil (h.finAcked hacked) _

/-! ### The FIN-ACK -/

theorem view_congr {s t : LiveStream Recorder} (h : t.sendingPart = s.sendingPart) : t.view = s.view := by
  obtain ⟨_, hreport, hdata, hgroup, hthread, hpoint, _, _, _, _, hcounted, hintervals, hbounds, hbuilt⟩ :=
    SendingPart.mk.inj h
  have hphase : t.phase = s.phase := by rw [phase, phase, hthread, hpoint]
  rw [view, view, hreport, hdata, hgroup, hphase, hcounted, hintervals, hbounds, hbuilt]

theorem sized_congr {s t : LiveStream Recorder} (h : t.sendingPart = s.sendingPart) (hs : s.Sized) : t.Sized := by
  have hconn : t.connState = s.connState := congrArg SendingPart.connState h
  have hthread : t.sendingThread = s.sendingThread := congrArg SendingPart.sendingThread h
  have hpoint : t.point = s.point := congrArg SendingPart.point h
  refine hs.goOn (congrArg SendingPart.idealLength h) (fun hat => ?_) (hpoint ▸ hs.block)
  refine hat.imp (fun hconnected => ?_) hthread.symm.trans
  change (s.connState == .connConnected) = true
  rw [← hconn]
  exact hconnected

theorem finAck_cases {identifier : UInt64} {s : StreamPair Recorder} {reception : Reception} {block : WireBlock}
    {sender : LiveStream Recorder} (h : Linked identifier s) (hblock : s.acks[s.acked]? = some block)
    (hstep : s.sender.updateReceived tools (ofBlock reception block) = .ok sender) :
    sender = s.sender ∨ block.data.header.last = true ∧ HeardBlock s.sender sender block := by
  obtain ⟨hlast, hack⟩ := h.acks block (List.mem_of_getElem? hblock)
  by_cases hpos : 0 < block.length
  · exact .inr ⟨hlast, updateReceived_heard hpos (fun _ => hack) hstep⟩
  · have hempty : (ofBlock reception block).data = [] := by
      rw [← List.length_eq_zero_iff]
      show block.octets.length = 0
      rw [WireBlock.octets, length_packet_eq]
      omega
    rw [updateReceived, if_pos hempty] at hstep
    exact .inl (Except.ok.inj hstep).symm

theorem finAck_sendingPart {identifier : UInt64} {s : StreamPair Recorder} {reception : Reception} {block : WireBlock}
    {sender : LiveStream Recorder} (h : Linked identifier s) (hblock : s.acks[s.acked]? = some block)
    (hstep : s.sender.updateReceived tools (ofBlock reception block) = .ok sender) :
    sender.sendingPart = s.sender.sendingPart := by
  rcases finAck_cases h hblock hstep with rfl | ⟨_, hheard⟩
  · rfl
  · exact hheard.sendingPart

theorem linked_deliverAck {identifier : UInt64} {s : StreamPair Recorder} {reception : Reception} {block : WireBlock}
    {sender : LiveStream Recorder} (h : Linked identifier s) (hblock : s.acks[s.acked]? = some block)
    (hstep : s.sender.updateReceived tools (ofBlock reception block) = .ok sender) :
    Linked identifier { s with sender := sender, acked := s.acked + 1 } := by
  rcases finAck_cases h hblock hstep with rfl | ⟨hlast, hheard⟩
  · exact ⟨h.marked, h.handing, h.sized, h.header, h.headers, h.handled_le, h.bytes, h.fin, h.identifier, h.acks,
      h.answered, h.finAcked⟩
  · have hpart := hheard.sendingPart
    have hdata : sender.iperfData = s.sender.iperfData := congrArg SendingPart.iperfData hpart
    have hstate : sender.state = .streamDone := by
      rw [hheard.state, if_pos hlast]
    have haside : Aside s.sender sender := by
      refine ⟨hdata, congrArg SendingPart.counted hpart, congrArg SendingPart.sends hpart,
        congrArg SendingPart.sendingThread hpart, congrArg SendingPart.point hpart, fun _ => .inl ?_, fun hfailed => ?_⟩
      · rw [hstate]
        exact StreamState.noConfusion
      · exact (congrArg SendingPart.hasErrInSend hpart).trans hfailed
    refine ⟨?_, haside.handing h.handing, sized_congr hpart h.sized, ?_, h.headers, h.handled_le, h.bytes, h.fin,
      h.identifier, h.acks, h.answered, fun _ => List.ne_nil_of_mem (List.mem_of_getElem? hblock)⟩
    · show sender.view.Marked
      rw [view_congr hpart]
      exact h.marked
    · show sender.iperfData.header.magic = _ ∧ sender.iperfData.header.streamIdentifier = _
      rw [hdata]
      exact h.header

theorem linked_receiver {identifier : UInt64} {s : StreamPair Recorder} {a : LiveStream.Action}
    {receiver : LiveStream Recorder} (h : Linked identifier s) (ha : admitsReceiver a = true)
    (hstep : (LiveStream.machine tools).step s.receiver a = some receiver) :
    Linked identifier { s with receiver := receiver } := by
  have hsame := receiver_same ha hstep
  refine ⟨h.marked, h.handing, h.sized, h.header, h.headers, h.handled_le, hsame.bytes.trans h.bytes, ?_,
    hsame.streamIdentifier.trans h.identifier, h.acks, ?_, h.finAcked⟩
  · show receiver.isFinReceived = true ↔ _
    rw [hsame.isFinReceived]
    exact h.fin
  · exact fun hne => hsame.isFinReceived.trans (h.answered hne)

theorem step_linked {identifier : UInt64} {s t : StreamPair Recorder} {a : Action} (h : Linked identifier s)
    (hstep : (machine tools).step s a = some t) : Linked identifier t := by
  cases step_moved hstep with
  | sender hadmits hsent => exact linked_sender h (admitsSender_isSending hadmits) hsent
  | deliver hblock hreceived => exact linked_deliver h hblock hreceived
  | receiver hadmits hown => exact linked_receiver h hadmits hown
  | deliverAck hblock hreceived => exact linked_deliverAck h hblock hreceived

variable {config serverConfig : TestConfig} {streamId serverStreamId : Nat} {now : UInt64} {length : Int}
  {accepted : IperfStream} {recorder serverRecorder : Recorder} {acts : List Action} {s : StreamPair Recorder}

theorem linked_start (haccepted : IperfStream.accepted serverConfig serverStreamId length = .ok accepted) :
    Linked (now + .ofNat streamId) (start config streamId now recorder accepted serverRecorder) := by
  have hstream := IperfStream.switchDataBlockLength_eq haccepted
  refine ⟨marked_connecting config streamId now recorder, handing_connecting config streamId now recorder, ?_, ⟨rfl, rfl⟩,
    fun block hblock => absurd hblock List.not_mem_nil, Nat.le_refl 0, ?_, ?_, ?_,
    fun block hblock => absurd hblock List.not_mem_nil, fun hne => absurd rfl hne, fun hacked => ?_⟩
  · refine ⟨fun hat => ?_, fun length hpoint => ?_⟩
    · rcases hat with hat | hat
      · exact absurd hat Bool.false_ne_true
      · cases hat
    · rcases hpoint with hpoint | hpoint <;> cases hpoint
  · rw [hstream]
    rfl
  · rw [hstream]
    exact iff_of_false Bool.false_ne_true fun ⟨block, hblock, _⟩ => absurd hblock (by simp [start])
  · rw [hstream]
    rfl
  · exact absurd hacked Bool.false_ne_true

theorem run_linked (haccepted : IperfStream.accepted serverConfig serverStreamId length = .ok accepted)
    (hrun : (machine tools).run (start config streamId now recorder accepted serverRecorder) acts = some s) :
    Linked (now + .ofNat streamId) s :=
  Machine.run_preserves (fun _ _ _ => step_linked) (linked_start haccepted) hrun

/-! ### The results -/

theorem all_of_fin {wire : List WireBlock} {givenUp handled : Nat} (h : IsBlocks wire ∨ IsClosed wire givenUp)
    (hle : handled ≤ wire.length) (hfin : ∃ block ∈ wire.take handled, block.data.header.last = true) :
    handled = wire.length := by
  obtain ⟨block, hblock, hlast⟩ := hfin
  obtain ⟨k, hk⟩ := List.mem_iff_getElem?.mp hblock
  have hbefore : k < handled := (List.getElem?_eq_some_iff.mp hk).1.trans_le (List.length_take_le _ _)
  rw [List.getElem?_take_of_lt hbefore] at hk
  rcases wire_block h hk with hdata | ⟨hend, _⟩
  · exact absurd (hdata.last.symm.trans hlast) Bool.false_ne_true
  · omega

/-- In every interleaving of the two ends of a connection: once the sender has the FIN-ACK, the receiver has handled every block that was handed over, and what it has counted is the sum of their lengths. -/
theorem finAcked_received (haccepted : IperfStream.accepted serverConfig serverStreamId length = .ok accepted)
    (hrun : (machine tools).run (start config streamId now recorder accepted serverRecorder) acts = some s)
    (hacked : s.sender.isFinAcked = true) : s.handled = s.wire.length ∧ s.receiver.isFinReceived = true ∧
      s.receiver.receivedBytes = (s.sender.log.sends.map sentBytes).sum := by
  have hlinked := run_linked haccepted hrun
  have hfin := hlinked.answered (hlinked.finAcked hacked)
  have hall := all_of_fin hlinked.handing.place.wire_cases hlinked.handled_le (hlinked.fin.mp hfin)
  refine ⟨hall, hfin, ?_⟩
  rw [hlinked.bytes, hall, List.take_length, hlinked.handing.sends, List.map_map]
  congr 1
  apply List.map_congr_left
  intro block hblock
  have hpos := (hlinked.headers block hblock).1
  show UInt64.ofNat block.octets.length = .ofNat (Narrowing.unsigned 64 block.length)
  rw [WireBlock.octets, length_packet_eq, ← UInt64.toNat_inj, UInt64.toNat_ofNat', UInt64.toNat_ofNat', Narrowing.unsigned]
  omega

/-- A sender over BRTP and the receiver of its connection, after some steps. -/
def pairRun (acts : List Action) : Option (StreamPair (List UInt64)) := do
  let accepted ← (IperfStream.accepted { role := .roleReceiver, protocol := 1 } 1 72).toOption
  (machine SeqTools.ofLists).run (start { role := .roleSender, protocol := 1 } 1 5 [] accepted []) acts

theorem pairRun_eq_some {acts : List Action} {s : StreamPair (List UInt64)} (h : pairRun acts = some s) :
    ∃ accepted, IperfStream.accepted { role := .roleReceiver, protocol := 1 } 1 72 = .ok accepted ∧
      (machine SeqTools.ofLists).run (start { role := .roleSender, protocol := 1 } 1 5 [] accepted []) acts = some s := by
  unfold pairRun at h
  obtain ⟨accepted, haccepted, hrun⟩ := Option.bind_eq_some_iff.mp h
  exact ⟨accepted, Fault.toOption_eq_some.mp haccepted, hrun⟩

def untilFirstBlock : List LiveStream.Action :=
  [.event (.established 72), .event .writable, .startSend 0] ++ List.replicate 5 acceptedStep

/-- A block and the FIN are handed over and handled, and the FIN-ACK comes back. -/
def untilFinAck : List Action :=
  (untilFirstBlock ++ List.replicate 3 acceptedStep ++ .finishReport 0 :: List.replicate 5 acceptedStep).map .sender
    ++ [.deliver (received []), .deliver (received []), .deliverAck (received [])]

theorem finAcked_received_block :
    ∃ s, pairRun untilFinAck = some s ∧ s.sender.log.sends = [72, 72] ∧ s.handled = s.wire.length ∧
      s.receiver.isFinReceived = true ∧ s.receiver.receivedBytes = 144 := by
  have hfound : (pairRun untilFinAck).map (fun s => (s.sender.isFinAcked, s.sender.log.sends))
      = some (true, [72, 72]) := by
    decide +kernel
  obtain ⟨s, hs, hfound⟩ := Option.map_eq_some_iff.mp hfound
  obtain ⟨hacked, hsends⟩ := Prod.mk.inj hfound
  obtain ⟨accepted, haccepted, hrun⟩ := pairRun_eq_some hs
  obtain ⟨hhandled, hfin, hbytes⟩ := finAcked_received haccepted hrun hacked
  rw [hsends] at hbytes
  exact ⟨s, hs, hsends, hhandled, hfin, hbytes.trans (by decide)⟩

/-- In every interleaving the number of a data block is its place on the wire, and only the FIN, behind which there is none, has a number that is one higher where the thread has given up a block. It gives up one at most. -/
theorem wire_numbered (haccepted : IperfStream.accepted serverConfig serverStreamId length = .ok accepted)
    (hrun : (machine tools).run (start config streamId now recorder accepted serverRecorder) acts = some s) :
    s.givenUp ≤ 1 ∧ ∀ (k : Nat) (block : WireBlock), s.wire[k]? = some block →
      if block.data.header.last then k + 1 = s.wire.length ∧ block.data.header.seq = .ofNat (k + s.givenUp)
      else block.data.header.seq = .ofNat k := by
  have hlinked := run_linked haccepted hrun
  refine ⟨hlinked.handing.givenUp_le, fun k block hblock => ?_⟩
  rcases wire_block hlinked.handing.place.wire_cases hblock with hdata | ⟨hend, hfin⟩
  · rw [if_neg (by rw [hdata.last]; exact Bool.false_ne_true)]
    exact hdata.seq
  · rw [if_pos hfin.last]
    exact ⟨hend, hfin.seq⟩

/-- The only send of a block is refused, the time is up, and the thread goes on to the FIN. -/
def untilLoneFin : List Action :=
  (untilFirstBlock ++ refusedStep :: .finishReport 0 :: List.replicate 4 refusedStep
    ++ List.replicate 2 acceptedStep).map .sender

theorem wire_numbered_fin :
    ∃ s fin, pairRun untilLoneFin = some s ∧ s.wire[0]? = some fin ∧ s.wire.length = 1 ∧ s.givenUp = 1 ∧
      fin.data.header.seq = 1 := by
  have hfound : (pairRun untilLoneFin).map (fun s => (s.wire.map fun block => block.data.header.last, s.givenUp))
      = some ([true], 1) := by
    decide +kernel
  obtain ⟨s, hs, hfound⟩ := Option.map_eq_some_iff.mp hfound
  obtain ⟨hlasts, hgiven⟩ := Prod.mk.inj hfound
  obtain ⟨accepted, haccepted, hrun⟩ := pairRun_eq_some hs
  obtain ⟨fin, hwire, hlast⟩ := List.map_eq_singleton_iff.mp hlasts
  have hfin : s.wire[0]? = some fin := by
    rw [hwire]
    rfl
  have hnumber := (wire_numbered haccepted hrun).2 0 fin hfin
  rw [if_pos hlast, hgiven] at hnumber
  exact ⟨s, fin, hs, hfin, hnumber.1.symm, hgiven, hnumber.2⟩

end StreamPair

end BatsIperf
