import BatsIperf.Stream.SendCount

/-!
# What the sending thread hands over

The blocks that `SendData` accepts, in the order in which it accepts them. Their numbers come from the counter of datagrams, which also counts a block that the thread gives up when it leaves the retry loop. `Place` says for each place of the thread how far the counter is from the number of blocks.
-/

namespace BatsIperf

/-- A block as it was handed over: the buffer at that time and the length. -/
structure WireBlock where
  data : IperfData
  length : Int

def WireBlock.octets (block : WireBlock) : Octets := block.data.packet block.length.toNat

/-! ### The wire -/

structure IsBlock (header : IperfTestHeader) (number : Nat) : Prop where
  last : header.last = false
  ack : header.ack = false
  seq : header.seq = .ofNat number

structure IsFin (header : IperfTestHeader) (number : Nat) : Prop where
  last : header.last = true
  ack : header.ack = false
  seq : header.seq = .ofNat number

def IsBlocks (wire : List WireBlock) : Prop :=
  ∀ k block, wire[k]? = some block → IsBlock block.data.header k

/-- Data blocks and the FIN behind them. A block that was given up has taken a number. -/
def IsClosed (wire : List WireBlock) (givenUp : Nat) : Prop :=
  ∃ blocks fin, wire = blocks ++ [fin] ∧ IsBlocks blocks ∧ IsFin fin.data.header (blocks.length + givenUp)

theorem isBlocks_nil : IsBlocks [] := by
  intro k block hblock
  exact absurd hblock (by simp)

theorem IsBlocks.append {wire : List WireBlock} (h : IsBlocks wire) {block : WireBlock}
    (hblock : IsBlock block.data.header wire.length) : IsBlocks (wire ++ [block]) := by
  intro k other hother
  rcases Nat.lt_or_ge k wire.length with hk | hk
  · rw [List.getElem?_append_left hk] at hother
    exact h k other hother
  · rw [List.getElem?_append_right hk] at hother
    have hk : k = wire.length := by
      have hlt := (List.getElem?_eq_some_iff.mp hother).1
      rw [List.length_singleton] at hlt
      omega
    subst hk
    rw [Nat.sub_self, List.getElem?_cons_zero] at hother
    obtain rfl := Option.some.inj hother
    exact hblock

/-- What holds at a place of the thread. A thread that has given up a block is on its way out, for which `leaving` holds where it checks the state and `failed` where it checks for an error. -/
def Place (header : IperfTestHeader) (counted : Nat) (leaving failed : Prop) (wire : List WireBlock) (givenUp : Nat) :
    SendingThread → SendPoint → Prop
  | .notStarted, _ | .starting, _ => wire = [] ∧ counted = 0 ∧ givenUp = 0
  | .sending, .check => IsBlocks wire ∧ counted = wire.length + givenUp ∧ (0 < givenUp → leaving)
  | .sending, .errorCheck => IsBlocks wire ∧ counted = wire.length + givenUp ∧ (0 < givenUp → failed)
  | .sending, .waitWritable | .sending, .build => IsBlocks wire ∧ counted = wire.length ∧ givenUp = 0
  | .sending, .send _ | .sending, .retry _ =>
    IsBlocks wire ∧ counted = wire.length ∧ givenUp = 0 ∧ IsBlock header wire.length
  | .sending, .countBytes _ | .sending, .countDatagrams =>
    IsBlocks wire ∧ counted + 1 = wire.length + givenUp ∧ (0 < givenUp → leaving)
  | .sending, .fin => IsBlocks wire ∧ counted = wire.length + givenUp
  | .sending, .finSend | .sending, .finRetry => IsBlocks wire ∧ IsFin header (wire.length + givenUp)
  | .sending, .finCountBytes | .sending, .finCountDatagrams => IsClosed wire givenUp
  | .ended, _ => IsBlocks wire ∨ IsClosed wire givenUp

namespace Place

variable {header : IperfTestHeader} {counted : Nat} {leaving failed : Prop} {wire : List WireBlock} {givenUp : Nat}
  {thread : SendingThread} {point : SendPoint}

theorem wire_cases (h : Place header counted leaving failed wire givenUp thread point) :
    IsBlocks wire ∨ IsClosed wire givenUp := by
  cases thread with
  | notStarted | starting =>
    left
    rw [h.1]
    exact isBlocks_nil
  | sending =>
    cases point with
    | finCountBytes | finCountDatagrams => exact .inr h
    | _ => exact .inl h.1
  | ended => exact h

theorem imp {leaving' failed' : Prop} (h : Place header counted leaving failed wire givenUp thread point)
    (hleaving : leaving → leaving') (hfailed : failed → failed') :
    Place header counted leaving' failed' wire givenUp thread point := by
  cases thread with
  | notStarted | starting | ended => exact h
  | sending =>
    cases point with
    | check | countBytes | countDatagrams => exact ⟨h.1, h.2.1, fun hpos => hleaving (h.2.2 hpos)⟩
    | errorCheck => exact ⟨h.1, h.2.1, fun hpos => hfailed (h.2.2 hpos)⟩
    | _ => exact h

end Place

namespace LiveStream

variable {Recorder : Type} {tools : SeqTools Recorder} {wire : List WireBlock} {givenUp : Nat}

/-- The blocks of the sends that a step has logged. -/
def handedOver (s t : LiveStream Recorder) : List WireBlock :=
  (t.log.sends.drop s.log.sends.length).map fun length => { data := t.iperfData, length := length }

theorem handedOver_of_same {s t : LiveStream Recorder} (h : t.log.sends = s.log.sends) : handedOver s t = [] := by
  rw [handedOver, h, List.drop_length, List.map_nil]

theorem handedOver_of_sent {s t : LiveStream Recorder} {length : Int} (h : t.log.sends = s.log.sends ++ [length]) :
    handedOver s t = [{ data := t.iperfData, length := length }] := by
  rw [handedOver, h, List.drop_left, List.map_singleton]

/-- Whether the next step of the thread leaves the retry loop of a block without a send that was accepted. -/
def givesUp (s : LiveStream Recorder) : Action → Bool
  | .thread _ => s.sendingThread == .sending && isRetrying s.point && (s.state != .streamStart || s.hasErrInSend)
  | _ => false

/-- The data loop and the retry loop of a block are left in this state. -/
def IsLeaving (s : LiveStream Recorder) : Prop := s.state ≠ .streamStart ∨ s.hasErrInSend = true

/-- The blocks on the wire are those whose sends were accepted, and the place of the thread fits them. -/
structure Handing (s : LiveStream Recorder) (wire : List WireBlock) (givenUp : Nat) : Prop where
  sends : s.log.sends = wire.map WireBlock.length
  givenUp_le : givenUp ≤ 1
  place : Place s.iperfData.header s.log.counted s.IsLeaving (s.hasErrInSend = true) wire givenUp s.sendingThread s.point

/-! ### Next to the thread -/

/-- What the events of the connection and the calls of the test leave of a sending stream. -/
structure Aside (s t : LiveStream Recorder) : Prop where
  iperfData : t.iperfData = s.iperfData
  counted : t.log.counted = s.log.counted
  sends : t.log.sends = s.log.sends
  sendingThread : t.sendingThread = s.sendingThread
  point : t.point = s.point
  leaving : s.IsLeaving → t.IsLeaving
  failed : s.hasErrInSend = true → t.hasErrInSend = true

theorem Aside.handing {s t : LiveStream Recorder} (haside : Aside s t) (h : Handing s wire givenUp) :
    Handing t wire givenUp where
  sends := haside.sends.trans h.sends
  givenUp_le := h.givenUp_le
  place := by
    rw [haside.iperfData, haside.counted, haside.sendingThread, haside.point]
    exact h.place.imp haside.leaving haside.failed

theorem onEvent_aside {s t : LiveStream Recorder} {event : ConnEvent} (h : s.onEvent event = .ok t) : Aside s t := by
  obtain ⟨stream, hstream, h⟩ := Fault.bind_eq_ok.mp h
  obtain rfl := Fault.pure_eq_ok.mp h
  cases IperfStream.connectionCallback_move hstream with
  | sendDataError => exact ⟨rfl, rfl, rfl, rfl, rfl, fun _ => .inr rfl, fun _ => rfl⟩
  | _ => exact ⟨rfl, rfl, rfl, rfl, rfl, id, id⟩

theorem snapshotReport_aside (s : LiveStream Recorder) (now : UInt64) : Aside s (s.snapshotReport now) := by
  unfold snapshotReport IperfStream.snapshotReport
  dsimp only
  split <;> split <;> exact ⟨rfl, rfl, rfl, rfl, rfl, id, id⟩

theorem finishReport_leaving (stream : IperfStream) (now : UInt64) :
    (stream.state ≠ .streamStart → (stream.finishReport now).state ≠ .streamStart) ∧
      (stream.finishReport now).hasErrInSend = stream.hasErrInSend := by
  unfold IperfStream.finishReport
  split
  · split
    · exact ⟨id, rfl⟩
    · exact ⟨fun _ => StreamState.noConfusion, rfl⟩
  · exact ⟨fun _ => StreamState.noConfusion, rfl⟩
  · exact ⟨id, rfl⟩

theorem finishReport_aside (s : LiveStream Recorder) (now : UInt64) : Aside s (s.finishReport now) := by
  obtain ⟨hstate, herror⟩ := finishReport_leaving s.toIperfStream now
  refine ⟨rfl, rfl, rfl, (s.toIperfStream.finishReport_same now).sendingThread, rfl, ?_, ?_⟩
  · exact Or.imp hstate herror.trans
  · exact herror.trans

theorem stop_leaving (stream : IperfStream) (now : UInt64) :
    (stream.state ≠ .streamStart → (stream.stop now).state ≠ .streamStart) ∧
      (stream.stop now).hasErrInSend = stream.hasErrInSend := by
  unfold IperfStream.stop
  split
  · exact ⟨id, rfl⟩
  · dsimp only
    refine ⟨fun _ => StreamState.noConfusion, ?_⟩
    split
    · exact (finishReport_leaving _ now).2
    · rfl

theorem stop_aside (s : LiveStream Recorder) (now : UInt64) : Aside s (s.stop now) := by
  obtain ⟨hstate, herror⟩ := stop_leaving s.toIperfStream now
  refine ⟨rfl, rfl, rfl, (stop_sender s.toIperfStream now).2.2.2, rfl, ?_, ?_⟩
  · exact Or.imp hstate herror.trans
  · exact herror.trans

/-! ### The steps of the thread -/

theorem handing_goOn {s t : LiveStream Recorder} (h : Handing s wire givenUp) (hsends : t.log.sends = s.log.sends)
    (hplace : Place t.iperfData.header t.log.counted t.IsLeaving (t.hasErrInSend = true) wire givenUp t.sendingThread
      t.point) : Handing t (wire ++ handedOver s t) givenUp := by
  rw [handedOver_of_same hsends, List.append_nil]
  exact ⟨hsends.trans h.sends, h.givenUp_le, hplace⟩

theorem handing_send {s t : LiveStream Recorder} {length : Int} {sendOk : Bool} {sent unsent : SendPoint}
    (h : Handing s wire givenUp)
    (hsent : Place s.iperfData.header s.log.counted s.IsLeaving (s.hasErrInSend = true)
      (wire ++ [{ data := s.iperfData, length := length }]) givenUp s.sendingThread sent)
    (hunsent : Place s.iperfData.header s.log.counted s.IsLeaving (s.hasErrInSend = true) wire givenUp s.sendingThread
      unsent) (hstep : s.sendData length sendOk sent unsent = .ok t) : Handing t (wire ++ handedOver s t) givenUp := by
  obtain ⟨_, rfl⟩ := sendData_eq hstep
  cases sendOk with
  | false => exact handing_goOn h rfl hunsent
  | true =>
    have hover : handedOver s { s with point := sent, log := { s.log with sends := s.log.sends ++ [length] } }
        = [{ data := s.iperfData, length := length }] := handedOver_of_sent rfl
    rw [if_pos rfl, hover]
    refine ⟨?_, h.givenUp_le, hsent⟩
    show s.log.sends ++ [length] = _
    rw [h.sends, List.map_append, List.map_singleton]

theorem buildHeader_isBlock (s : LiveStream Recorder) (time : UInt64) :
    IsBlock (s.buildHeader time).iperfData.header s.log.counted ↔
      s.report.senderReport.summary.datagrams = .ofNat s.log.counted := by
  unfold buildHeader
  dsimp only
  split
  · exact ⟨IsBlock.seq, fun h => ⟨rfl, rfl, h⟩⟩
  · exact ⟨IsBlock.seq, fun h => ⟨rfl, rfl, h⟩⟩

/-! ### The places of the loop -/

section

variable {s t : LiveStream Recorder} {input : ThreadInput}

theorem Handing.place_at {point : SendPoint} (h : Handing s wire givenUp) (hthread : s.sendingThread = .sending)
    (hpoint : s.point = point) :
    Place s.iperfData.header s.log.counted s.IsLeaving (s.hasErrInSend = true) wire givenUp .sending point := by
  have hplace := h.place
  rwa [hthread, hpoint] at hplace

theorem handing_check (hthread : s.sendingThread = .sending) (hpoint : s.point = .check) (h : Handing s wire givenUp)
    (hstep : s.loopStep input = .ok t) : Handing t (wire ++ handedOver s t) givenUp := by
  obtain ⟨hblocks, hcounted, hleaving⟩ := h.place_at hthread hpoint
  unfold loopStep at hstep
  rw [hpoint] at hstep
  obtain rfl := Except.ok.inj hstep
  split
  · rename_i hgoes
    refine handing_goOn h rfl ?_
    rw [hthread]
    exact ⟨hblocks, hcounted, fun hpos => (hleaving hpos).resolve_left (not_not_intro hgoes.2)⟩
  · refine handing_goOn h rfl ?_
    rw [hthread]
    exact ⟨hblocks, hcounted⟩

theorem handing_errorCheck (hthread : s.sendingThread = .sending) (hpoint : s.point = .errorCheck)
    (h : Handing s wire givenUp) (hstep : s.loopStep input = .ok t) : Handing t (wire ++ handedOver s t) givenUp := by
  obtain ⟨hblocks, hcounted, hfailed⟩ := h.place_at hthread hpoint
  unfold loopStep at hstep
  rw [hpoint] at hstep
  obtain rfl := Except.ok.inj hstep
  split
  · refine handing_goOn h rfl ?_
    rw [hthread]
    exact ⟨hblocks, hcounted⟩
  · rename_i hfine
    have hnone : givenUp = 0 := Nat.eq_zero_of_not_pos fun hpos => hfine (hfailed hpos)
    refine handing_goOn h rfl ?_
    rw [hthread]
    exact ⟨hblocks, by rw [hcounted, hnone, Nat.add_zero], hnone⟩

theorem handing_waitWritable (hthread : s.sendingThread = .sending) (hpoint : s.point = .waitWritable)
    (h : Handing s wire givenUp) (hstep : s.loopStep input = .ok t) : Handing t (wire ++ handedOver s t) givenUp := by
  obtain ⟨hblocks, hcounted, hnone⟩ := h.place_at hthread hpoint
  unfold loopStep at hstep
  rw [hpoint] at hstep
  obtain rfl := Except.ok.inj hstep
  split
  · exact handing_goOn h rfl h.place
  split
  · refine handing_goOn h rfl ?_
    rw [hthread]
    exact ⟨hblocks, by rw [hcounted, hnone, Nat.add_zero], fun hpos => by omega⟩
  · refine handing_goOn h rfl ?_
    rw [hthread]
    exact ⟨hblocks, hcounted, hnone⟩

theorem handing_build (hthread : s.sendingThread = .sending) (hpoint : s.point = .build)
    (hdatagrams : s.report.senderReport.summary.datagrams = .ofNat s.log.counted) (h : Handing s wire givenUp)
    (hstep : s.loopStep input = .ok t) : Handing t (wire ++ handedOver s t) givenUp := by
  obtain ⟨hblocks, hcounted, hnone⟩ := h.place_at hthread hpoint
  unfold loopStep at hstep
  rw [hpoint] at hstep
  obtain rfl := Except.ok.inj hstep
  refine handing_goOn h rfl ?_
  have hheader := (s.buildHeader_isBlock input.time).mpr hdatagrams
  have hsending : (s.build input.time).sendingThread = .sending :=
    (congrArg IperfStream.sendingThread (s.buildHeader_stream input.time)).trans hthread
  rw [hsending]
  exact ⟨hblocks, hcounted, hnone, hcounted ▸ hheader⟩

theorem handing_sendBlock {length : Int} (hthread : s.sendingThread = .sending)
    (hpoint : s.point = .send length ∨ s.point = .retry length) (h : Handing s wire givenUp)
    (hsend : s.sendData length input.sendOk (.countBytes length) (.retry length) = .ok t) :
    Handing t (wire ++ handedOver s t) givenUp := by
  obtain ⟨hblocks, hcounted, hnone, hheader⟩ : IsBlocks wire ∧ s.log.counted = wire.length ∧ givenUp = 0 ∧
      IsBlock s.iperfData.header wire.length := by
    rcases hpoint with hpoint | hpoint <;> exact h.place_at hthread hpoint
  refine handing_send h ?_ ?_ hsend
  · rw [hthread]
    refine ⟨hblocks.append hheader, ?_, fun hpos => absurd hpos hnone.not_gt⟩
    rw [hcounted, hnone, List.length_append]
    rfl
  · rw [hthread]
    exact ⟨hblocks, hcounted, hnone, hheader⟩

theorem handing_retry {length : Int} (hthread : s.sendingThread = .sending) (hpoint : s.point = .retry length)
    (h : Handing s wire givenUp) (hstep : s.loopStep input = .ok t) :
    Handing t (wire ++ handedOver s t) (givenUp + (s.givesUp (.thread input)).toNat) := by
  obtain ⟨hblocks, hcounted, hnone, _⟩ := h.place_at hthread hpoint
  unfold loopStep at hstep
  rw [hpoint] at hstep
  dsimp only at hstep
  split at hstep
  · rename_i hleft
    obtain rfl := Except.ok.inj hstep
    have hyes : s.givesUp (.thread input) = true := by
      simpa [givesUp, hthread, hpoint, isRetrying] using hleft
    have hover : handedOver s { s with point := .countBytes length } = [] := handedOver_of_same rfl
    rw [hyes, hnone, hover, List.append_nil]
    refine ⟨h.sends, Nat.le_refl 1, ?_⟩
    show Place _ _ _ _ _ _ s.sendingThread (.countBytes length)
    rw [hthread]
    exact ⟨hblocks, by rw [← hcounted]; rfl, fun _ => hleft⟩
  rename_i hstays
  have hstay : s.givesUp (.thread input) = false := by
    simpa [givesUp, hthread, hpoint, isRetrying] using hstays
  rw [hstay]
  split at hstep
  · exact handing_sendBlock hthread (.inr hpoint) h hstep
  · obtain rfl := Except.ok.inj hstep
    exact handing_goOn h rfl h.place

theorem handing_fin (hthread : s.sendingThread = .sending) (hpoint : s.point = .fin)
    (hdatagrams : s.report.senderReport.summary.datagrams = .ofNat s.log.counted) (h : Handing s wire givenUp)
    (hstep : s.loopStep input = .ok t) : Handing t (wire ++ handedOver s t) givenUp := by
  obtain ⟨hblocks, hcounted⟩ := h.place_at hthread hpoint
  unfold loopStep at hstep
  rw [hpoint] at hstep
  obtain rfl := Except.ok.inj hstep
  split
  · refine handing_goOn h rfl ?_
    show Place _ _ _ _ _ _ s.sendingThread .finSend
    rw [hthread]
    exact ⟨hblocks, rfl, rfl, hcounted ▸ hdatagrams⟩
  · exact handing_goOn h rfl (.inl hblocks)

theorem handing_sendFin (hthread : s.sendingThread = .sending) (hpoint : s.point = .finSend ∨ s.point = .finRetry)
    (h : Handing s wire givenUp)
    (hsend : s.sendData s.idealLength input.sendOk .finCountBytes .finRetry = .ok t) :
    Handing t (wire ++ handedOver s t) givenUp := by
  obtain ⟨hblocks, hfin⟩ : IsBlocks wire ∧ IsFin s.iperfData.header (wire.length + givenUp) := by
    rcases hpoint with hpoint | hpoint <;> exact h.place_at hthread hpoint
  refine handing_send h ?_ ?_ hsend
  · rw [hthread]
    exact ⟨wire, _, rfl, hblocks, hfin⟩
  · rw [hthread]
    exact ⟨hblocks, hfin⟩

theorem handing_finRetry (hthread : s.sendingThread = .sending) (hpoint : s.point = .finRetry)
    (h : Handing s wire givenUp) (hstep : s.loopStep input = .ok t) : Handing t (wire ++ handedOver s t) givenUp := by
  unfold loopStep at hstep
  rw [hpoint] at hstep
  dsimp only at hstep
  split at hstep
  · obtain rfl := Except.ok.inj hstep
    exact handing_goOn h rfl (.inl (h.place_at hthread hpoint).1)
  split at hstep
  · exact handing_sendFin hthread (.inr hpoint) h hstep
  · obtain rfl := Except.ok.inj hstep
    exact handing_goOn h rfl h.place

theorem givesUp_of_not_retrying (hpoint : isRetrying s.point = false) : s.givesUp (.thread input) = false := by
  simp [givesUp, hpoint]

theorem loopStep_handing (hthread : s.sendingThread = .sending)
    (hdatagrams : s.report.senderReport.summary.datagrams = .ofNat s.log.counted) (h : Handing s wire givenUp)
    (hstep : s.loopStep input = .ok t) :
    Handing t (wire ++ handedOver s t) (givenUp + (s.givesUp (.thread input)).toNat) := by
  by_cases hretrying : isRetrying s.point = true
  · obtain ⟨length, hpoint⟩ : ∃ length, s.point = .retry length := by
      cases hpoint : s.point <;> rw [hpoint] at hretrying <;> first | exact ⟨_, rfl⟩ | cases hretrying
    exact handing_retry hthread hpoint h hstep
  rw [givesUp_of_not_retrying (Bool.not_eq_true _ ▸ hretrying)]
  cases hpoint : s.point with
  | check => exact handing_check hthread hpoint h hstep
  | errorCheck => exact handing_errorCheck hthread hpoint h hstep
  | waitWritable => exact handing_waitWritable hthread hpoint h hstep
  | build => exact handing_build hthread hpoint hdatagrams h hstep
  | retry length =>
    rw [hpoint] at hretrying
    exact absurd rfl hretrying
  | fin => exact handing_fin hthread hpoint hdatagrams h hstep
  | finRetry => exact handing_finRetry hthread hpoint h hstep
  | send length =>
    unfold loopStep at hstep
    rw [hpoint] at hstep
    exact handing_sendBlock hthread (.inl hpoint) h hstep
  | finSend =>
    unfold loopStep at hstep
    rw [hpoint] at hstep
    exact handing_sendFin hthread (.inl hpoint) h hstep
  | countBytes length =>
    have hplace := h.place_at hthread hpoint
    unfold loopStep at hstep
    rw [hpoint] at hstep
    obtain rfl := Except.ok.inj hstep
    refine handing_goOn h rfl ?_
    show Place _ _ _ _ _ _ s.sendingThread .countDatagrams
    rw [hthread]
    exact hplace
  | countDatagrams =>
    have hplace := h.place_at hthread hpoint
    unfold loopStep at hstep
    rw [hpoint] at hstep
    obtain rfl := Except.ok.inj hstep
    refine handing_goOn h rfl ?_
    show Place _ _ _ _ _ _ s.sendingThread .check
    rw [hthread]
    exact hplace
  | finCountBytes =>
    have hplace := h.place_at hthread hpoint
    unfold loopStep at hstep
    rw [hpoint] at hstep
    obtain rfl := Except.ok.inj hstep
    refine handing_goOn h rfl ?_
    show Place _ _ _ _ _ _ s.sendingThread .finCountDatagrams
    rw [hthread]
    exact hplace
  | finCountDatagrams =>
    have hplace := h.place_at hthread hpoint
    unfold loopStep at hstep
    rw [hpoint] at hstep
    obtain rfl := Except.ok.inj hstep
    exact handing_goOn h rfl (.inr hplace)

end

theorem threadStep_handing {s t : LiveStream Recorder} {input : ThreadInput}
    (hdatagrams : s.report.senderReport.summary.datagrams = .ofNat s.log.counted) (h : Handing s wire givenUp)
    (hstep : s.threadStep input = .ok t) :
    Handing t (wire ++ handedOver s t) (givenUp + (s.givesUp (.thread input)).toNat) := by
  unfold threadStep at hstep
  cases hthread : s.sendingThread with
  | notStarted | ended =>
    rw [hthread] at hstep
    cases hstep
  | starting =>
    rw [hthread] at hstep
    obtain rfl := Except.ok.inj hstep
    have hplace := h.place
    rw [hthread] at hplace
    obtain ⟨rfl, hcounted, rfl⟩ := hplace
    have hno : s.givesUp (.thread input) = false := by simp [givesUp, hthread]
    rw [hno]
    split
    · exact handing_goOn h rfl ⟨isBlocks_nil, hcounted, fun hpos => absurd hpos (Nat.lt_irrefl 0)⟩
    · exact handing_goOn h rfl (.inl isBlocks_nil)
  | sending =>
    rw [hthread] at hstep
    exact loopStep_handing hthread hdatagrams h hstep

/-! ### Every sending step -/

theorem startSend_handing {s t : LiveStream Recorder} {now : UInt64} (h : Handing s wire givenUp)
    (hstep : s.startSend now = .ok t) : Handing t (wire ++ handedOver s t) givenUp := by
  obtain ⟨stream, hstream, hstep⟩ := Fault.bind_eq_ok.mp hstep
  obtain ⟨_, hthread, hstream⟩ := Fault.bind_eq_ok.mp hstream
  have hthread : s.sendingThread = .notStarted := Fault.require_eq_ok.mp hthread
  obtain rfl := Fault.pure_eq_ok.mp hstream
  obtain rfl := Fault.pure_eq_ok.mp hstep
  have hplace := h.place
  rw [hthread] at hplace
  exact handing_goOn h rfl hplace

theorem step_handing {s t : LiveStream Recorder} {a : Action} (ha : a.isSending)
    (hdatagrams : s.report.senderReport.summary.datagrams = .ofNat s.log.counted) (h : Handing s wire givenUp)
    (hstep : (machine tools).step s a = some t) :
    Handing t (wire ++ handedOver s t) (givenUp + (s.givesUp a).toNat) := by
  have haside (hno : s.givesUp a = false) (haside : Aside s t) :
      Handing t (wire ++ handedOver s t) (givenUp + (s.givesUp a).toNat) := by
    rw [hno, handedOver_of_same haside.sends, List.append_nil]
    exact haside.handing h
  have hperform := step_eq_some.mp hstep
  cases a with
  | event event => exact haside rfl (onEvent_aside hperform)
  | startSend now => exact startSend_handing h hperform
  | thread input => exact threadStep_handing hdatagrams h hperform
  | snapshotReport now =>
    obtain rfl := Except.ok.inj hperform
    exact haside rfl (s.snapshotReport_aside now)
  | finishReport now =>
    obtain rfl := Except.ok.inj hperform
    exact haside rfl (s.finishReport_aside now)
  | stop now =>
    obtain rfl := Except.ok.inj hperform
    exact haside rfl (s.stop_aside now)
  | received | poll | summary => exact absurd ha Bool.false_ne_true

theorem handing_connecting (config : TestConfig) (streamId : Nat) (now : UInt64) (recorder : Recorder) :
    Handing (connecting config streamId now recorder) [] 0 :=
  ⟨rfl, Nat.zero_le 1, rfl, rfl, rfl⟩

end LiveStream

end BatsIperf
