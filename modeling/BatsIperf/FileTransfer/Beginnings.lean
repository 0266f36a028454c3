import BatsIperf.FileTransfer.Delivery
import BatsIperf.FileTransfer.DoneStays
import BatsIperf.FileTransfer.FailedWrites
import BatsIperf.FileTransfer.Interruption
import BatsIperf.FileTransfer.WriteBytes

/-!
# What an interrupted transfer leaves behind

A transfer may break off at any point: the sender reports an error, gives up or stops, its connections are lost, and the disk of the receiver may fill up. Every file that the receiver has opened is then a beginning of the sender's file, and those that it has counted are whole.
-/

namespace BatsIperf

open Octets Assembly IperfFileTransfer

namespace FileSession

section

variable {senderDisk : Disk} {density : Density} {queue : List File} {announced n : Nat} {s t : FileSession} {a : Action}

/-! ### The streams of the receiver -/

/-- Which streams of the sender, of the first `n`, are behind the streams of the receiver. -/
structure Peered (n : Nat) (s : FileSession) : Prop where
  nodup : s.peers.Nodup
  length : s.peers.length = s.receiver.streams.length
  bounded : ∀ i ∈ s.peers, i < n
  opened : s.sender.streams.length ≤ n
  unpeered : ∀ i, i ∉ s.peers → s.handled i = 0
  handled : ∀ i, s.handled i ≤ (s.wire i).length

theorem Peered.handledBlocks_nil {i : Nat} (h : Peered n s) (hi : i ∉ s.peers) : s.handledBlocks i = [] := by
  rw [handledBlocks, h.unpeered i hi, List.take_zero]

theorem Peered.exists_stream {i j : Nat} (h : Peered n s) (hpeer : s.peers[j]? = some i) :
    ∃ stream, s.receiver.streams[j]? = some stream :=
  ⟨_, List.getElem?_eq_getElem (h.length ▸ (List.getElem?_eq_some_iff.mp hpeer).1)⟩

theorem wire_initial (hstep : (machine senderDisk density).step s a = some t) (i : Nat) : s.wire i <+: t.wire i := by
  by_cases hthread : ∃ answers, a = .thread i answers
  · obtain ⟨answers, rfl⟩ := hthread
    obtain ⟨stream, result, _, _, rfl⟩ := thread_inv hstep
    dsimp only
    rw [Function.update_self]
    exact List.prefix_append _ _
  · rw [wire_other hstep fun answers hown => hthread ⟨answers, hown⟩]

theorem receiver_unchanged (hstep : (machine senderDisk density).step s a = some t) (ha : a.atReceiver = false) :
    t.receiver = s.receiver ∧ t.peers = s.peers ∧ t.handled = s.handled ∧ t.disk = s.disk := by
  cases a with
  | event i event =>
    obtain ⟨_, _, _, rfl⟩ := event_inv hstep
    exact ⟨rfl, rfl, rfl, rfl⟩
  | thread i answers =>
    obtain ⟨_, _, _, _, rfl⟩ := thread_inv hstep
    exact ⟨rfl, rfl, rfl, rfl⟩
  | poll | stop =>
    obtain rfl := Option.some.inj hstep
    exact ⟨rfl, rfl, rfl, rfl⟩
  | clearStreams =>
    obtain rfl := clearStreams_inv hstep
    exact ⟨rfl, rfl, rfl, rfl⟩
  | accept | receiverEvent | deliver | receiverPoll => exact absurd ha.symm Bool.false_ne_true

theorem peered_sender (h : Peered n s) (hstep : (machine senderDisk density).step s a = some t)
    (ha : a.atReceiver = false) : Peered n t := by
  obtain ⟨hreceiver, hpeers, hhandled, _⟩ := receiver_unchanged hstep ha
  have hopened : t.sender.streams.length ≤ n := by
    by_cases hclear : a = .clearStreams
    · subst hclear
      rw [clearStreams_inv hstep]
      exact Nat.zero_le _
    · rw [streams_length_step hstep hclear]
      exact h.opened
  refine ⟨?_, ?_, ?_, hopened, ?_, fun i => ?_⟩
  · rw [hpeers]
    exact h.nodup
  · rw [hpeers, hreceiver]
    exact h.length
  · rw [hpeers]
    exact h.bounded
  · rw [hpeers, hhandled]
    exact h.unpeered
  · rw [hhandled]
    exact (h.handled i).trans (wire_initial hstep i).length_le

theorem peered_accept {i : Nat} (h : Peered n s) (hstep : s.accept i = some t) : Peered n t := by
  obtain ⟨hi, hnew, rfl⟩ := accept_inv hstep
  refine ⟨?_, ?_, fun k hk => ?_, h.opened, fun k hk => ?_, h.handled⟩
  · exact List.nodup_append.mpr ⟨h.nodup, List.nodup_singleton i, fun k hk other hother => by
      obtain rfl := List.mem_singleton.mp hother
      exact fun heq => hnew (heq ▸ hk)⟩
  · simp [dataListenCallback, h.length]
  · rcases List.mem_append.mp hk with hk | hk
    · exact h.bounded k hk
    · obtain rfl := List.mem_singleton.mp hk
      exact hi.trans_le h.opened
  · exact h.unpeered k fun hmem => hk (List.mem_append_left _ hmem)

theorem peered_deliver {j : Nat} {answers : FileAnswers} (h : Peered n s) (hstep : deliver density s j answers = some t) :
    Peered n t := by
  obtain ⟨i, block, receiver, disk, hpeer, hblock, hhandle, rfl⟩ := deliver_inv hstep
  have hlength : receiver.streams.length = s.receiver.streams.length := by
    cases handleReceivedFileData_handled hhandle with
    | ignored => rfl
    | «open» => exact List.length_set
    | finished =>
      rw [finishFile_eq]
      exact List.length_set
  refine ⟨h.nodup, h.length.trans hlength.symm, h.bounded, h.opened, fun k hk => ?_, fun k => ?_⟩
  · have hne : k ≠ i := by
      rintro rfl
      exact hk (List.mem_of_getElem? hpeer)
    exact (Function.update_of_ne hne ..).trans (h.unpeered k hk)
  · dsimp only
    by_cases hk : k = i
    · rw [hk, Function.update_self]
      exact (List.getElem?_eq_some_iff.mp hblock).1
    · rw [Function.update_of_ne hk]
      exact h.handled k

theorem peered_step (h : Peered n s) (hstep : (machine senderDisk density).step s a = some t) : Peered n t := by
  cases a with
  | event | thread | poll | stop | clearStreams => exact peered_sender h hstep rfl
  | accept i => exact peered_accept h hstep
  | deliver j answers => exact peered_deliver h hstep
  | receiverEvent j event =>
    obtain ⟨receiver, hevent, rfl⟩ := Option.map_eq_some_iff.mp hstep
    refine ⟨h.nodup, h.length.trans ?_, h.bounded, h.opened, h.unpeered, h.handled⟩
    rcases connectionCallback_cases (Fault.toOption_eq_some.mp hevent) with ⟨_, _, _, _, rfl⟩ | ⟨rfl, _⟩ | ⟨rfl, _⟩
    · exact List.length_set.symm
    · rfl
    · rfl
  | receiverPoll =>
    obtain rfl := Option.some.inj hstep
    refine ⟨h.nodup, h.length.trans ?_, h.bounded, h.opened, h.unpeered, h.handled⟩
    exact congrArg List.length (isStreamDone_streams s.receiver).symm

/-! ### What has landed -/

/-- What the receiver has of a stream: of every file as much as was written before a write failed. -/
structure Landed (density : Density) (disk : Disk) (blocks : List Octets) (stream : FileStream) : Prop where
  landed : ∃ a, assemble (segment density) blocks = some a ∧
    (∀ opening content, a.current = some (opening, content) → Writing disk opening content stream.fileWriter) ∧
    ∀ opening content, (opening, content) ∈ a.finished →
      ∃ written, disk opening.name = some written ∧ written <+: content

/-- How many files of a stream the receiver has closed and has whole. -/
def whole (density : Density) (s : FileSession) (i : Nat) : Nat :=
  ((assemble (segment density) (s.handledBlocks i)).map fun a =>
    (a.finished.filter fun message => s.disk message.1.name = some message.2).length).getD 0

structure Landing (density : Density) (announced n : Nat) (s : FileSession) : Prop where
  streams : ∀ (j i : Nat) (stream : FileStream), s.peers[j]? = some i → s.receiver.streams[j]? = some stream →
    Landed density s.disk (s.handledBlocks i) stream
  numFiles : s.receiver.testConfig.numFiles = (announced - ∑ i ∈ Finset.range n, whole density s i : Nat)

theorem whole_eq {i : Nat} {c : Assembly Opening UInt8} (hc : assemble (segment density) (s.handledBlocks i) = some c) :
    whole density s i = (c.finished.filter fun message => s.disk message.1.name = some message.2).length := by
  rw [whole, hc]
  rfl

theorem landing_of_same (h : Landing density announced n s) (hpeered : Peered n s) (hpeers : t.peers = s.peers)
    (hreceiver : t.receiver.streams = s.receiver.streams)
    (hnumFiles : t.receiver.testConfig.numFiles = s.receiver.testConfig.numFiles) (hhandled : t.handled = s.handled)
    (hdisk : t.disk = s.disk) (hwire : ∀ i, s.wire i <+: t.wire i) : Landing density announced n t := by
  have hblocks (i : Nat) : t.handledBlocks i = s.handledBlocks i := by
    obtain ⟨rest, hrest⟩ := hwire i
    rw [handledBlocks, handledBlocks, hhandled, ← hrest, List.take_append_of_le_length (hpeered.handled i)]
  have hwhole (i : Nat) : whole density t i = whole density s i := by rw [whole, whole, hblocks, hdisk]
  refine ⟨fun j i stream hpeer hstream => ?_, ?_⟩
  · rw [hpeers] at hpeer
    rw [hreceiver] at hstream
    rw [hblocks, hdisk]
    exact h.streams j i stream hpeer hstream
  · simp only [hnumFiles, hwhole]
    exact h.numFiles

/-! ### A block that is handled -/

theorem mem_keys_of_finished {a : Assembly Opening UInt8} {message : Opening × List UInt8} (h : message ∈ a.finished) :
    message.1 ∈ a.keys := List.mem_map_of_mem (List.mem_append_left _ h)

theorem Landed.of_same {disk after : Disk} {blocks : List Octets} {stream : FileStream}
    (h : Landed density disk blocks stream)
    (hsame : ∀ c, assemble (segment density) blocks = some c → ∀ opening ∈ c.keys,
      after opening.name = disk opening.name) : Landed density after blocks stream := by
  obtain ⟨c, hc, hwriting, hstored⟩ := h.landed
  refine ⟨c, hc, fun opening content hcurrent => ?_, fun opening content hmem => ?_⟩
  · exact (hwriting opening content hcurrent).of_same (hsame c hc opening (by simp [keys, messages, hcurrent]))
  · rw [hsame c hc opening (mem_keys_of_finished hmem)]
    exact hstored opening content hmem

theorem landed_put {disk after : Disk} {blocks more : List Octets} {stream x : FileStream} {a : Assembly Opening UInt8}
    {closing : Bool} {opening : Opening} {content written : Octets} (h : Landed density disk blocks stream)
    (ha : assemble (segment density) blocks = some a)
    (hb : assemble (segment density) more = some (a.put closing (opening, content)))
    (hkept : ∀ message ∈ a.finished, after message.1.name = disk message.1.name)
    (hown : after opening.name = some written) (hwritten : written <+: content)
    (hwriting : closing = false → Writing after opening content x.fileWriter) : Landed density after more x := by
  obtain ⟨c, hc, _, hstored⟩ := h.landed
  obtain rfl := Option.some.inj (ha.symm.trans hc)
  have hstored : ∀ earlier part, (earlier, part) ∈ a.finished →
      ∃ found, after earlier.name = some found ∧ found <+: part := by
    intro earlier part hmem
    rw [hkept _ hmem]
    exact hstored earlier part hmem
  refine ⟨_, hb, ?_⟩
  cases closing with
  | true =>
    refine ⟨fun _ _ hcurrent => absurd hcurrent.symm (Option.some_ne_none _), fun earlier part hmem => ?_⟩
    rcases List.mem_append.mp hmem with hbefore | hlast
    · exact hstored earlier part hbefore
    · obtain ⟨rfl, rfl⟩ := Prod.mk.inj (List.mem_singleton.mp hlast)
      exact ⟨written, hown, hwritten⟩
  | false =>
    refine ⟨fun earlier part hcurrent => ?_, hstored⟩
    obtain ⟨rfl, rfl⟩ := Prod.mk.inj (Option.some.inj hcurrent)
    exact hwriting rfl

theorem length_filter_put {disk after : Disk} {a : Assembly Opening UInt8} {closing : Bool} {opening : Opening}
    {content written : Octets} (hkept : ∀ message ∈ a.finished, after message.1.name = disk message.1.name)
    (hown : after opening.name = some written) :
    ((a.put closing (opening, content)).finished.filter fun message => after message.1.name = some message.2).length
      = (a.finished.filter fun message => disk message.1.name = some message.2).length
        + (closing && decide (written = content)).toNat := by
  have hsame : (a.finished.filter fun message => after message.1.name = some message.2)
      = a.finished.filter fun message => disk message.1.name = some message.2 :=
    List.filter_congr fun message hmem => by rw [hkept message hmem]
  cases closing with
  | false => simp only [put, Bool.false_eq_true, if_false, Bool.false_and, Bool.toNat_false, hsame, Nat.add_zero]
  | true =>
    simp only [put, if_true, List.filter_append, List.length_append, hsame, Bool.true_and, List.filter_singleton, hown,
      Option.some.injEq]
    by_cases hwhole : written = content <;> simp [hwhole]

/-- What handling the next block of a stream does when its data may get lost: of the file that the block belongs to, `written` is on the disk, and of the others what was there, but for a checksum. -/
structure Received (density : Density) (s t : FileSession) (j i : Nat) (block : Octets) (a : Assembly Opening UInt8)
    (seg : Segment Opening UInt8) (opening : Opening) (content written : Octets) (x : FileStream) : Prop where
  peer : s.peers[j]? = some i
  sent : (s.wire i)[s.handled i]? = some block
  read : segment density block = some seg
  before : assemble (segment density) (s.handledBlocks i) = some a
  after : assemble (segment density) (s.handledBlocks i ++ [block]) = some (a.put seg.closing (opening, content))
  initial : s.handledBlocks i ++ [block] <+: s.wire i
  beginning : written <+: content
  writing : seg.closing = false → Writing t.disk opening content x.fileWriter
  disk : t.disk opening.name = some written
  others : ∀ path, path ≠ opening.name → (∀ sum, seg.opening = some sum → sum.hasSum = true → path ≠ sum.sumName) →
    t.disk path = s.disk path
  next : t = { s with
    receiver := afterBlock s.receiver j x (seg.closing && decide (written = content))
    disk := t.disk
    handled := Function.update s.handled i (s.handled i + 1) }

theorem deliver_received (hcarried : ∀ i, Carried senderDisk density (s.wire i) (s.filesOf i)) (hpeered : Peered n s)
    (h : Landing density announced n s) {j : Nat} {answers : FileAnswers} (hopens : answers.opens = true)
    (hcloses : answers.closes = true) (hstep : deliver density s j answers = some t) :
    ∃ i block a seg opening content written x, Received density s t j i block a seg opening content written x := by
  obtain ⟨i, block, receiver, disk, hpeer, hblock, hhandle, ht⟩ := deliver_inv hstep
  obtain ⟨stream, hreceiver⟩ := hpeered.exists_stream hpeer
  obtain ⟨a, ha, hwriting, _⟩ := (h.streams j i _ hpeer hreceiver).landed
  obtain ⟨hinitial, seg, b, hsegment, htake, hb⟩ := next_block (hcarried i) hblock ha
  obtain ⟨opening, content, summed, result, rfl, hsummed, hresult, hput⟩ :=
    handleReceivedFileData_writing hreceiver hsegment htake hwriting hopens hcloses
  obtain rfl := Except.ok.inj (hhandle.symm.trans hresult)
  obtain @⟨x, written, hwritten, hwriting⟩ := hput
  have hdisk : t.disk = Function.update summed opening.name (some written) := by rw [ht]
  refine ⟨i, block, a, seg, opening, content, written, x, hpeer, hblock, hsegment, ha, hb, hinitial, hwritten,
    hdisk ▸ hwriting, ?_, fun path hname hsum => ?_, ?_⟩
  · rw [hdisk, Function.update_self]
  · rw [hdisk, Function.update_of_ne hname, hsummed path hsum]
  · rw [ht]

namespace Received

variable {j i : Nat} {block : Octets} {seg : Segment Opening UInt8} {opening : Opening} {content written : Octets}
  {x : FileStream} {c : Assembly Opening UInt8}

theorem mem_peers {a : Assembly Opening UInt8} (h : Received density s t j i block a seg opening content written x) :
    i ∈ s.peers := List.mem_of_getElem? h.peer

theorem handledBlocks {a : Assembly Opening UInt8} (h : Received density s t j i block a seg opening content written x) :
    t.handledBlocks i = s.handledBlocks i ++ [block] ∧ ∀ k, k ≠ i → t.handledBlocks k = s.handledBlocks k :=
  handledBlocks_deliver h.sent h.next

/-- No file that is already there has the name of a checksum that is written now. -/
theorem kept {a : Assembly Opening UInt8} (h : Received density s t j i block a seg opening content written x)
    (hapart : s.SumsApart j) {k : Nat} (hk : k ∈ s.peers) (hc : assemble (segment density) (s.handledBlocks k) = some c)
    {earlier : Opening} (hkey : earlier ∈ c.keys) (hname : earlier.name ≠ opening.name) :
    t.disk earlier.name = s.disk earlier.name := by
  apply h.others _ hname
  intro sum hsum hhas
  rw [opening_of_segment h.read] at hsum
  rw [keys_segment hc] at hkey
  exact hapart i h.peer block h.sent sum hsum hhas k hk earlier hkey

theorem kept_own {a : Assembly Opening UInt8} (h : Received density s t j i block a seg opening content written x)
    (hnames : (queue.map fun file => receivedName file.path).Nodup) (hunderway : Underway senderDisk density queue s)
    (hapart : s.SumsApart j) (message : Opening × List UInt8) (hmem : message ∈ a.finished) :
    t.disk message.1.name = s.disk message.1.name :=
  h.kept hapart h.mem_peers h.before (mem_keys_of_finished hmem)
    (name_ne_of_put (nodup_names hnames hunderway.fetched (hunderway.carried i) h.initial h.after) hmem)

theorem kept_others {a : Assembly Opening UInt8} (h : Received density s t j i block a seg opening content written x)
    (hnames : (queue.map fun file => receivedName file.path).Nodup) (hunderway : Underway senderDisk density queue s)
    (hapart : s.SumsApart j) {k : Nat} (hk : k ∈ s.peers) (hki : k ≠ i)
    (hc : assemble (segment density) (s.handledBlocks k) = some c) {earlier : Opening} (hkey : earlier ∈ c.keys) :
    t.disk earlier.name = s.disk earlier.name := by
  have hopened : opening ∈ (a.put seg.closing (opening, content)).keys := by
    rw [keys, messages_put]
    simp
  exact h.kept hapart hk hc hkey fun heq => hki (names_apart hnames hunderway.fetched (hunderway.carried k)
    (hunderway.carried i) (handledBlocks_initial s k) h.initial hc h.after hkey hopened heq)

theorem streams {a : Assembly Opening UInt8} (h : Received density s t j i block a seg opening content written x)
    (hnames : (queue.map fun file => receivedName file.path).Nodup) (hunderway : Underway senderDisk density queue s)
    (hpeered : Peered n s) (hlanding : Landing density announced n s) (hapart : s.SumsApart j) {j' k : Nat}
    {stream : FileStream} (hpeer : t.peers[j']? = some k) (hstream : t.receiver.streams[j']? = some stream) :
    Landed density t.disk (t.handledBlocks k) stream := by
  obtain ⟨hown, hothers⟩ := h.handledBlocks
  obtain ⟨old, hold⟩ := hpeered.exists_stream h.peer
  have hpeers : t.peers = s.peers := by rw [h.next]
  have hstreams : t.receiver.streams = s.receiver.streams.set j x := by rw [h.next, afterBlock_streams]
  rw [hpeers] at hpeer
  rw [hstreams] at hstream
  rcases getElem?_set_cases hold hstream with ⟨rfl, rfl⟩ | ⟨hne, hstream⟩
  · obtain rfl := Option.some.inj (h.peer.symm.trans hpeer)
    rw [hown]
    exact landed_put (hlanding.streams j' i old hpeer hold) h.before h.after (h.kept_own hnames hunderway hapart) h.disk
      h.beginning h.writing
  · have hki : k ≠ i := by
      rintro rfl
      exact hne ((List.getElem?_inj (List.getElem?_eq_some_iff.mp hpeer).1 hpeered.nodup).mp (hpeer.trans h.peer.symm))
    rw [hothers k hki]
    exact (hlanding.streams j' k stream hpeer hstream).of_same fun c hc earlier hkey =>
      h.kept_others hnames hunderway hapart (List.mem_of_getElem? hpeer) hki hc hkey

theorem wholes {a : Assembly Opening UInt8} (h : Received density s t j i block a seg opening content written x)
    (hnames : (queue.map fun file => receivedName file.path).Nodup) (hunderway : Underway senderDisk density queue s)
    (hpeered : Peered n s) (hapart : s.SumsApart j) :
    whole density t i = whole density s i + (seg.closing && decide (written = content)).toNat ∧
      ∀ k, k ≠ i → whole density t k = whole density s k := by
  obtain ⟨hown, hothers⟩ := h.handledBlocks
  constructor
  · rw [whole_eq h.before, whole_eq (hown ▸ h.after)]
    exact length_filter_put (h.kept_own hnames hunderway hapart) h.disk
  · intro k hki
    by_cases hk : k ∈ s.peers
    · cases hc : assemble (segment density) (s.handledBlocks k) with
      | none => rw [whole, whole, hothers k hki, hc]; rfl
      | some c =>
        rw [whole_eq hc, whole_eq (hothers k hki ▸ hc)]
        exact congrArg List.length (List.filter_congr fun message hmem => by
          rw [h.kept_others hnames hunderway hapart hk hki hc (mem_keys_of_finished hmem)])
    · rw [whole, whole, hothers k hki, hpeered.handledBlocks_nil hk]
      rfl

end Received

theorem landing_deliver (hnames : (queue.map fun file => receivedName file.path).Nodup)
    (hunderway : Underway senderDisk density queue s) (hpeered : Peered n s) (h : Landing density announced n s) {j : Nat}
    {answers : FileAnswers} (hopens : answers.opens = true) (hcloses : answers.closes = true) (hapart : s.SumsApart j)
    (hstep : deliver density s j answers = some t) : Landing density announced n t := by
  obtain ⟨i, block, a, seg, opening, content, written, x, hreceived⟩ :=
    deliver_received hunderway.carried hpeered h hopens hcloses hstep
  refine ⟨fun j' k stream => hreceived.streams hnames hunderway hpeered h hapart, ?_⟩
  obtain ⟨hown, hothers⟩ := hreceived.wholes hnames hunderway hpeered hapart
  have hsum := sum_range_step (hpeered.bounded i hreceived.mem_peers) hown hothers
  have hnext : t.receiver = afterBlock s.receiver j x (seg.closing && decide (written = content)) := by
    rw [hreceived.next]
  rw [hsum, hnext, afterBlock_numFiles h.numFiles]
  omega

/-! ### Every other step -/

theorem landing_accept {i : Nat} (hpeered : Peered n s) (h : Landing density announced n s) (hstep : s.accept i = some t) :
    Landing density announced n t := by
  obtain ⟨_, hnew, rfl⟩ := accept_inv hstep
  refine ⟨fun j k stream hpeer hstream => ?_, h.numFiles⟩
  dsimp only at hpeer hstream
  by_cases hj : j < s.peers.length
  · rw [List.getElem?_append_left hj] at hpeer
    rw [dataListenCallback, List.getElem?_append_left (hpeered.length ▸ hj)] at hstream
    exact h.streams j k stream hpeer hstream
  · rw [List.getElem?_append_right (by omega)] at hpeer
    obtain rfl := List.mem_singleton.mp (List.mem_of_getElem? hpeer)
    refine ⟨{}, (congrArg (assemble (segment density)) (hpeered.handledBlocks_nil hnew)).trans rfl, fun _ _ hcurrent => ?_, fun _ _ hmem => ?_⟩
    · exact absurd hcurrent.symm (Option.some_ne_none _)
    · exact absurd hmem List.not_mem_nil

theorem landing_receiverEvent {j : Nat} {event : ConnEvent} {receiver : IperfFileTransfer}
    (hpeered : Peered n s) (h : Landing density announced n s)
    (hevent : s.receiver.connectionCallback j event = .ok receiver) :
    Landing density announced n { s with receiver := receiver } := by
  rcases connectionCallback_cases hevent with ⟨stream, changed, hstream, hchanged, rfl⟩ | ⟨rfl, _⟩ | ⟨rfl, _⟩
  · refine ⟨fun k i x hpeer hx => ?_, h.numFiles⟩
    rcases getElem?_set_cases hstream hx with ⟨rfl, rfl⟩ | ⟨_, hx⟩
    · obtain ⟨a, ha, hwriting, hstored⟩ := (h.streams k i stream hpeer hstream).landed
      refine ⟨a, ha, ?_, hstored⟩
      rw [(streamEvent_notified hchanged).fileWriter]
      exact hwriting
    · exact h.streams k i x hpeer hx
  · exact landing_of_same h hpeered rfl rfl rfl rfl rfl fun _ => List.prefix_refl _
  · exact landing_of_same h hpeered rfl rfl rfl rfl rfl fun _ => List.prefix_refl _

/-- A tolerable step that keeps the checksums apart from the files. -/
def Tolerated (s : FileSession) (a : Action) : Prop :=
  Tolerable a ∧ ∀ j answers, a = .deliver j answers → s.SumsApart j

structure Exposed (senderDisk : Disk) (density : Density) (queue : List File) (announced n : Nat) (s : FileSession) :
    Prop where
  underway : Underway senderDisk density queue s
  peered : Peered n s
  landing : Landing density announced n s

theorem landing_step (hnames : (queue.map fun file => receivedName file.path).Nodup)
    (h : Exposed senderDisk density queue announced n s) (htolerated : s.Tolerated a)
    (hstep : (machine senderDisk density).step s a = some t) : Landing density announced n t := by
  obtain ⟨hunderway, hpeered, hlanding⟩ := h
  cases a with
  | event | thread | poll | stop | clearStreams =>
    obtain ⟨hreceiver, hpeers, hhandled, hdisk⟩ := receiver_unchanged hstep rfl
    exact landing_of_same hlanding hpeered hpeers (by rw [hreceiver]) (by rw [hreceiver]) hhandled hdisk (wire_initial hstep)
  | accept i => exact landing_accept hpeered hlanding hstep
  | deliver j answers =>
    exact landing_deliver hnames hunderway hpeered hlanding htolerated.1.1 htolerated.1.2 (htolerated.2 j answers rfl) hstep
  | receiverEvent j event =>
    obtain ⟨receiver, hevent, rfl⟩ := Option.map_eq_some_iff.mp hstep
    exact landing_receiverEvent hpeered hlanding (Fault.toOption_eq_some.mp hevent)
  | receiverPoll =>
    obtain rfl := Option.some.inj hstep
    refine landing_of_same hlanding hpeered rfl (isStreamDone_streams s.receiver) ?_ rfl rfl fun _ => List.prefix_refl _
    exact congrArg TestConfig.numFiles (isStreamDone_testConfig s.receiver)

theorem exposed_step (hlawful : density.Lawful) (hqueued : ∀ file ∈ queue, Queued senderDisk file)
    (hnames : (queue.map fun file => receivedName file.path).Nodup)
    (h : Exposed senderDisk density queue announced n s) (htolerated : s.Tolerated a)
    (hstep : (machine senderDisk density).step s a = some t) : Exposed senderDisk density queue announced n t where
  underway := underway_step hlawful hqueued h.underway htolerated.1 hstep
  peered := peered_step h.peered hstep
  landing := landing_step hnames h htolerated hstep

end

/-! ### The start -/

theorem exposed_start {senderDisk : Disk} {density : Density} {config serverConfig : TestConfig} {testId : UInt32}
    {available : Option Nat} {disk : Disk} {s : FileSession}
    (hstart : start senderDisk config serverConfig testId available disk = .ok s)
    (haccepted : denied senderDisk config testId available = false) (hcount : config.files.length ≤ 10) :
    Exposed senderDisk density (queue senderDisk config) config.files.length s.sender.streams.length s := by
  obtain ⟨hs, hsender⟩ := start_cases hstart
  rw [haccepted, if_neg Bool.false_ne_true] at hsender
  have hghosts : s.fetched = [] ∧ s.wire = (fun _ => []) ∧ s.peers = [] ∧ s.handled = fun _ => 0 := by
    rw [hs]
    exact ⟨rfl, rfl, rfl, rfl⟩
  obtain ⟨hfetched, hwire, hpeers, hhandled⟩ := hghosts
  have hfiles (i : Nat) : s.filesOf i = [] := by rw [filesOf, hfetched]; rfl
  have hwhole (i : Nat) : whole density s i = 0 := by
    rw [whole, handledBlocks, hwire, List.take_nil, assemble_nil]
    rfl
  refine ⟨⟨?_, fun i stream hstream => ?_, fun i => ?_⟩, ⟨?_, ?_, ?_, Nat.le_refl _, ?_, ?_⟩, ⟨?_, ?_⟩⟩
  · rw [hfetched, hsender]
    rfl
  · obtain ⟨id, rfl⟩ := (fresh_start hstart ⟨stream, hstream⟩).streams i stream hstream
    refine ⟨by simp, by simp, fun hno => absurd rfl hno, ?_⟩
    rw [hwire, hfiles]
    exact ⟨[], List.Sublist.refl _, fun _ hno => absurd hno List.not_mem_nil, .goesOn (.idle rfl rfl)⟩
  · rw [hwire, hfiles]
    exact ⟨0, [], {}, List.Sublist.refl _, rfl, beginningOf_finished _⟩
  · simp [hpeers]
  · rw [hpeers, receiver_start hstart haccepted]
    rfl
  · simp [hpeers]
  · simp [hhandled]
  · simp [hhandled]
  · intro j i stream hpeer
    rw [hpeers] at hpeer
    exact absurd hpeer (by simp)
  · simp [hwhole, numFiles_start hstart haccepted hcount]

/-! ### What is left behind -/

def hasOpened (s : FileSession) (entry : Nat × File) : Bool :=
  (s.openings entry.1).any fun opening => decide (opening.name = receivedName entry.2.path)

/-- The receiver has opened the file and has all of it. -/
def hasWhole (senderDisk : Disk) (s : FileSession) (entry : Nat × File) : Bool :=
  s.hasOpened entry && decide (s.disk (receivedName entry.2.path) = senderDisk entry.2.path)

structure LeftBehind (senderDisk : Disk) (density : Density) (config : TestConfig) (s : FileSession) : Prop where
  fetched : s.fetched.map Prod.snd <+: queue senderDisk config
  /-- The receiver opens the files of a stream in the order in which they were fetched. -/
  opened : ∀ i, ((s.openings i).map Opening.name).Sublist ((s.filesOf i).map fun file => receivedName file.path)
  beginnings : ∀ entry ∈ s.fetched, s.hasOpened entry = true →
    ∃ received, s.disk (receivedName entry.2.path) = some received ∧ received <+: content senderDisk entry.2
  /-- What the receiver has counted are the files it has whole. -/
  counted : s.receiver.testConfig.numFiles
    = (config.files.length - (s.fetched.filter (s.hasWhole senderDisk)).length : Nat)
  /-- The receiver can handle what is still on its way. -/
  handles : ∀ (j i : Nat) (answers : FileAnswers), s.peers[j]? = some i → s.handled i < (s.wire i).length →
    (deliver density s j answers).isSome

section

variable {senderDisk : Disk} {density : Density} {queue : List File} {announced n : Nat} {s : FileSession}

inductive Saved (senderDisk : Disk) (density : Density) (s : FileSession) (i : Nat) : Prop
  | intro {id : UInt32} {opened : List File} {a : Assembly Opening UInt8} (hopened : opened.Sublist (s.filesOf i))
      (ha : assemble (segment density) (s.handledBlocks i) = some a)
      (hbeginning : a.BeginningOf (opened.map (transfer senderDisk id)))
      (hstored : ∀ opening part, (opening, part) ∈ a.messages →
        ∃ written, s.disk opening.name = some written ∧ written <+: part)

theorem payload_ne_nil {block : Octets} {seg : Segment Opening UInt8} (h : segment density block = some seg) :
    seg.payload ≠ [] := by
  obtain ⟨_, _, _, _, _, _, hdata, _, rfl⟩ := segment_eq_some h
  exact hdata

theorem Exposed.saved (h : Exposed senderDisk density queue announced n s) (i : Nat) : Saved senderDisk density s i := by
  obtain ⟨id, opened, b, hopened, hb, hbeginning⟩ := h.underway.carried i
  obtain ⟨a, ha⟩ := assemble_of_initial (handledBlocks_initial s i) hb
  refine .intro hopened ha (hbeginning.of_initial (fun _ _ => payload_ne_nil) (handledBlocks_initial s i) ha hb) ?_
  intro opening part hmem
  by_cases hi : i ∈ s.peers
  · obtain ⟨j, hpeer⟩ := List.mem_iff_getElem?.mp hi
    obtain ⟨stream, hreceiver⟩ := h.peered.exists_stream hpeer
    obtain ⟨c, hc, hwriting, hstored⟩ := (h.landing.streams j i _ hpeer hreceiver).landed
    obtain rfl := Option.some.inj (ha.symm.trans hc)
    rcases List.mem_append.mp hmem with hclosed | hopen
    · exact hstored opening part hclosed
    · exact (hwriting opening part (Option.mem_toList.mp hopen)).written
  · rw [h.peered.handledBlocks_nil hi] at ha
    obtain rfl := Option.some.inj ha
    exact absurd hmem List.not_mem_nil

theorem file_of_name {i : Nat} {id : UInt32} {opened : List File} {opening : Opening} {full : Octets} {file : File}
    (hnodup : ((s.filesOf i).map fun file => receivedName file.path).Nodup) (hopened : opened.Sublist (s.filesOf i))
    (hmem : (opening, full) ∈ opened.map (transfer senderDisk id)) (hfile : file ∈ s.filesOf i)
    (hname : opening.name = receivedName file.path) : file ∈ opened ∧ full = content senderDisk file := by
  obtain ⟨sent, hsent, heq⟩ := List.mem_map.mp hmem
  obtain ⟨rfl, rfl⟩ := Prod.mk.inj heq
  rw [name_opening] at hname
  obtain rfl := List.inj_on_of_nodup_map hnodup (hopened.subset hsent) hfile hname
  exact ⟨hsent, rfl⟩

theorem hasOpened_iff {i : Nat} {a : Assembly Opening UInt8} (ha : assemble (segment density) (s.handledBlocks i) = some a)
    (file : File) : s.hasOpened (i, file) = true ↔
      ∃ opening part, (opening, part) ∈ a.messages ∧ opening.name = receivedName file.path := by
  rw [hasOpened, openings, ← keys_segment ha, List.any_eq_true]
  simp only [decide_eq_true_eq]
  constructor
  · rintro ⟨opening, hkey, hname⟩
    obtain ⟨message, hmem, rfl⟩ := List.mem_map.mp hkey
    exact ⟨message.1, message.2, hmem, hname⟩
  · rintro ⟨opening, part, hmem, hname⟩
    exact ⟨opening, List.mem_map_of_mem hmem, hname⟩

theorem hasWhole_iff {i : Nat} {id : UInt32} {opened closed : List File} {a : Assembly Opening UInt8} {file : File}
    (hnodup : ((s.filesOf i).map fun file => receivedName file.path).Nodup) (hopened : opened.Sublist (s.filesOf i))
    (ha : assemble (segment density) (s.handledBlocks i) = some a)
    (hbeginning : a.BeginningOf (opened.map (transfer senderDisk id)))
    (hstored : ∀ opening part, (opening, part) ∈ a.messages →
      ∃ written, s.disk opening.name = some written ∧ written <+: part)
    (hclosed : closed <+: opened) (hfinished : a.finished = closed.map (transfer senderDisk id))
    (hfile : file ∈ s.filesOf i) (hreadable : senderDisk file.path = some (content senderDisk file)) :
    s.hasWhole senderDisk (i, file) = true ↔
      file ∈ closed ∧ s.disk (receivedName file.path) = some (content senderDisk file) := by
  rw [hasWhole, Bool.and_eq_true, decide_eq_true_eq, hreadable, and_congr_left_iff, hasOpened_iff ha]
  intro hdisk
  constructor
  · rintro ⟨opening, part, hmem, hname⟩
    rcases List.mem_append.mp hmem with hdone | hopen
    · rw [hfinished] at hdone
      exact (file_of_name hnodup (hclosed.sublist.trans hopened) hdone hfile hname).1
    · obtain ⟨full, rest, heq, _, hless⟩ := hbeginning.current opening part (Option.mem_toList.mp hopen)
      have hfull : (opening, full) ∈ opened.map (transfer senderDisk id) := by
        rw [heq]
        simp
      obtain ⟨_, rfl⟩ := file_of_name hnodup hopened hfull hfile hname
      obtain ⟨written, hwritten, hpart⟩ := hstored opening part hmem
      rw [hname] at hwritten
      obtain rfl := Option.some.inj (hwritten.symm.trans hdisk)
      exact absurd (hpart.length_le.trans_lt hless) (Nat.lt_irrefl _)
  · intro hmem
    refine ⟨opening senderDisk id file, content senderDisk file, List.mem_append_left _ ?_, name_opening ..⟩
    rw [hfinished]
    exact List.mem_map_of_mem hmem

theorem whole_eq_filter (hnames : (queue.map fun file => receivedName file.path).Nodup)
    (hqueued : ∀ file ∈ queue, Queued senderDisk file) (h : Exposed senderDisk density queue announced n s) (i : Nat) :
    whole density s i = ((s.filesOf i).filter fun file => s.hasWhole senderDisk (i, file)).length := by
  obtain @⟨id, opened, a, hopened, ha, hbeginning, hstored⟩ := h.saved i
  obtain ⟨closed, hclosed, hfinished⟩ := List.prefix_map_iff.mp hbeginning.finished
  have hdistinct := nodup_filesOf hnames h.underway.fetched i
  have hfiles := List.Nodup.of_map _ hdistinct
  have hsublist : closed.Sublist (s.filesOf i) := hclosed.sublist.trans hopened
  have hwhole (file : File) (hfile : file ∈ s.filesOf i) := hasWhole_iff hdistinct hopened ha hbeginning hstored hclosed
    hfinished hfile (hqueued file (mem_of_filesOf h.underway.queue hfile)).readable
  rw [whole_eq ha, hfinished, List.filter_map, List.length_map]
  simp only [Function.comp_def, transfer, name_opening]
  refine ((List.perm_ext_iff_of_nodup ((hfiles.sublist hsublist).filter _) (hfiles.filter _)).mpr fun file => ?_).length_eq
  rw [List.mem_filter, List.mem_filter, decide_eq_true_eq]
  constructor
  · rintro ⟨hmem, hdisk⟩
    exact ⟨hsublist.subset hmem, (hwhole file (hsublist.subset hmem)).mpr ⟨hmem, hdisk⟩⟩
  · rintro ⟨hfile, hhas⟩
    exact (hwhole file hfile).mp hhas

theorem sum_whole (hnames : (queue.map fun file => receivedName file.path).Nodup)
    (hqueued : ∀ file ∈ queue, Queued senderDisk file) (h : Exposed senderDisk density queue announced n s) :
    ∑ i ∈ Finset.range n, whole density s i = (s.fetched.filter (s.hasWhole senderDisk)).length := by
  have hbounded : ∀ entry ∈ s.fetched.filter (s.hasWhole senderDisk), entry.1 < n := by
    intro entry hentry
    have hopened := (Bool.and_eq_true_iff.mp (List.mem_filter.mp hentry).2).1
    by_contra hfar
    have hnew : entry.1 ∉ s.peers := fun hmem => hfar (h.peered.bounded entry.1 hmem)
    rw [hasOpened, openings, h.peered.handledBlocks_nil hnew] at hopened
    simp at hopened
  rw [← sum_filesOf hbounded]
  apply Finset.sum_congr rfl
  intro i _
  rw [whole_eq_filter hnames hqueued h i, filesOf, List.filter_map, List.length_map, List.length_map, List.filter_filter,
    List.filter_filter]
  congr 1
  apply List.filter_congr
  rintro ⟨k, file⟩ _
  by_cases hk : k = i
  · simp [hk]
  · have hother : (k == i) = false := beq_eq_false_iff_ne.mpr hk
    simp [hother]

end

theorem Exposed.leftBehind {senderDisk : Disk} {density : Density} {config : TestConfig} {n : Nat} {s : FileSession}
    (hnames : ((queue senderDisk config).map fun file => receivedName file.path).Nodup)
    (hqueued : ∀ file ∈ queue senderDisk config, Queued senderDisk file)
    (h : Exposed senderDisk density (queue senderDisk config) config.files.length n s) :
    LeftBehind senderDisk density config s where
  fetched := h.underway.fetched
  opened i := by
    obtain @⟨_, _, a, _, ha, _⟩ := h.saved i
    rw [openings, ← keys_segment ha]
    exact names_of_initial (h.underway.carried i) (handledBlocks_initial s i) ha
  beginnings entry hentry hopened := by
    obtain @⟨id, opened, a, hsent, ha, hbeginning, hstored⟩ := h.saved entry.1
    obtain ⟨opening, part, hmem, hname⟩ := (hasOpened_iff ha entry.2).mp hopened
    obtain ⟨full, hfull, hpart⟩ := hbeginning.of_mem hmem
    have hfile : entry.2 ∈ s.filesOf entry.1 := List.mem_map_of_mem (List.mem_filter.mpr ⟨hentry, by simp⟩)
    obtain ⟨_, rfl⟩ := file_of_name (nodup_filesOf hnames h.underway.fetched entry.1) hsent hfull hfile hname
    obtain ⟨written, hwritten, hinitial⟩ := hstored opening part hmem
    exact ⟨written, hname ▸ hwritten, hinitial.trans hpart⟩
  counted := by rw [h.landing.numFiles, sum_whole hnames hqueued h]
  handles j i answers hpeer hhandled := by
    obtain ⟨stream, hreceiver⟩ := h.peered.exists_stream hpeer
    have hblock := List.getElem?_eq_getElem hhandled
    obtain ⟨a, ha, hwriting, _⟩ := (h.landing.streams j i _ hpeer hreceiver).landed
    obtain ⟨_, seg, b, hsegment, htake, _⟩ := next_block (h.underway.carried i) hblock ha
    have hwriter (hopening : seg.opening = none) : stream.fileWriter.isSome := by
      rcases take_eq_some htake with ⟨_, hnew, _⟩ | ⟨opening, content, _, hcurrent, _⟩
      · exact absurd (hopening.symm.trans hnew) (Option.some_ne_none _).symm
      · exact (hwriting opening content hcurrent).isSome
    obtain ⟨_, _, hresult⟩ := segment_isOk hreceiver hsegment hwriter s.disk answers
    simp only [deliver, hpeer, hblock, hresult, Option.bind_eq_bind, Option.bind_some]
    rfl

instance (s : FileSession) (a : Action) : Decidable (s.Tolerated a) :=
  match a with
  | .deliver j answers =>
    decidable_of_iff (Tolerable (.deliver j answers) ∧ s.SumsApart j)
      ⟨fun h => ⟨h.1, fun _ _ heq => (Action.deliver.inj heq).1 ▸ h.2⟩, fun h => ⟨h.1, h.2 j answers rfl⟩⟩
  | .event .. | .thread .. | .poll | .stop | .clearStreams | .accept _ | .receiverEvent .. | .receiverPoll =>
    decidable_of_iff (Tolerable _) ⟨fun h => ⟨h, fun _ _ heq => Action.noConfusion heq⟩, And.left⟩

/-- A file of three bytes, which takes two blocks. -/
def threeBytes : Disk := fun path => if path = ofText "a.txt" then some [3, 4, 5] else none

/-- The second block is refused, and an error is reported before the thread tries again. The test is stopped, and the first block arrives after that. -/
def breaksOff : List Action :=
  .event 0 (.established 362) :: .accept 0 :: List.replicate 13 (.thread 0 {}) ++
    [.thread 0 { sendOk := false }, .event 0 .sendDataError] ++ List.replicate 5 (.thread 0 {}) ++
    [.poll, .stop, .clearStreams, .deliver 0 {}]

end FileSession

end BatsIperf
