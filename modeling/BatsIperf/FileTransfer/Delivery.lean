import BatsIperf.FileTransfer.QuietRun
import Mathlib.Algebra.BigOperators.Group.Finset.Basic
import Mathlib.Algebra.Order.BigOperators.Group.Finset

/-!
# Files arrive as they were sent

The blocks that the receiver has handled on a stream are a beginning of those the sender has put there, so what is on the disk of the receiver is, file by file, a beginning of what was read on the disk of the sender. The names keep the files of different streams apart. A checksum that is written over a file already received is the one thing that can spoil it.
-/

namespace BatsIperf

open Octets Assembly IperfFileTransfer

namespace IperfFileTransfer

/-- The name under which the receiver stores a file. -/
def receivedName (path : Path) : Path :=
  let name := filename path
  withExtension ((untilNul (nameOnly name)).take (min (nameOnly name).length (maxNameLength - 1)))
    ((untilNul (extension name)).take (min (extension name).length (maxExtensionLength - 1)))

theorem name_opening (disk : Disk) (id : UInt32) (file : File) :
    (opening disk id file).name = receivedName file.path := by
  have hname : min (nameOnly (filename file.path)).length (maxNameLength - 1) ≤ maxNameLength :=
    (min_le_right _ _).trans (Nat.sub_le _ _)
  have hext : min (extension (filename file.path)).length (maxExtensionLength - 1) ≤ maxExtensionLength :=
    (min_le_right _ _).trans (Nat.sub_le _ _)
  simp only [Opening.name, opening, FileMeta.readFileNames, fileMeta, receivedName, untilNul_strncpy _ hname,
    untilNul_strncpy _ hext]

theorem keys_segment {density : Density} {blocks : List Octets} {a : Assembly Opening UInt8}
    (h : assemble (segment density) blocks = some a) : a.keys = blocks.filterMap blockOpening := by
  rw [keys_assemble h]
  apply List.filterMap_congr
  intro block hblock
  obtain ⟨seg, hsegment⟩ := view_of_assemble h block hblock
  rw [hsegment, Option.bind_some, opening_of_segment hsegment]

end IperfFileTransfer

namespace FileSession

/-- The blocks the receiver has handled of a stream of the sender. -/
def handledBlocks (s : FileSession) (i : Nat) : List Octets := (s.wire i).take (s.handled i)

/-- The files the receiver has opened for a stream of the sender. -/
def openings (s : FileSession) (i : Nat) : List Opening := (s.handledBlocks i).filterMap blockOpening

/-- The checksum that comes with the next block does not go to a file that was received before. -/
def SumsApart (s : FileSession) (j : Nat) : Prop :=
  ∀ i ∈ s.peers[j]?, ∀ block ∈ (s.wire i)[s.handled i]?, ∀ opening ∈ blockOpening block, opening.hasSum = true →
    ∀ k ∈ s.peers, ∀ earlier ∈ s.openings k, earlier.name ≠ opening.sumName

/-- A quiet step that keeps the checksums apart from the files. -/
def Allowed (s : FileSession) (a : Action) : Prop :=
  Quiet a ∧ ∀ j answers, a = .deliver j answers → s.SumsApart j

/-- How many files of a stream the receiver has closed. -/
def closed (density : Density) (s : FileSession) (i : Nat) : Nat :=
  ((assemble (segment density) (s.handledBlocks i)).map fun a => a.finished.length).getD 0

/-- The receiver has what the assembler makes of the handled blocks: the open file of each stream in the writer, and the number of files that are left. -/
structure Counting (density : Density) (announced : Nat) (s : FileSession) : Prop where
  nodup : s.peers.Nodup
  length : s.peers.length = s.receiver.streams.length
  bounded : ∀ i ∈ s.peers, i < s.sender.streams.length
  unpeered : ∀ i, i ∉ s.peers → s.handled i = 0
  handled : ∀ i, s.handled i ≤ (s.wire i).length
  writers : ∀ (j i : Nat) (stream : FileStream), s.peers[j]? = some i → s.receiver.streams[j]? = some stream →
    ∃ a, assemble (segment density) (s.handledBlocks i) = some a ∧ stream.fileWriter = writerOf a.current
  numFiles : s.receiver.testConfig.numFiles
    = (announced - ∑ i ∈ Finset.range s.sender.streams.length, closed density s i : Nat)

/-- All files that were opened are on the disk, with what has arrived of them. -/
structure Receiving (density : Density) (announced : Nat) (s : FileSession) : Prop extends Counting density announced s where
  stored : ∀ i ∈ s.peers, ∀ a, assemble (segment density) (s.handledBlocks i) = some a →
    ∀ opening content, (opening, content) ∈ a.messages → s.disk opening.name = some content

section

variable {senderDisk : Disk} {density : Density} {queue : List File} {announced : Nat} {s t : FileSession}

theorem handledBlocks_of_same (h : Counting density announced s) (hhandled : t.handled = s.handled)
    (hwire : ∀ i, s.wire i <+: t.wire i) (i : Nat) : t.handledBlocks i = s.handledBlocks i := by
  obtain ⟨rest, hrest⟩ := hwire i
  rw [handledBlocks, handledBlocks, hhandled, ← hrest, List.take_append_of_le_length (h.handled i)]

theorem Counting.of_same (h : Counting density announced s) (hpeers : t.peers = s.peers)
    (hstreams : t.receiver.streams = s.receiver.streams) (hnumFiles : t.receiver.testConfig.numFiles = s.receiver.testConfig.numFiles)
    (hhandled : t.handled = s.handled) (hlength : t.sender.streams.length = s.sender.streams.length)
    (hwire : ∀ i, s.wire i <+: t.wire i) : Counting density announced t := by
  have hblocks := handledBlocks_of_same h hhandled hwire
  have hclosed (i : Nat) : closed density t i = closed density s i := by rw [closed, closed, hblocks]
  refine ⟨?_, ?_, ?_, ?_, fun i => ?_, fun j i stream hpeer hstream => ?_, ?_⟩
  · rw [hpeers]
    exact h.nodup
  · rw [hpeers, hstreams]
    exact h.length
  · rw [hpeers, hlength]
    exact h.bounded
  · rw [hpeers, hhandled]
    exact h.unpeered
  · rw [hhandled]
    exact (h.handled i).trans (hwire i).length_le
  · rw [hpeers] at hpeer
    rw [hstreams] at hstream
    rw [hblocks]
    exact h.writers j i stream hpeer hstream
  · simp only [hnumFiles, hlength, hclosed]
    exact h.numFiles

/-! ### Names -/

theorem Sending.carried (h : Sending senderDisk density queue s) {i : Nat} {stream : FileStream}
    (hstream : s.sender.streams[i]? = some stream) : Carried senderDisk density (s.wire i) (s.filesOf i) :=
  (h.streams i stream hstream).progress.carried

theorem Sending.fetched (h : Sending senderDisk density queue s) : s.fetched.map Prod.snd <+: queue :=
  h.queue ▸ List.prefix_append _ _

/-- Every file that a part of a stream has opened is one that the stream has fetched. -/
theorem names_of_initial {i : Nat} {blocks : List Octets} {a : Assembly Opening UInt8}
    (h : Carried senderDisk density (s.wire i) (s.filesOf i)) (hblocks : blocks <+: s.wire i)
    (ha : assemble (segment density) blocks = some a) :
    (a.keys.map Opening.name).Sublist ((s.filesOf i).map fun file => receivedName file.path) := by
  obtain ⟨id, opened, whole, hopened, hwhole, hbeginning⟩ := h
  have hkeys := (keys_initial hblocks ha hwhole).trans hbeginning.keys
  have hnames := (hkeys.map Opening.name).sublist
  simp only [List.map_map, Function.comp_def, transfer, name_opening] at hnames
  exact hnames.trans (hopened.map _)

theorem nodup_fetched (hnames : (queue.map fun file => receivedName file.path).Nodup)
    (hfetched : s.fetched.map Prod.snd <+: queue) : (s.fetched.map fun entry => receivedName entry.2.path).Nodup := by
  have hnodup := (hfetched.sublist.map fun file => receivedName file.path).nodup hnames
  rwa [List.map_map] at hnodup

theorem nodup_filesOf (hnames : (queue.map fun file => receivedName file.path).Nodup)
    (hfetched : s.fetched.map Prod.snd <+: queue) (i : Nat) :
    ((s.filesOf i).map fun file => receivedName file.path).Nodup := by
  rw [filesOf, List.map_map]
  exact (List.filter_sublist.map _).nodup (nodup_fetched hnames hfetched)

theorem nodup_names (hnames : (queue.map fun file => receivedName file.path).Nodup)
    (hfetched : s.fetched.map Prod.snd <+: queue) {i : Nat} {blocks : List Octets} {a : Assembly Opening UInt8}
    (h : Carried senderDisk density (s.wire i) (s.filesOf i)) (hblocks : blocks <+: s.wire i)
    (ha : assemble (segment density) blocks = some a) : (a.keys.map Opening.name).Nodup :=
  (names_of_initial h hblocks ha).nodup (nodup_filesOf hnames hfetched i)

theorem names_apart (hnames : (queue.map fun file => receivedName file.path).Nodup)
    (hqueue : s.fetched.map Prod.snd <+: queue) {i k : Nat} {first second : List Octets}
    {a b : Assembly Opening UInt8} (hi : Carried senderDisk density (s.wire i) (s.filesOf i))
    (hk : Carried senderDisk density (s.wire k) (s.filesOf k))
    (hfirst : first <+: s.wire i) (hsecond : second <+: s.wire k) (ha : assemble (segment density) first = some a)
    (hb : assemble (segment density) second = some b) {p q : Opening} (hp : p ∈ a.keys) (hq : q ∈ b.keys)
    (heq : p.name = q.name) : i = k := by
  have hfetched {i : Nat} {name : Path} (hname : name ∈ (s.filesOf i).map fun file => receivedName file.path) :
      ∃ entry ∈ s.fetched, entry.1 = i ∧ receivedName entry.2.path = name := by
    rw [filesOf, List.map_map] at hname
    obtain ⟨entry, hentry, hname⟩ := List.mem_map.mp hname
    obtain ⟨hentry, hown⟩ := List.mem_filter.mp hentry
    exact ⟨entry, hentry, by simpa using hown, hname⟩
  obtain ⟨e, he, rfl, hename⟩ := hfetched ((names_of_initial hi hfirst ha).subset (List.mem_map_of_mem hp))
  obtain ⟨e', he', rfl, hename'⟩ := hfetched ((names_of_initial hk hsecond hb).subset (List.mem_map_of_mem hq))
  have hsame := List.inj_on_of_nodup_map (nodup_fetched hnames hqueue) he he' (hename.trans (heq.trans hename'.symm))
  rw [hsame]

/-! ### A block that is handled -/

theorem handledBlocks_initial (s : FileSession) (i : Nat) : s.handledBlocks i <+: s.wire i := List.take_prefix _ _

theorem sum_range_step {first second : Nat → Nat} {i count n : Nat} (hi : i < n) (hown : second i = first i + count)
    (hothers : ∀ k, k ≠ i → second k = first k) :
    ∑ k ∈ Finset.range n, second k = ∑ k ∈ Finset.range n, first k + count := by
  have hmem : i ∈ Finset.range n := Finset.mem_range.mpr hi
  have hrest : ∑ k ∈ (Finset.range n).erase i, second k = ∑ k ∈ (Finset.range n).erase i, first k :=
    Finset.sum_congr rfl fun k hk => hothers k (Finset.ne_of_mem_erase hk)
  rw [← Finset.add_sum_erase _ _ hmem, ← Finset.add_sum_erase _ _ hmem, hown, hrest]
  omega

theorem afterBlock_streams (test : IperfFileTransfer) (j : Nat) (stream : FileStream) (closing : Bool) :
    (afterBlock test j stream closing).streams = test.streams.set j stream := by
  unfold afterBlock
  cases closing <;> simp [finishFile_eq]

theorem afterBlock_numFiles {test : IperfFileTransfer} {total : Nat} (hnumFiles : test.testConfig.numFiles = total)
    (j : Nat) (stream : FileStream) (closing : Bool) :
    (afterBlock test j stream closing).testConfig.numFiles = (total - closing.toNat : Nat) := by
  unfold afterBlock
  cases closing with
  | false => simpa using hnumFiles
  | true =>
    simp only [if_true, finishFile_eq, hnumFiles, Bool.toNat_true]
    omega

/-- The next block of a stream and what it does to the assembly of the stream. -/
theorem next_block {i : Nat} {block : Octets} {a : Assembly Opening UInt8}
    (h : Carried senderDisk density (s.wire i) (s.filesOf i)) (hblock : (s.wire i)[s.handled i]? = some block) (ha : assemble (segment density) (s.handledBlocks i) = some a) :
    s.handledBlocks i ++ [block] <+: s.wire i ∧ ∃ seg b, segment density block = some seg ∧ a.take seg = some b ∧
      assemble (segment density) (s.handledBlocks i ++ [block]) = some b := by
  have hnext : s.handledBlocks i ++ [block] = (s.wire i).take (s.handled i + 1) := by
    rw [List.take_add_one, hblock]
    rfl
  have hinitial : s.handledBlocks i ++ [block] <+: s.wire i := hnext ▸ List.take_prefix _ _
  obtain ⟨_, _, whole, _, hwhole, _⟩ := h
  obtain ⟨b, hb⟩ := assemble_of_initial hinitial hwhole
  obtain ⟨before, seg, hbefore, hsegment, htake⟩ := assemble_concat.mp hb
  obtain rfl := Option.some.inj (ha.symm.trans hbefore)
  exact ⟨hinitial, seg, b, hsegment, htake, hb⟩

/-- The file that a block belongs to is not spoiled by what the block does to the disk, and no other file is. -/
theorem stored_after {opening : Opening} {content : Octets} {written : Option Opening} {disk : Disk} {path : Path}
    {before : Octets} (hname : path ≠ opening.name)
    (hsum : ∀ sum, written = some sum → sum.hasSum = true → path ≠ sum.sumName) (hbefore : disk path = some before) :
    Function.update (writeSum written disk) opening.name (some content) path = some before := by
  rw [Function.update_of_ne hname, writeSum_of_ne hsum, hbefore]

/-- The files of a stream are kept when a block of a file with another name is handled. -/
theorem stored_of_apart {a : Assembly Opening UInt8} {opening : Opening} {content : Octets} {written : Option Opening}
    {disk : Disk} (hstored : ∀ other before, (other, before) ∈ a.messages → disk other.name = some before)
    (hsums : ∀ other ∈ a.keys, ∀ sum, written = some sum → sum.hasSum = true → other.name ≠ sum.sumName)
    (hapart : ∀ other ∈ a.keys, other.name ≠ opening.name) (other : Opening) (before : Octets)
    (hmem : (other, before) ∈ a.messages) :
    Function.update (writeSum written disk) opening.name (some content) other.name = some before := by
  have hkey : other ∈ a.keys := List.mem_map_of_mem hmem
  exact stored_after (hapart other hkey) (hsums other hkey) (hstored other before hmem)

theorem name_ne_of_put {a : Assembly Opening UInt8} {closing : Bool} {opening : Opening} {content : Octets}
    (hdistinct : ((a.put closing (opening, content)).keys.map Opening.name).Nodup) {message : Opening × List UInt8}
    (hmem : message ∈ a.finished) : message.1.name ≠ opening.name := by
  rw [keys, messages_put, List.map_append, List.map_append] at hdistinct
  intro heq
  apply List.disjoint_of_nodup_append hdistinct (List.mem_map_of_mem (List.mem_map_of_mem hmem))
  simp [heq]

/-- The files of a stream are kept, and the last one is extended, when its own next block is handled. -/
theorem stored_put {a : Assembly Opening UInt8} {closing : Bool} {opening : Opening} {content : Octets}
    {written : Option Opening} {disk : Disk}
    (hstored : ∀ other before, (other, before) ∈ a.messages → disk other.name = some before)
    (hsums : ∀ other ∈ a.keys, ∀ sum, written = some sum → sum.hasSum = true → other.name ≠ sum.sumName)
    (hdistinct : ((a.put closing (opening, content)).keys.map Opening.name).Nodup) (other : Opening) (before : Octets)
    (hmem : (other, before) ∈ (a.put closing (opening, content)).messages) :
    Function.update (writeSum written disk) opening.name (some content) other.name = some before := by
  rw [messages_put, List.mem_append, List.mem_singleton] at hmem
  rcases hmem with hbefore | hlast
  · have hmessage : (other, before) ∈ a.messages := List.mem_append_left _ hbefore
    exact stored_after (name_ne_of_put hdistinct hbefore) (hsums other (List.mem_map_of_mem hmessage))
      (hstored other before hmessage)
  · obtain ⟨rfl, rfl⟩ := Prod.mk.inj hlast
    exact Function.update_self ..

theorem handledBlocks_deliver {i : Nat} {block : Octets} {receiver : IperfFileTransfer} {disk : Disk}
    (hblock : (s.wire i)[s.handled i]? = some block) (ht : t = { s with
      receiver := receiver, disk := disk, handled := Function.update s.handled i (s.handled i + 1) }) :
    t.handledBlocks i = s.handledBlocks i ++ [block] ∧ ∀ k, k ≠ i → t.handledBlocks k = s.handledBlocks k := by
  constructor
  · rw [ht, handledBlocks]
    dsimp only
    rw [Function.update_self, List.take_add_one, hblock]
    rfl
  · intro k hk
    rw [ht, handledBlocks]
    dsimp only
    rw [Function.update_of_ne hk]
    rfl

/-- What handling the next block of a stream does: the assembler of the stream takes a segment, and the receiver does the same. -/
structure Taken (density : Density) (s t : FileSession) (j i : Nat) (block : Octets) (a b : Assembly Opening UInt8)
    (seg : Segment Opening UInt8) (x : FileStream) : Prop where
  peer : s.peers[j]? = some i
  sent : (s.wire i)[s.handled i]? = some block
  read : segment density block = some seg
  before : assemble (segment density) (s.handledBlocks i) = some a
  take : a.take seg = some b
  after : assemble (segment density) (s.handledBlocks i ++ [block]) = some b
  initial : s.handledBlocks i ++ [block] <+: s.wire i
  writer : x.fileWriter = writerOf b.current
  next : t = { s with
    receiver := afterBlock s.receiver j x seg.closing
    disk := t.disk
    handled := Function.update s.handled i (s.handled i + 1) }

theorem deliver_taken (hcarried : ∀ i < s.sender.streams.length, Carried senderDisk density (s.wire i) (s.filesOf i))
    (h : Counting density announced s) {j : Nat} (hstep : deliver density s j {} = some t) :
    ∃ i block a b seg x, Taken density s t j i block a b seg x ∧ ∃ opening content,
      b = a.put seg.closing (opening, content) ∧
        ((∀ opening content, a.current = some (opening, content) → s.disk opening.name = some content) →
          t.disk = Function.update (writeSum seg.opening s.disk) opening.name (some content)) := by
  obtain ⟨i, block, receiver, disk, hpeer, hblock, hhandle, ht⟩ := deliver_inv hstep
  have hi : i < s.sender.streams.length := h.bounded i (List.mem_of_getElem? hpeer)
  have hreceiver := List.getElem?_eq_getElem (h.length ▸ (List.getElem?_eq_some_iff.mp hpeer).1)
  obtain ⟨a, ha, hwriter⟩ := h.writers j i _ hpeer hreceiver
  obtain ⟨hinitial, seg, b, hsegment, htake, hb⟩ := next_block (hcarried i hi) hblock ha
  obtain ⟨x, opening, content, after, hx, hput, htaken, hafter⟩ :=
    handleReceivedFileData_take s.disk hreceiver hsegment htake hwriter
  obtain ⟨rfl, rfl⟩ := Prod.mk.inj (Except.ok.inj (hhandle.symm.trans htaken))
  refine ⟨i, block, a, b, seg, x, ⟨hpeer, hblock, hsegment, ha, htake, hb, hinitial, hx, ?_⟩, opening, content, hput, ?_⟩
  · rw [ht]
  · rw [ht]
    exact hafter

namespace Taken

variable {j i : Nat} {block : Octets} {a b : Assembly Opening UInt8} {seg : Segment Opening UInt8} {x : FileStream}

theorem handledBlocks (h : Taken density s t j i block a b seg x) :
    t.handledBlocks i = s.handledBlocks i ++ [block] ∧ ∀ k, k ≠ i → t.handledBlocks k = s.handledBlocks k :=
  handledBlocks_deliver h.sent h.next

theorem streams (h : Taken density s t j i block a b seg x) : t.receiver.streams = s.receiver.streams.set j x := by
  rw [h.next, afterBlock_streams]

theorem mem_peers (h : Taken density s t j i block a b seg x) : i ∈ s.peers := List.mem_of_getElem? h.peer

theorem numFiles (h : Taken density s t j i block a b seg x) (hcount : Counting density announced s) :
    t.receiver.testConfig.numFiles
      = (announced - ∑ k ∈ Finset.range t.sender.streams.length, closed density t k : Nat) := by
  obtain ⟨hown, hothers⟩ := h.handledBlocks
  have hclosed : closed density t i = closed density s i + seg.closing.toNat := by
    simp only [closed, hown, h.before, h.after, Option.map_some, Option.getD_some]
    exact finished_take h.take
  have hsum := sum_range_step (hcount.bounded i h.mem_peers) hclosed fun k hk =>
    show closed density t k = closed density s k by rw [closed, closed, hothers k hk]
  have hlength : t.sender.streams.length = s.sender.streams.length := by rw [h.next]
  have hreceived : t.receiver = afterBlock s.receiver j x seg.closing := by rw [h.next]
  rw [hlength, hsum, hreceived, afterBlock_numFiles hcount.numFiles]
  omega

theorem counting (h : Taken density s t j i block a b seg x) (hcount : Counting density announced s) :
    Counting density announced t := by
  obtain ⟨hown, hothers⟩ := h.handledBlocks
  have hreceiver := List.getElem?_eq_getElem (hcount.length ▸ (List.getElem?_eq_some_iff.mp h.peer).1)
  have hpeers : t.peers = s.peers := by rw [h.next]
  have hhandled : t.handled = Function.update s.handled i (s.handled i + 1) := by rw [h.next]
  refine ⟨?_, ?_, ?_, fun k hk => ?_, fun k => ?_, fun j' k stream hpeer hstream => ?_, h.numFiles hcount⟩
  · rw [hpeers]
    exact hcount.nodup
  · rw [hpeers, h.streams, List.length_set]
    exact hcount.length
  · rw [h.next]
    exact hcount.bounded
  · rw [hpeers] at hk
    have hne : k ≠ i := fun heq => hk (heq ▸ h.mem_peers)
    rw [hhandled, Function.update_of_ne hne]
    exact hcount.unpeered k hk
  · have hwire : t.wire = s.wire := by rw [h.next]
    rw [hhandled, hwire]
    by_cases hk : k = i
    · subst hk
      rw [Function.update_self]
      exact (List.getElem?_eq_some_iff.mp h.sent).1
    · rw [Function.update_of_ne hk]
      exact hcount.handled k
  · rw [hpeers] at hpeer
    rw [h.streams] at hstream
    rcases getElem?_set_cases hreceiver hstream with ⟨rfl, rfl⟩ | ⟨hne, hstream⟩
    · obtain rfl := Option.some.inj (h.peer.symm.trans hpeer)
      exact ⟨b, hown ▸ h.after, h.writer⟩
    · have hki : k ≠ i := by
        rintro rfl
        exact hne ((List.getElem?_inj (List.getElem?_eq_some_iff.mp hpeer).1 hcount.nodup).mp (hpeer.trans h.peer.symm))
      obtain ⟨c, hc, hwriter⟩ := hcount.writers j' k stream hpeer hstream
      exact ⟨c, hothers k hki ▸ hc, hwriter⟩

/-- No file that is already there has the name of a checksum that the block writes. -/
theorem sums_apart (h : Taken density s t j i block a b seg x) (hapart : s.SumsApart j) {k : Nat} (hk : k ∈ s.peers)
    {c : Assembly Opening UInt8} (hc : assemble (segment density) (s.handledBlocks k) = some c) {earlier : Opening}
    (hearlier : earlier ∈ c.keys) (sum : Opening) (hsum : seg.opening = some sum) (hhas : sum.hasSum = true) :
    earlier.name ≠ sum.sumName := by
  rw [opening_of_segment h.read] at hsum
  rw [keys_segment hc] at hearlier
  exact hapart i h.peer block h.sent sum hsum hhas k hk earlier hearlier

end Taken

theorem receiving_deliver (hnames : (queue.map fun file => receivedName file.path).Nodup)
    (hsending : Sending senderDisk density queue s) (h : Receiving density announced s) {j : Nat}
    (hapart : s.SumsApart j) (hstep : deliver density s j {} = some t) : Receiving density announced t := by
  have hcarried (k : Nat) (hk : k < s.sender.streams.length) : Carried senderDisk density (s.wire k) (s.filesOf k) :=
    hsending.carried (List.getElem?_eq_getElem hk)
  obtain ⟨i, block, a, b, seg, x, htaken, opening, content, hput, hafter⟩ := deliver_taken hcarried h.toCounting hstep
  obtain ⟨hown, hothers⟩ := htaken.handledBlocks
  have hi := h.bounded i htaken.mem_peers
  have hstored := h.stored i htaken.mem_peers a htaken.before
  have hdisk := hafter fun opening content hopen => hstored opening content (by simp [messages, hopen])
  have hopened : opening ∈ b.keys := by
    rw [hput, keys, messages_put]
    simp
  refine ⟨htaken.counting h.toCounting, fun k hk c hc => ?_⟩
  have hpeers : t.peers = s.peers := by rw [htaken.next]
  rw [hpeers] at hk
  rw [hdisk]
  by_cases hki : k = i
  · subst hki
    rw [hown] at hc
    obtain rfl := Option.some.inj (htaken.after.symm.trans hc)
    have hdistinct := nodup_names hnames hsending.fetched (hcarried k hi) htaken.initial htaken.after
    rw [hput] at hdistinct ⊢
    exact stored_put hstored (fun _ => htaken.sums_apart hapart hk htaken.before) hdistinct
  · rw [hothers k hki] at hc
    refine stored_of_apart (h.stored k hk c hc) (fun _ => htaken.sums_apart hapart hk hc) fun other hkey heq => hki ?_
    exact names_apart hnames hsending.fetched (hcarried k (h.bounded k hk)) (hcarried i hi) (handledBlocks_initial s k)
      htaken.initial hc htaken.after hkey hopened heq

/-! ### Every other step -/

theorem counting_accept {i : Nat} (h : Counting density announced s) (hstep : s.accept i = some t) :
    Counting density announced t := by
  obtain ⟨hi, hnew, rfl⟩ := accept_inv hstep
  have hnothing : s.handledBlocks i = [] := by rw [handledBlocks, h.unpeered i hnew, List.take_zero]
  refine ⟨?_, ?_, fun k hk => ?_, fun k hk => ?_, h.handled, fun j k stream hpeer hstream => ?_, h.numFiles⟩
  · exact List.nodup_append.mpr ⟨h.nodup, List.nodup_singleton i, fun k hk other hother => by
      obtain rfl := List.mem_singleton.mp hother
      exact fun heq => hnew (heq ▸ hk)⟩
  · simp [dataListenCallback, h.length]
  · rcases List.mem_append.mp hk with hk | hk
    · exact h.bounded k hk
    · obtain rfl := List.mem_singleton.mp hk
      exact hi
  · exact h.unpeered k fun hmem => hk (List.mem_append_left _ hmem)
  · dsimp only at hpeer hstream
    by_cases hj : j < s.peers.length
    · rw [List.getElem?_append_left hj] at hpeer
      rw [dataListenCallback, List.getElem?_append_left (h.length ▸ hj)] at hstream
      exact h.writers j k stream hpeer hstream
    · rw [List.getElem?_append_right (by omega)] at hpeer
      rw [dataListenCallback, List.getElem?_append_right (by rw [← h.length]; omega)] at hstream
      obtain rfl := List.mem_singleton.mp (List.mem_of_getElem? hpeer)
      obtain rfl := List.mem_singleton.mp (List.mem_of_getElem? hstream)
      exact ⟨{}, (congrArg (assemble (segment density)) hnothing).trans rfl, rfl⟩

theorem counting_receiverEvent {j : Nat} {event : ConnEvent} {receiver : IperfFileTransfer}
    (h : Counting density announced s) (hevent : s.receiver.connectionCallback j event = .ok receiver) :
    Counting density announced { s with receiver := receiver } := by
  rcases connectionCallback_cases hevent with ⟨stream, changed, hstream, hchanged, rfl⟩ | ⟨rfl, _⟩ | ⟨rfl, _⟩
  · refine ⟨h.nodup, by simpa using h.length, h.bounded, h.unpeered, h.handled, fun k i x hpeer hx => ?_, h.numFiles⟩
    rcases getElem?_set_cases hstream hx with ⟨rfl, rfl⟩ | ⟨_, hx⟩
    · obtain ⟨a, ha, hwriter⟩ := h.writers k i stream hpeer hstream
      exact ⟨a, ha, (streamEvent_notified hchanged).fileWriter.trans hwriter⟩
    · exact h.writers k i x hpeer hx
  · exact h.of_same rfl rfl rfl rfl rfl fun _ => List.prefix_refl _
  · exact h.of_same rfl rfl rfl rfl rfl fun _ => List.prefix_refl _

/-- No step but the handling of a block touches the disk, the blocks that were handled, or the count. -/
theorem counting_other (h : Counting density announced s) {a : Action} (hquiet : Quiet a)
    (hdeliver : ∀ j answers, a ≠ .deliver j answers) (hstep : (machine senderDisk density).step s a = some t) :
    Counting density announced t ∧ t.disk = s.disk ∧ (∀ i, t.handledBlocks i = s.handledBlocks i) ∧
      ∀ i ∈ t.peers, i ∈ s.peers ∨ t.handledBlocks i = [] := by
  have hrefl (i : Nat) : s.wire i <+: s.wire i := List.prefix_refl _
  cases a with
  | event i event =>
    obtain ⟨_, sender, hcallback, rfl⟩ := event_inv hstep
    refine ⟨h.of_same rfl rfl rfl rfl ?_ hrefl, rfl, fun _ => rfl, fun _ => .inl⟩
    rcases connectionCallback_cases hcallback with ⟨_, _, _, _, rfl⟩ | ⟨rfl, _⟩ | ⟨rfl, _⟩ <;> simp
  | thread i answers =>
    obtain ⟨stream, result, _, _, rfl⟩ := thread_inv hstep
    have hwire (k : Nat) : s.wire k <+: Function.update s.wire i (s.wire i ++ result.accepted.toList) k := by
      by_cases hk : k = i
      · subst hk
        rw [Function.update_self]
        exact List.prefix_append _ _
      · rw [Function.update_of_ne hk]
    exact ⟨h.of_same rfl rfl rfl rfl (by simp) hwire, rfl, handledBlocks_of_same h rfl hwire, fun _ => .inl⟩
  | poll =>
    obtain rfl := Option.some.inj hstep
    refine ⟨h.of_same rfl rfl rfl rfl ?_ hrefl, rfl, fun _ => rfl, fun _ => .inl⟩
    exact congrArg List.length (isStreamDone_streams s.sender)
  | stop | clearStreams => exact absurd hquiet (by simp [Quiet])
  | accept i =>
    refine ⟨counting_accept h hstep, ?_⟩
    obtain ⟨_, hnew, rfl⟩ := accept_inv hstep
    refine ⟨rfl, fun _ => rfl, fun k hk => ?_⟩
    rcases List.mem_append.mp hk with hk | hk
    · exact .inl hk
    · obtain rfl := List.mem_singleton.mp hk
      exact .inr (show s.handledBlocks k = [] by rw [handledBlocks, h.unpeered k hnew, List.take_zero])
  | receiverEvent j event =>
    obtain ⟨receiver, hevent, rfl⟩ := Option.map_eq_some_iff.mp hstep
    exact ⟨counting_receiverEvent h (Fault.toOption_eq_some.mp hevent), rfl, fun _ => rfl, fun _ => .inl⟩
  | deliver j answers => exact absurd rfl (hdeliver j answers)
  | receiverPoll =>
    obtain rfl := Option.some.inj hstep
    refine ⟨h.of_same rfl (isStreamDone_streams s.receiver) ?_ rfl rfl hrefl, rfl, fun _ => rfl, fun _ => .inl⟩
    exact congrArg TestConfig.numFiles (isStreamDone_testConfig s.receiver)

theorem counting_step (hcarried : ∀ i < s.sender.streams.length, Carried senderDisk density (s.wire i) (s.filesOf i))
    (h : Counting density announced s) {a : Action} (hquiet : Quiet a) (hstep : (machine senderDisk density).step s a = some t) : Counting density announced t := by
  by_cases hdeliver : ∃ j answers, a = .deliver j answers
  · obtain ⟨j, answers, rfl⟩ := hdeliver
    obtain rfl : answers = {} := hquiet
    obtain ⟨_, _, _, _, _, _, htaken, _⟩ := deliver_taken hcarried h hstep
    exact htaken.counting h
  · exact (counting_other h hquiet (fun j answers heq => hdeliver ⟨j, answers, heq⟩) hstep).1

theorem receiving_step (hnames : (queue.map fun file => receivedName file.path).Nodup)
    (hsending : Sending senderDisk density queue s) (h : Receiving density announced s) {a : Action}
    (hallowed : s.Allowed a) (hstep : (machine senderDisk density).step s a = some t) : Receiving density announced t := by
  by_cases hdeliver : ∃ j answers, a = .deliver j answers
  · obtain ⟨j, answers, rfl⟩ := hdeliver
    obtain rfl : answers = {} := hallowed.1
    exact receiving_deliver hnames hsending h (hallowed.2 j {} rfl) hstep
  · obtain ⟨hcounting, hdisk, hblocks, hpeers⟩ :=
      counting_other h.toCounting hallowed.1 (fun j answers heq => hdeliver ⟨j, answers, heq⟩) hstep
    refine ⟨hcounting, fun i hi a ha opening content hmem => ?_⟩
    rw [hdisk]
    rcases hpeers i hi with hbefore | hnothing
    · rw [hblocks] at ha
      exact h.stored i hbefore a ha opening content hmem
    · rw [hnothing, assemble_nil] at ha
      obtain rfl := Option.some.inj ha
      exact absurd hmem (by simp [messages])

structure Transferring (senderDisk : Disk) (density : Density) (queue : List File) (announced : Nat) (s : FileSession) :
    Prop where
  sending : Sending senderDisk density queue s
  receiving : Receiving density announced s

theorem transferring_step (hlawful : density.Lawful) (hsendable : ∀ file ∈ queue, Sendable senderDisk file)
    (hnames : (queue.map fun file => receivedName file.path).Nodup) {a : Action}
    (h : Transferring senderDisk density queue announced s) (hallowed : s.Allowed a)
    (hstep : (machine senderDisk density).step s a = some t) : Transferring senderDisk density queue announced t where
  sending := sending_step hlawful hsendable h.sending hallowed.1 hstep
  receiving := receiving_step hnames h.sending h.receiving hallowed hstep

end

/-! ### The start -/

def queue (senderDisk : Disk) (config : TestConfig) : List File := uniqueFiles senderDisk 0 [] config.files

/-- A file of the queue can be sent, unless it is empty or has 2^31 bytes or more. -/
theorem sendable_of_size {senderDisk : Disk} {config : TestConfig} {file : File} (hcount : config.files.length ≤ 10)
    (hfile : file ∈ queue senderDisk config) (hpos : 0 < (content senderDisk file).length)
    (hshort : (content senderDisk file).length < 2 ^ 31) : Sendable senderDisk file := by
  obtain ⟨_, hid, found, hfound, hsize⟩ := mem_uniqueFiles hfile
  have hcontent : content senderDisk file = found := by rw [content, hfound, Option.getD_some]
  rw [hcontent] at hpos hshort
  refine ⟨hcontent ▸ hfound, ?_, ?_, hcontent ▸ hshort, by omega⟩
  · rw [hsize, hcontent, Narrowing.signed_of_lt (by omega) (by omega)]
  · rw [hcontent]
    exact List.length_pos_iff.mp hpos

theorem receiver_start {senderDisk : Disk} {config serverConfig : TestConfig} {testId : UInt32} {available : Option Nat}
    {disk : Disk} {s : FileSession} (hstart : start senderDisk config serverConfig testId available disk = .ok s)
    (haccepted : denied senderDisk config testId available = false) :
    s.receiver = takeOver (responder serverConfig testId) (requester senderDisk config testId).testConfig
      (requester senderDisk config testId).requestHeader.param0 := by
  rw [(start_cases hstart).1]
  simp [answered, haccepted]

theorem numFiles_start {senderDisk : Disk} {config serverConfig : TestConfig} {testId : UInt32} {available : Option Nat}
    {disk : Disk} {s : FileSession} (hstart : start senderDisk config serverConfig testId available disk = .ok s)
    (haccepted : denied senderDisk config testId available = false) (hcount : config.files.length ≤ 10) :
    s.receiver.testConfig.numFiles = config.files.length := by
  have hparam : (requester senderDisk config testId).requestHeader.param0.toNat = config.files.length :=
    UInt32.toNat_ofNat_of_lt' (show config.files.length < 2 ^ 32 by omega)
  rw [receiver_start hstart haccepted]
  simp only [takeOver, receiverConfig]
  rw [hparam, Narrowing.signed_of_lt (by omega) (by omega)]

theorem ghosts_start {senderDisk : Disk} {config serverConfig : TestConfig} {testId : UInt32} {available : Option Nat}
    {disk : Disk} {s : FileSession} (hstart : start senderDisk config serverConfig testId available disk = .ok s) :
    s.fetched = [] ∧ s.wire = (fun _ => []) ∧ s.peers = [] ∧ s.handled = fun _ => 0 := by
  rw [(start_cases hstart).1]
  exact ⟨rfl, rfl, rfl, rfl⟩

theorem sender_start {senderDisk : Disk} {config serverConfig : TestConfig} {testId : UInt32} {available : Option Nat}
    {disk : Disk} {s : FileSession} (hstart : start senderDisk config serverConfig testId available disk = .ok s)
    (haccepted : denied senderDisk config testId available = false) : s.sender = opened senderDisk config testId := by
  have hsender := (start_cases hstart).2
  rwa [haccepted, if_neg Bool.false_ne_true] at hsender

theorem sending_start {senderDisk : Disk} {density : Density} {config serverConfig : TestConfig} {testId : UInt32}
    {available : Option Nat} {disk : Disk} {s : FileSession}
    (hstart : start senderDisk config serverConfig testId available disk = .ok s)
    (haccepted : denied senderDisk config testId available = false) (hstreams : 1 ≤ config.numStreams) :
    Sending senderDisk density (queue senderDisk config) s := by
  have hsender := sender_start hstart haccepted
  obtain ⟨hfetched, hwire, _, _⟩ := ghosts_start hstart
  refine ⟨?_, ?_, ?_, ?_, ?_, fun i stream hstream => ?_⟩
  · rw [IsFileSender, hsender]
    rfl
  · rw [hsender]
    simp [opened]
    omega
  · rw [hfetched, hsender]
    rfl
  · simp [hfetched]
  · rw [hsender]
    exact fun hdone => TestState.noConfusion hdone
  · have hfiles : s.filesOf i = [] := by rw [filesOf, hfetched]; rfl
    rw [hsender] at hstream
    obtain ⟨id, _, rfl⟩ := Option.map_eq_some_iff.mp (List.getElem?_map .. ▸ hstream)
    refine ⟨rfl, by simp, by simp, fun h => absurd rfl h, ThreadPoint.noConfusion,
      fun h => absurd h Bool.false_ne_true, fun h => ?_, ?_⟩
    · rcases h with h | h <;> exact ThreadPoint.noConfusion h
    · rw [hwire, hfiles]
      exact .idle rfl rfl

theorem counting_start {senderDisk : Disk} {density : Density} {config serverConfig : TestConfig} {testId : UInt32}
    {available : Option Nat} {disk : Disk} {s : FileSession}
    (hstart : start senderDisk config serverConfig testId available disk = .ok s)
    (haccepted : denied senderDisk config testId available = false) (hcount : config.files.length ≤ 10) :
    Counting density config.files.length s := by
  have hreceiver := receiver_start hstart haccepted
  have hnumFiles := numFiles_start hstart haccepted hcount
  obtain ⟨_, hwire, hpeers, hhandled⟩ := ghosts_start hstart
  have hclosed (i : Nat) : closed density s i = 0 := by
    rw [closed, handledBlocks, hwire, List.take_nil, assemble_nil]
    rfl
  refine ⟨?_, ?_, ?_, ?_, ?_, ?_, ?_⟩
  · simp [hpeers]
  · rw [hpeers, hreceiver]
    rfl
  · simp [hpeers]
  · simp [hhandled]
  · simp [hhandled]
  · intro j i stream hpeer
    rw [hpeers] at hpeer
    exact absurd hpeer (by simp)
  · simp [hclosed, hnumFiles]

theorem transferring_start {senderDisk : Disk} {density : Density} {config serverConfig : TestConfig} {testId : UInt32}
    {available : Option Nat} {disk : Disk} {s : FileSession}
    (hstart : start senderDisk config serverConfig testId available disk = .ok s)
    (haccepted : denied senderDisk config testId available = false) (hcount : config.files.length ≤ 10)
    (hstreams : 1 ≤ config.numStreams) :
    Transferring senderDisk density (queue senderDisk config) config.files.length s where
  sending := sending_start hstart haccepted hstreams
  receiving :=
    { counting_start hstart haccepted hcount with
      stored := fun i hi => by
        rw [(ghosts_start hstart).2.2.1] at hi
        exact absurd hi List.not_mem_nil }

/-! ### All files -/

theorem sum_filesOf {fetched : List (Nat × File)} {n : Nat} (hbounded : ∀ entry ∈ fetched, entry.1 < n) :
    ∑ i ∈ Finset.range n, ((fetched.filter fun entry => entry.1 == i).map Prod.snd).length = fetched.length := by
  induction fetched with
  | nil => simp
  | cons entry fetched ih =>
    rw [List.length_cons, ← ih fun other hother => hbounded other (List.mem_cons_of_mem _ hother)]
    apply sum_range_step (hbounded entry List.mem_cons_self)
    · simp
    · intro k hk
      simp [Ne.symm hk]

structure Delivered (senderDisk : Disk) (density : Density) (config : TestConfig) (s : FileSession) : Prop where
  /-- Every file in the queue was fetched by one stream. -/
  fetched : s.fetched.map Prod.snd = queue senderDisk config
  /-- What a stream has fetched is what it has sent: for each file a block that opens it, blocks that continue it and a block that closes it, the last one. -/
  whole : ∀ (i : Nat) (stream : FileStream), s.sender.streams[i]? = some stream → ∃ groups, s.wire i = groups.flatten ∧
    List.Forall₂ (Spans (segment density) true) groups ((s.filesOf i).map (transfer senderDisk stream.id))
  identical : ∀ file ∈ queue senderDisk config, s.disk (receivedName file.path) = senderDisk file.path
  /-- The receiver has counted every file once. -/
  numFiles : s.receiver.testConfig.numFiles = (config.files.length - (queue senderDisk config).length : Nat)

theorem delivered_of_handled {senderDisk : Disk} {density : Density} {config : TestConfig} {s : FileSession}
    (hsendable : ∀ file ∈ queue senderDisk config, Sendable senderDisk file)
    (h : Transferring senderDisk density (queue senderDisk config) config.files.length s)
    (hended : ∀ stream ∈ s.sender.streams, stream.thread = .finished ∨ stream.thread = .aborted)
    (hhandled : ∀ i < s.sender.streams.length, s.handled i = (s.wire i).length) :
    Delivered senderDisk density config s := by
  have hfinished (i : Nat) (stream : FileStream) (hstream : s.sender.streams[i]? = some stream) :
      stream.thread = .finished := by
    rcases hended stream (List.mem_of_getElem? hstream) with hfinished | haborted
    · exact hfinished
    · exact absurd haborted (h.sending.streams i stream hstream).notAborted
  have hwire (i : Nat) (stream : FileStream) (hstream : s.sender.streams[i]? = some stream) :
      assemble (segment density) (s.wire i) = some { finished := (s.filesOf i).map (transfer senderDisk stream.id) } := by
    apply (h.sending.streams i stream hstream).progress.idle_inv
    rw [hfinished i stream hstream]
    rfl
  have hblocks (i : Nat) (hi : i < s.sender.streams.length) : s.handledBlocks i = s.wire i := by
    rw [handledBlocks, hhandled i hi, List.take_length]
  have hfetched : s.fetched.map Prod.snd = queue senderDisk config := by
    obtain ⟨stream, hstream⟩ := List.exists_mem_of_ne_nil _ h.sending.nonempty
    obtain ⟨i, hi⟩ := List.mem_iff_getElem?.mp hstream
    have hdrained := (h.sending.streams i stream hi).drained (.inr (hfinished i stream hi))
    have hqueue := h.sending.queue
    rwa [hdrained, List.append_nil] at hqueue
  refine ⟨hfetched, fun i stream hstream => ?_, fun file hfile => ?_, ?_⟩
  · obtain ⟨groups, tail, hgroups, hspans, hidle, _⟩ := assemble_spans (hwire i stream hstream)
    rw [hidle rfl, List.append_nil] at hgroups
    exact ⟨groups, hgroups, hspans⟩
  · rw [← hfetched] at hfile
    obtain ⟨entry, hentry, rfl⟩ := List.mem_map.mp hfile
    have hi := h.sending.bounded entry hentry
    have hstream := List.getElem?_eq_getElem hi
    have hown : entry.2 ∈ s.filesOf entry.1 := List.mem_map_of_mem (List.mem_filter.mpr ⟨hentry, by simp⟩)
    -- the stream was accepted, since its blocks were handled
    have hpeer : entry.1 ∈ s.peers := by
      by_contra hno
      have hnothing := h.receiving.unpeered entry.1 hno
      rw [hhandled entry.1 hi] at hnothing
      have hempty := hwire entry.1 _ hstream
      rw [List.length_eq_zero_iff.mp hnothing] at hempty
      have hnone := congrArg Assembly.finished (Option.some.inj hempty)
      rw [List.map_eq_nil_iff.mp hnone.symm] at hown
      exact List.not_mem_nil hown
    have hstored := h.receiving.stored entry.1 hpeer
    rw [hblocks entry.1 hi] at hstored
    have hdisk := hstored _ (hwire entry.1 _ hstream) (opening senderDisk _ entry.2) (content senderDisk entry.2)
      (List.mem_append_left _ (List.mem_map_of_mem hown))
    rw [name_opening] at hdisk
    rw [hdisk, (hsendable entry.2 (hfetched ▸ hfile)).readable]
  · have hclosed : ∑ i ∈ Finset.range s.sender.streams.length, closed density s i = (queue senderDisk config).length := by
      rw [← hfetched, List.length_map, ← sum_filesOf h.sending.bounded]
      apply Finset.sum_congr rfl
      intro i hi
      have hi := Finset.mem_range.mp hi
      rw [closed, hblocks i hi, hwire i _ (List.getElem?_eq_getElem hi)]
      simp [filesOf]
    rw [h.receiving.numFiles, hclosed]

/-- No step that is due faults: the receiver can handle the next block of every stream, and a thread takes its step or waits. -/
structure Unfailing (senderDisk : Disk) (density : Density) (s : FileSession) : Prop where
  handles : ∀ j i, s.peers[j]? = some i → s.handled i < (s.wire i).length → (deliver density s j {}).isSome
  runs : ∀ (stream : FileStream) (answers : ThreadAnswers), stream ∈ s.sender.streams → answers.reads = true →
    (∃ result, threadStep senderDisk density s.sender stream answers = .ok result) ∨
      threadStep senderDisk density s.sender stream answers = .error .noProgress

theorem Transferring.unfailing {senderDisk : Disk} {density : Density} {queue : List File} {announced : Nat}
    {s : FileSession} (h : Transferring senderDisk density queue announced s) : Unfailing senderDisk density s where
  handles := fun j i hpeer hhandled => by
    have hsender := List.getElem?_eq_getElem (h.receiving.bounded i (List.mem_of_getElem? hpeer))
    have hreceiver := List.getElem?_eq_getElem (h.receiving.length ▸ (List.getElem?_eq_some_iff.mp hpeer).1)
    have hblock := List.getElem?_eq_getElem hhandled
    obtain ⟨a, ha, hwriter⟩ := h.receiving.writers j i _ hpeer hreceiver
    obtain ⟨_, seg, b, hsegment, htake, _⟩ := next_block (h.sending.carried hsender) hblock ha
    obtain ⟨x, _, _, after, _, _, htaken, _⟩ := handleReceivedFileData_take s.disk hreceiver hsegment htake hwriter
    simp only [deliver, hpeer, hblock, htaken, Option.bind_eq_bind, Option.bind_some]
    rfl
  runs := fun stream answers hstream hreads => by
    obtain ⟨i, hi⟩ := List.mem_iff_getElem?.mp hstream
    exact threadStep_runs (untroubled_of_sound h.sending hi)
      (fun hstarted => ((h.sending.streams i stream hi).connected hstarted).2) hreads

/-- In a quiet run that keeps the checksums apart from the received files no step faults, and when every thread has ended and every block is handled, every file has arrived. -/
theorem files_delivered {senderDisk : Disk} {density : Density} {config serverConfig : TestConfig} {testId : UInt32}
    {available : Option Nat} {disk : Disk} {s t : FileSession} {acts : List Action} (hlawful : density.Lawful)
    (hcount : config.files.length ≤ 10)
    (hsizes : ∀ file ∈ queue senderDisk config,
      0 < (content senderDisk file).length ∧ (content senderDisk file).length < 2 ^ 31)
    (hnames : ((queue senderDisk config).map fun file => receivedName file.path).Nodup)
    (hstreams : 1 ≤ config.numStreams)
    (hstart : start senderDisk config serverConfig testId available disk = .ok s)
    (haccepted : denied senderDisk config testId available = false)
    (hallowed : (machine senderDisk density).Respects Allowed s acts)
    (hrun : (machine senderDisk density).run s acts = some t) :
    Unfailing senderDisk density t ∧
      ((∀ stream ∈ t.sender.streams, stream.thread = .finished ∨ stream.thread = .aborted) →
        (∀ i < t.sender.streams.length, t.handled i = (t.wire i).length) → Delivered senderDisk density config t) := by
  have hsendable (file : File) (hfile : file ∈ queue senderDisk config) : Sendable senderDisk file :=
    sendable_of_size hcount hfile (hsizes file hfile).1 (hsizes file hfile).2
  have hall : Transferring senderDisk density (queue senderDisk config) config.files.length t :=
    Machine.run_invariant (fun _ _ _ => transferring_step hlawful hsendable hnames)
      (transferring_start hstart haccepted hcount hstreams) hallowed hrun
  exact ⟨hall.unfailing, delivered_of_handled hsendable hall⟩

instance (s : FileSession) (j : Nat) : Decidable (s.SumsApart j) := by
  unfold SumsApart
  infer_instance

/-- A step is checked by what it is. -/
instance (s : FileSession) (a : Action) : Decidable (s.Allowed a) :=
  match a with
  | .deliver j answers =>
    decidable_of_iff (Quiet (.deliver j answers) ∧ s.SumsApart j)
      ⟨fun h => ⟨h.1, fun _ _ heq => (Action.deliver.inj heq).1 ▸ h.2⟩, fun h => ⟨h.1, h.2 j answers rfl⟩⟩
  | .event .. | .thread .. | .poll | .stop | .clearStreams | .accept _ | .receiverEvent .. | .receiverPoll =>
    decidable_of_iff (Quiet _) ⟨fun h => ⟨h, fun _ _ heq => Action.noConfusion heq⟩, And.left⟩

/-- Two files, one of them with a checksum of 64 bytes next to it. -/
def sumDisk : Disk := fun path =>
  if path = ofText "a.sha256sum" then some [1, 2]
  else if path = ofText "a.txt" then some [3]
  else if path = ofText "a.txt.sha256sum" then some (List.replicate 64 4)
  else none

def sumConfig (files : List Path) : TestConfig := { protocol := 1, numStreams := 1, files := files }

def sumStart (files : List Path) : Except Fault FileSession := start sumDisk (sumConfig files) {} 7 none fun _ => none

/-- The stream sends both files, and the receiver handles both blocks. -/
def sendsBoth : List Action :=
  .event 0 (.established 4096) :: .accept 0 :: List.replicate 24 (.thread 0 {}) ++ [.deliver 0 {}, .deliver 0 {}]

/-- Every thread has ended and every block is handled. -/
def allHandled (s : FileSession) : Bool :=
  s.sender.streams.all (fun stream => stream.thread == .finished) &&
    (List.range s.sender.streams.length).all fun i => s.handled i == (s.wire i).length

theorem files_delivered_sum :
    ∃ s t, sumStart [ofText "a.txt", ofText "a.sha256sum"] = .ok s ∧
      (machine sumDisk .failing).run s sendsBoth = some t ∧
      Delivered sumDisk .failing (sumConfig [ofText "a.txt", ofText "a.sha256sum"]) t := by
  have hchecked : (sumStart [ofText "a.txt", ofText "a.sha256sum"]).toOption.bind (fun s =>
      ((machine sumDisk .failing).run s sendsBoth).map fun t =>
        (decide ((machine sumDisk .failing).Respects Allowed s sendsBoth), t.allHandled)) = some (true, true) := by
    decide +kernel
  obtain ⟨s, hstart, hchecked⟩ := Option.bind_eq_some_iff.mp hchecked
  obtain ⟨t, hrun, hchecked⟩ := Option.map_eq_some_iff.mp hchecked
  simp only [Prod.mk.injEq, decide_eq_true_eq, allHandled, Bool.and_eq_true, List.all_eq_true, beq_iff_eq,
    List.mem_range] at hchecked
  have hstart := Fault.toOption_eq_some.mp hstart
  have hsizes : ∀ file ∈ queue sumDisk (sumConfig [ofText "a.txt", ofText "a.sha256sum"]),
      0 < (content sumDisk file).length ∧ (content sumDisk file).length < 2 ^ 31 := by decide +kernel
  have hdelivered := files_delivered Density.failing_lawful (by decide) hsizes (by decide +kernel) (by decide) hstart
    (by decide) hchecked.1 hrun
  exact ⟨s, t, hstart, hrun, hdelivered.2 (fun stream hstream => .inl (hchecked.2.1 stream hstream)) hchecked.2.2⟩

/-- In the other order the checksum of `a.txt` goes to the file `a.sha256sum`, which is there already: the receiver drops the extension where the sender kept it. -/
theorem file_overwritten_counterexample :
    ∃ s t, sumStart [ofText "a.sha256sum", ofText "a.txt"] = .ok s ∧
      (machine sumDisk .failing).run s sendsBoth = some t ∧ (∀ a ∈ sendsBoth, Quiet a) ∧ t.allHandled = true ∧
      ((queue sumDisk (sumConfig [ofText "a.sha256sum", ofText "a.txt"])).map fun file => receivedName file.path)
        = [ofText "a.sha256sum", ofText "a.txt"] ∧
      t.disk (ofText "a.sha256sum") ≠ sumDisk (ofText "a.sha256sum") := by
  have hrun : (sumStart [ofText "a.sha256sum", ofText "a.txt"]).toOption.bind (fun s =>
      ((machine sumDisk .failing).run s sendsBoth).map fun t =>
        (t.allHandled, decide (t.disk (ofText "a.sha256sum") = sumDisk (ofText "a.sha256sum")))) = some (true, false) := by
    decide +kernel
  obtain ⟨s, hstart, hrun⟩ := Option.bind_eq_some_iff.mp hrun
  obtain ⟨t, ht, hrun⟩ := Option.map_eq_some_iff.mp hrun
  simp only [Prod.mk.injEq, decide_eq_false_iff_not] at hrun
  have hquiet : ∀ a ∈ sendsBoth, Quiet a := by decide
  have hnames : ((queue sumDisk (sumConfig [ofText "a.sha256sum", ofText "a.txt"])).map fun file =>
      receivedName file.path) = [ofText "a.sha256sum", ofText "a.txt"] := by decide +kernel
  exact ⟨s, t, Fault.toOption_eq_some.mp hstart, ht, hquiet, hrun.1, hnames, hrun.2⟩

end FileSession

end BatsIperf
