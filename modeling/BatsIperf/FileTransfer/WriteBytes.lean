import BatsIperf.FileTransfer.Names
import BatsIperf.FileTransfer.WriterSafety

/-!
# What `write_bytes` counts

The receiver adds up the payloads as they arrive, compressed or not, and writes what they carry. Both sums end at the length that was announced for an uncompressed file. The counter is set back when a file is complete, not when one is opened, so a file that was given up leaves its bytes to the next one of its stream.
-/

namespace BatsIperf

open Octets Assembly IperfFileTransfer

namespace IperfFileTransfer

/-! ### The two lengths of a block -/

/-- The bytes of a block behind its header and its meta data, which `write_bytes` counts. -/
def payloadLength (block : Octets) : Nat :=
  ((FileBkHeader.decode block).bind fun decoded => blockContent decoded.1 decoded.2).elim 0 List.length

def dataLength (density : Density) (block : Octets) : Nat :=
  (segment density block).elim 0 fun segment => segment.payload.length

/-- A block as the thread of a sender builds it, from at most as much data as the receiver has room for. -/
def Built (density : Density) (block : Octets) : Prop :=
  ∃ (header : FileBkHeader) (fileMeta : FileMeta) (data packed : Octets), block = blockFront header fileMeta ++ packed ∧
    Packed density data header.hasComp packed ∧ data ≠ [] ∧ data.length + 360 ≤ 300000 ∧ header.fileSeq.toNat < 10

def savedBytes (density : Density) (blocks : List Octets) : Nat :=
  (blocks.map fun block => dataLength density block - payloadLength block).sum

theorem payloadLength_eq {block rest content : Octets} {header : FileBkHeader}
    (hheader : FileBkHeader.decode block = some (header, rest)) (hcontent : blockContent header rest = some content) :
    payloadLength block = content.length := by
  simp [payloadLength, hheader, hcontent]

theorem Built.payload_le {density : Density} (hlawful : density.Lawful) {block : Octets} (h : Built density block) :
    payloadLength block ≤ dataLength density block := by
  obtain ⟨header, fileMeta, data, packed, rfl, hpacked, hdata, hsize, hseq⟩ := h
  have hpayload := payloadLength_eq (decode_blockFront header fileMeta packed) (blockContent_front header fileMeta packed)
  have hsegment := segment_blockFront hlawful hpacked hdata hsize hseq fileMeta
  rw [hpayload, dataLength, hsegment]
  generalize header.hasComp = hasComp at hpacked
  cases hpacked with
  | raw => exact Nat.le_refl _
  | compressed _ hshort => exact hshort

theorem sum_payloadLength {density : Density} {blocks : List Octets}
    (h : ∀ block ∈ blocks, payloadLength block ≤ dataLength density block) :
    (blocks.map payloadLength).sum + savedBytes density blocks = (blocks.map (dataLength density)).sum := by
  induction blocks with
  | nil => rfl
  | cons block blocks ih =>
    have hblock := h block List.mem_cons_self
    have hblocks := ih fun other hother => h other (List.mem_cons_of_mem block hother)
    simp only [savedBytes, List.map_cons, List.sum_cons] at hblocks ⊢
    omega

/-! ### One block -/

def openWriter (name : Path) (position : Nat) : FileWriter := { name := name, position := position, isOpen := true }

theorem writeBlock_counts {test : IperfFileTransfer} {disk : Disk} {density : Density} {streamId : Nat}
    {stream : FileStream} {header : FileBkHeader} {content : Octets} {name : Path} {position : Nat}
    (hwriter : stream.fileWriter = some (openWriter name position)) (hcontent : content ≠ [])
    (hdata : blockData density header content ≠ []) (hseq : header.fileSeq.toNat < 10) (hfin : header.fin = false) :
    ∃ after, test.writeBlock disk density streamId stream header content {} =
      .ok ({ test with streams := test.streams.set streamId { stream with
        fileWriter := some (openWriter name (position + (blockData density header content).length))
        writeBytes := stream.writeBytes + .ofNat content.length } }, after) := by
  rw [writeBlock, hwriter, Fault.need_some, Fault.ok_bind, Fault.require_of_true hcontent, Fault.ok_bind]
  dsimp only
  rw [if_neg hdata, writeFile_open rfl rfl]
  dsimp only
  rw [if_neg (by simp [openWriter]), Fault.require_of_true hseq, Fault.ok_bind, hfin, if_neg Bool.false_ne_true]
  exact ⟨_, rfl⟩

/-- A block that is not the last of a file is counted by its payload and written by its data. -/
theorem handleReceivedFileData_counts {test : IperfFileTransfer} {disk : Disk} {density : Density} {streamId : Nat}
    {stream : FileStream} {block : Octets} {seg : Segment Opening UInt8} {name : Path} {position : Nat}
    (hstream : test.streams[streamId]? = some stream) (hsegment : segment density block = some seg)
    (hclosing : seg.closing = false)
    (hopening : ∀ opening, seg.opening = some opening → opening.name = name ∧ position = 0)
    (hwriter : seg.opening = none → stream.fileWriter = some (openWriter name position)) :
    ∃ x after, test.handleReceivedFileData disk density streamId block {} =
        .ok ({ test with streams := test.streams.set streamId x }, after) ∧
      x.writeBytes = stream.writeBytes + .ofNat (payloadLength block) ∧
      x.fileWriter = some (openWriter name (position + dataLength density block)) := by
  obtain ⟨header, rest, content, hheader, hcontent, hnonempty, hdata, hseq, hseg⟩ := segment_eq_some hsegment
  have hlength : dataLength density block = (blockData density header content).length := by
    rw [dataLength, hsegment, hseg, Option.elim_some]
  have hfin : header.fin = false := by rw [← hclosing, hseg]
  rw [payloadLength_eq hheader hcontent, hlength]
  rw [hseg] at hopening hwriter
  unfold blockContent at hcontent
  cases hsyn : header.syn with
  | true =>
    rw [if_pos hsyn] at hcontent
    obtain ⟨⟨fileMeta, _⟩, hmeta, rfl⟩ := Option.map_eq_some_iff.mp hcontent
    have hopened : blockOpening block = some { fileMeta := fileMeta, hasSum := header.hasSum } := by
      simp [blockOpening, hheader, hsyn, hmeta]
    obtain ⟨rfl, rfl⟩ := hopening _ hopened
    rw [handleReceivedFileData_first hstream hheader hsyn hmeta]
    have hwriter : (startFile stream { fileMeta := fileMeta, hasSum := header.hasSum }).fileWriter
        = some (openWriter (Opening.name { fileMeta := fileMeta, hasSum := header.hasSum }) 0) := rfl
    obtain ⟨after, hwrite⟩ := writeBlock_counts hwriter hnonempty hdata hseq hfin
    exact ⟨_, after, hwrite, rfl, rfl⟩
  | false =>
    rw [if_neg (by simp [hsyn])] at hcontent
    obtain rfl := Option.some.inj hcontent
    have hnone : blockOpening block = none := by simp [blockOpening, hheader, hsyn]
    rw [handleReceivedFileData_next hstream hheader hsyn]
    obtain ⟨after, hwrite⟩ := writeBlock_counts (hwriter hnone) hnonempty hdata hseq hfin
    exact ⟨_, after, hwrite, rfl, rfl⟩

theorem segment_isOk {test : IperfFileTransfer} {density : Density} {streamId : Nat} {stream : FileStream}
    {block : Octets} {seg : Segment Opening UInt8} (hstream : test.streams[streamId]? = some stream)
    (hsegment : segment density block = some seg) (hwriter : seg.opening = none → stream.fileWriter.isSome) (disk : Disk)
    (answers : FileAnswers) :
    ∃ next after, test.handleReceivedFileData disk density streamId block answers = .ok (next, after) := by
  obtain ⟨header, rest, content, hheader, hcontent, hnonempty, _, hseq, rfl⟩ := segment_eq_some hsegment
  unfold blockContent at hcontent
  cases hsyn : header.syn with
  | true =>
    rw [if_pos hsyn] at hcontent
    obtain ⟨⟨fileMeta, _⟩, hmeta, rfl⟩ := Option.map_eq_some_iff.mp hcontent
    exact handleReceivedFileData_isOk hstream hheader hsyn (FileMeta.read_of_decode hmeta) hnonempty hseq disk answers
  | false =>
    rw [if_neg (by simp [hsyn])] at hcontent
    obtain rfl := Option.some.inj hcontent
    have hnone : blockOpening block = none := by simp [blockOpening, hheader, hsyn]
    obtain ⟨writer, hwriter⟩ := Option.isSome_iff_exists.mp (hwriter hnone)
    rw [handleReceivedFileData_next hstream hheader hsyn]
    exact writeBlock_isOk hwriter hnonempty hseq answers

/-! ### The last block -/

/-- `write_bytes` once the payload of a block is added, as it is logged for the last block of a file. -/
def reportedBytes (stream : FileStream) (block : Octets) : UInt64 := stream.writeBytes + .ofNat (payloadLength block)

/-- The length of the file once the data of a block is written. -/
def writtenBytes (density : Density) (stream : FileStream) (block : Octets) : Nat :=
  (if isSyn block then 0 else stream.fileWriter.elim 0 FileWriter.position) + dataLength density block

theorem isSyn_of_segment {density : Density} {block : Octets} {seg : Segment Opening UInt8}
    (h : segment density block = some seg) : isSyn block = seg.opening.isSome := by
  obtain ⟨header, rest, content, hheader, hcontent, _, _, _, rfl⟩ := segment_eq_some h
  unfold blockContent at hcontent
  cases hsyn : header.syn with
  | true =>
    rw [if_pos hsyn] at hcontent
    obtain ⟨⟨fileMeta, _⟩, hmeta, _⟩ := Option.map_eq_some_iff.mp hcontent
    simp [isSyn, blockOpening, hheader, hsyn, hmeta]
  | false => simp [isSyn, blockOpening, hheader, hsyn]

theorem fileLength_opening {disk : Disk} {file : File} (h : Sendable disk file) (id : UInt32) :
    (opening disk id file).fileMeta.fileLength.toNat = (content disk file).length := by
  have hshort := h.short
  change (BitVec.ofNat 56 (Narrowing.unsigned 64 (totalFileLength file))).toNat = _
  rw [h.totalFileLength, Narrowing.unsigned_of_lt (by omega), BitVec.toNat_ofNat, Nat.mod_eq_of_lt (by omega)]

end IperfFileTransfer

namespace FileReceiver

def blocksOf (j : Nat) (acts : List Action) : List Octets :=
  acts.filterMap fun
    | .block streamId data _ => if streamId = j then some data else none
    | .accept | .poll => none

/-- The counter of a stream and its open file once some blocks of the file are handled. -/
structure Counts (density : Density) (base : UInt64) (name : Path) (handled : List Octets) (stream : FileStream) : Prop where
  writeBytes : stream.writeBytes = base + .ofNat (handled.map payloadLength).sum
  fileWriter : handled ≠ [] → stream.fileWriter = some (openWriter name (handled.map (dataLength density)).sum)

section

variable {density : Density} {s t : FileReceiver} {j : Nat} {stream : FileStream}

theorem stream_kept {a : Action} (hother : ∀ data answers, a ≠ .block j data answers)
    (hstep : (machine density).step s a = some t) (hstream : s.test.streams[j]? = some stream) :
    t.test.streams[j]? = some stream := by
  have hj := (List.getElem?_eq_some_iff.mp hstream).1
  cases a with
  | accept =>
    change (if _ then _ else _) = _ at hstep
    split at hstep
    · obtain rfl := Option.some.inj hstep
      simp [dataListenCallback, List.getElem?_append_left hj, hstream]
    · exact absurd hstep (by simp)
  | poll =>
    obtain rfl := Option.some.inj hstep
    exact (congrArg (·[j]?) (FileSession.isStreamDone_streams s.test)).trans hstream
  | block streamId data answers =>
    have hne : streamId ≠ j := fun heq => hother data answers (heq ▸ rfl)
    obtain ⟨⟨test, disk⟩, hhandle, rfl⟩ := Option.map_eq_some_iff.mp hstep
    cases handleReceivedFileData_handled (Fault.toOption_eq_some.mp hhandle) with
    | ignored => exact hstream
    | «open» => simp [List.getElem?_set_ne hne, hstream]
    | finished => simp [finishFile_eq, List.getElem?_set_ne hne, hstream]

theorem counts_block {base : UInt64} {name : Path} {handled : List Octets} {block : Octets}
    {seg : Segment Opening UInt8} (hstream : s.test.streams[j]? = some stream)
    (h : Counts density base name handled stream) (hsegment : segment density block = some seg)
    (hclosing : seg.closing = false)
    (hfirst : ∀ opening, seg.opening = some opening → opening.name = name ∧ handled = [])
    (hnext : seg.opening = none → handled ≠ []) (hstep : (machine density).step s (.block j block {}) = some t) :
    ∃ x, t.test.streams[j]? = some x ∧ Counts density base name (handled ++ [block]) x := by
  have hopening (opening : Opening) (hopen : seg.opening = some opening) :
      opening.name = name ∧ (handled.map (dataLength density)).sum = 0 := by
    obtain ⟨hname, rfl⟩ := hfirst opening hopen
    exact ⟨hname, rfl⟩
  obtain ⟨⟨test, disk⟩, hhandle, rfl⟩ := Option.map_eq_some_iff.mp hstep
  have hhandle := Fault.toOption_eq_some.mp hhandle
  obtain ⟨x, after, hhandled, hbytes, hwriter⟩ :=
    handleReceivedFileData_counts hstream hsegment hclosing hopening fun hnone => h.fileWriter (hnext hnone)
  obtain ⟨rfl, rfl⟩ := Prod.mk.inj (Except.ok.inj (hhandled.symm.trans hhandle))
  refine ⟨x, List.getElem?_set_self (List.getElem?_eq_some_iff.mp hstream).1, ?_, fun _ => ?_⟩
  · rw [hbytes, h.writeBytes]
    simp [UInt64.ofNat_add, UInt64.add_assoc]
  · rw [hwriter]
    simp

theorem blocksOf_own (data : Octets) (answers : FileAnswers) (acts : List Action) :
    blocksOf j (.block j data answers :: acts) = data :: blocksOf j acts := by
  simp [blocksOf]

theorem blocksOf_other {a : Action} (hother : ∀ data answers, a ≠ .block j data answers) (acts : List Action) :
    blocksOf j (a :: acts) = blocksOf j acts := by
  cases a with
  | accept | poll => rfl
  | block streamId data answers =>
    have hne : streamId ≠ j := fun heq => hother data answers (heq ▸ rfl)
    simp [blocksOf, hne]

/-- By induction on the run, with the blocks of the file that are handled before it. -/
theorem counts_run {base : UInt64} {message : Opening × Octets} {blocks : List Octets} {last : Octets}
    (hspans : Spans (segment density) true (blocks ++ [last]) message) {acts : List Action} {handled : List Octets}
    (hblocks : handled ++ blocksOf j acts = blocks)
    (hanswers : ∀ data answers, .block j data answers ∈ acts → answers = {})
    (hstream : s.test.streams[j]? = some stream) (h : Counts density base message.1.name handled stream)
    (hrun : (machine density).run s acts = some t) :
    ∃ x, t.test.streams[j]? = some x ∧ Counts density base message.1.name blocks x := by
  induction acts generalizing s stream handled with
  | nil =>
    obtain rfl := Option.some.inj hrun
    obtain rfl : handled = blocks := by simpa [blocksOf] using hblocks
    exact ⟨stream, hstream, h⟩
  | cons a acts ih =>
    obtain ⟨u, hu, hrest⟩ := Machine.run_cons.mp hrun
    have hlater (data : Octets) (answers : FileAnswers) (hmem : .block j data answers ∈ acts) : answers = {} :=
      hanswers data answers (List.mem_cons_of_mem a hmem)
    by_cases hown : ∃ data answers, a = .block j data answers
    · obtain ⟨data, answers, rfl⟩ := hown
      obtain rfl := hanswers data answers List.mem_cons_self
      rw [blocksOf_own] at hblocks
      have hsplit : blocks ++ [last] = handled ++ data :: (blocksOf j acts ++ [last]) := by simp [← hblocks]
      rw [hsplit] at hspans
      obtain ⟨seg, hsegment, hopening, hclosing⟩ := hspans.segment_at
      rw [if_neg (by simp)] at hclosing
      have hfirst (opening : Opening) (hopen : seg.opening = some opening) :
          opening.name = message.1.name ∧ handled = [] := by
        rw [hopening] at hopen
        split at hopen
        · rename_i hnil
          exact ⟨congrArg Opening.name (Option.some.inj hopen).symm, hnil⟩
        · exact absurd hopen (by simp)
      have hnext (hnone : seg.opening = none) : handled ≠ [] := by
        rintro rfl
        rw [hopening, if_pos rfl] at hnone
        exact absurd hnone (by simp)
      obtain ⟨x, hx, hcounts⟩ := counts_block hstream h hsegment hclosing hfirst hnext hu
      exact ih (by simpa using hblocks) hlater hx hcounts hrest
    · have hother (data : Octets) (answers : FileAnswers) : a ≠ .block j data answers :=
        fun heq => hown ⟨data, answers, heq⟩
      rw [blocksOf_other hother] at hblocks
      exact ih hblocks hlater (stream_kept hother hu hstream) h hrest

/-- A file of 1 to 2^31 - 1 bytes, cut into blocks that are compressed or not, arrives in any run in which every write succeeds, whatever happens on other streams. With the last block `write_bytes` comes to the length of the file and to the announced length if and only if the first block has found in it exactly what compression saves. A new stream starts with 0, as does one that has finished its last file. -/
theorem write_bytes_exact_iff {disk : Disk} {id : UInt32} {file : File} {blocks : List Octets} {last : Octets}
    (hlawful : density.Lawful) (hfile : Sendable disk file)
    (hspans : Spans (segment density) true (blocks ++ [last]) (transfer disk id file))
    (hbuilt : ∀ block ∈ blocks ++ [last], Built density block) {acts : List Action} (hblocks : blocksOf j acts = blocks)
    (hanswers : ∀ data answers, .block j data answers ∈ acts → answers = {})
    (hstream : s.test.streams[j]? = some stream) (hrun : (machine density).run s acts = some t) :
    ∃ x, t.test.streams[j]? = some x ∧ ((machine density).step t (.block j last {})).isSome ∧
      ((reportedBytes x last).toNat = writtenBytes density x last ∧
          (reportedBytes x last).toNat = (opening disk id file).fileMeta.fileLength.toNat ↔
        stream.writeBytes.toNat = savedBytes density (blocks ++ [last])) := by
  have hnothing : Counts density stream.writeBytes (opening disk id file).name [] stream :=
    ⟨by simp, fun h => absurd rfl h⟩
  obtain ⟨x, hx, hcounts⟩ := counts_run hspans hblocks hanswers hstream hnothing hrun
  have hend : Spans (segment density) true (blocks ++ last :: []) (transfer disk id file) := hspans
  obtain ⟨seg, hsegment, hopening, _⟩ := hend.segment_at
  have hwriter (hsome : blocks ≠ []) := hcounts.fileWriter hsome
  have hlast : (seg.opening = none → x.fileWriter.isSome) ∧
      writtenBytes density x last = ((blocks ++ [last]).map (dataLength density)).sum := by
    rw [writtenBytes, isSyn_of_segment hsegment, hopening]
    by_cases hnil : blocks = []
    · simp [hnil]
    · simp [hnil, hwriter hnil, openWriter]
  have hcontent : ((blocks ++ [last]).map (dataLength density)).sum = (content disk file).length := hspans.length_content
  have hsaved := sum_payloadLength fun block hblock => (hbuilt block hblock).payload_le hlawful
  have hreported : (reportedBytes x last).toNat
      = (stream.writeBytes.toNat + ((blocks ++ [last]).map payloadLength).sum) % 2 ^ 64 := by
    rw [reportedBytes, hcounts.writeBytes]
    simp [UInt64.toNat_add, Nat.add_assoc]
  have hshort := hfile.short
  have hword := stream.writeBytes.toNat_lt
  refine ⟨x, hx, ?_, ?_⟩
  · obtain ⟨next, after, hhandle⟩ := segment_isOk hx hsegment hlast.1 t.disk {}
    change (((t.test.handleReceivedFileData t.disk density j last {}).toOption.map _)).isSome
    rw [hhandle]
    rfl
  · rw [fileLength_opening hfile, hlast.2, hcontent, and_self, hreported]
    omega

end

def runLengths : Density where
  compressSafeSize := fun _ => 2
  decompressSafeSize := fun size => size
  compress := fun _ input _ =>
    match input with
    | [] => none
    | byte :: rest =>
      if rest = List.replicate rest.length byte ∧ rest.length < 256 then some [byte, .ofNat rest.length] else none
  decompress := fun input _ =>
    match input with
    | [byte, count] => some (byte :: List.replicate count.toNat byte)
    | _ => none

theorem runLengths_lawful : runLengths.Lawful where
  slack := fun _ => Nat.le_add_right _ _
  inverts := by
    intro call input output outLength size hcompress _
    cases input with
    | nil => simp [runLengths] at hcompress
    | cons byte rest =>
      simp only [runLengths, Option.ite_none_right_eq_some, Option.some.injEq] at hcompress
      obtain ⟨⟨hrun, hshort⟩, rfl⟩ := hcompress
      simp only [runLengths, UInt8.toNat_ofNat_of_lt' hshort, ← hrun]

def runDisk : Disk := fun path => if path = ofText "a" then some [1, 2, 5, 5, 5, 5] else none

def runFile : File := { fileSz := 6, path := ofText "a" }

def firstOfRun : Octets := blockFront { syn := true } (fileMeta runDisk 0 runFile) ++ [1, 2]

def lastOfRun (hasComp : Bool) (packed : Octets) : Octets :=
  blockFront { fin := true, hasComp := hasComp } (fileMeta runDisk 0 runFile) ++ packed

theorem sendable_runFile : Sendable runDisk runFile := by
  constructor <;> decide +kernel

theorem spans_ofRun {hasComp : Bool} {packed : Octets} (hpacked : Packed runLengths [5, 5, 5, 5] hasComp packed) :
    Spans (segment runLengths) true ([firstOfRun] ++ [lastOfRun hasComp packed]) (transfer runDisk 0 runFile) ∧
      ∀ block ∈ [firstOfRun] ++ [lastOfRun hasComp packed], Built runLengths block := by
  have hraw : Packed runLengths [1, 2] false [1, 2] := .raw
  have hseq : (0 : BitVec 4).toNat < 10 := by decide
  have hfirst : segment runLengths firstOfRun
      = some { opening := some (opening runDisk 0 runFile), closing := false, payload := [1, 2] } := by
    have hkey : opening runDisk 0 runFile = { fileMeta := fileMeta runDisk 0 runFile, hasSum := false } := by
      decide +kernel
    rw [hkey]
    exact segment_blockFront runLengths_lawful hraw (by decide) (by decide) hseq _
  have hlast : segment runLengths (lastOfRun hasComp packed)
      = some { opening := none, closing := true, payload := [5, 5, 5, 5] } :=
    segment_blockFront runLengths_lawful hpacked (by decide) (by decide) hseq _
  constructor
  · exact (spans_opening hfirst rfl).continue hlast rfl
  · intro block hblock
    rcases List.mem_append.mp hblock with hmem | hmem <;> obtain rfl := List.mem_singleton.mp hmem
    · exact ⟨{ syn := true }, _, _, _, rfl, hraw, by decide, by decide, hseq⟩
    · exact ⟨{ fin := true, hasComp := hasComp }, _, _, _, rfl, hpacked, by decide, by decide, hseq⟩

theorem write_bytes_exact_iff_plain :
    ∃ t x, (machine runLengths).run oneStream [.block 0 firstOfRun {}] = some t ∧ t.test.streams[0]? = some x ∧
      reportedBytes x (lastOfRun false [5, 5, 5, 5]) = 6 ∧
      writtenBytes runLengths x (lastOfRun false [5, 5, 5, 5]) = 6 := by
  have hrun : ((machine runLengths).run oneStream [.block 0 firstOfRun {}]).isSome := by decide +kernel
  obtain ⟨t, hrun⟩ := Option.isSome_iff_exists.mp hrun
  obtain ⟨hspans, hbuilt⟩ := spans_ofRun .raw
  have hsaved : (0 : UInt64).toNat = savedBytes runLengths ([firstOfRun] ++ [lastOfRun false [5, 5, 5, 5]]) := by
    decide +kernel
  have hstream : oneStream.test.streams[0]? = some { id := 0 } := rfl
  obtain ⟨x, hx, _, hiff⟩ :=
    write_bytes_exact_iff runLengths_lawful sendable_runFile hspans hbuilt rfl (by simp) hstream hrun
  obtain ⟨hwritten, hannounced⟩ := hiff.mpr hsaved
  have hlength : (opening runDisk 0 runFile).fileMeta.fileLength.toNat = 6 := by decide +kernel
  rw [hlength] at hannounced
  exact ⟨t, x, hrun, hx, UInt64.toNat_inj.mp hannounced, hwritten.symm.trans hannounced⟩

/-- With four bytes compressed to two, four bytes are reported for a file of six. -/
theorem write_bytes_short_counterexample :
    ∃ t x, Spans (segment runLengths) true ([firstOfRun] ++ [lastOfRun true [5, 3]]) (transfer runDisk 0 runFile) ∧
      (∀ block ∈ [firstOfRun] ++ [lastOfRun true [5, 3]], Built runLengths block) ∧
      (machine runLengths).run oneStream [.block 0 firstOfRun {}] = some t ∧ t.test.streams[0]? = some x ∧
      ((machine runLengths).step t (.block 0 (lastOfRun true [5, 3]) {})).isSome ∧
      reportedBytes x (lastOfRun true [5, 3]) = 4 ∧ writtenBytes runLengths x (lastOfRun true [5, 3]) = 6 ∧
      (opening runDisk 0 runFile).fileMeta.fileLength.toNat = 6 := by
  have hcompress : IperfCompressor.compress runLengths 0 [5, 5, 5, 5] 100 = [5, 3] := by decide +kernel
  have hpacked : Packed runLengths [5, 5, 5, 5] true [5, 3] := by
    rw [← hcompress]
    exact .compressed (by decide +kernel) (by decide +kernel)
  have hrun : ((machine runLengths).run oneStream [.block 0 firstOfRun {}]).bind (fun t =>
      t.test.streams[0]?.map fun x => (((machine runLengths).step t (.block 0 (lastOfRun true [5, 3]) {})).isSome,
        reportedBytes x (lastOfRun true [5, 3]), writtenBytes runLengths x (lastOfRun true [5, 3])))
      = some (true, 4, 6) := by
    decide +kernel
  obtain ⟨t, ht, hrun⟩ := Option.bind_eq_some_iff.mp hrun
  obtain ⟨x, hx, hrun⟩ := Option.map_eq_some_iff.mp hrun
  simp only [Prod.mk.injEq] at hrun
  have hlength : (opening runDisk 0 runFile).fileMeta.fileLength.toNat = 6 := by decide +kernel
  obtain ⟨hspans, hbuilt⟩ := spans_ofRun hpacked
  exact ⟨t, x, hspans, hbuilt, ht, hx, hrun.1, hrun.2.1, hrun.2.2, hlength⟩

end FileReceiver

end BatsIperf
