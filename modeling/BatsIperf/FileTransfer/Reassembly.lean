import BatsIperf.FileTransfer.BlockData
import BatsIperf.FileTransfer.Completion
import BatsIperf.Foundation.Assembly

/-!
# Blocks as segments

A block is a segment of a file: `syn` opens the file under the names in its meta data, `fin` closes it, and the payload is what the block carries after decompression. Built from the data of a file, a block is the next segment of the file. Handled by the receiver, it is one step of the assembler, with the open file in the writer of the stream and every received file on the disk.
-/

namespace BatsIperf

open Octets IperfFileTransfer

/-- What the first block of a file tells about it. -/
structure Opening where
  fileMeta : FileMeta
  hasSum : Bool
  deriving DecidableEq

namespace Opening

def name (opening : Opening) : Path :=
  withExtension opening.fileMeta.readFileNames.1 opening.fileMeta.readFileNames.2

/-- The file to which the receiver writes the checksum. -/
def sumName (opening : Opening) : Path := opening.fileMeta.readFileNames.1 ++ sumExtension

end Opening

def blockOpening (block : Octets) : Option Opening := do
  let (header, rest) ← FileBkHeader.decode block
  if header.syn then
    let (fileMeta, _) ← FileMeta.decode rest
    return { fileMeta := fileMeta, hasSum := header.hasSum }
  else none

def blockContent (header : FileBkHeader) (rest : Octets) : Option Octets :=
  if header.syn then (FileMeta.decode rest).map Prod.snd else some rest

/-- The segment in a block, where the block can be written. -/
def segment (density : Density) (block : Octets) : Option (Segment Opening UInt8) := do
  let (header, rest) ← FileBkHeader.decode block
  let content ← blockContent header rest
  let data := blockData density header content
  if content = [] ∨ data = [] ∨ 10 ≤ header.fileSeq.toNat then none
  else return { opening := blockOpening block, closing := header.fin, payload := data }

theorem segment_eq_some {density : Density} {block : Octets} {seg : Segment Opening UInt8}
    (h : segment density block = some seg) : ∃ header rest content, FileBkHeader.decode block = some (header, rest) ∧
      blockContent header rest = some content ∧ content ≠ [] ∧ blockData density header content ≠ [] ∧
      header.fileSeq.toNat < 10 ∧
      seg = { opening := blockOpening block, closing := header.fin, payload := blockData density header content } := by
  obtain ⟨⟨header, rest⟩, hheader, h⟩ := Option.bind_eq_some_iff.mp h
  obtain ⟨content, hcontent, h⟩ := Option.bind_eq_some_iff.mp h
  dsimp only at h
  split at h
  · simp at h
  · rename_i hwritable
    simp only [not_or, Nat.not_le] at hwritable
    exact ⟨header, rest, content, hheader, hcontent, hwritable.1, hwritable.2.1, hwritable.2.2, (Option.some.inj h).symm⟩

theorem opening_of_segment {density : Density} {block : Octets} {seg : Segment Opening UInt8}
    (h : segment density block = some seg) : seg.opening = blockOpening block := by
  obtain ⟨_, _, _, _, _, _, _, _, rfl⟩ := segment_eq_some h
  rfl

theorem syn_of_opening {block rest content : Octets} {header : FileBkHeader} {opening : Opening}
    (hheader : FileBkHeader.decode block = some (header, rest)) (hcontent : blockContent header rest = some content)
    (hopening : blockOpening block = some opening) : header.syn = true ∧ ∃ fileMeta,
      FileMeta.decode rest = some (fileMeta, content) ∧ opening = { fileMeta := fileMeta, hasSum := header.hasSum } := by
  have hsyn : header.syn = true := by
    by_contra hno
    simp [blockOpening, hheader, hno] at hopening
  rw [blockContent, if_pos hsyn] at hcontent
  obtain ⟨⟨fileMeta, _⟩, hmeta, rfl⟩ := Option.map_eq_some_iff.mp hcontent
  exact ⟨hsyn, fileMeta, hmeta, by simpa [blockOpening, hheader, hsyn, hmeta] using hopening.symm⟩

theorem syn_of_no_opening {block rest content : Octets} {header : FileBkHeader}
    (hheader : FileBkHeader.decode block = some (header, rest)) (hcontent : blockContent header rest = some content)
    (hopening : blockOpening block = none) : header.syn = false ∧ rest = content := by
  unfold blockContent at hcontent
  have hsyn : header.syn = false := by
    by_contra hyes
    rw [Bool.not_eq_false] at hyes
    rw [if_pos hyes] at hcontent
    obtain ⟨⟨fileMeta, _⟩, hmeta, rfl⟩ := Option.map_eq_some_iff.mp hcontent
    simp [blockOpening, hheader, hyes, hmeta] at hopening
  rw [if_neg (by simp [hsyn])] at hcontent
  exact ⟨hsyn, Option.some.inj hcontent⟩

/-! ### A block that is built -/

theorem packed_ne_nil {density : Density} {data packed : Octets} {hasComp : Bool} (h : Packed density data hasComp packed)
    (hdata : data ≠ []) : packed ≠ [] := by
  cases h with
  | raw => exact hdata
  | compressed hwritten => exact hwritten

theorem blockData_of_packed {density : Density} (hlawful : density.Lawful) {data packed : Octets} {header : FileBkHeader}
    (h : Packed density data header.hasComp packed) (hsize : data.length + 360 ≤ 300000) :
    blockData density header packed = data := by
  generalize hflag : header.hasComp = hasComp at h
  rw [blockData, hflag]
  cases h with
  | raw => rfl
  | compressed hwritten hshort =>
    rw [if_pos rfl]
    apply IperfCompressor.decompress_compress hlawful hwritten hshort
    rw [maxDecompressedBufSz]
    omega

theorem blockOpening_blockFront (header : FileBkHeader) (fileMeta : FileMeta) (packed : Octets) :
    blockOpening (blockFront header fileMeta ++ packed)
      = if header.syn then some { fileMeta := fileMeta, hasSum := header.hasSum } else none := by
  rw [blockOpening, decode_blockFront, Option.bind_eq_bind, Option.bind_some]
  cases hsyn : header.syn with
  | true => simp [hsyn, FileMeta.decode_encode]
  | false => simp [hsyn]

theorem blockContent_front (header : FileBkHeader) (fileMeta : FileMeta) (packed : Octets) :
    blockContent header ((if header.syn then fileMeta.encode else []) ++ packed) = some packed := by
  cases hsyn : header.syn with
  | true => simp [blockContent, hsyn, FileMeta.decode_encode]
  | false => simp [blockContent, hsyn]

theorem segment_blockFront {density : Density} (hlawful : density.Lawful) {data packed : Octets} {header : FileBkHeader}
    (hpacked : Packed density data header.hasComp packed) (hdata : data ≠ []) (hsize : data.length + 360 ≤ 300000)
    (hseq : header.fileSeq.toNat < 10) (fileMeta : FileMeta) :
    segment density (blockFront header fileMeta ++ packed) = some
      { opening := if header.syn then some { fileMeta := fileMeta, hasSum := header.hasSum } else none
        closing := header.fin
        payload := data } := by
  rw [segment, decode_blockFront, Option.bind_eq_bind, Option.bind_some]
  dsimp only
  rw [blockContent_front, Option.bind_eq_bind, Option.bind_some, blockData_of_packed hlawful hpacked hsize, blockOpening_blockFront]
  apply if_neg
  simp [packed_ne_nil hpacked hdata, hdata, hseq]

/-! ### A block that is handled -/

theorem writeAt_end (content data : Octets) : writeAt content content.length data = content ++ data := by
  simp [writeAt]

theorem writeFile_open {writer : FileWriter} (hopen : writer.isOpen = true) (hgood : writer.bad = false) (disk : Disk)
    (data : Octets) : writeFile disk writer data {} = ({ writer with position := writer.position + data.length },
      Function.update disk writer.name (some (writeAt ((disk writer.name).getD []) writer.position data))) := by
  rw [writeFile, if_neg (by simp [hopen, hgood]), if_neg (by simp)]

/-- The writer of a stream whose open file has received some content. -/
def writerOf (current : Option (Opening × Octets)) : Option FileWriter :=
  current.map fun message => { name := message.1.name, position := message.2.length, isOpen := true }

/-- The disk once the checksum that comes with a file is written. -/
def writeSum (opening : Option Opening) (disk : Disk) : Disk :=
  match opening with
  | some opening => if opening.hasSum then writeFileSha256 disk opening.sumName opening.fileMeta true else disk
  | none => disk

theorem writeSum_of_ne {opening : Option Opening} {path : Path}
    (h : ∀ written, opening = some written → written.hasSum = true → path ≠ written.sumName) (disk : Disk) :
    writeSum opening disk path = disk path := by
  cases opening with
  | none => rfl
  | some written =>
    by_cases hsum : written.hasSum = true
    · simp [writeSum, hsum, writeFileSha256, Function.update_of_ne (h written rfl hsum)]
    · simp [writeSum, hsum]

/-- The receiver after a block, which counts a file when it closes one. -/
def afterBlock (test : IperfFileTransfer) (streamId : Nat) (stream : FileStream) (closing : Bool) : IperfFileTransfer :=
  if closing then { test with streams := test.streams.set streamId stream }.finishFile
  else { test with streams := test.streams.set streamId stream }

/-- Data that is written to an open file goes behind what the stream has written. -/
theorem writeBlock_put {test : IperfFileTransfer} {disk : Disk} {density : Density} {streamId : Nat} {stream : FileStream}
    {header : FileBkHeader} {content : Octets} {opening : Opening} {before : Octets} (a : Assembly Opening UInt8)
    (hwriter : stream.fileWriter = writerOf (some (opening, before)))
    (hcontent : content ≠ []) (hdata : blockData density header content ≠ []) (hseq : header.fileSeq.toNat < 10) :
    ∃ x, x.fileWriter = writerOf (a.put header.fin (opening, before ++ blockData density header content)).current ∧
      test.writeBlock disk density streamId stream header content {} = .ok (afterBlock test streamId x header.fin,
        Function.update disk opening.name
          (some (writeAt ((disk opening.name).getD []) before.length (blockData density header content)))) := by
  have hopen : stream.fileWriter = some { name := opening.name, position := before.length, isOpen := true } := hwriter
  rw [writeBlock, hopen, Fault.need_some, Fault.ok_bind, Fault.require_of_true hcontent, Fault.ok_bind]
  dsimp only
  rw [if_neg hdata, writeFile_open rfl rfl]
  dsimp only
  rw [if_neg (by simp), Fault.require_of_true hseq, Fault.ok_bind]
  cases hfin : header.fin with
  | true => exact ⟨{ stream with fileWriter := none, writeBytes := 0 }, rfl, rfl⟩
  | false =>
    refine ⟨{ stream with
      fileWriter := writerOf (some (opening, before ++ blockData density header content))
      writeBytes := stream.writeBytes + .ofNat content.length }, rfl, ?_⟩
    simp [afterBlock, writerOf]
    rfl

def startFile (stream : FileStream) (opening : Opening) : FileStream :=
  { stream with
    fileName := opening.name
    fileLength := opening.fileMeta.fileLength
    fileWriter := writerOf (some (opening, [])) }

/-- The first block of a file writes its checksum, opens it and writes the first data, where the files can be opened. -/
theorem handleReceivedFileData_syn {test : IperfFileTransfer} {disk : Disk} {density : Density} {streamId : Nat}
    {stream : FileStream} {block rest content : Octets} {header : FileBkHeader} {fileMeta : FileMeta}
    (hstream : test.streams[streamId]? = some stream) (hheader : FileBkHeader.decode block = some (header, rest))
    (hsyn : header.syn = true) (hmeta : FileMeta.read rest = some (fileMeta, content)) (answers : FileAnswers) :
    let opening : Opening := { fileMeta := fileMeta, hasSum := header.hasSum }
    let summed := if header.hasSum then writeFileSha256 disk opening.sumName fileMeta answers.sumOpens else disk
    let opened := { startFile stream opening with
      fileWriter := some { name := opening.name, isOpen := answers.opens } }
    test.handleReceivedFileData disk density streamId block answers =
      if answers.opens then
        test.writeBlock (Function.update summed opening.name (some [])) density streamId opened header content answers
      else .ok ({ test with streams := test.streams.set streamId opened }, summed) := by
  rw [handleReceivedFileData, hstream]
  dsimp only
  rw [hheader, Fault.need_some, Fault.ok_bind]
  dsimp only
  rw [if_pos hsyn, hmeta, Fault.need_some, Fault.ok_bind]
  cases hopens : answers.opens with
  | true => rfl
  | false => rfl

theorem handleReceivedFileData_first {test : IperfFileTransfer} {disk : Disk} {density : Density} {streamId : Nat}
    {stream : FileStream} {block rest content : Octets} {header : FileBkHeader} {fileMeta : FileMeta}
    (hstream : test.streams[streamId]? = some stream) (hheader : FileBkHeader.decode block = some (header, rest))
    (hsyn : header.syn = true) (hmeta : FileMeta.decode rest = some (fileMeta, content)) :
    let opening : Opening := { fileMeta := fileMeta, hasSum := header.hasSum }
    test.handleReceivedFileData disk density streamId block {} =
      test.writeBlock (Function.update (writeSum (some opening) disk) opening.name (some [])) density streamId
        (startFile stream opening) header content {} :=
  handleReceivedFileData_syn hstream hheader hsyn (FileMeta.read_of_decode hmeta) {}

theorem handleReceivedFileData_next {test : IperfFileTransfer} {disk : Disk} {density : Density} {streamId : Nat}
    {stream : FileStream} {block rest : Octets} {header : FileBkHeader} (hstream : test.streams[streamId]? = some stream)
    (hheader : FileBkHeader.decode block = some (header, rest)) (hsyn : header.syn = false) (answers : FileAnswers) :
    test.handleReceivedFileData disk density streamId block answers
      = test.writeBlock disk density streamId stream header rest answers := by
  rw [handleReceivedFileData, hstream]
  dsimp only
  rw [hheader, Fault.need_some, Fault.ok_bind]
  dsimp only
  rw [if_neg (by simp [hsyn])]

/-- With every answer of the file system a success, a block is one step of the assembler. Where the file that is open has what was received of it, it gets the rest. -/
theorem handleReceivedFileData_take {test : IperfFileTransfer} (disk : Disk) {density : Density} {streamId : Nat}
    {stream : FileStream} {block : Octets} {a b : Assembly Opening UInt8} {seg : Segment Opening UInt8}
    (hstream : test.streams[streamId]? = some stream) (hsegment : segment density block = some seg)
    (htake : a.take seg = some b) (hwriter : stream.fileWriter = writerOf a.current) :
    ∃ x opening content after, x.fileWriter = writerOf b.current ∧ b = a.put seg.closing (opening, content) ∧
      test.handleReceivedFileData disk density streamId block {} = .ok (afterBlock test streamId x seg.closing, after) ∧
      ((∀ opening content, a.current = some (opening, content) → disk opening.name = some content) →
        after = Function.update (writeSum seg.opening disk) opening.name (some content)) := by
  obtain ⟨header, rest, content, hheader, hcontent, hnonempty, hdata, hseq, rfl⟩ := segment_eq_some hsegment
  rcases Assembly.take_eq_some htake with ⟨opening, hopening, _, rfl⟩ | ⟨opening, before, hopening, hcurrent, rfl⟩
  · obtain ⟨hsyn, fileMeta, hmeta, rfl⟩ := syn_of_opening hheader hcontent hopening
    have hopened : (startFile stream { fileMeta := fileMeta, hasSum := header.hasSum }).fileWriter
        = writerOf (some ({ fileMeta := fileMeta, hasSum := header.hasSum }, [])) := rfl
    obtain ⟨x, hx, hwrite⟩ := writeBlock_put a hopened hnonempty hdata hseq
    refine ⟨x, _, _, _, hx, rfl, (handleReceivedFileData_first hstream hheader hsyn hmeta).trans hwrite, fun _ => ?_⟩
    rw [hopening, Function.update_idem, Function.update_self, Option.getD_some, writeAt_end, List.nil_append]
  · obtain ⟨hsyn, rfl⟩ := syn_of_no_opening hheader hcontent hopening
    rw [hcurrent] at hwriter
    obtain ⟨x, hx, hwrite⟩ := writeBlock_put a hwriter hnonempty hdata hseq
    refine ⟨x, _, _, _, hx, rfl, (handleReceivedFileData_next hstream hheader hsyn {}).trans hwrite, fun hdisk => ?_⟩
    rw [hopening, hdisk opening before hcurrent, Option.getD_some, writeAt_end]
    rfl

end BatsIperf
