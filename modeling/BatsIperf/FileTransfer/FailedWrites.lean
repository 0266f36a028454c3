import BatsIperf.FileTransfer.Reassembly

/-!
# Blocks that are not written

A write of the receiver that fails sets the bad bit of the file stream, and the bit stays until the next file is opened. What was in the buffer is lost and the rest of the file is dropped then, its last block is not counted, and the receiver goes on with the blocks that follow. The flush when the file is closed is different: nobody looks at its result.
-/

namespace BatsIperf

open Octets Assembly IperfFileTransfer

/-- The writer of an open file of which some content has arrived. It has written all of it, or a write has failed and there is less on the disk. -/
inductive Writing (disk : Disk) (opening : Opening) (content : Octets) : Option FileWriter → Prop
  | good (hdisk : disk opening.name = some content) : Writing disk opening content (writerOf (some (opening, content)))
  | bad {written : Octets} {position : Nat} (hdisk : disk opening.name = some written) (hwritten : written <+: content)
      (hless : written.length < content.length) :
    Writing disk opening content (some { name := opening.name, position := position, isOpen := true, bad := true })

theorem Writing.written {disk : Disk} {opening : Opening} {content : Octets} {writer : Option FileWriter}
    (h : Writing disk opening content writer) :
    ∃ written, disk opening.name = some written ∧ written <+: content := by
  cases h with
  | good hdisk => exact ⟨content, hdisk, List.prefix_refl _⟩
  | bad hdisk hwritten => exact ⟨_, hdisk, hwritten⟩

theorem Writing.isSome {disk : Disk} {opening : Opening} {content : Octets} {writer : Option FileWriter}
    (h : Writing disk opening content writer) : writer.isSome := by
  cases h <;> rfl

theorem Writing.of_same {disk after : Disk} {opening : Opening} {content : Octets} {writer : Option FileWriter}
    (h : Writing disk opening content writer) (hsame : after opening.name = disk opening.name) :
    Writing after opening content writer := by
  cases h with
  | good hdisk => exact .good (hsame.trans hdisk)
  | bad hdisk hwritten hless => exact .bad (hsame.trans hdisk) hwritten hless

namespace IperfFileTransfer

/-- What a block of an open file has done. The file counts when it is closed with everything on the disk. -/
inductive Put (test : IperfFileTransfer) (disk : Disk) (streamId : Nat) (closing : Bool) (opening : Opening)
    (content : Octets) : IperfFileTransfer × Disk → Prop
  | intro {x : FileStream} {written : Octets} (hwritten : written <+: content)
      (hwriting : closing = false →
        Writing (Function.update disk opening.name (some written)) opening content x.fileWriter) :
    Put test disk streamId closing opening content
      (afterBlock test streamId x (closing && decide (written = content)),
        Function.update disk opening.name (some written))

theorem Put.opened {test : IperfFileTransfer} {disk : Disk} {streamId : Nat} {closing : Bool} {opening : Opening}
    {content : Octets} {old : Option Octets} {result : IperfFileTransfer × Disk}
    (h : Put test (Function.update disk opening.name old) streamId closing opening content result) :
    Put test disk streamId closing opening content result := by
  obtain ⟨hwritten, hwriting⟩ := h
  rw [Function.update_idem] at hwriting ⊢
  exact .intro hwritten hwriting

theorem keptOf_prefix (given : Octets) (kept : Nat) : keptOf given kept <+: given :=
  (List.take_prefix _ _).trans (List.dropLast_prefix _)

theorem length_keptOf {given : Octets} (hgiven : given ≠ []) (kept : Nat) : (keptOf given kept).length < given.length := by
  have hpos := List.length_pos_iff.mpr hgiven
  rw [keptOf, List.length_take, List.length_dropLast]
  omega

theorem put_failed {test : IperfFileTransfer} {disk : Disk} {opening : Opening} {content written : Octets} {x : FileStream}
    (hwritten : written <+: content) (hless : written.length < content.length)
    (hwriting : Writing (Function.update disk opening.name (some written)) opening content x.fileWriter) (streamId : Nat)
    (closing : Bool) : Put test disk streamId closing opening content
      ({ test with streams := test.streams.set streamId x }, Function.update disk opening.name (some written)) := by
  have hshort : decide (written = content) = false := decide_eq_false fun heq => by
    rw [heq] at hless
    exact Nat.lt_irrefl _ hless
  have hput := @Put.intro test disk streamId closing opening content x written hwritten fun _ => hwriting
  rwa [hshort, Bool.and_false] at hput

theorem writeBlock_bad {test : IperfFileTransfer} {disk : Disk} {density : Density} {streamId : Nat}
    {stream : FileStream} {header : FileBkHeader} {content : Octets} {writer : FileWriter}
    (hwriter : stream.fileWriter = some writer) (hbad : writer.bad = true) (hcontent : content ≠ [])
    (hdata : blockData density header content ≠ []) (answers : FileAnswers) :
    test.writeBlock disk density streamId stream header content answers = .ok ({ test with
      streams := test.streams.set streamId { stream with fileWriter := some writer } }, disk) := by
  have hwrite : writeFile disk writer (blockData density header content) answers = (writer, disk) := if_pos (.inr hbad)
  rw [writeBlock, hwriter, Fault.need_some, Fault.ok_bind, Fault.require_of_true hcontent, Fault.ok_bind]
  dsimp only
  rw [if_neg hdata, hwrite]
  dsimp only
  rw [if_pos hbad]
  rfl

theorem writeBlock_failed {test : IperfFileTransfer} {disk : Disk} {density : Density} {streamId : Nat}
    {stream : FileStream} {header : FileBkHeader} {content : Octets} {opening : Opening} {before : Octets}
    {answers : FileAnswers} (hwriter : stream.fileWriter = writerOf (some (opening, before)))
    (hdisk : disk opening.name = some before) (hwrites : answers.writes = false) (hcontent : content ≠ [])
    (hdata : blockData density header content ≠ []) :
    ∃ x position, x.fileWriter = some { name := opening.name, position := position, isOpen := true, bad := true } ∧
      test.writeBlock disk density streamId stream header content answers = .ok ({ test with
        streams := test.streams.set streamId x }, Function.update disk opening.name
          (some (keptOf (before ++ blockData density header content) answers.kept))) := by
  have hopen : stream.fileWriter = some { name := opening.name, position := before.length, isOpen := true } := hwriter
  have hwrite : writeFile disk { name := opening.name, position := before.length, isOpen := true }
      (blockData density header content) answers =
        ({ name := opening.name, position := before.length, isOpen := true, bad := true },
          Function.update disk opening.name (some (keptOf (before ++ blockData density header content) answers.kept))) := by
    rw [writeFile]
    dsimp only
    rw [if_neg (by simp), if_pos (by simp [hwrites]), hdisk, Option.getD_some, writeAt_end]
  refine ⟨{ stream with fileWriter := some _ }, before.length, rfl, ?_⟩
  rw [writeBlock, hopen, Fault.need_some, Fault.ok_bind, Fault.require_of_true hcontent, Fault.ok_bind]
  dsimp only
  rw [if_neg hdata, hwrite]
  rfl

theorem writeBlock_written {test : IperfFileTransfer} {disk : Disk} {density : Density} {streamId : Nat}
    {stream : FileStream} {header : FileBkHeader} {content : Octets} {answers : FileAnswers}
    (hwrites : answers.writes = true) (hcloses : answers.closes = true) :
    test.writeBlock disk density streamId stream header content answers =
      test.writeBlock disk density streamId stream header content {} := by
  have hwrite (writer : FileWriter) (data : Octets) : writeFile disk writer data answers = writeFile disk writer data {} := by
    simp [writeFile, hwrites]
  have hclose (after : Disk) (writer : FileWriter) : closeFile after writer answers = closeFile after writer {} := by
    simp [closeFile, hcloses]
  simp only [writeBlock, hwrite, hclose]

theorem writeBlock_writing {test : IperfFileTransfer} {disk : Disk} {density : Density} {streamId : Nat}
    {stream : FileStream} {header : FileBkHeader} {content : Octets} {opening : Opening} {before : Octets}
    {writer : Option FileWriter} (hwriter : stream.fileWriter = writer) (hwriting : Writing disk opening before writer)
    (hcontent : content ≠ []) (hdata : blockData density header content ≠ []) (hseq : header.fileSeq.toNat < 10)
    {answers : FileAnswers} (hcloses : answers.closes = true) :
    ∃ result, test.writeBlock disk density streamId stream header content answers = .ok result ∧
      Put test disk streamId header.fin opening (before ++ blockData density header content) result := by
  have hprefix := List.prefix_append before (blockData density header content)
  have hmore : before.length < (before ++ blockData density header content).length := by
    have hpos := List.length_pos_iff.mpr hdata
    rw [List.length_append]
    omega
  cases hwriting with
  | good hdisk =>
    cases hwrites : answers.writes with
    | true =>
      obtain ⟨x, hx, hwrite⟩ := @writeBlock_put test disk density streamId stream header content opening before {}
        hwriter hcontent hdata hseq
      rw [hdisk, Option.getD_some, writeAt_end] at hwrite
      refine ⟨_, (writeBlock_written hwrites hcloses).trans hwrite, ?_⟩
      have hput := @Put.intro test disk streamId header.fin opening (before ++ blockData density header content) x _
        (List.prefix_refl _) fun hopen => by
          rw [hx, hopen]
          exact .good (Function.update_self ..)
      rwa [decide_eq_true rfl, Bool.and_true] at hput
    | false =>
      obtain ⟨x, position, hx, hwrite⟩ := @writeBlock_failed test disk density streamId stream header content opening
        before answers hwriter hdisk hwrites hcontent hdata
      have hgiven : before ++ blockData density header content ≠ [] := by simp [hdata]
      have hkept := keptOf_prefix (before ++ blockData density header content) answers.kept
      have hless := length_keptOf hgiven answers.kept
      refine ⟨_, hwrite, put_failed hkept hless ?_ streamId _⟩
      rw [hx]
      exact .bad (Function.update_self ..) hkept hless
  | @bad written position hdisk hwritten hless =>
    -- nothing of the block gets to the file, of which a part was lost before
    have hsame : Function.update disk opening.name (some written) = disk := by
      rw [← hdisk]
      exact Function.update_eq_self ..
    have hkept := hwritten.trans hprefix
    have hstill : Writing disk opening (before ++ blockData density header content)
        (some { name := opening.name, position := position, isOpen := true, bad := true }) :=
      .bad hdisk hkept (hless.trans hmore)
    refine ⟨_, writeBlock_bad hwriter rfl hcontent hdata answers, ?_⟩
    have hput := @put_failed test disk opening _ written { stream with
      fileWriter := some { name := opening.name, position := position, isOpen := true, bad := true } }
      hkept (hless.trans hmore) (hsame.symm ▸ hstill) streamId header.fin
    rwa [hsame] at hput

/-- Where the receiver can open its files, and no flush fails when it closes one, a block is one step of the assembler, whatever the disk has room for. -/
theorem handleReceivedFileData_writing {test : IperfFileTransfer} {disk : Disk} {density : Density} {streamId : Nat}
    {stream : FileStream} {block : Octets} {a b : Assembly Opening UInt8} {seg : Segment Opening UInt8}
    {answers : FileAnswers} (hstream : test.streams[streamId]? = some stream) (hsegment : segment density block = some seg)
    (htake : a.take seg = some b)
    (hwriting : ∀ opening content, a.current = some (opening, content) → Writing disk opening content stream.fileWriter)
    (hopens : answers.opens = true) (hcloses : answers.closes = true) :
    ∃ opening content summed result, b = a.put seg.closing (opening, content) ∧
      (∀ path, (∀ sum, seg.opening = some sum → sum.hasSum = true → path ≠ sum.sumName) → summed path = disk path) ∧
      test.handleReceivedFileData disk density streamId block answers = .ok result ∧
      Put test summed streamId seg.closing opening content result := by
  obtain ⟨header, rest, content, hheader, hcontent, hnonempty, hdata, hseq, rfl⟩ := segment_eq_some hsegment
  rcases Assembly.take_eq_some htake with ⟨opening, hopening, _, rfl⟩ | ⟨opening, before, hopening, hcurrent, rfl⟩
  · obtain ⟨hsyn, fileMeta, hmeta, rfl⟩ := syn_of_opening hheader hcontent hopening
    have hhandled := @handleReceivedFileData_syn test disk density streamId stream block rest content header fileMeta
      hstream hheader hsyn (FileMeta.read_of_decode hmeta) answers
    dsimp only at hhandled
    rw [if_pos hopens, hopens] at hhandled
    generalize hsummed : (if header.hasSum = true then _ else disk) = summed at hhandled
    have hopened : (startFile stream { fileMeta := fileMeta, hasSum := header.hasSum }).fileWriter
        = writerOf (some ({ fileMeta := fileMeta, hasSum := header.hasSum }, [])) := rfl
    obtain ⟨result, hwrite, hput⟩ :=
      writeBlock_writing hopened (.good (Function.update_self ..)) hnonempty hdata hseq hcloses
    refine ⟨_, _, summed, result, rfl, fun path hpath => ?_, hhandled.trans hwrite, hput.opened⟩
    rw [← hsummed]
    split
    · rename_i hsum
      unfold writeFileSha256
      split
      · exact Function.update_of_ne (hpath _ hopening hsum) ..
      · rfl
    · rfl
  · obtain ⟨hsyn, rfl⟩ := syn_of_no_opening hheader hcontent hopening
    obtain ⟨result, hwrite, hput⟩ :=
      writeBlock_writing rfl (hwriting opening before hcurrent) hnonempty hdata hseq hcloses
    refine ⟨opening, _, disk, result, rfl, fun _ _ => rfl, ?_, hput⟩
    rw [handleReceivedFileData_next hstream hheader hsyn, hwrite]

end IperfFileTransfer

end BatsIperf
