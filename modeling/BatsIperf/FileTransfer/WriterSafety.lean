import BatsIperf.FileTransfer.Reassembly
import BatsIperf.Foundation.Traced

/-!
# What a block may do to the file of its stream

The handler trusts the flags of a block. `syn` makes it read meta data and open a file, without `syn` it writes to the file the stream has open. Neither the length of the block nor the file of the stream is looked at before: an early return after a failure leaves the file open, and a file that is complete leaves none.
-/

namespace BatsIperf

open Octets IperfFileTransfer

/-- What `HandleReceivedFileData` does with `file_writer`. -/
inductive WriterCall
  /-- It is set to a new file stream, which is open or is not. -/
  | assign (isOpen : Bool)
  /-- The handler comes to the write through it. Before the write stands an assert that it is not null, and nothing else. -/
  | use
  /-- The file stream is closed and deleted, and the pointer is null. -/
  | close

namespace WriterCall

/-- The pointer, null or to a file stream that is open or is not, under the calls. -/
def pointer : Machine (Option Bool) WriterCall where
  step
    | _, .assign isOpen => some (some isOpen)
    | current, .use => some current
    | _, .close => some none

def NotThroughNull : Option Bool → WriterCall → Prop
  | current, .use | current, .close => current ≠ none
  | _, .assign _ => True

def NotOverOpen : Option Bool → WriterCall → Prop
  | current, .assign _ => current ≠ some true
  | _, .use | _, .close => True

theorem respects_use (current : Option Bool) {calls : List WriterCall}
    (hcalls : calls ∈ [[WriterCall.use], [WriterCall.use, WriterCall.close]]) :
    (pointer.Respects NotThroughNull current calls ↔ current ≠ none) ∧ pointer.Respects NotOverOpen current calls := by
  rcases List.mem_pair.mp hcalls with rfl | rfl <;> simp [Machine.Respects, pointer, NotThroughNull, NotOverOpen]

theorem respects_assign (current : Option Bool) (isOpen : Bool) {after : List WriterCall}
    (hafter : after ∈ [[], [WriterCall.use], [WriterCall.use, WriterCall.close]]) :
    pointer.Respects NotThroughNull current (.assign isOpen :: after) ∧
      (pointer.Respects NotOverOpen current (.assign isOpen :: after) ↔ current ≠ some true) := by
  rcases List.mem_cons.mp hafter with rfl | hafter
  · simp [Machine.Respects, pointer, NotThroughNull, NotOverOpen]
  · obtain ⟨hnull, hover⟩ := respects_use (some isOpen) hafter
    simp [Machine.Respects, pointer, NotThroughNull, NotOverOpen] at hnull hover ⊢
    exact ⟨hnull, fun _ => hover⟩

end WriterCall

namespace IperfFileTransfer

/-- The block is the first of a file, or is taken for it. -/
def isSyn (data : Octets) : Bool := (FileBkHeader.decode data).any fun decoded => decoded.1.syn

/-- `writeBlock` with what it does with `file_writer`. -/
def tracedWriteBlock (test : IperfFileTransfer) (disk : Disk) (density : Density) (streamId : Nat) (stream : FileStream)
    (header : FileBkHeader) (content : Octets) (answers : FileAnswers) : Traced WriterCall (IperfFileTransfer × Disk) := do
  Traced.note .use
  let writer ← Traced.quiet (Fault.need .failedAssert stream.fileWriter)
  Traced.quiet (Fault.require .failedAssert (content ≠ []))
  let data := blockData density header content
  if data = [] then return ({ test with streams := test.streams.set streamId stream }, disk)
  let (writer, disk) := writeFile disk writer data answers
  if writer.bad then
    let stream := { stream with fileWriter := some writer }
    return ({ test with streams := test.streams.set streamId stream }, disk)
  Traced.quiet (Fault.require .failedAssert (header.fileSeq.toNat < 10))
  if header.fin then
    Traced.note .close
    let stream := { stream with fileWriter := none, writeBytes := 0 }
    return ({ test with streams := test.streams.set streamId stream }.finishFile, closeFile disk writer answers)
  else
    let stream := { stream with
      fileWriter := some writer
      writeBytes := stream.writeBytes + .ofNat content.length }
    return ({ test with streams := test.streams.set streamId stream }, disk)

/-- `HandleReceivedFileData` with what it does with `file_writer`. -/
def tracedFileData (test : IperfFileTransfer) (disk : Disk) (density : Density) (streamId : Nat)
    (data : Octets) (answers : FileAnswers) : Traced WriterCall (IperfFileTransfer × Disk) := do
  let some stream := test.streams[streamId]? | return (test, disk)
  let (header, rest) ← Traced.quiet (Fault.need .outOfBounds (FileBkHeader.decode data))
  if header.syn then
    let (fileMeta, content) ← Traced.quiet (Fault.need .outOfBounds (FileMeta.read rest))
    let (name, ext) := fileMeta.readFileNames
    let disk := if header.hasSum then writeFileSha256 disk (name ++ sumExtension) fileMeta answers.sumOpens else disk
    let stream := { stream with
      fileName := withExtension name ext
      fileLength := fileMeta.fileLength
      fileWriter := some { name := withExtension name ext, isOpen := answers.opens } }
    Traced.note (.assign answers.opens)
    if ¬ answers.opens then return ({ test with streams := test.streams.set streamId stream }, disk)
    let disk := Function.update disk (withExtension name ext) (some [])
    test.tracedWriteBlock disk density streamId stream header content answers
  else test.tracedWriteBlock disk density streamId stream header rest answers

theorem result_tracedWriteBlock (test : IperfFileTransfer) (disk : Disk) (density : Density) (streamId : Nat)
    (stream : FileStream) (header : FileBkHeader) (content : Octets) (answers : FileAnswers) :
    (test.tracedWriteBlock disk density streamId stream header content answers).result =
      test.writeBlock disk density streamId stream header content answers := by
  unfold tracedWriteBlock writeBlock
  rw [Traced.result_note_bind, Traced.result_bind, Traced.result_quiet]
  congr 1
  funext writer
  rw [Traced.result_bind, Traced.result_quiet]
  congr 1
  funext _
  dsimp only
  split
  · rfl
  split
  · rfl
  rw [Traced.result_bind, Traced.result_quiet]
  congr 1
  funext _
  split <;> rfl

theorem result_tracedFileData (test : IperfFileTransfer) (disk : Disk) (density : Density) (streamId : Nat)
    (data : Octets) (answers : FileAnswers) : (test.tracedFileData disk density streamId data answers).result =
      test.handleReceivedFileData disk density streamId data answers := by
  unfold tracedFileData handleReceivedFileData
  cases test.streams[streamId]? with
  | none => rfl
  | some stream =>
    dsimp only
    rw [Traced.result_bind, Traced.result_quiet]
    congr 1
    funext ⟨header, rest⟩
    dsimp only
    split
    · rw [Traced.result_bind, Traced.result_quiet]
      congr 1
      funext ⟨fileMeta, content⟩
      dsimp only
      rw [Traced.result_note_bind]
      split
      · rfl
      · exact result_tracedWriteBlock ..
    · exact result_tracedWriteBlock ..

theorem calls_tracedWriteBlock (test : IperfFileTransfer) (disk : Disk) (density : Density) (streamId : Nat)
    (stream : FileStream) (header : FileBkHeader) (content : Octets) (answers : FileAnswers) :
    (test.tracedWriteBlock disk density streamId stream header content answers).calls ∈
      [[WriterCall.use], [WriterCall.use, WriterCall.close]] := by
  have hnil : ([] : List WriterCall) ∈ [[], [WriterCall.close]] := List.mem_cons_self
  suffices hrest : ∃ rest ∈ [[], [WriterCall.close]],
      (test.tracedWriteBlock disk density streamId stream header content answers).calls = .use :: rest by
    obtain ⟨rest, hmem, heq⟩ := hrest
    rw [heq]
    simpa using hmem
  unfold tracedWriteBlock
  rw [Traced.calls_note_bind]
  refine ⟨_, ?_, rfl⟩
  apply Traced.calls_quiet_bind hnil
  intro writer _
  apply Traced.calls_quiet_bind hnil
  intro _ _
  dsimp only
  split
  · exact hnil
  split
  · exact hnil
  apply Traced.calls_quiet_bind hnil
  intro _ _
  split
  · exact List.mem_cons_of_mem _ List.mem_cons_self
  · exact hnil

theorem calls_of_syn {test : IperfFileTransfer} {streamId : Nat} {stream : FileStream} (disk : Disk) (density : Density)
    {data rest content : Octets} (answers : FileAnswers) {header : FileBkHeader} {fileMeta : FileMeta}
    (hstream : test.streams[streamId]? = some stream) (hheader : FileBkHeader.decode data = some (header, rest))
    (hsyn : header.syn = true) (hmeta : FileMeta.read rest = some (fileMeta, content)) :
    ∃ after ∈ [[], [WriterCall.use], [WriterCall.use, WriterCall.close]],
      (test.tracedFileData disk density streamId data answers).calls = .assign answers.opens :: after := by
  unfold tracedFileData
  rw [hstream]
  dsimp only
  rw [hheader, Fault.need_some, Traced.quiet_ok_bind]
  dsimp only
  rw [if_pos hsyn, hmeta, Fault.need_some, Traced.quiet_ok_bind]
  dsimp only
  rw [Traced.calls_note_bind]
  refine ⟨_, ?_, rfl⟩
  split
  · exact List.mem_cons_self
  · exact List.mem_cons_of_mem _ (calls_tracedWriteBlock ..)

theorem calls_of_no_syn {test : IperfFileTransfer} {streamId : Nat} {stream : FileStream} (disk : Disk) (density : Density)
    {data rest : Octets} (answers : FileAnswers) {header : FileBkHeader}
    (hstream : test.streams[streamId]? = some stream) (hheader : FileBkHeader.decode data = some (header, rest))
    (hsyn : header.syn = false) :
    (test.tracedFileData disk density streamId data answers).calls ∈
      [[WriterCall.use], [WriterCall.use, WriterCall.close]] := by
  unfold tracedFileData
  rw [hstream]
  dsimp only
  rw [hheader, Fault.need_some, Traced.quiet_ok_bind]
  dsimp only
  rw [hsyn, if_neg Bool.false_ne_true]
  exact calls_tracedWriteBlock ..

theorem avoids_writeBlock (test : IperfFileTransfer) (disk : Disk) (density : Density) (streamId : Nat)
    (stream : FileStream) (header : FileBkHeader) (content : Octets) (answers : FileAnswers) :
    Fault.Avoids .outOfBounds (test.writeBlock disk density streamId stream header content answers) := by
  apply (Fault.avoids_need (by decide) _).bind
  intro writer
  apply (Fault.avoids_require (by decide) _).bind
  intro _
  dsimp only
  split
  · exact Fault.avoids_pure _
  split
  · exact Fault.avoids_pure _
  · apply (Fault.avoids_require (by decide) _).bind
    intro _
    split <;> exact Fault.avoids_pure _

theorem decode_cons_drop {data : Octets} (hdata : data ≠ []) :
    ∃ header, FileBkHeader.decode data = some (header, data.drop 1) :=
  FileBkHeader.reads_decode.enough (List.length_pos_iff.mpr hdata)

theorem read_drop_eq_none_iff (data : Octets) :
    FileMeta.read (data.drop 1) = none ↔ data.length < 361 ∧ 0 ∉ data.drop 345 := by
  have hlength : data.length - 1 < FileMeta.size ↔ data.length < 361 := by
    rw [FileMeta.size]
    omega
  have hoffset : 1 + (FileMeta.size - maxExtensionLength) = 345 := rfl
  rw [FileMeta.read_eq_none_iff, List.length_drop, List.drop_drop, hlength, hoffset]

/-- A block is read beyond its end where it is taken for the first of a file and ends before the names in it do. -/
theorem handleReceivedFileData_outOfBounds_iff {test : IperfFileTransfer} {disk : Disk} {density : Density}
    {streamId : Nat} {stream : FileStream} {data : Octets} {answers : FileAnswers}
    (hstream : test.streams[streamId]? = some stream) (hdata : data ≠ []) :
    test.handleReceivedFileData disk density streamId data answers = .error .outOfBounds ↔
      isSyn data = true ∧ data.length < 361 ∧ 0 ∉ data.drop 345 := by
  obtain ⟨header, hheader⟩ := decode_cons_drop hdata
  have hpos := List.length_pos_iff.mpr hdata
  have hflag : isSyn data = header.syn := by rw [isSyn, hheader, Option.any_some]
  rw [hflag]
  unfold handleReceivedFileData
  rw [hstream]
  dsimp only
  rw [hheader, Fault.need_some, Fault.ok_bind]
  dsimp only
  cases header.syn with
  | false =>
    rw [if_neg Bool.false_ne_true]
    exact iff_of_false (avoids_writeBlock _ _ _ _ _ _ _ _) fun h => Bool.false_ne_true h.1
  | true =>
    rw [if_pos rfl, Fault.bind_eq_error_iff_of_next, Fault.need_eq_error, read_drop_eq_none_iff]
    · exact (and_iff_right rfl).symm
    · rintro ⟨fileMeta, content⟩
      dsimp only
      split
      · exact Fault.avoids_pure _
      · exact avoids_writeBlock _ _ _ _ _ _ _ _

end IperfFileTransfer

namespace FileReceiver

/-- The file stream that `file_writer` of a stream points to, open or not. -/
def writerIsOpen (s : FileReceiver) (streamId : Nat) : Option Bool :=
  s.test.streams[streamId]?.bind fun stream => stream.fileWriter.map FileWriter.isOpen

def writerCalls (density : Density) (s : FileReceiver) (streamId : Nat) (data : Octets) (answers : FileAnswers) :
    List WriterCall :=
  (s.test.tracedFileData s.disk density streamId data answers).calls

/-- The block is read inside its length, the handler does not come to a write without a file stream, and it replaces none that is open. -/
structure HandledSafely (density : Density) (s : FileReceiver) (streamId : Nat) (data : Octets)
    (answers : FileAnswers) : Prop where
  inside : Fault.Avoids .outOfBounds (s.test.handleReceivedFileData s.disk density streamId data answers)
  writer : WriterCall.pointer.Respects WriterCall.NotThroughNull (s.writerIsOpen streamId)
    (writerCalls density s streamId data answers)
  closed : WriterCall.pointer.Respects WriterCall.NotOverOpen (s.writerIsOpen streamId)
    (writerCalls density s streamId data answers)

def StepSafe (density : Density) (s : FileReceiver) : Action → Prop
  | .block streamId data answers => HandledSafely density s streamId data answers
  | .accept | .poll => True

/-- A first block holds its names and finds no file open, and any other block finds a file that was announced. -/
def InOrder (s : FileReceiver) : Action → Prop
  | .block streamId data _ => ∀ stream ∈ s.test.streams[streamId]?,
    if isSyn data then
      (361 ≤ data.length ∨ 0 ∈ data.drop 345) ∧ ∀ writer ∈ stream.fileWriter, writer.isOpen = false
    else stream.fileWriter.isSome = true
  | .accept | .poll => True

theorem handledSafely_of_none {density : Density} {s : FileReceiver} {streamId : Nat}
    (hstream : s.test.streams[streamId]? = none) (data : Octets) (answers : FileAnswers) :
    HandledSafely density s streamId data answers := by
  have hcalls : writerCalls density s streamId data answers = [] := by
    rw [writerCalls, tracedFileData, hstream]
    rfl
  constructor
  · rw [handleReceivedFileData, hstream]
    exact Fault.avoids_pure _
  · rw [hcalls]
    trivial
  · rw [hcalls]
    trivial

theorem handledSafely_iff_of_syn {density : Density} {s : FileReceiver} {streamId : Nat} {stream : FileStream}
    {data : Octets} (hstream : s.test.streams[streamId]? = some stream) (hdata : data ≠ []) (hsyn : isSyn data = true)
    (answers : FileAnswers) :
    HandledSafely density s streamId data answers ↔
      (361 ≤ data.length ∨ 0 ∈ data.drop 345) ∧ stream.fileWriter.map FileWriter.isOpen ≠ some true := by
  have hinside : Fault.Avoids .outOfBounds (s.test.handleReceivedFileData s.disk density streamId data answers) ↔
      361 ≤ data.length ∨ 0 ∈ data.drop 345 := by
    rw [Fault.Avoids, ne_eq, handleReceivedFileData_outOfBounds_iff hstream hdata]
    simp [hsyn, or_iff_not_imp_left]
  have hcurrent : s.writerIsOpen streamId = stream.fileWriter.map FileWriter.isOpen := by
    rw [writerIsOpen, hstream, Option.bind_some]
  have hpart (h : 361 ≤ data.length ∨ 0 ∈ data.drop 345) :
      ∃ after ∈ [[], [WriterCall.use], [WriterCall.use, WriterCall.close]],
        writerCalls density s streamId data answers = .assign answers.opens :: after := by
    obtain ⟨header, hheader⟩ := decode_cons_drop hdata
    rw [isSyn, hheader, Option.any_some] at hsyn
    cases hmeta : FileMeta.read (data.drop 1) with
    | none =>
      obtain ⟨hshort, hnul⟩ := (read_drop_eq_none_iff data).mp hmeta
      exact absurd h (not_or_intro (not_le.mpr hshort) hnul)
    | some fileMeta => exact calls_of_syn _ _ _ hstream hheader hsyn hmeta
  constructor
  · intro h
    have hlong := hinside.mp h.inside
    obtain ⟨after, hafter, hcalls⟩ := hpart hlong
    have hclosed := h.closed
    rw [hcalls, hcurrent] at hclosed
    exact ⟨hlong, (WriterCall.respects_assign _ _ hafter).2.mp hclosed⟩
  · rintro ⟨hlong, hopen⟩
    obtain ⟨after, hafter, hcalls⟩ := hpart hlong
    have hrespects := WriterCall.respects_assign (stream.fileWriter.map FileWriter.isOpen) answers.opens hafter
    constructor
    · exact hinside.mpr hlong
    · rw [hcalls, hcurrent]
      exact hrespects.1
    · rw [hcalls, hcurrent]
      exact hrespects.2.mpr hopen

theorem handledSafely_iff_of_no_syn {density : Density} {s : FileReceiver} {streamId : Nat} {stream : FileStream}
    {data : Octets} (hstream : s.test.streams[streamId]? = some stream) (hdata : data ≠ []) (hsyn : isSyn data = false)
    (answers : FileAnswers) :
    HandledSafely density s streamId data answers ↔ stream.fileWriter.map FileWriter.isOpen ≠ none := by
  have hinside : Fault.Avoids .outOfBounds (s.test.handleReceivedFileData s.disk density streamId data answers) := by
    intro h
    have hyes := ((handleReceivedFileData_outOfBounds_iff hstream hdata).mp h).1
    rw [hsyn] at hyes
    exact Bool.false_ne_true hyes
  have hcurrent : s.writerIsOpen streamId = stream.fileWriter.map FileWriter.isOpen := by
    rw [writerIsOpen, hstream, Option.bind_some]
  obtain ⟨header, hheader⟩ := decode_cons_drop hdata
  rw [isSyn, hheader, Option.any_some] at hsyn
  obtain ⟨hnull, hover⟩ := WriterCall.respects_use (s.writerIsOpen streamId)
    (calls_of_no_syn s.disk density answers hstream hheader hsyn)
  rw [← hcurrent, ← hnull]
  exact ⟨fun h => h.writer, fun h => ⟨hinside, h, hover⟩⟩

theorem handledSafely_iff {density : Density} {s : FileReceiver} {streamId : Nat} {data : Octets} (hdata : data ≠ [])
    (answers : FileAnswers) :
    HandledSafely density s streamId data answers ↔ InOrder s (.block streamId data answers) := by
  cases hstream : s.test.streams[streamId]? with
  | none => exact iff_of_true (handledSafely_of_none hstream data answers) (by simp [InOrder, hstream])
  | some stream =>
    simp only [InOrder, hstream, Option.mem_def, Option.some.injEq, forall_eq']
    cases hsyn : isSyn data with
    | false =>
      rw [handledSafely_iff_of_no_syn hstream hdata hsyn, if_neg Bool.false_ne_true, ne_eq, Option.map_eq_none_iff,
        Option.isSome_iff_ne_none]
    | true =>
      rw [handledSafely_iff_of_syn hstream hdata hsyn, if_pos rfl]
      cases stream.fileWriter <;> simp

def HasBytes : Action → Prop
  | .block _ data _ => data ≠ []
  | .accept | .poll => True

instance : (a : Action) → Decidable (HasBytes a)
  | .block .. => inferInstanceAs (Decidable (_ ≠ _))
  | .accept | .poll => isTrue trivial

theorem stepSafe_iff {density : Density} {s : FileReceiver} {a : Action} (hbytes : HasBytes a) :
    StepSafe density s a ↔ InOrder s a := by
  cases a with
  | accept | poll => rfl
  | block streamId data answers => exact handledSafely_iff hbytes answers

/-- For every sequence of blocks with at least one byte, whatever the file system and the compressor answer, all blocks are handled safely exactly where each of them is in order. -/
theorem blocks_handled_safely_iff {density : Density} {acts : List Action} (hbytes : ∀ a ∈ acts, HasBytes a)
    (s : FileReceiver) :
    (machine density).Respects (StepSafe density) s acts ↔ (machine density).Respects InOrder s acts := by
  apply Machine.respects_congr
  intro u a ha
  exact stepSafe_iff (hbytes a ha)

theorem inOrder_of_take {density : Density} {s : FileReceiver} {streamId : Nat} {stream : FileStream} {data : Octets}
    {a b : Assembly Opening UInt8} {seg : Segment Opening UInt8} (hstream : s.test.streams[streamId]? = some stream)
    (hsegment : segment density data = some seg) (htake : a.take seg = some b)
    (hwriter : stream.fileWriter = writerOf a.current) (answers : FileAnswers) :
    InOrder s (.block streamId data answers) := by
  obtain ⟨header, rest, content, hheader, hcontent, hnonempty, _, _, rfl⟩ := segment_eq_some hsegment
  have hflag : isSyn data = header.syn := by rw [isSyn, hheader, Option.any_some]
  have hrest := (FileBkHeader.reads_decode.rest_eq hheader).2
  simp only [InOrder, hstream, Option.mem_def, Option.some.injEq, forall_eq', hflag]
  unfold blockContent at hcontent
  rcases Assembly.take_eq_some htake with ⟨opening, hopening, hcurrent, _⟩ | ⟨opening, before, hopening, hcurrent, _⟩
  · have hsyn : header.syn = true := by
      by_contra hno
      simp [blockOpening, hheader, hno] at hopening
    rw [if_pos hsyn] at hcontent ⊢
    obtain ⟨⟨fileMeta, _⟩, hmeta, rfl⟩ := Option.map_eq_some_iff.mp hcontent
    have hsize := (FileMeta.reads_decode.rest_eq hmeta).1
    constructor
    · rw [hrest, List.length_drop, FileMeta.size] at hsize
      exact .inl (by omega)
    · simp [hwriter, hcurrent, writerOf]
  · have hsyn : header.syn = false := by
      by_contra hyes
      rw [Bool.not_eq_false] at hyes
      rw [if_pos hyes] at hcontent
      obtain ⟨⟨fileMeta, _⟩, hmeta, rfl⟩ := Option.map_eq_some_iff.mp hcontent
      simp [blockOpening, hheader, hyes, hmeta] at hopening
    simp [hsyn, hwriter, hcurrent, writerOf]

instance (s : FileReceiver) : (a : Action) → Decidable (InOrder s a)
  | .block streamId data _ =>
    decidable_of_iff (s.test.streams[streamId]?.all (fun stream =>
      if isSyn data then
        decide (361 ≤ data.length ∨ 0 ∈ data.drop 345) && stream.fileWriter.all (fun writer => !writer.isOpen)
      else stream.fileWriter.isSome) = true) (by
        cases hstream : s.test.streams[streamId]? with
        | none => simp [InOrder, hstream]
        | some stream =>
          cases hflag : isSyn data <;> cases hwriter : stream.fileWriter <;> simp [InOrder, hstream, hflag, hwriter])
  | .accept | .poll => isTrue trivial

def oneStream : FileReceiver := { test := { receiver {} 7 with streams := [{ id := 0 }] }, disk := fun _ => none }

def twoBlocks : List Action :=
  [.block 0 (FileBkHeader.encode { syn := true } ++ wholeFile.drop 1) {},
    .block 0 (FileBkHeader.encode { fin := true } ++ [2]) {}]

theorem blocks_handled_safely_iff_two : (machine .failing).Respects (StepSafe .failing) oneStream twoBlocks :=
  (blocks_handled_safely_iff (by decide +kernel) oneStream).mpr (by decide +kernel)

/-- Three sequences that a receiver does not handle safely: a first block of two bytes, a file that follows one whose last block never came, and a block after a file that is complete. -/
theorem blocks_handled_unsafely_counterexample :
    List.Forall (fun acts => (∀ a ∈ acts, HasBytes a) ∧ ¬ (machine .failing).Respects (StepSafe .failing) oneStream acts)
      [[.block 0 [1, 0] {}], twoBlocks.take 1 ++ twoBlocks, twoBlocks ++ twoBlocks.drop 1] := by
  rw [List.forall_iff_forall_mem]
  intro acts hacts
  have hchecked : (∀ a ∈ acts, HasBytes a) ∧ ¬ (machine .failing).Respects InOrder oneStream acts := by
    revert acts
    decide +kernel
  refine ⟨hchecked.1, fun hsafe => hchecked.2 ?_⟩
  exact (Machine.respects_congr (fun u a ha => stepSafe_iff (hchecked.1 a ha)) oneStream).mp hsafe

end FileReceiver

end BatsIperf
