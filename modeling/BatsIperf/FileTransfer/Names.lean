import BatsIperf.FileTransfer.Announcement
import BatsIperf.FileTransfer.Sending
import Mathlib.Data.List.Nodup

/-!
# The files that one transfer writes

A file goes to the name it has without its directory, cut into a name and an extension that have 255 and 15 bytes at most, and its checksum goes to the name without the extension. What is written for one file of the queue stays apart from what is written for another only where the parts of their paths that arrive are apart.
-/

namespace BatsIperf

open Octets IperfFileTransfer

/-- The files the receiver writes once a file is announced. -/
def Opening.writtenNames (opening : Opening) : List Path :=
  opening.name :: if opening.hasSum then [opening.sumName] else []

namespace IperfFileTransfer

/-! ### What the receiver writes -/

theorem writeFile_disk (disk : Disk) (writer : FileWriter) (data : Octets) (answers : FileAnswers) :
    (writeFile disk writer data answers).1.name = writer.name ∧ ((writeFile disk writer data answers).2 = disk ∨
      ∃ written, (writeFile disk writer data answers).2 = Function.update disk writer.name (some written)) := by
  unfold writeFile
  dsimp only
  split
  · exact ⟨rfl, .inl rfl⟩
  split
  · exact ⟨rfl, .inr ⟨_, rfl⟩⟩
  · exact ⟨rfl, .inr ⟨_, rfl⟩⟩

theorem closeFile_disk (disk : Disk) (writer : FileWriter) (answers : FileAnswers) :
    closeFile disk writer answers = disk ∨
      ∃ written, closeFile disk writer answers = Function.update disk writer.name (some written) := by
  unfold closeFile
  split
  · exact .inr ⟨_, rfl⟩
  · exact .inl rfl

theorem writeBlock_disk {test next : IperfFileTransfer} {disk after : Disk} {density : Density} {streamId : Nat}
    {stream : FileStream} {header : FileBkHeader} {content : Octets} {answers : FileAnswers} {writer : FileWriter}
    (hwriter : stream.fileWriter = some writer)
    (h : test.writeBlock disk density streamId stream header content answers = .ok (next, after)) :
    after = disk ∨ ∃ written, after = Function.update disk writer.name (some written) := by
  unfold writeBlock at h
  rw [hwriter, Fault.need_some, Fault.ok_bind] at h
  obtain ⟨_, _, h⟩ := Fault.bind_eq_ok.mp h
  dsimp only at h
  split at h
  · exact .inl (Prod.mk.inj (Fault.pure_eq_ok.mp h)).2.symm
  obtain ⟨hname, hwrite⟩ := writeFile_disk disk writer (blockData density header content) answers
  split at h
  · rw [← (Prod.mk.inj (Fault.pure_eq_ok.mp h)).2]
    exact hwrite
  obtain ⟨_, _, h⟩ := Fault.bind_eq_ok.mp h
  split at h
  · rw [← (Prod.mk.inj (Fault.pure_eq_ok.mp h)).2]
    rcases closeFile_disk (writeFile disk writer (blockData density header content) answers).2
      (writeFile disk writer (blockData density header content) answers).1 answers with hsame | ⟨written, hclose⟩
    · rw [hsame]
      exact hwrite
    · rw [hclose, hname]
      rcases hwrite with hwrite | ⟨_, hwrite⟩
      · exact .inr ⟨written, by rw [hwrite]⟩
      · exact .inr ⟨written, by rw [hwrite, Function.update_idem]⟩
  · rw [← (Prod.mk.inj (Fault.pure_eq_ok.mp h)).2]
    exact hwrite

/-- A block with content and a file number of the sender is handled to its end where the stream has a writer. -/
theorem writeBlock_isOk {test : IperfFileTransfer} {disk : Disk} {density : Density} {streamId : Nat} {stream : FileStream}
    {header : FileBkHeader} {content : Octets} {writer : FileWriter} (hwriter : stream.fileWriter = some writer)
    (hcontent : content ≠ []) (hseq : header.fileSeq.toNat < 10) (answers : FileAnswers) :
    ∃ next after, test.writeBlock disk density streamId stream header content answers = .ok (next, after) := by
  unfold writeBlock
  rw [hwriter, Fault.need_some, Fault.ok_bind, Fault.require_of_true hcontent, Fault.ok_bind]
  dsimp only
  split
  · exact ⟨_, _, rfl⟩
  split
  · exact ⟨_, _, rfl⟩
  · rw [Fault.require_of_true hseq, Fault.ok_bind]
    split <;> exact ⟨_, _, rfl⟩

theorem handleReceivedFileData_isOk {test : IperfFileTransfer} {density : Density} {streamId : Nat} {stream : FileStream}
    {block rest content : Octets} {header : FileBkHeader} {fileMeta : FileMeta}
    (hstream : test.streams[streamId]? = some stream) (hheader : FileBkHeader.decode block = some (header, rest))
    (hsyn : header.syn = true) (hmeta : FileMeta.read rest = some (fileMeta, content)) (hcontent : content ≠ [])
    (hseq : header.fileSeq.toNat < 10) (disk : Disk) (answers : FileAnswers) :
    ∃ next after, test.handleReceivedFileData disk density streamId block answers = .ok (next, after) := by
  rw [handleReceivedFileData_syn hstream hheader hsyn hmeta]
  split
  · exact writeBlock_isOk rfl hcontent hseq _
  · exact ⟨_, _, rfl⟩

theorem opened_disk (disk : Disk) (opening : Opening) (path : Path) :
    let opened := Function.update (writeSum (some opening) disk) opening.name (some [])
    (path ∉ opening.writtenNames → opened path = disk path) ∧ (path ∈ opening.writtenNames → (opened path).isSome) := by
  dsimp only
  by_cases hname : path = opening.name
  · subst hname
    rw [Function.update_self]
    exact ⟨fun hno => absurd List.mem_cons_self hno, fun _ => rfl⟩
  · rw [Function.update_of_ne hname]
    constructor
    · intro hno
      apply writeSum_of_ne
      rintro written hwritten hsum rfl
      obtain rfl := Option.some.inj hwritten
      exact hno (by simp [Opening.writtenNames, hsum])
    · intro hmem
      have hsum : opening.hasSum = true ∧ path = opening.sumName := by
        simpa [Opening.writtenNames, hname] using hmem
      simp [writeSum, hsum.1, hsum.2, writeFileSha256]

/-- The first block of a file writes to these names, and to no other. -/
theorem disk_of_opening {test next : IperfFileTransfer} {disk after : Disk} {density : Density} {streamId : Nat}
    {stream : FileStream} {block : Octets} {opening : Opening} (hstream : test.streams[streamId]? = some stream)
    (hopening : blockOpening block = some opening)
    (h : test.handleReceivedFileData disk density streamId block {} = .ok (next, after)) (path : Path) :
    (path ∉ opening.writtenNames → after path = disk path) ∧ (path ∈ opening.writtenNames → (after path).isSome) := by
  obtain ⟨⟨header, rest⟩, hheader, hopening⟩ := Option.bind_eq_some_iff.mp hopening
  dsimp only at hopening
  split at hopening
  · rename_i hsyn
    obtain ⟨⟨fileMeta, content⟩, hmeta, hopening⟩ := Option.bind_eq_some_iff.mp hopening
    obtain rfl := Option.some.inj hopening
    rw [handleReceivedFileData_first hstream hheader hsyn hmeta] at h
    dsimp only at *
    have hopened := opened_disk disk { fileMeta := fileMeta, hasSum := header.hasSum } path
    obtain rfl | ⟨written, rfl⟩ := writeBlock_disk rfl h
    · exact hopened
    · by_cases hname : path = Opening.name { fileMeta := fileMeta, hasSum := header.hasSum }
      · subst hname
        rw [Function.update_self]
        exact ⟨fun hno => absurd List.mem_cons_self hno, fun _ => rfl⟩
      · rw [Function.update_of_ne hname]
        exact hopened
  · simp at hopening

/-! ### The names of one path -/

/-- The name that arrives with a file, without its directory and its extension. -/
def arrivingName (path : Path) : Path := (untilNul (nameOnly (filename path))).take (maxNameLength - 1)

def arrivingExtension (path : Path) : Path := (untilNul (extension (filename path))).take (maxExtensionLength - 1)

theorem take_untilNul (bs : Octets) (count : Nat) : (untilNul bs).take (min bs.length count) = (untilNul bs).take count := by
  have hle : (untilNul bs).length ≤ bs.length := (List.takeWhile_prefix _).length_le
  rw [List.take_eq_take_iff]
  omega

theorem readFileNames_fileMeta (disk : Disk) (id : UInt32) (file : File) :
    (fileMeta disk id file).readFileNames = (arrivingName file.path, arrivingExtension file.path) := by
  have hname : min (nameOnly (filename file.path)).length (maxNameLength - 1) ≤ maxNameLength :=
    (min_le_right _ _).trans (Nat.sub_le _ _)
  have hext : min (extension (filename file.path)).length (maxExtensionLength - 1) ≤ maxExtensionLength :=
    (min_le_right _ _).trans (Nat.sub_le _ _)
  simp only [FileMeta.readFileNames, fileMeta, untilNul_strncpy _ hname, untilNul_strncpy _ hext, take_untilNul]
  rfl

theorem writtenNames_opening (disk : Disk) (id : UInt32) (file : File) :
    (opening disk id file).writtenNames = withExtension (arrivingName file.path) (arrivingExtension file.path) ::
      if hasChecksum disk file.path then [arrivingName file.path ++ sumExtension] else [] := by
  simp only [Opening.writtenNames, Opening.name, Opening.sumName, opening, readFileNames_fileMeta]

theorem mem_writtenNames {disk : Disk} {id : UInt32} {file : File} {path : Path} :
    path ∈ (opening disk id file).writtenNames
      ↔ path = withExtension (arrivingName file.path) (arrivingExtension file.path) ∨
        hasChecksum disk file.path = true ∧ path = arrivingName file.path ++ sumExtension := by
  rw [writtenNames_opening, List.mem_cons]
  split
  · rename_i hhas
    simp [hhas]
  · rename_i hno
    simp [hno]

theorem dot_notMem_arrivingExtension (path : Path) : dot ∉ arrivingExtension path := by
  intro hmem
  have hext : dot ∈ extension (filename path) :=
    (List.takeWhile_prefix _).subset (List.mem_of_mem_take hmem)
  unfold extension at hext
  split at hext
  · simpa using List.mem_rtakeWhile_imp hext
  · exact List.not_mem_nil hext

/-! ### Two names -/

/-- One name has no extension and is the other one with its extension. -/
def Absorbs (name ext other otherExt : Path) : Prop :=
  ext = [] ∧ otherExt ≠ [] ∧ name = other ++ dot :: otherExt

theorem append_dot_inj {name other ext otherExt : Path} (hext : dot ∉ ext) (hother : dot ∉ otherExt)
    (h : name ++ dot :: ext = other ++ dot :: otherExt) : name = other ∧ ext = otherExt := by
  rcases List.append_eq_append_iff.mp h with ⟨middle, hname, hrest⟩ | ⟨middle, hname, hrest⟩
  · cases middle with
    | nil => exact ⟨by simpa using hname.symm, (List.cons.inj hrest).2⟩
    | cons byte middle =>
      obtain ⟨_, rfl⟩ := List.cons.inj hrest
      exact absurd (List.mem_append_right _ List.mem_cons_self) hext
  · cases middle with
    | nil => exact ⟨by simpa using hname, (List.cons.inj hrest).2.symm⟩
    | cons byte middle =>
      obtain ⟨_, rfl⟩ := List.cons.inj hrest
      exact absurd (List.mem_append_right _ List.mem_cons_self) hother

theorem withExtension_eq {name ext : Path} (h : ext ≠ []) : withExtension name ext = name ++ dot :: ext := by
  have hdot : ofText "." = [dot] := by decide +kernel
  rw [withExtension, if_neg h, hdot, List.append_assoc, List.singleton_append]

theorem withExtension_eq_iff {name other ext otherExt : Path} (hext : dot ∉ ext) (hother : dot ∉ otherExt) :
    withExtension name ext = withExtension other otherExt
      ↔ name = other ∧ ext = otherExt ∨ Absorbs name ext other otherExt ∨ Absorbs other otherExt name ext := by
  unfold Absorbs
  by_cases hnil : ext = [] <;> by_cases hotherNil : otherExt = []
  · simp [withExtension, hnil, hotherNil]
  · rw [withExtension_eq hotherNil, withExtension, if_pos hnil]
    simp [hnil, hotherNil, Ne.symm hotherNil]
  · rw [withExtension_eq hnil, withExtension, if_pos hotherNil]
    simp [hnil, hotherNil, eq_comm]
  · rw [withExtension_eq hnil, withExtension_eq hotherNil]
    constructor
    · exact fun heq => .inl (append_dot_inj hext hother heq)
    · rintro (⟨rfl, rfl⟩ | ⟨hno, _⟩ | ⟨hno, _⟩)
      · rfl
      · exact absurd hno hnil
      · exact absurd hno hotherNil

/-- What follows the dot in the name of a checksum. -/
def sumSuffix : Path := ofText "sha256sum"

/-- A file arrives under the name that the checksum of another gets. -/
def TakesSum (path other : Path) : Prop :=
  arrivingName other = arrivingName path ∧ arrivingExtension other = sumSuffix ∨
    arrivingExtension other = [] ∧ arrivingName other = arrivingName path ++ dot :: sumSuffix

theorem sumName_eq_iff (path other : Path) :
    arrivingName path ++ sumExtension = withExtension (arrivingName other) (arrivingExtension other)
      ↔ TakesSum path other := by
  have hsuffix : sumSuffix ≠ [] := by decide +kernel
  have hnodot : dot ∉ sumSuffix := by decide +kernel
  have hsum : sumExtension = dot :: sumSuffix := by decide +kernel
  rw [hsum, ← withExtension_eq hsuffix, withExtension_eq_iff hnodot (dot_notMem_arrivingExtension other)]
  simp only [Absorbs, TakesSum, hsuffix, false_and, false_or, ne_eq, not_false_eq_true, true_and]
  rw [eq_comm, @eq_comm _ sumSuffix]

/-! ### A queue -/

/-- The files of the queue that the receiver gets to know. No block is sent for a file without content. -/
def announcedFiles (disk : Disk) (test : IperfFileTransfer) : List File :=
  test.pendingFiles.filter fun file => content disk file ≠ []

/-- Over whichever stream each file is sent, no name is written twice. -/
def NothingOverwritten (disk : Disk) (test : IperfFileTransfer) : Prop :=
  ∀ stream : File → UInt32,
    ((announcedFiles disk test).flatMap fun file => (opening disk (stream file) file).writtenNames).Nodup

/-- The parts of two paths that arrive lead to different files. -/
structure NamesApart (disk : Disk) (path other : Path) : Prop where
  files : ¬ (arrivingName path = arrivingName other ∧ arrivingExtension path = arrivingExtension other)
  absorbs : ¬ Absorbs (arrivingName path) (arrivingExtension path) (arrivingName other) (arrivingExtension other)
  absorbed : ¬ Absorbs (arrivingName other) (arrivingExtension other) (arrivingName path) (arrivingExtension path)
  sums : hasChecksum disk path = true → hasChecksum disk other = true → arrivingName path ≠ arrivingName other
  takesSum : hasChecksum disk path = true → ¬ TakesSum path other
  sumTaken : hasChecksum disk other = true → ¬ TakesSum other path

theorem disjoint_writtenNames_iff (disk : Disk) (id otherId : UInt32) (file other : File) :
    List.Disjoint (opening disk id file).writtenNames (opening disk otherId other).writtenNames
      ↔ NamesApart disk file.path other.path := by
  have hnames : withExtension (arrivingName file.path) (arrivingExtension file.path)
      = withExtension (arrivingName other.path) (arrivingExtension other.path) ↔ _ :=
    withExtension_eq_iff (dot_notMem_arrivingExtension file.path) (dot_notMem_arrivingExtension other.path)
  constructor
  · intro h
    have happart {path : Path} (hpath : path ∈ (opening disk id file).writtenNames)
        (hother : path ∈ (opening disk otherId other).writtenNames) : False := h hpath hother
    have hfile : _ ∈ (opening disk id file).writtenNames := mem_writtenNames.mpr (.inl rfl)
    have hotherFile : _ ∈ (opening disk otherId other).writtenNames := mem_writtenNames.mpr (.inl rfl)
    have hdifferent : ¬ withExtension (arrivingName file.path) (arrivingExtension file.path)
        = withExtension (arrivingName other.path) (arrivingExtension other.path) :=
      fun heq => happart (heq ▸ hfile) hotherFile
    rw [hnames, not_or, not_or] at hdifferent
    refine ⟨hdifferent.1, hdifferent.2.1, hdifferent.2.2, fun hhas hotherHas heq => ?_, fun hhas htakes => ?_,
      fun hotherHas htakes => ?_⟩
    · exact happart (mem_writtenNames.mpr (.inr ⟨hhas, rfl⟩)) (mem_writtenNames.mpr (.inr ⟨hotherHas, by rw [heq]⟩))
    · exact happart (mem_writtenNames.mpr (.inr ⟨hhas, ((sumName_eq_iff _ _).mpr htakes).symm⟩)) hotherFile
    · exact happart hfile (mem_writtenNames.mpr (.inr ⟨hotherHas, ((sumName_eq_iff _ _).mpr htakes).symm⟩))
  · intro h path hpath hother
    rcases mem_writtenNames.mp hpath with rfl | ⟨hhas, rfl⟩ <;> rcases mem_writtenNames.mp hother with heq | ⟨hotherHas, heq⟩
    · rcases hnames.mp heq with hsame | habsorbs | habsorbed
      · exact h.files hsame
      · exact h.absorbs habsorbs
      · exact h.absorbed habsorbed
    · exact h.sumTaken hotherHas ((sumName_eq_iff _ _).mp heq.symm)
    · exact h.takesSum hhas ((sumName_eq_iff _ _).mp heq)
    · exact h.sums hhas hotherHas (List.append_cancel_right heq)

/-- A checksum file and the file it belongs to differ, unless that file is called a checksum itself. -/
theorem nodup_writtenNames_iff (disk : Disk) (id : UInt32) (file : File) :
    (opening disk id file).writtenNames.Nodup
      ↔ (hasChecksum disk file.path = true → arrivingExtension file.path ≠ sumSuffix) := by
  have hself : TakesSum file.path file.path ↔ arrivingExtension file.path = sumSuffix := by
    simp [TakesSum]
  rw [writtenNames_opening]
  split
  · rename_i hhas
    rw [List.nodup_cons, List.mem_singleton, eq_comm, sumName_eq_iff, hself]
    simp [hhas]
  · rename_i hno
    simp [hno]

theorem nothing_overwritten_iff (disk : Disk) (config : TestConfig) (testId : UInt32) :
    NothingOverwritten disk (sender disk config testId) ↔
      (∀ file ∈ announcedFiles disk (sender disk config testId),
        hasChecksum disk file.path = true → arrivingExtension file.path ≠ sumSuffix) ∧
      (announcedFiles disk (sender disk config testId)).Pairwise fun file other =>
        NamesApart disk file.path other.path := by
  have hnames (stream : File → UInt32) :
      ((announcedFiles disk (sender disk config testId)).flatMap fun file =>
        (opening disk (stream file) file).writtenNames).Nodup ↔ _ := List.nodup_flatMap
  simp only [NothingOverwritten, hnames, nodup_writtenNames_iff]
  constructor
  · intro h
    obtain ⟨hself, hpairs⟩ := h fun _ => 0
    exact ⟨hself, hpairs.imp fun hdisjoint => (disjoint_writtenNames_iff disk _ _ _ _).mp hdisjoint⟩
  · rintro ⟨hself, hpairs⟩ stream
    exact ⟨hself, hpairs.imp fun happart => (disjoint_writtenNames_iff disk _ _ _ _).mpr happart⟩

/-- Two files of one name in different directories. -/
theorem same_name_counterexample :
    validateClientConfig (fun _ => true) (filesConfig [ofText "/a/x", ofText "/b/x"]) = true ∧
      ((sender (fun _ => some [1]) (filesConfig [ofText "/a/x", ofText "/b/x"]) 7).pendingFiles.map File.path)
        = [ofText "/a/x", ofText "/b/x"] ∧
      ¬ NothingOverwritten (fun _ => some [1]) (sender (fun _ => some [1]) (filesConfig [ofText "/a/x", ofText "/b/x"]) 7) := by
  refine ⟨by decide, by decide +kernel, fun h => ?_⟩
  exact absurd (h fun _ => 0) (by decide +kernel)

end IperfFileTransfer

end BatsIperf
