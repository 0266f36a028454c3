import BatsIperf.FileTransfer.Delivery
import BatsIperf.FileTransfer.Names

/-!
# The names under which files arrive

The sender cuts the name of a file at its last dot and copies both parts into fields of 256 and 16 bytes. The receiver joins what it reads, with a dot where there is something behind it, and takes the result for a path. It writes the checksum that comes with a file before it joins the parts, to a path of its own.
-/

namespace BatsIperf

open Octets IperfFileTransfer

structure BaseName where
  bytes : Path
  nonempty : bytes ≠ []
  short : bytes.length ≤ 255
  noNul : 0 ∉ bytes
  noSlash : slash ∉ bytes
  notSelf : bytes ≠ [dot]
  notParent : bytes ≠ [dot, dot]

namespace IperfFileTransfer

/-! ### Cut at the last dot -/

/-- A name with a dot is what stands before its last dot, the dot, and what follows it. -/
theorem nameOnly_append_extension {name : Path} (hdot : dot ∈ name) : nameOnly name ++ dot :: extension name = name := by
  have hfront : name.rdropWhile (· ≠ dot) ≠ [] := by
    intro hnil
    have hall := List.rdropWhile_eq_nil_iff.mp hnil dot hdot
    simp at hall
  have hlast : (name.rdropWhile (· ≠ dot)).getLast hfront = dot := by
    simpa using List.rdropWhile_last_not (· ≠ dot) name hfront
  have hjoin := List.dropLast_append_getLast hfront
  rw [hlast] at hjoin
  rw [nameOnly, extension, if_pos hdot, if_pos hdot, List.append_cons, hjoin, List.rdropWhile_append_rtakeWhile]

theorem nameOnly_eq_self {name : Path} (hdot : dot ∉ name) : nameOnly name = name := if_neg hdot

theorem extension_eq_nil {name : Path} (hdot : dot ∉ name) : extension name = [] := if_neg hdot

theorem mem_of_mem_nameOnly {name : Path} {byte : UInt8} (h : byte ∈ nameOnly name) : byte ∈ name := by
  by_cases hdot : dot ∈ name
  · rw [← nameOnly_append_extension hdot]
    exact List.mem_append_left _ h
  · rwa [nameOnly_eq_self hdot] at h

theorem mem_of_mem_extension {name : Path} {byte : UInt8} (h : byte ∈ extension name) : byte ∈ name := by
  by_cases hdot : dot ∈ name
  · rw [← nameOnly_append_extension hdot]
    exact List.mem_append_right _ (List.mem_cons_of_mem _ h)
  · simp [extension_eq_nil hdot] at h

theorem length_nameOnly_le (name : Path) : (nameOnly name).length ≤ name.length := by
  by_cases hdot : dot ∈ name
  · have hlength := congrArg List.length (nameOnly_append_extension hdot)
    rw [List.length_append] at hlength
    omega
  · rw [nameOnly_eq_self hdot]

theorem getLast?_eq_dot_iff {name : Path} (hdot : dot ∈ name) : name.getLast? = some dot ↔ extension name = [] := by
  conv_lhs => rw [← nameOnly_append_extension hdot]
  constructor
  · intro hlast
    by_contra hnonempty
    rw [List.getLast?_append_cons, List.getLast?_cons_of_ne_nil hnonempty,
      List.getLast?_eq_getLast_of_ne_nil hnonempty] at hlast
    have hmem := List.getLast_mem hnonempty
    rw [Option.some.inj hlast, extension, if_pos hdot] at hmem
    simpa using List.mem_rtakeWhile_imp hmem
  · intro hnil
    simp [hnil]

theorem arrivingExtension_eq {path : Path} (hnul : 0 ∉ filename path) :
    arrivingExtension path = (extension (filename path)).take 15 := by
  have hext : 0 ∉ extension (filename path) := fun h => hnul (mem_of_mem_extension h)
  rw [arrivingExtension, untilNul_eq hext]
  rfl

theorem arrivingName_eq {path : Path} (hnul : 0 ∉ filename path) :
    arrivingName path = (nameOnly (filename path)).take 255 := by
  have hname : 0 ∉ nameOnly (filename path) := fun h => hnul (mem_of_mem_nameOnly h)
  rw [arrivingName, untilNul_eq hname]
  rfl

/-- The receiver rebuilds the name of a file exactly where it does not end with a dot and at most 15 bytes follow its last dot. -/
theorem name_round_trip_iff (disk : Disk) (id : UInt32) (name : BaseName) {file : File}
    (hfile : filename file.path = name.bytes) :
    withExtension (fileMeta disk id file).readFileNames.1 (fileMeta disk id file).readFileNames.2 = name.bytes ↔
      name.bytes.getLast? ≠ some dot ∧ (extension name.bytes).length ≤ 15 := by
  have hnul : 0 ∉ filename file.path := hfile ▸ name.noNul
  have hshort : (nameOnly name.bytes).length ≤ 255 := (length_nameOnly_le name.bytes).trans name.short
  rw [readFileNames_fileMeta, arrivingName_eq hnul, arrivingExtension_eq hnul, hfile, List.take_of_length_le hshort]
  by_cases hdot : dot ∈ name.bytes
  · have hwhole := nameOnly_append_extension hdot
    rw [ne_eq, getLast?_eq_dot_iff hdot]
    by_cases hext : extension name.bytes = []
    · -- the dot itself is lost
      rw [hext] at hwhole ⊢
      apply iff_of_false
      · intro hsame
        have hlength := congrArg List.length (hwhole.trans hsame.symm)
        simp [withExtension] at hlength
      · simp
    · have htaken : (extension name.bytes).take 15 ≠ [] := by simp [hext]
      have hsame : nameOnly name.bytes ++ dot :: (extension name.bytes).take 15 = name.bytes ↔
          nameOnly name.bytes ++ dot :: (extension name.bytes).take 15
            = nameOnly name.bytes ++ dot :: extension name.bytes := by rw [hwhole]
      rw [withExtension_eq htaken, hsame]
      simp [hext]
  · have hlast : name.bytes.getLast? ≠ some dot := fun hlast => hdot (List.mem_of_getLast? hlast)
    simp [nameOnly_eq_self hdot, extension_eq_nil hdot, withExtension, hlast]

/-- The file `a.txt` in the directory `/d`. -/
def textFile : BaseName where
  bytes := ofText "a.txt"
  nonempty := by decide +kernel
  short := by decide +kernel
  noNul := by decide +kernel
  noSlash := by decide +kernel
  notSelf := by decide +kernel
  notParent := by decide +kernel

/-- The file `a.`, whose name ends with a dot. -/
def dottedFile : BaseName where
  bytes := ofText "a."
  nonempty := by decide +kernel
  short := by decide +kernel
  noNul := by decide +kernel
  noSlash := by decide +kernel
  notSelf := by decide +kernel
  notParent := by decide +kernel

theorem name_round_trip_iff_text :
    let sent := fileMeta (fun _ => none) 0 { path := ofText "/d/a.txt" }
    withExtension sent.readFileNames.1 sent.readFileNames.2 = ofText "a.txt" :=
  (name_round_trip_iff (fun _ => none) 0 textFile (by decide +kernel)).mpr (by decide +kernel)

/-- The last dot is lost, and so is what exceeds 15 bytes of an extension. -/
theorem name_round_trip_counterexample :
    let dotted := fileMeta (fun _ => none) 0 { path := dottedFile.bytes }
    let long := fileMeta (fun _ => none) 0 { path := ofText "a.0123456789abcdef" }
    withExtension dotted.readFileNames.1 dotted.readFileNames.2 ≠ dottedFile.bytes ∧
      withExtension dotted.readFileNames.1 dotted.readFileNames.2 = ofText "a" ∧
      withExtension long.readFileNames.1 long.readFileNames.2 = ofText "a.0123456789abcde" := by
  decide +kernel

/-! ### The checksum of a file -/

/-- The first block of a file brings the checksum to the file that is called like the received one with the ending by which the sender has found it. -/
def SumArrives (disk : Disk) (file : File) : Prop :=
  ∀ (id : UInt32) (header : FileBkHeader) (packed : Octets) (test : IperfFileTransfer) (received : Disk)
    (density : Density) (streamId : Nat) (stream : FileStream) (answers : FileAnswers),
    header.syn = true → header.hasSum = hasChecksum disk file.path → header.fileSeq.toNat < 10 → packed ≠ [] →
    test.streams[streamId]? = some stream → answers.sumOpens = true →
    ∃ next after, test.handleReceivedFileData received density streamId
        (blockFront header (fileMeta disk id file) ++ packed) answers = .ok (next, after) ∧
      after (receivedName file.path ++ sumExtension) = some ((checksum disk file.path).take 64 ++ ofText "\n")

def oneStreamReceiver : IperfFileTransfer := { receiver {} 7 with streams := [{ id := 0 }] }

theorem sha256sum_fileMeta {disk : Disk} {file : File} (hfound : hasChecksum disk file.path = true) (id : UInt32) :
    (fileMeta disk id file).sha256sum.bytes = (checksum disk file.path).take 64 := by
  have hlong : 64 ≤ (checksum disk file.path).length := of_decide_eq_true hfound
  simp [fileMeta, CharArray.overwrite, maxHashLength, Nat.sub_eq_zero_of_le hlong]

theorem receivedName_eq (path : Path) : receivedName path = withExtension (arrivingName path) (arrivingExtension path) := by
  have hname := name_opening (fun _ => none) 0 { path := path }
  rw [← hname, Opening.name, opening, readFileNames_fileMeta]

/-- A block that the sender has built is taken apart into its header, its meta data and its content. -/
theorem decode_firstBlock {header : FileBkHeader} (hsyn : header.syn = true) (fileMeta : FileMeta) (packed : Octets) :
    FileBkHeader.decode (blockFront header fileMeta ++ packed) = some (header, fileMeta.encode ++ packed) := by
  rw [decode_blockFront, if_pos hsyn]

/-- Where nothing follows the name of a file, the checksum goes to the file the name of which it continues. -/
theorem sumArrives_of_nil {disk : Disk} {file : File} (hfound : hasChecksum disk file.path = true)
    (hnil : arrivingExtension file.path = []) : SumArrives disk file := by
  intro id header packed test received density streamId stream answers hsyn hhas hseq hpacked hstream hsumOpens
  have hnames := readFileNames_fileMeta disk id file
  have hapart : arrivingName file.path ++ sumExtension ≠ arrivingName file.path := by
    have hsum : sumExtension ≠ [] := by decide +kernel
    simpa using hsum
  have hsummed : writeFileSha256 received (arrivingName file.path ++ sumExtension) (fileMeta disk id file) true
      (arrivingName file.path ++ sumExtension) = some ((checksum disk file.path).take 64 ++ ofText "\n") := by
    rw [writeFileSha256, if_pos rfl, Function.update_self, sha256sum_fileMeta hfound]
  have hheader := decode_firstBlock hsyn (fileMeta disk id file) packed
  have hmeta := FileMeta.read_of_decode (FileMeta.decode_encode (fileMeta disk id file) packed)
  obtain ⟨next, after, hhandle⟩ := handleReceivedFileData_isOk hstream hheader hsyn hmeta hpacked hseq received answers
  refine ⟨next, after, hhandle, ?_⟩
  rw [handleReceivedFileData_syn hstream hheader hsyn hmeta] at hhandle
  rw [receivedName_eq, hnil]
  simp only [Opening.name, Opening.sumName, hnames, hnil, withExtension, if_true, hhas, hfound, hsumOpens] at hhandle ⊢
  cases hopens : answers.opens with
  | false =>
    simp only [hopens, Bool.false_eq_true, if_false] at hhandle
    obtain ⟨_, rfl⟩ := Prod.mk.inj (Except.ok.inj hhandle)
    exact hsummed
  | true =>
    simp only [hopens, if_true] at hhandle
    rcases writeBlock_disk rfl hhandle with rfl | ⟨written, rfl⟩
    · rw [Function.update_of_ne hapart]
      exact hsummed
    · rw [Function.update_of_ne hapart, Function.update_of_ne hapart]
      exact hsummed

/-- A checksum that the sender has found arrives next to its file, under the name by which it was found, exactly where the name of the file has no dot or ends with its last. -/
theorem sum_arrives_iff {disk : Disk} {file : File} (hnul : 0 ∉ filename file.path)
    (hfound : hasChecksum disk file.path = true) :
    SumArrives disk file ↔ dot ∉ filename file.path ∨ (filename file.path).getLast? = some dot := by
  have hext : arrivingExtension file.path = []
      ↔ dot ∉ filename file.path ∨ (filename file.path).getLast? = some dot := by
    rw [arrivingExtension_eq hnul]
    by_cases hdot : dot ∈ filename file.path
    · simp [getLast?_eq_dot_iff hdot, hdot]
    · simp [extension_eq_nil hdot, hdot]
  rw [← hext]
  constructor
  · intro h
    by_contra hnonempty
    obtain ⟨next, after, hhandle, hafter⟩ := h 0 { syn := true, hasSum := hasChecksum disk file.path } [1]
      oneStreamReceiver (fun _ => none) .failing 0 { id := 0 } {} rfl rfl
      (show (0 : BitVec 4).toNat < 10 by decide) (by simp) rfl rfl
    have hopening : blockOpening (blockFront { syn := true, hasSum := hasChecksum disk file.path } (fileMeta disk 0 file)
        ++ [1]) = some (opening disk 0 file) := blockOpening_blockFront _ _ _
    have hwritten : receivedName file.path ++ sumExtension ∉ (opening disk 0 file).writtenNames := by
      rw [mem_writtenNames, receivedName_eq, withExtension_eq hnonempty]
      rintro (hsame | ⟨_, hsame⟩)
      · have hsum : sumExtension ≠ [] := by decide +kernel
        exact hsum (by simpa using hsame)
      · have hlength := congrArg List.length hsame
        simp only [List.length_append, List.length_cons] at hlength
        omega
    have hnone := (disk_of_opening rfl hopening hhandle (receivedName file.path ++ sumExtension)).1 hwritten
    rw [hnone] at hafter
    exact absurd hafter (by simp)
  · exact sumArrives_of_nil hfound

def plainSumDisk : Disk := fun path =>
  if path = ofText "2G" then some [3]
  else if path = ofText "2G.sha256sum" then some (List.replicate 64 4)
  else none

theorem sum_arrives_iff_plain :
    hasChecksum plainSumDisk (ofText "2G") = true ∧ SumArrives plainSumDisk { path := ofText "2G" } :=
  ⟨by decide +kernel, (sum_arrives_iff (by decide +kernel) (by decide +kernel)).mpr (by decide +kernel)⟩

/-- The checksum of `a.txt` is found in `a.txt.sha256sum` and arrives in `a.sha256sum`. -/
theorem sum_misplaced_counterexample :
    hasChecksum FileSession.sumDisk (ofText "a.txt") = true ∧ receivedName (ofText "a.txt") = ofText "a.txt" ∧
      ¬ SumArrives FileSession.sumDisk { path := ofText "a.txt" } ∧
      ∃ next after, oneStreamReceiver.handleReceivedFileData
          (fun _ => none) .failing 0 (blockFront { syn := true, hasSum := true }
            (fileMeta FileSession.sumDisk 0 { path := ofText "a.txt" }) ++ [3]) {} = .ok (next, after) ∧
        after (ofText "a.txt.sha256sum") = none ∧
        after (ofText "a.sha256sum") = some (List.replicate 64 4 ++ ofText "\n") := by
  have hrun : (oneStreamReceiver.handleReceivedFileData
      (fun _ => none) .failing 0 (blockFront { syn := true, hasSum := true }
        (fileMeta FileSession.sumDisk 0 { path := ofText "a.txt" }) ++ [3]) {}).toOption.map (fun handled =>
      (handled.2 (ofText "a.txt.sha256sum"), handled.2 (ofText "a.sha256sum")))
        = some (none, some (List.replicate 64 4 ++ ofText "\n")) := by decide +kernel
  obtain ⟨⟨next, after⟩, hhandle, hrun⟩ := Option.map_eq_some_iff.mp hrun
  obtain ⟨hnone, hsum⟩ := Prod.mk.inj hrun
  have hhandle := Fault.toOption_eq_some.mp hhandle
  refine ⟨by decide +kernel, by decide +kernel, ?_, next, after, hhandle, hnone, hsum⟩
  intro h
  obtain ⟨other, disk, hother, harrived⟩ := h 0 { syn := true, hasSum := true } [3]
    oneStreamReceiver (fun _ => none) .failing 0 { id := 0 } {} rfl (by decide +kernel)
    (by decide) (by simp) rfl rfl
  obtain ⟨_, rfl⟩ := Prod.mk.inj (Except.ok.inj (hhandle.symm.trans hother))
  have hpath : receivedName (ofText "a.txt") ++ sumExtension = ofText "a.txt.sha256sum" := by decide +kernel
  rw [hpath] at harrived
  exact absurd (hnone.symm.trans harrived) (by simp)

/-! ### The paths that are opened -/

structure IsPlain (path : Path) : Prop where
  nonempty : path ≠ []
  noSlash : slash ∉ path
  notSelf : path ≠ [dot]
  notParent : path ≠ [dot, dot]

/-- Two parts of a name that make the name of a file in the current directory. -/
structure PartsPlain (name ext : Octets) : Prop where
  nameSlash : slash ∉ name
  extSlash : slash ∉ ext
  alone : ext = [] → name ≠ [] ∧ name ≠ [dot] ∧ name ≠ [dot, dot]
  hidden : name = [] → ext ≠ [dot]

theorem isPlain_withExtension_iff (name ext : Octets) : IsPlain (withExtension name ext) ↔ PartsPlain name ext := by
  have hdotSlash : slash ≠ dot := by decide
  by_cases hext : ext = []
  · rw [withExtension, if_pos hext]
    constructor
    · intro h
      exact ⟨h.noSlash, by simp [hext], fun _ => ⟨h.nonempty, h.notSelf, h.notParent⟩, fun _ => by simp [hext]⟩
    · intro h
      obtain ⟨hnonempty, hself, hparent⟩ := h.alone hext
      exact ⟨hnonempty, h.nameSlash, hself, hparent⟩
  · rw [withExtension_eq hext]
    constructor
    · intro h
      have hslash := h.noSlash
      simp only [List.mem_append, List.mem_cons, hdotSlash, false_or, not_or] at hslash
      refine ⟨hslash.1, hslash.2, fun hnil => absurd hnil hext, ?_⟩
      rintro rfl rfl
      exact h.notParent rfl
    · intro h
      constructor
      · simp
      · simp [h.nameSlash, h.extSlash, hdotSlash]
      · intro hself
        have hlength := congrArg List.length hself
        have hpos := List.length_pos_iff.mpr hext
        simp only [List.length_append, List.length_cons, List.length_nil] at hlength
        omega
      · intro hparent
        have hname : name = [] := by
          have hlength := congrArg List.length hparent
          have hpos := List.length_pos_iff.mpr hext
          simp only [List.length_append, List.length_cons, List.length_nil] at hlength
          exact List.length_eq_zero_iff.mp (by omega)
        apply h.hidden hname
        simpa [hname] using hparent

theorem isPlain_sumName {name : Octets} (h : slash ∉ name) : IsPlain (name ++ sumExtension) := by
  have hlength : sumExtension.length = 10 := by decide +kernel
  have hslash : slash ∉ sumExtension := by decide +kernel
  constructor
  · intro hnil
    have hzero := congrArg List.length hnil
    simp [hlength] at hzero
  · simp [h, hslash]
  · intro hself
    have hone := congrArg List.length hself
    simp [hlength] at hone
  · intro hparent
    have htwo := congrArg List.length hparent
    simp [hlength] at htwo

/-- Whatever the file system answers, the first block of a file writes to the paths that it names only. -/
theorem disk_of_syn {test next : IperfFileTransfer} {disk after : Disk} {density : Density} {streamId : Nat}
    {stream : FileStream} {block rest content : Octets} {header : FileBkHeader} {fileMeta : FileMeta}
    {answers : FileAnswers} (hstream : test.streams[streamId]? = some stream)
    (hheader : FileBkHeader.decode block = some (header, rest)) (hsyn : header.syn = true)
    (hmeta : FileMeta.read rest = some (fileMeta, content))
    (h : test.handleReceivedFileData disk density streamId block answers = .ok (next, after)) {path : Path}
    (hpath : path ∉ Opening.writtenNames { fileMeta := fileMeta, hasSum := header.hasSum }) : after path = disk path := by
  simp only [Opening.writtenNames, List.mem_cons, not_or] at hpath
  obtain ⟨hname, hsum⟩ := hpath
  have hsummed : (if header.hasSum then writeFileSha256 disk
      (Opening.sumName { fileMeta := fileMeta, hasSum := header.hasSum }) fileMeta answers.sumOpens else disk) path
        = disk path := by
    split
    · rename_i hhas
      unfold writeFileSha256
      split
      · apply Function.update_of_ne
        simpa [hhas] using hsum
      · rfl
    · rfl
  rw [handleReceivedFileData_syn hstream hheader hsyn hmeta] at h
  dsimp only at h
  split at h
  · rcases writeBlock_disk rfl h with rfl | ⟨written, rfl⟩
    · rw [Function.update_of_ne hname]
      exact hsummed
    · rw [Function.update_of_ne hname, Function.update_of_ne hname]
      exact hsummed
  · rw [← (Prod.mk.inj (Except.ok.inj h)).2]
    exact hsummed

/-- For any meta data, the paths that a first block opens for writing are names of files in the current directory exactly where the two parts of the name make one, and the block writes to no other path. -/
theorem opened_paths_plain_iff {block rest content : Octets} {header : FileBkHeader} {fileMeta : FileMeta}
    (hheader : FileBkHeader.decode block = some (header, rest)) (hsyn : header.syn = true)
    (hmeta : FileMeta.read rest = some (fileMeta, content)) :
    ((∀ path ∈ Opening.writtenNames { fileMeta := fileMeta, hasSum := header.hasSum }, IsPlain path) ↔
      PartsPlain fileMeta.readFileNames.1 fileMeta.readFileNames.2) ∧
    ∀ {test next : IperfFileTransfer} {disk after : Disk} {density : Density} {streamId : Nat} {stream : FileStream}
      {answers : FileAnswers}, test.streams[streamId]? = some stream →
      test.handleReceivedFileData disk density streamId block answers = .ok (next, after) →
      ∀ path, path ∉ Opening.writtenNames { fileMeta := fileMeta, hasSum := header.hasSum } →
        after path = disk path := by
  constructor
  · rw [← isPlain_withExtension_iff]
    constructor
    · intro h
      exact h _ List.mem_cons_self
    · intro h path hpath
      rcases List.mem_cons.mp hpath with rfl | hpath
      · exact h
      · split at hpath
        · obtain rfl := List.mem_singleton.mp hpath
          exact isPlain_sumName ((isPlain_withExtension_iff _ _).mp h).nameSlash
        · exact absurd hpath List.not_mem_nil
  · intro test next disk after density streamId stream answers hstream hhandle path hpath
    exact disk_of_syn hstream hheader hsyn hmeta hhandle hpath

/-- The meta data of a file with the given parts of its name. -/
def namedMeta (name ext : Octets) : FileMeta where
  streamIdentifier := 0
  fileLength := 1
  sha256sum := .overwrite _ []
  fileName := .strncpy _ name 255
  fileExtension := .strncpy _ ext 15

def namedBlock (name ext : Octets) : Octets :=
  FileBkHeader.encode { syn := true, fin := true } ++ ((namedMeta name ext).encode ++ [1])

theorem opened_paths_plain_iff_text :
    (Opening.writtenNames { fileMeta := namedMeta (ofText "a") (ofText "txt"), hasSum := false }).Forall IsPlain :=
  List.forall_iff_forall_mem.mpr
    ((opened_paths_plain_iff (FileBkHeader.decode_encode { syn := true, fin := true } _) rfl
      (FileMeta.read_of_decode (FileMeta.decode_encode (namedMeta (ofText "a") (ofText "txt")) [1]))).1.mpr
      (by constructor <;> decide +kernel))

/-- A name with a slash leads out of the current directory. -/
theorem path_outside_counterexample :
    ∃ opening next after, blockOpening (namedBlock (ofText "../a") []) = some opening ∧
      oneStreamReceiver.handleReceivedFileData (fun _ => none) .failing 0
        (namedBlock (ofText "../a") []) {} = .ok (next, after) ∧
      ofText "../a" ∈ opening.writtenNames ∧ after (ofText "../a") = some [1] ∧ ¬ IsPlain (ofText "../a") := by
  have hrun : (blockOpening (namedBlock (ofText "../a") [])).bind (fun opening =>
      (oneStreamReceiver.handleReceivedFileData (fun _ => none) .failing
        0 (namedBlock (ofText "../a") []) {}).toOption.map fun handled =>
          (decide (ofText "../a" ∈ opening.writtenNames), handled.2 (ofText "../a"))) = some (true, some [1]) := by
    decide +kernel
  obtain ⟨opening, hopening, hrun⟩ := Option.bind_eq_some_iff.mp hrun
  obtain ⟨⟨next, after⟩, hhandle, hrun⟩ := Option.map_eq_some_iff.mp hrun
  simp only [Prod.mk.injEq, decide_eq_true_eq] at hrun
  have hslash : slash ∈ ofText "../a" := by decide +kernel
  exact ⟨opening, next, after, hopening, Fault.toOption_eq_some.mp hhandle, hrun.1, hrun.2, fun h => h.noSlash hslash⟩

end IperfFileTransfer

end BatsIperf
