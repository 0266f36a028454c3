import BatsIperf.FileTransfer.FileSession
import BatsIperf.FileTransfer.Reassembly

/-!
# What a thread has sent

The blocks of a stream are, at any point of its thread, the files it has fetched: those before the last in whole, and of the last one as much as the thread has read and handed over. Each step of the thread moves this point, whatever buffer length it finds and whether a block is compressed or not.
-/

namespace BatsIperf

open Octets Assembly

namespace IperfFileTransfer

def content (disk : Disk) (file : File) : Octets := (disk file.path).getD []

/-- What the meta data of a file says, sent on a stream. -/
def opening (disk : Disk) (id : UInt32) (file : File) : Opening where
  fileMeta := fileMeta disk id file
  hasSum := hasChecksum disk file.path

def transfer (disk : Disk) (id : UInt32) (file : File) : Opening × Octets := (opening disk id file, content disk file)

structure Sendable (disk : Disk) (file : File) : Prop where
  readable : disk file.path = some (content disk file)
  fileSz : file.fileSz = (content disk file).length
  nonempty : content disk file ≠ []
  short : (content disk file).length < 2 ^ 31
  barId : file.barId < 10

theorem Sendable.totalFileLength {disk : Disk} {file : File} (h : Sendable disk file) :
    totalFileLength file = (content disk file).length := by
  have hshort := h.short
  rw [IperfFileTransfer.totalFileLength, h.fileSz, Narrowing.signed_of_lt (by omega) (by omega)]

end IperfFileTransfer

namespace ThreadPoint

/-- The variables of a thread that reads, or is about to. -/
def reads : ThreadPoint → Option SendLocals
  | .innerHead locals | .innerCheck locals | .waitWritable locals | .build locals => some locals
  | _ => none

/-- The variables of a thread that sends a block, and the block. -/
def sends : ThreadPoint → Option (SendLocals × Octets × Nat)
  | .sending locals block nread | .retry locals block nread => some (locals, block, nread)
  | _ => none

end ThreadPoint

namespace IperfFileTransfer

/-- The variables of a thread that has sent and read a part of its file. -/
structure Reading (disk : Disk) (stream : FileStream) (file : File) (locals : SendLocals) (sent read : Nat) : Prop where
  fileMeta : locals.fileMeta = fileMeta disk stream.id file
  total : locals.totalFileLength = (content disk file).length
  sentBytes : locals.sentBytes.toNat = sent
  rest : locals.reader.rest = (content disk file).drop read
  fits : read ≤ (content disk file).length
  eof : locals.reader.eof = true → read = (content disk file).length
  bad : locals.reader.bad = false
  hasSum : stream.bkHeader.hasSum = hasChecksum disk file.path
  fileSeq : stream.bkHeader.fileSeq = .ofNat 4 file.barId

/-- The blocks of a stream at a point of its thread, for the files the thread has fetched. -/
inductive Progress (disk : Disk) (density : Density) (stream : FileStream) (wire : List Octets) : List File → Prop
  | idle {files : List File} (hthread : stream.thread.holdsFile = false)
      (hwire : assemble (segment density) wire = some { finished := files.map (transfer disk stream.id) }) :
      Progress disk density stream wire files
  | fetched {before : List File} {file : File} (hthread : stream.thread = .openFile file)
      (hwire : assemble (segment density) wire = some { finished := before.map (transfer disk stream.id) }) :
      Progress disk density stream wire (before ++ [file])
  | reading {before : List File} {file : File} {locals : SendLocals} {sent : Nat}
      (hthread : stream.thread.reads = some locals) (hlocals : Reading disk stream file locals sent sent)
      (hwire : assemble (segment density) wire = some (sentTo (before.map (transfer disk stream.id))
        (opening disk stream.id file) (content disk file) sent)) :
      Progress disk density stream wire (before ++ [file])
  | sending {before : List File} {file : File} {locals : SendLocals} {block : Octets} {nread sent : Nat}
      (hthread : stream.thread.sends = some (locals, block, nread)) (hcount : 0 < nread)
      (hlocals : Reading disk stream file locals sent (sent + nread))
      (hblock : segment density block
        = some (nextSegment (opening disk stream.id file) (content disk file) sent nread))
      (hwire : assemble (segment density) wire = some (sentTo (before.map (transfer disk stream.id))
        (opening disk stream.id file) (content disk file) sent)) :
      Progress disk density stream wire (before ++ [file])

/-- The file a step has fetched, if it has fetched one. -/
def fetchedFile (stream : FileStream) : List File :=
  match stream.thread with
  | .openFile file => [file]
  | _ => []

section

variable {disk : Disk} {density : Density} {stream next : FileStream} {wire : List Octets} {files : List File}

theorem Reading.of_same {file : File} {locals : SendLocals} {sent read : Nat}
    (h : Reading disk stream file locals sent read) (hid : next.id = stream.id)
    (hheader : next.bkHeader = stream.bkHeader) : Reading disk next file locals sent read where
  fileMeta := by rw [hid]; exact h.fileMeta
  total := h.total
  sentBytes := h.sentBytes
  rest := h.rest
  fits := h.fits
  eof := h.eof
  bad := h.bad
  hasSum := by rw [hheader]; exact h.hasSum
  fileSeq := by rw [hheader]; exact h.fileSeq

theorem Progress.of_same (h : Progress disk density stream wire files) (hid : next.id = stream.id)
    (hheader : next.bkHeader = stream.bkHeader) (hthread : next.thread = stream.thread) :
    Progress disk density next wire files := by
  cases h with
  | idle hpoint hwire =>
    rw [← hthread] at hpoint
    rw [← hid] at hwire
    exact .idle hpoint hwire
  | fetched hpoint hwire =>
    rw [← hthread] at hpoint
    rw [← hid] at hwire
    exact .fetched hpoint hwire
  | reading hpoint hlocals hwire =>
    rw [← hthread] at hpoint
    rw [← hid] at hwire
    exact .reading hpoint (hlocals.of_same hid hheader) hwire
  | sending hpoint hcount hlocals hblock hwire =>
    rw [← hthread] at hpoint
    rw [← hid] at hwire hblock
    exact .sending hpoint hcount (hlocals.of_same hid hheader) hblock hwire

/-! ### The point of the thread decides the case -/

theorem Progress.idle_inv (h : Progress disk density stream wire files) (hthread : stream.thread.holdsFile = false) :
    assemble (segment density) wire = some { finished := files.map (transfer disk stream.id) } := by
  cases h with
  | idle _ hwire => exact hwire
  | fetched hpoint =>
    rw [hpoint] at hthread
    exact absurd hthread (by simp [ThreadPoint.holdsFile])
  | reading hpoint =>
    unfold ThreadPoint.reads at hpoint
    unfold ThreadPoint.holdsFile at hthread
    split at hpoint <;> simp_all
  | sending hpoint =>
    unfold ThreadPoint.sends at hpoint
    unfold ThreadPoint.holdsFile at hthread
    split at hpoint <;> simp_all

theorem Progress.fetched_inv {file : File} (h : Progress disk density stream wire files)
    (hthread : stream.thread = .openFile file) : ∃ before, files = before ++ [file] ∧
      assemble (segment density) wire = some { finished := before.map (transfer disk stream.id) } := by
  cases h with
  | idle hpoint =>
    rw [hthread] at hpoint
    exact absurd hpoint (by simp [ThreadPoint.holdsFile])
  | fetched hpoint hwire =>
    obtain rfl := ThreadPoint.openFile.inj (hpoint.symm.trans hthread)
    exact ⟨_, rfl, hwire⟩
  | reading hpoint =>
    rw [hthread] at hpoint
    exact absurd hpoint (by simp [ThreadPoint.reads])
  | sending hpoint =>
    rw [hthread] at hpoint
    exact absurd hpoint (by simp [ThreadPoint.sends])

theorem Progress.reading_inv {locals : SendLocals} (h : Progress disk density stream wire files)
    (hthread : stream.thread.reads = some locals) : ∃ before file sent, files = before ++ [file] ∧
      Reading disk stream file locals sent sent ∧
      assemble (segment density) wire = some (sentTo (before.map (transfer disk stream.id))
        (opening disk stream.id file) (content disk file) sent) := by
  cases h with
  | idle hpoint =>
    unfold ThreadPoint.reads at hthread
    unfold ThreadPoint.holdsFile at hpoint
    split at hthread <;> simp_all
  | fetched hpoint =>
    rw [hpoint] at hthread
    exact absurd hthread (by simp [ThreadPoint.reads])
  | reading hpoint hlocals hwire =>
    obtain rfl := Option.some.inj (hpoint.symm.trans hthread)
    exact ⟨_, _, _, rfl, hlocals, hwire⟩
  | sending hpoint =>
    unfold ThreadPoint.sends at hpoint
    unfold ThreadPoint.reads at hthread
    split at hpoint <;> simp_all

theorem Progress.sending_inv {locals : SendLocals} {block : Octets} {nread : Nat}
    (h : Progress disk density stream wire files) (hthread : stream.thread.sends = some (locals, block, nread)) :
    ∃ before file sent, files = before ++ [file] ∧ 0 < nread ∧ Reading disk stream file locals sent (sent + nread) ∧
      segment density block = some (nextSegment (opening disk stream.id file) (content disk file) sent nread) ∧
      assemble (segment density) wire = some (sentTo (before.map (transfer disk stream.id))
        (opening disk stream.id file) (content disk file) sent) := by
  cases h with
  | idle hpoint =>
    unfold ThreadPoint.sends at hthread
    unfold ThreadPoint.holdsFile at hpoint
    split at hthread <;> simp_all
  | fetched hpoint =>
    rw [hpoint] at hthread
    exact absurd hthread (by simp [ThreadPoint.sends])
  | reading hpoint =>
    unfold ThreadPoint.sends at hthread
    unfold ThreadPoint.reads at hpoint
    split at hthread <;> simp_all
  | sending hpoint hcount hlocals hblock hwire =>
    obtain ⟨rfl, rfl, rfl⟩ : _ ∧ _ ∧ _ := by simpa using hpoint.symm.trans hthread
    exact ⟨_, _, _, rfl, hcount, hlocals, hblock, hwire⟩

/-! ### The steps of a thread with a file -/

structure Kept (disk : Disk) (density : Density) (test : IperfFileTransfer) (wire : List Octets) (files : List File)
    (result : ThreadResult) : Prop where
  pendingFiles : result.pendingFiles = test.pendingFiles
  accepted : result.accepted = none
  fetched : fetchedFile result.stream = []
  progress : Progress disk density result.stream wire files

theorem progress_openStep {test : IperfFileTransfer} {file : File} (hfile : Sendable disk file)
    (h : Progress disk density stream wire files) (hthread : stream.thread = .openFile file) :
    Kept disk density test wire files (openStep disk test stream file true) := by
  obtain ⟨before, rfl, hwire⟩ := h.fetched_inv hthread
  have hlength : 0 < (content disk file).length := List.length_pos_iff.mpr hfile.nonempty
  have hopen : openStep disk test stream file true = test.moveTo
      { stream with bkHeader := fileBkHeader disk stream.bkHeader file }
      (.innerHead (openLocals disk stream.id file (content disk file))) := by
    simp only [openStep, hfile.readable]
  have hlocals : Reading disk { stream with bkHeader := fileBkHeader disk stream.bkHeader file } file
      (openLocals disk stream.id file (content disk file)) 0 0 :=
    ⟨rfl, hfile.totalFileLength, rfl, rfl, Nat.zero_le _, fun h => absurd h Bool.false_ne_true, rfl, rfl, rfl⟩
  rw [hopen]
  refine ⟨rfl, rfl, rfl, .reading rfl (hlocals.of_same rfl rfl) ?_⟩
  rw [sentTo, if_neg (by omega), if_pos rfl]
  exact hwire

theorem Progress.leave {locals : SendLocals} {point : ThreadPoint} {test : IperfFileTransfer}
    (h : Progress disk density stream wire files) (hthread : stream.thread.reads = some locals)
    (heof : locals.reader.eof = true) (hpoint : point.holdsFile = false) :
    Progress disk density (test.moveTo stream point).stream wire files := by
  obtain ⟨before, file, sent, rfl, hlocals, hwire⟩ := h.reading_inv hthread
  rw [hlocals.eof heof, sentTo, if_pos rfl] at hwire
  apply Progress.idle hpoint
  rw [List.map_append]
  exact hwire

theorem Progress.move {locals : SendLocals} {point : ThreadPoint} {test : IperfFileTransfer}
    (h : Progress disk density stream wire files) (hthread : stream.thread.reads = some locals)
    (hpoint : point.reads = some locals) : Progress disk density (test.moveTo stream point).stream wire files := by
  obtain ⟨before, file, sent, rfl, hlocals, hwire⟩ := h.reading_inv hthread
  exact .reading hpoint (hlocals.of_same rfl rfl) hwire

/-- The counter and the length are compared as 64-bit values, which hold both. -/
theorem isLastBlock_eq {file : File} {locals : SendLocals} {sent read nread : Nat} (hfile : Sendable disk file)
    (hlocals : Reading disk stream file locals sent read) (hfits : sent + nread ≤ (content disk file).length) :
    isLastBlock locals nread = decide (sent + nread = (content disk file).length) := by
  have hshort := hfile.short
  have hsent := hlocals.sentBytes
  have htotal : Narrowing.unsigned 64 locals.totalFileLength = (content disk file).length := by
    rw [hlocals.total]
    exact Narrowing.unsigned_of_lt (by omega)
  have hsum : (locals.sentBytes + UInt64.ofNat nread).toNat = sent + nread := by
    rw [← hsent]
    exact advance_toNat (by omega)
  have hlength : (UInt64.ofNat (content disk file).length).toNat = (content disk file).length :=
    UInt64.toNat_ofNat_of_lt' (by
      rw [UInt64.size]
      omega)
  rw [isLastBlock, htotal, decide_eq_decide, ← UInt64.toNat_inj, hsum, hlength]

/-- The block that is built for the data that was read is the next segment of the file. -/
theorem segment_next {file : File} {locals : SendLocals} {sent count : Nat} {hasComp : Bool} {packed : Octets}
    {header : FileBkHeader} (hlawful : density.Lawful) (hfile : Sendable disk file)
    (hlocals : Reading disk stream file locals sent sent) (hdata : locals.reader.rest.take count ≠ [])
    (hcount : count + 360 ≤ 300000) (hpacked : Packed density (locals.reader.rest.take count) hasComp packed)
    (hheader : header = { stream.bkHeader with
      syn := decide (locals.sentBytes = 0)
      fin := isLastBlock locals (locals.reader.rest.take count).length
      hasComp := hasComp }) :
    segment density (blockFront header locals.fileMeta ++ packed)
      = some (nextSegment (opening disk stream.id file) (content disk file) sent
          (locals.reader.rest.take count).length) := by
  have hfits := hlocals.fits
  have hlength : (locals.reader.rest.take count).length = min count ((content disk file).length - sent) := by
    rw [hlocals.rest, List.length_take, List.length_drop]
  have hseq : header.fileSeq.toNat < 10 := by
    have hbar := hfile.barId
    rw [hheader, show _ = _ from hlocals.fileSeq, BitVec.toNat_ofNat]
    omega
  have hfirst : locals.sentBytes = 0 ↔ sent = 0 := by
    rw [← UInt64.toNat_inj, hlocals.sentBytes]
    rfl
  have hpacked : Packed density (locals.reader.rest.take count) header.hasComp packed := by
    rw [hheader]
    exact hpacked
  rw [segment_blockFront hlawful hpacked hdata (by omega) hseq, nextSegment, Option.some.injEq, Segment.mk.injEq]
  refine ⟨?_, ?_, ?_⟩
  · rw [hheader, hlocals.fileMeta]
    simp only [decide_eq_true_eq, hfirst, hlocals.hasSum]
    rfl
  · rw [hheader]
    exact isLastBlock_eq hfile hlocals (by omega)
  · rw [← hlocals.rest, List.length_take, List.take_eq_take_iff]
    omega

theorem reading_next {file : File} {locals : SendLocals} {sent count : Nat}
    (hlocals : Reading disk stream file locals sent sent) (hrest : locals.reader.rest ≠ []) (hid : next.id = stream.id)
    (hsum : next.bkHeader.hasSum = stream.bkHeader.hasSum) (hseq : next.bkHeader.fileSeq = stream.bkHeader.fileSeq) :
    Reading disk next file (readLocals locals count) sent (sent + (locals.reader.rest.take count).length) := by
  have hfits := hlocals.fits
  have hlength : (locals.reader.rest.take count).length = min count ((content disk file).length - sent) := by
    rw [hlocals.rest, List.length_take, List.length_drop]
  have hopen : locals.reader.eof = false := by
    by_contra heof
    apply hrest
    rw [hlocals.rest, List.drop_eq_nil_iff, hlocals.eof (by simpa using heof)]
  refine ⟨hid ▸ hlocals.fileMeta, hlocals.total, hlocals.sentBytes, ?_, by omega, fun heof => ?_, hlocals.bad,
    hsum.trans hlocals.hasSum, hseq.trans hlocals.fileSeq⟩
  · change locals.reader.rest.drop count = _
    rw [hlength, hlocals.rest, List.drop_drop]
    by_cases hall : count ≤ (content disk file).length - sent
    · rw [min_eq_left hall]
    · rw [List.drop_eq_nil_of_le (by omega), List.drop_eq_nil_of_le (by omega)]
  · change (locals.reader.eof || decide (locals.reader.rest.length < count)) = true at heof
    rw [hopen, Bool.false_or, decide_eq_true_eq, hlocals.rest, List.length_drop] at heof
    omega

theorem progress_build {test : IperfFileTransfer} {locals : SendLocals} {answers : ThreadAnswers} {result : ThreadResult}
    (hlawful : density.Lawful) (hsendable : ∀ file ∈ files, Sendable disk file)
    (hlow : 362 ≤ stream.idealBufferLength) (hhigh : stream.idealBufferLength ≤ 300000) (hreads : answers.reads = true)
    (h : Progress disk density stream wire files) (hthread : stream.thread = .build locals)
    (hbuild : buildStep density test stream locals answers = .ok result) :
    Kept disk density test wire files result := by
  have husable := usable_of_mem hlow hhigh locals.sentBytes
  have hreading : stream.thread.reads = some locals := by rw [hthread]; rfl
  obtain ⟨before, file, sent, rfl, hlocals, hwire⟩ := h.reading_inv hreading
  have hfile : Sendable disk file := hsendable file (by simp)
  rw [buildStep, hreads] at hbuild
  by_cases hrest : locals.reader.rest = []
  · rw [buildBlock_end husable hrest] at hbuild
    obtain rfl := Fault.pure_eq_ok.mp hbuild
    have hend : sent = (content disk file).length := by
      have hfits := hlocals.fits
      rw [hlocals.rest, List.drop_eq_nil_iff] at hrest
      omega
    refine ⟨rfl, rfl, rfl, .reading rfl ?_ hwire⟩
    exact { hlocals with eof := fun _ => hend }
  · obtain ⟨count, hasComp, packed, hcount, hideal, hpacked, hbuilt⟩ := buildBlock_data husable hrest test.testConfig density
      stream.bkHeader answers.call
    rw [hbuilt] at hbuild
    obtain rfl := Fault.pure_eq_ok.mp hbuild
    have hdata : locals.reader.rest.take count ≠ [] := by
      rw [ne_eq, List.take_eq_nil_iff, not_or]
      exact ⟨hcount.ne', hrest⟩
    have hroom : count + 360 ≤ 300000 := by
      rw [hideal]
      exact idealFileReadLen_le hlow hhigh locals.sentBytes
    have hsegment := segment_next hlawful hfile hlocals hdata hroom hpacked rfl
    exact ⟨rfl, rfl, rfl,
      .sending rfl (List.length_pos_iff.mpr hdata) (reading_next hlocals hrest rfl rfl rfl) hsegment hwire⟩

theorem progress_sent {locals : SendLocals} {block : Octets} {nread : Nat}
    (hsendable : ∀ file ∈ files, Sendable disk file) (h : Progress disk density stream wire files)
    (hthread : stream.thread.sends = some (locals, block, nread)) :
    Progress disk density { stream with thread := .innerHead (advance locals nread) } (wire ++ [block]) files := by
  obtain ⟨before, file, sent, rfl, hcount, hlocals, hblock, hwire⟩ := h.sending_inv hthread
  have hshort := (hsendable file (by simp)).short
  have hfits := hlocals.fits
  have hsent : (advance locals nread).sentBytes.toNat = sent + nread := by
    rw [← hlocals.sentBytes]
    apply advance_toNat
    rw [hlocals.sentBytes]
    omega
  have htaken := assemble_concat.mpr ⟨_, _, hwire, hblock, take_nextSegment hcount hfits⟩
  exact .reading rfl { hlocals with sentBytes := hsent } htaken

theorem Progress.resend {test : IperfFileTransfer} {locals : SendLocals} {block : Octets} {nread : Nat}
    {point : ThreadPoint} (h : Progress disk density stream wire files)
    (hthread : stream.thread.sends = some (locals, block, nread)) (hpoint : point.sends = some (locals, block, nread)) :
    Progress disk density (test.moveTo stream point).stream wire files := by
  obtain ⟨before, file, sent, rfl, hcount, hlocals, hblock, hwire⟩ := h.sending_inv hthread
  exact .sending hpoint hcount (hlocals.of_same rfl rfl) hblock hwire

theorem Progress.rest (h : Progress disk density stream wire files) (hthread : stream.thread.holdsFile = false)
    (hid : next.id = stream.id) (hpoint : next.thread.holdsFile = false) : Progress disk density next wire files := by
  apply Progress.idle hpoint
  rw [hid]
  exact h.idle_inv hthread

/-! ### What a stream carries -/

/-- What is on a stream is a beginning of files that were fetched for it. -/
def Carried (disk : Disk) (density : Density) (wire : List Octets) (files : List File) : Prop :=
  ∃ (id : UInt32) (opened : List File) (a : Assembly Opening UInt8), opened.Sublist files ∧
    assemble (segment density) wire = some a ∧ a.BeginningOf (opened.map (transfer disk id))

theorem carried_sentTo {before : List File} {file : File} {sent : Nat} {id : UInt32}
    (hopened : (before ++ [file]).Sublist files) (hfits : sent ≤ (content disk file).length)
    (hwire : assemble (segment density) wire = some (sentTo (before.map (transfer disk id)) (opening disk id file)
      (content disk file) sent)) : Carried disk density wire files := by
  refine ⟨id, _, _, hopened, hwire, ?_⟩
  rw [List.map_append]
  exact beginningOf_sentTo hfits _ _

theorem Progress.carried (h : Progress disk density stream wire files) : Carried disk density wire files := by
  cases h with
  | idle _ hwire => exact ⟨stream.id, _, _, List.Sublist.refl _, hwire, beginningOf_finished _⟩
  | fetched _ hwire =>
    refine ⟨stream.id, _, _, List.Sublist.refl _, hwire, ?_⟩
    rw [List.map_append]
    exact (beginningOf_finished _).append _
  | reading _ hlocals hwire => exact carried_sentTo (List.Sublist.refl _) hlocals.fits hwire
  | sending _ _ hlocals _ hwire =>
    exact carried_sentTo (List.Sublist.refl _) ((Nat.le_add_right _ _).trans hlocals.fits) hwire

/-! ### Any step -/

/-- What the transfer guarantees a stream: no error, a connection while it holds a file, and a buffer length in the range. -/
structure Untroubled (test : IperfFileTransfer) (stream : FileStream) : Prop where
  noError : stream.hasErrInSend = false
  low : 362 ≤ stream.idealBufferLength
  high : stream.idealBufferLength ≤ 300000
  active : stream.thread.holdsFile = true → test.isInActive stream = true

theorem progress_threadStep {test : IperfFileTransfer} {answers : ThreadAnswers} {result : ThreadResult}
    (hlawful : density.Lawful) (hsendable : ∀ file ∈ files, Sendable disk file) (hstream : Untroubled test stream)
    (hopens : answers.opens = true) (hreads : answers.reads = true) (h : Progress disk density stream wire files)
    (hstep : threadStep disk density test stream answers = .ok result) :
    test.pendingFiles = fetchedFile result.stream ++ result.pendingFiles ∧
      Progress disk density result.stream (wire ++ result.accepted.toList) (files ++ fetchedFile result.stream) := by
  have hnoError := hstream.noError
  have hactive := hstream.active
  have hkept {result : ThreadResult} (hresult : Kept disk density test wire files result) :
      test.pendingFiles = fetchedFile result.stream ++ result.pendingFiles ∧
        Progress disk density result.stream (wire ++ result.accepted.toList) (files ++ fetchedFile result.stream) := by
    rw [hresult.fetched, hresult.accepted, hresult.pendingFiles]
    simpa using hresult.progress
  cases threadStep_move hstep with
  | stops hthread | goesOn hthread | aborts hthread | asks hthread | findsNone hthread | ends hthread =>
    have hidle : stream.thread.holdsFile = false := by rw [hthread]; rfl
    exact hkept ⟨rfl, rfl, rfl, h.rest hidle rfl rfl⟩
  | fetches hthread hpending =>
    have hidle : stream.thread.holdsFile = false := by rw [hthread]; rfl
    refine ⟨hpending, ?_⟩
    rw [Option.toList_none, List.append_nil]
    exact .fetched rfl (h.idle_inv hidle)
  | @opens file hthread =>
    obtain ⟨before, rfl, _⟩ := h.fetched_inv hthread
    have hfile : Sendable disk file := hsendable file (by simp)
    rw [hopens]
    exact hkept (progress_openStep hfile h hthread)
  | @enters locals hthread | @passes locals hthread | @waited locals hthread =>
    have hreading : stream.thread.reads = some locals := by rw [hthread]; rfl
    exact hkept ⟨rfl, rfl, rfl, h.move hreading rfl⟩
  | @leaves locals hthread hinactive =>
    have hreading : stream.thread.reads = some locals := by rw [hthread]; rfl
    have heof : locals.reader.eof = true := by
      by_contra hmore
      exact hinactive ⟨Bool.eq_false_iff.mpr hmore, hactive (by rw [hthread]; rfl)⟩
    exact hkept ⟨rfl, rfl, rfl, h.leave hreading heof rfl⟩
  | @breaks locals hthread herror =>
    -- no read of the file has failed
    have hreading : stream.thread.reads = some locals := by rw [hthread]; rfl
    obtain ⟨_, _, _, rfl, hlocals, _⟩ := h.reading_inv hreading
    simp [hlocals.bad, hnoError] at herror
  | builds hthread hbuild =>
    exact hkept (progress_build hlawful hsendable hstream.low hstream.high hreads h hthread hbuild)
  | @sends locals block nread hthread =>
    have hsending : stream.thread.sends = some (locals, block, nread) := by rw [hthread]; rfl
    refine ⟨rfl, ?_⟩
    change Progress disk density _ (wire ++ [block]) (files ++ [])
    rw [List.append_nil]
    exact progress_sent hsendable h hsending
  | @refused locals block nread hthread | @resends locals block nread hthread =>
    have hsending : stream.thread.sends = some (locals, block, nread) := by rw [hthread]; rfl
    exact hkept ⟨rfl, rfl, rfl, h.resend hsending rfl⟩
  | givesUp hthread hinactive =>
    rw [hactive (by rw [hthread]; rfl), hnoError] at hinactive
    simp at hinactive

/-- No assertion of a thread fails and no pointer is null while nothing goes wrong. -/
theorem threadStep_runs {test : IperfFileTransfer} {answers : ThreadAnswers} (hstream : Untroubled test stream)
    (hconnected : stream.thread ≠ .notStarted → stream.stream = true) (hreads : answers.reads = true) :
    (∃ result, threadStep disk density test stream answers = .ok result) ∨
      threadStep disk density test stream answers = .error .noProgress := by
  unfold threadStep
  cases hthread : stream.thread with
  | notStarted | finished | aborted => exact .inr rfl
  | outerHead | errCheck | setDone | openFile | innerHead | innerCheck => exact .inl ⟨_, rfl⟩
  | dequeue =>
    dsimp only
    split <;> exact .inl ⟨_, rfl⟩
  | waitWritable locals =>
    dsimp only
    split
    · exact .inl ⟨_, rfl⟩
    · exact .inr rfl
  | build locals =>
    have husable := usable_of_mem hstream.low hstream.high locals.sentBytes
    left
    dsimp only
    rw [buildStep, hreads]
    by_cases hrest : locals.reader.rest = []
    · rw [buildBlock_end husable hrest]
      exact ⟨_, rfl⟩
    · obtain ⟨_, _, _, _, _, _, hbuilt⟩ := buildBlock_data husable hrest test.testConfig density stream.bkHeader answers.call
      rw [hbuilt]
      exact ⟨_, rfl⟩
  | sending locals block nread =>
    have hopen : stream.stream = true := hconnected (by rw [hthread]; exact ThreadPoint.noConfusion)
    left
    dsimp only
    rw [Fault.require_of_true hopen, Fault.ok_bind]
    split <;> exact ⟨_, rfl⟩
  | retry locals block nread =>
    dsimp only
    split
    · exact .inl ⟨_, rfl⟩
    split
    · exact .inl ⟨_, rfl⟩
    · exact .inr rfl

end

end IperfFileTransfer

end BatsIperf
