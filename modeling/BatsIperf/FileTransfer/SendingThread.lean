import BatsIperf.FileTransfer.IperfFileTransfer
import Mathlib.Data.List.DropRight

/-!
# The sending thread of a stream

The thread that `CreateFileTransferThread` starts, one step at a time: a step loads or stores at most one of the variables it shares with the callbacks, fetches a file, or calls `SendData` once. What the file system, the compression library and `SendData` answer is an argument of the step.
-/

namespace BatsIperf

open Octets

/-! ### Names -/

def slash : UInt8 := 47
def dot : UInt8 := 46

def filename (path : Path) : Path := path.rtakeWhile (· ≠ slash)

/-- Without the slashes that separate it from the file name, unless they are the root directory. -/
def parentPath (path : Path) : Path :=
  let directory := path.rdropWhile (· ≠ slash)
  let trimmed := directory.rdropWhile (· = slash)
  if trimmed = [] then directory.take 1 else trimmed

def sumPath (path : Path) : Path :=
  if parentPath path = [] then filename path ++ IperfFileTransfer.sumExtension
  else parentPath path ++ [slash] ++ (filename path ++ IperfFileTransfer.sumExtension)

def nameOnly (name : Path) : Path := if dot ∈ name then (name.rdropWhile (· ≠ dot)).dropLast else name

def extension (name : Path) : Path := if dot ∈ name then name.rtakeWhile (· ≠ dot) else []

namespace FileReader

/-- `read` and the bytes it delivers. A read beyond the end sets the end-of-file bit, one that ends there does not. -/
def read (reader : FileReader) (count : Nat) (succeeds : Bool) : Octets × FileReader :=
  if succeeds then
    (reader.rest.take count, { reader with
      rest := reader.rest.drop count
      eof := reader.eof || decide (reader.rest.length < count) })
  else ([], { reader with bad := true })

end FileReader

namespace IperfFileTransfer

/-! ### The file a thread has fetched -/

/-- The content of the checksum file next to a file; the thread ignores one that is too short. -/
def checksum (disk : Disk) (path : Path) : Octets := (disk (sumPath path)).getD []

def hasChecksum (disk : Disk) (path : Path) : Bool := decide (maxHashLength ≤ (checksum disk path).length)

/-- The size narrowed to `int`. -/
def totalFileLength (file : File) : Int := Narrowing.signed 32 file.fileSz

def fileMeta (disk : Disk) (id : UInt32) (file : File) : FileMeta where
  streamIdentifier := .ofNat id.toNat
  fileLength := .ofNat 56 (Narrowing.unsigned 64 (totalFileLength file))
  sha256sum := .overwrite maxHashLength (checksum disk file.path)
  fileName :=
    let name := nameOnly (filename file.path)
    .strncpy maxNameLength name (min name.length (maxNameLength - 1))
  fileExtension :=
    let ext := extension (filename file.path)
    .strncpy maxExtensionLength ext (min ext.length (maxExtensionLength - 1))

/-- The flags that hold for every block of a file. -/
def fileBkHeader (disk : Disk) (header : FileBkHeader) (file : File) : FileBkHeader :=
  { header with fileSeq := .ofNat 4 file.barId, hasSum := hasChecksum disk file.path }

def openLocals (disk : Disk) (id : UInt32) (file : File) (content : Octets) : SendLocals where
  curFile := file
  fileMeta := fileMeta disk id file
  reader := { rest := content }
  totalFileLength := totalFileLength file

/-! ### One block -/

def maxSendBufSz : Nat := 300000
def maxCompressBufSz : Nat := 300000

/-- Only the first block leaves room for the block header. -/
def idealFileReadLen (sentBytes : UInt64) (idealBufferLength : Int) : Int :=
  if sentBytes = 0 then Narrowing.signed 32 (idealBufferLength - FileMeta.size - 1)
  else Narrowing.signed 32 (idealBufferLength - FileMeta.size)

def blockFront (header : FileBkHeader) (fileMeta : FileMeta) : Octets :=
  header.encode ++ if header.syn then fileMeta.encode else []

/-- Whether the data read so far is the whole file. The sum is unsigned and the length is converted to it. -/
def isLastBlock (locals : SendLocals) (nread : Nat) : Bool :=
  locals.sentBytes + .ofNat nread = .ofNat (Narrowing.unsigned 64 locals.totalFileLength)

/-- The compressed data behind the front of the block, none of it where the data is not compressed. -/
def compressedData (config : TestConfig) (density : Density) (call : Nat) (data : Octets) (front : Nat) : Octets :=
  if config.isCompressionEnabled then IperfCompressor.compress density call data (maxSendBufSz - front) else []

/-- What is sent for the data that was read, and whether it is compressed. The quotient of the two lengths is below 1 where the result is longer than the data. -/
def packData (config : TestConfig) (density : Density) (call : Nat) (data : Octets) (front : Nat) (ideal : Int) :
    Except Fault (Bool × Octets) := do
  let compressed := compressedData config density call data front
  if compressed = [] ∨ data.length < compressed.length then
    Fault.require .outOfBounds (front + data.length ≤ maxSendBufSz)
    return (false, data)
  else
    Fault.require .failedAssert (compressed.length ≤ Narrowing.unsigned 64 ideal)
    return (true, compressed)

/-- The next block of the file and the number of bytes it stands for, if there is something left to read. The header is kept in the send buffer, so a flag that is not written keeps its value. -/
def buildBlock (config : TestConfig) (density : Density) (header : FileBkHeader) (locals : SendLocals)
    (idealBufferLength : Int) (call : Nat) (reads : Bool) :
    Except Fault (FileBkHeader × SendLocals × Option (Octets × Nat)) := do
  let header := { header with syn := decide (locals.sentBytes = 0), hasComp := config.isCompressionEnabled }
  let front := (blockFront header locals.fileMeta).length
  let ideal := idealFileReadLen locals.sentBytes idealBufferLength
  Fault.require .failedAssert (Narrowing.unsigned 64 ideal ≤ maxSendBufSz)
  let actual := if config.isCompressionEnabled then min ideal maxCompressBufSz else ideal
  let (data, reader) := locals.reader.read actual.toNat reads
  let locals := { locals with reader := reader }
  if data = [] then return (header, locals, none)
  let header := { header with fin := isLastBlock locals data.length }
  let (hasComp, packed) ← packData config density call data front ideal
  let header := { header with hasComp := hasComp }
  return (header, locals, some (blockFront header locals.fileMeta ++ packed, data.length))

/-! ### Steps -/

structure ThreadAnswers where
  call : Nat := 0
  opens : Bool := true
  reads : Bool := true
  sendOk : Bool := true
  deriving DecidableEq

structure ThreadResult where
  stream : FileStream
  pendingFiles : List File
  /-- The block `SendData` accepted in this step. -/
  accepted : Option Octets := none
  deriving DecidableEq

def isInActive (test : IperfFileTransfer) (stream : FileStream) : Bool := stream.isConnected && test.state != .testDone

def moveTo (test : IperfFileTransfer) (stream : FileStream) (point : ThreadPoint) : ThreadResult where
  stream := { stream with thread := point }
  pendingFiles := test.pendingFiles

/-- A block that was sent, or given up, counts as sent. -/
def advance (locals : SendLocals) (nread : Nat) : SendLocals :=
  { locals with sentBytes := locals.sentBytes + .ofNat nread }

/-- The file is opened after its checksum was looked up; a file that cannot be opened is skipped. -/
def openStep (disk : Disk) (test : IperfFileTransfer) (stream : FileStream) (file : File) (opens : Bool) : ThreadResult :=
  let stream := { stream with bkHeader := fileBkHeader disk stream.bkHeader file }
  match disk file.path, opens with
  | some content, true => test.moveTo stream (.innerHead (openLocals disk stream.id file content))
  | _, _ => test.moveTo stream .outerHead

def buildStep (density : Density) (test : IperfFileTransfer) (stream : FileStream) (locals : SendLocals)
    (answers : ThreadAnswers) : Except Fault ThreadResult := do
  let (header, locals, built) ← buildBlock test.testConfig density stream.bkHeader locals stream.idealBufferLength
    answers.call answers.reads
  let stream := { stream with bkHeader := header }
  match built with
  | none => return test.moveTo stream (.innerHead locals)
  | some (block, nread) => return test.moveTo stream (.sending locals block nread)

theorem openStep_moves (disk : Disk) (test : IperfFileTransfer) (stream : FileStream) (file : File) (opens : Bool) :
    ∃ header point, openStep disk test stream file opens = test.moveTo { stream with bkHeader := header } point ∧
      (point = .outerHead ∨ ∃ locals, point = .innerHead locals) := by
  unfold openStep
  dsimp only
  split
  · exact ⟨_, _, rfl, .inr ⟨_, rfl⟩⟩
  · exact ⟨_, _, rfl, .inl rfl⟩

theorem buildStep_moves {density : Density} {test : IperfFileTransfer} {stream : FileStream} {locals : SendLocals}
    {answers : ThreadAnswers} {result : ThreadResult} (h : buildStep density test stream locals answers = .ok result) :
    ∃ header point, result = test.moveTo { stream with bkHeader := header } point ∧
      ((∃ next, point = .innerHead next) ∨ ∃ next block nread, point = .sending next block nread) := by
  obtain ⟨⟨header, next, built⟩, _, h⟩ := Fault.bind_eq_ok.mp h
  cases built with
  | none => exact ⟨header, _, (Fault.pure_eq_ok.mp h).symm, .inl ⟨next, rfl⟩⟩
  | some block => exact ⟨header, _, (Fault.pure_eq_ok.mp h).symm, .inr ⟨next, block.1, block.2, rfl⟩⟩

/-- One step. A thread that waits, has ended or was not started takes none. -/
def threadStep (disk : Disk) (density : Density) (test : IperfFileTransfer) (stream : FileStream)
    (answers : ThreadAnswers) : Except Fault ThreadResult :=
  match stream.thread with
  | .notStarted | .finished | .aborted => .error .noProgress
  | .outerHead => .ok (test.moveTo stream (if test.state = .testDone then .aborted else .errCheck))
  | .errCheck => .ok (test.moveTo stream (if stream.hasErrInSend then .aborted else .dequeue))
  | .dequeue =>
    match test.pendingFiles with
    | [] => .ok (test.moveTo stream .setDone)
    | file :: rest => .ok { stream := { stream with thread := .openFile file }, pendingFiles := rest }
  | .setDone => .ok (test.moveTo { stream with isDone := true } .finished)
  | .openFile file => .ok (openStep disk test stream file answers.opens)
  | .innerHead locals =>
    .ok (test.moveTo stream
      (if locals.reader.eof = false ∧ test.isInActive stream then .innerCheck locals else .outerHead))
  | .innerCheck locals =>
    .ok (test.moveTo stream (if locals.reader.bad ∨ stream.hasErrInSend then .outerHead else .waitWritable locals))
  | .waitWritable locals =>
    if stream.isWritable ∨ ¬ test.isInActive stream ∨ stream.hasErrInSend then .ok (test.moveTo stream (.build locals))
    else .error .noProgress
  | .build locals => buildStep density test stream locals answers
  | .sending locals block nread => do
    Fault.require .nullPointer stream.stream
    if answers.sendOk then
      return { test.moveTo stream (.innerHead (advance locals nread)) with accepted := some block }
    else return test.moveTo stream (.retry locals block nread)
  | .retry locals block nread =>
    if ¬ test.isInActive stream ∨ stream.hasErrInSend then .ok (test.moveTo stream (.innerHead (advance locals nread)))
    else if stream.isWritable then .ok (test.moveTo stream (.sending locals block nread))
    else .error .noProgress

/-- What a step does where it has a result, with the test that led there. -/
inductive ThreadMove (disk : Disk) (density : Density) (test : IperfFileTransfer) (stream : FileStream)
    (answers : ThreadAnswers) : ThreadResult → Prop
  | stops (hthread : stream.thread = .outerHead) (hdone : test.state = .testDone) :
    ThreadMove disk density test stream answers (test.moveTo stream .aborted)
  | goesOn (hthread : stream.thread = .outerHead) (hrunning : test.state ≠ .testDone) :
    ThreadMove disk density test stream answers (test.moveTo stream .errCheck)
  | aborts (hthread : stream.thread = .errCheck) (herror : stream.hasErrInSend = true) :
    ThreadMove disk density test stream answers (test.moveTo stream .aborted)
  | asks (hthread : stream.thread = .errCheck) (hnoError : stream.hasErrInSend ≠ true) :
    ThreadMove disk density test stream answers (test.moveTo stream .dequeue)
  | findsNone (hthread : stream.thread = .dequeue) (hpending : test.pendingFiles = []) :
    ThreadMove disk density test stream answers (test.moveTo stream .setDone)
  | fetches {file : File} {rest : List File} (hthread : stream.thread = .dequeue)
      (hpending : test.pendingFiles = file :: rest) :
    ThreadMove disk density test stream answers
      { stream := { stream with thread := .openFile file }, pendingFiles := rest }
  | ends (hthread : stream.thread = .setDone) :
    ThreadMove disk density test stream answers (test.moveTo { stream with isDone := true } .finished)
  | opens {file : File} (hthread : stream.thread = .openFile file) :
    ThreadMove disk density test stream answers (openStep disk test stream file answers.opens)
  | enters {locals : SendLocals} (hthread : stream.thread = .innerHead locals)
      (hactive : locals.reader.eof = false ∧ test.isInActive stream = true) :
    ThreadMove disk density test stream answers (test.moveTo stream (.innerCheck locals))
  | leaves {locals : SendLocals} (hthread : stream.thread = .innerHead locals)
      (hinactive : ¬ (locals.reader.eof = false ∧ test.isInActive stream = true)) :
    ThreadMove disk density test stream answers (test.moveTo stream .outerHead)
  | breaks {locals : SendLocals} (hthread : stream.thread = .innerCheck locals)
      (herror : locals.reader.bad = true ∨ stream.hasErrInSend = true) :
    ThreadMove disk density test stream answers (test.moveTo stream .outerHead)
  | passes {locals : SendLocals} (hthread : stream.thread = .innerCheck locals)
      (hnoError : ¬ (locals.reader.bad = true ∨ stream.hasErrInSend = true)) :
    ThreadMove disk density test stream answers (test.moveTo stream (.waitWritable locals))
  | waited {locals : SendLocals} (hthread : stream.thread = .waitWritable locals) :
    ThreadMove disk density test stream answers (test.moveTo stream (.build locals))
  | builds {locals : SendLocals} {result : ThreadResult} (hthread : stream.thread = .build locals)
      (hbuild : buildStep density test stream locals answers = .ok result) :
    ThreadMove disk density test stream answers result
  | sends {locals : SendLocals} {block : Octets} {nread : Nat} (hthread : stream.thread = .sending locals block nread)
      (hopen : stream.stream = true) :
    ThreadMove disk density test stream answers
      { test.moveTo stream (.innerHead (advance locals nread)) with accepted := some block }
  | refused {locals : SendLocals} {block : Octets} {nread : Nat} (hthread : stream.thread = .sending locals block nread)
      (hopen : stream.stream = true) :
    ThreadMove disk density test stream answers (test.moveTo stream (.retry locals block nread))
  | givesUp {locals : SendLocals} {block : Octets} {nread : Nat} (hthread : stream.thread = .retry locals block nread)
      (hinactive : test.isInActive stream ≠ true ∨ stream.hasErrInSend = true) :
    ThreadMove disk density test stream answers (test.moveTo stream (.innerHead (advance locals nread)))
  | resends {locals : SendLocals} {block : Octets} {nread : Nat} (hthread : stream.thread = .retry locals block nread)
      (hactive : ¬ (test.isInActive stream ≠ true ∨ stream.hasErrInSend = true)) :
    ThreadMove disk density test stream answers (test.moveTo stream (.sending locals block nread))

/-! ### One place of the thread at a time -/

section

variable {disk : Disk} {density : Density} {test : IperfFileTransfer} {stream : FileStream} {answers : ThreadAnswers}
  {result : ThreadResult}

theorem move_outerHead (hthread : stream.thread = .outerHead)
    (h : threadStep disk density test stream answers = .ok result) :
    ThreadMove disk density test stream answers result := by
  unfold threadStep at h
  rw [hthread] at h
  obtain rfl := Except.ok.inj h
  split
  · rename_i hdone
    exact .stops hthread hdone
  · rename_i hrunning
    exact .goesOn hthread hrunning

theorem move_errCheck (hthread : stream.thread = .errCheck)
    (h : threadStep disk density test stream answers = .ok result) :
    ThreadMove disk density test stream answers result := by
  unfold threadStep at h
  rw [hthread] at h
  obtain rfl := Except.ok.inj h
  split
  · rename_i herror
    exact .aborts hthread herror
  · rename_i hnoError
    exact .asks hthread hnoError

theorem move_dequeue (hthread : stream.thread = .dequeue)
    (h : threadStep disk density test stream answers = .ok result) :
    ThreadMove disk density test stream answers result := by
  unfold threadStep at h
  rw [hthread] at h
  dsimp only at h
  split at h
  · rename_i hpending
    obtain rfl := Except.ok.inj h
    exact .findsNone hthread hpending
  · rename_i hpending
    obtain rfl := Except.ok.inj h
    exact .fetches hthread hpending

theorem move_innerHead {locals : SendLocals} (hthread : stream.thread = .innerHead locals)
    (h : threadStep disk density test stream answers = .ok result) :
    ThreadMove disk density test stream answers result := by
  unfold threadStep at h
  rw [hthread] at h
  obtain rfl := Except.ok.inj h
  split
  · rename_i hactive
    exact .enters hthread hactive
  · rename_i hinactive
    exact .leaves hthread hinactive

theorem move_innerCheck {locals : SendLocals} (hthread : stream.thread = .innerCheck locals)
    (h : threadStep disk density test stream answers = .ok result) :
    ThreadMove disk density test stream answers result := by
  unfold threadStep at h
  rw [hthread] at h
  obtain rfl := Except.ok.inj h
  split
  · rename_i herror
    exact .breaks hthread herror
  · rename_i hnoError
    exact .passes hthread hnoError

theorem move_waitWritable {locals : SendLocals} (hthread : stream.thread = .waitWritable locals)
    (h : threadStep disk density test stream answers = .ok result) :
    ThreadMove disk density test stream answers result := by
  unfold threadStep at h
  rw [hthread] at h
  dsimp only at h
  split at h
  · obtain rfl := Except.ok.inj h
    exact .waited hthread
  · cases h

theorem move_sending {locals : SendLocals} {block : Octets} {nread : Nat}
    (hthread : stream.thread = .sending locals block nread)
    (h : threadStep disk density test stream answers = .ok result) :
    ThreadMove disk density test stream answers result := by
  unfold threadStep at h
  rw [hthread] at h
  obtain ⟨_, hopen, h⟩ := Fault.bind_eq_ok.mp h
  have hopen := Fault.require_eq_ok.mp hopen
  split at h
  · obtain rfl := Fault.pure_eq_ok.mp h
    exact .sends hthread hopen
  · obtain rfl := Fault.pure_eq_ok.mp h
    exact .refused hthread hopen

theorem move_retry {locals : SendLocals} {block : Octets} {nread : Nat}
    (hthread : stream.thread = .retry locals block nread)
    (h : threadStep disk density test stream answers = .ok result) :
    ThreadMove disk density test stream answers result := by
  unfold threadStep at h
  rw [hthread] at h
  dsimp only at h
  split at h
  · rename_i hinactive
    obtain rfl := Except.ok.inj h
    exact .givesUp hthread hinactive
  · rename_i hactive
    split at h
    · obtain rfl := Except.ok.inj h
      exact .resends hthread hactive
    · cases h

theorem threadStep_move (h : threadStep disk density test stream answers = .ok result) :
    ThreadMove disk density test stream answers result := by
  cases hthread : stream.thread with
  | outerHead => exact move_outerHead hthread h
  | errCheck => exact move_errCheck hthread h
  | dequeue => exact move_dequeue hthread h
  | innerHead locals => exact move_innerHead hthread h
  | innerCheck locals => exact move_innerCheck hthread h
  | waitWritable locals => exact move_waitWritable hthread h
  | sending locals block nread => exact move_sending hthread h
  | retry locals block nread => exact move_retry hthread h
  | notStarted | finished | aborted =>
    unfold threadStep at h
    rw [hthread] at h
    cases h
  | setDone =>
    unfold threadStep at h
    rw [hthread] at h
    obtain rfl := Except.ok.inj h
    exact .ends hthread
  | openFile file =>
    unfold threadStep at h
    rw [hthread] at h
    obtain rfl := Except.ok.inj h
    exact .opens hthread
  | build locals =>
    unfold threadStep at h
    rw [hthread] at h
    exact .builds hthread h

end

/-! ### What a step changes -/

end IperfFileTransfer

def ThreadPoint.holdsFile : ThreadPoint → Bool
  | .openFile _ | .innerHead _ | .innerCheck _ | .waitWritable _ | .build _ | .sending .. | .retry .. => true
  | _ => false

namespace IperfFileTransfer

/-- A step of the thread leaves the variables of the callbacks alone, stores `is_done` last, and sends only while it has a file. -/
structure Stepped (stream : FileStream) (result : ThreadResult) : Prop where
  frame : ∃ point header, result.stream = { stream with
    thread := point, bkHeader := header, isDone := stream.isDone || decide (stream.thread = .setDone) }
  finished : result.stream.thread = .finished ↔ stream.thread = .setDone
  accepted : result.accepted.isSome → stream.thread.holdsFile
  holdsFile : result.stream.thread.holdsFile → stream.thread.holdsFile ∨ ∃ file, result.stream.thread = .openFile file

theorem stepped_moveTo {test : IperfFileTransfer} {stream : FileStream} {header : FileBkHeader} {point : ThreadPoint}
    (hdone : stream.thread ≠ .setDone) (hfinished : point ≠ .finished)
    (hholds : point.holdsFile → stream.thread.holdsFile) :
    Stepped stream (test.moveTo { stream with bkHeader := header } point) where
  frame := ⟨point, header, by rw [decide_eq_false hdone, Bool.or_false]; rfl⟩
  finished := ⟨fun h => absurd h hfinished, fun h => absurd h hdone⟩
  accepted := fun h => absurd h Bool.false_ne_true
  holdsFile := fun h => .inl (hholds h)

theorem stepped_buildStep {density : Density} {test : IperfFileTransfer} {stream : FileStream} {locals : SendLocals}
    {answers : ThreadAnswers} {result : ThreadResult} (hthread : stream.thread = .build locals)
    (h : buildStep density test stream locals answers = .ok result) : Stepped stream result := by
  have hdone : stream.thread ≠ .setDone := hthread ▸ ThreadPoint.noConfusion
  have hholds : stream.thread.holdsFile := hthread ▸ rfl
  obtain ⟨header, point, rfl, ⟨_, rfl⟩ | ⟨_, _, _, rfl⟩⟩ := buildStep_moves h <;>
  exact stepped_moveTo hdone ThreadPoint.noConfusion fun _ => hholds

theorem threadStep_stepped {disk : Disk} {density : Density} {test : IperfFileTransfer} {stream : FileStream}
    {answers : ThreadAnswers} {result : ThreadResult} (h : threadStep disk density test stream answers = .ok result) :
    Stepped stream result := by
  have hmove {point : ThreadPoint} (hdone : stream.thread ≠ .setDone) (hfinished : point ≠ .finished)
      (hholds : point.holdsFile → stream.thread.holdsFile) : Stepped stream (test.moveTo stream point) :=
    stepped_moveTo hdone hfinished hholds
  cases threadStep_move h with
  | stops hthread | goesOn hthread | aborts hthread | asks hthread | findsNone hthread =>
    rw [hthread] at hmove
    exact hmove ThreadPoint.noConfusion ThreadPoint.noConfusion fun h => absurd h Bool.false_ne_true
  | @fetches file _ hthread =>
    refine ⟨⟨.openFile file, stream.bkHeader, ?_⟩, ?_, fun h => absurd h Bool.false_ne_true, fun _ => .inr ⟨file, rfl⟩⟩
    · rw [hthread, decide_eq_false ThreadPoint.noConfusion, Bool.or_false]
    · rw [hthread]
      exact ⟨ThreadPoint.noConfusion, ThreadPoint.noConfusion⟩
  | ends hthread =>
    refine ⟨⟨.finished, stream.bkHeader, ?_⟩, ⟨fun _ => hthread, fun _ => rfl⟩, fun h => absurd h Bool.false_ne_true,
      fun h => absurd h Bool.false_ne_true⟩
    rw [hthread, decide_eq_true rfl, Bool.or_true]
    rfl
  | opens hthread =>
    have hdone : stream.thread ≠ .setDone := hthread ▸ ThreadPoint.noConfusion
    obtain ⟨header, point, hopened, hpoint⟩ := openStep_moves disk test stream _ answers.opens
    rw [hopened]
    rcases hpoint with rfl | ⟨_, rfl⟩ <;> exact stepped_moveTo hdone ThreadPoint.noConfusion fun _ => hthread ▸ rfl
  | enters hthread | leaves hthread | breaks hthread | passes hthread | waited hthread | refused hthread
    | givesUp hthread | resends hthread =>
    rw [hthread] at hmove
    exact hmove ThreadPoint.noConfusion ThreadPoint.noConfusion fun _ => rfl
  | builds hthread hbuild => exact stepped_buildStep hthread hbuild
  | @sends locals block nread hthread =>
    rw [hthread] at hmove
    have hstep : Stepped stream (test.moveTo stream (.innerHead (advance locals nread))) :=
      hmove ThreadPoint.noConfusion ThreadPoint.noConfusion fun _ => rfl
    exact ⟨hstep.frame, hstep.finished, fun _ => hthread ▸ rfl, hstep.holdsFile⟩

structure Ends (test : IperfFileTransfer) (stream : FileStream) (result : ThreadResult) : Prop where
  running : stream.thread ≠ .notStarted ∧ stream.thread ≠ .finished
  setDone : result.stream.thread = .setDone → test.pendingFiles = []
  aborted : result.stream.thread = .aborted → test.state = .testDone ∨ stream.hasErrInSend = true

theorem ends_of_moves {test : IperfFileTransfer} {stream : FileStream} {result : ThreadResult}
    (hrunning : stream.thread ≠ .notStarted ∧ stream.thread ≠ .finished) (hsetDone : result.stream.thread ≠ .setDone)
    (haborted : result.stream.thread ≠ .aborted) : Ends test stream result :=
  ⟨hrunning, fun h => absurd h hsetDone, fun h => absurd h haborted⟩

theorem threadStep_ends {disk : Disk} {density : Density} {test : IperfFileTransfer} {stream : FileStream}
    {answers : ThreadAnswers} {result : ThreadResult} (h : threadStep disk density test stream answers = .ok result) :
    Ends test stream result := by
  have hrunning : stream.thread ≠ .notStarted ∧ stream.thread ≠ .finished := by
    constructor <;> intro hthread <;> simp [threadStep, hthread] at h
  cases threadStep_move h with
  | stops _ hdone => exact ⟨hrunning, by simp [moveTo], fun _ => .inl hdone⟩
  | aborts _ herror => exact ⟨hrunning, by simp [moveTo], fun _ => .inr herror⟩
  | findsNone _ hempty => exact ⟨hrunning, fun _ => hempty, by simp [moveTo]⟩
  | goesOn | asks | fetches | ends | enters | leaves | breaks | passes | waited | sends | refused | givesUp
    | resends =>
    apply ends_of_moves hrunning <;> simp [moveTo]
  | opens =>
    obtain ⟨header, point, hopened, hpoint⟩ := openStep_moves disk test stream _ answers.opens
    rw [hopened]
    rcases hpoint with rfl | ⟨_, rfl⟩ <;> apply ends_of_moves hrunning <;> simp [moveTo]
  | builds _ hbuild =>
    obtain ⟨header, point, rfl, ⟨_, rfl⟩ | ⟨_, _, _, rfl⟩⟩ := buildStep_moves hbuild <;>
    apply ends_of_moves hrunning <;> simp [moveTo]

end IperfFileTransfer

end BatsIperf
