import BatsIperf.FileTransfer.Block
import BatsIperf.FileTransfer.Compressor
import BatsIperf.Stream.IperfStream

/-!
# A file transfer

One object plays both ends of a transfer. The sender announces its files, opens the data streams when the receiver agrees, and each stream fetches files from a queue in a thread of its own. The receiver writes what arrives on a stream to the file the stream has announced.

The functions below are the callbacks and the calls of the main loop; the sending thread is in the next module. A disk is a partial map from paths to contents.
-/

namespace BatsIperf

open Octets

abbrev Disk := Path → Option Octets

structure File where
  barId : Nat := 0
  fileSz : Int := 0
  path : Path
  deriving DecidableEq

/-- An input file stream: what is left to read and the state bits. -/
structure FileReader where
  rest : Octets
  eof : Bool := false
  bad : Bool := false
  deriving DecidableEq

/-- An output file stream. A file that could not be opened does not set the bad bit, a write that failed does. -/
structure FileWriter where
  name : Path
  position : Nat := 0
  isOpen : Bool
  bad : Bool := false
  deriving DecidableEq

/-- The variables of the sending thread for the file it sends. -/
structure SendLocals where
  curFile : File
  fileMeta : FileMeta
  reader : FileReader
  totalFileLength : Int
  sentBytes : UInt64 := 0
  deriving DecidableEq

/-- Where the sending thread is, with the variables it still needs there. A thread that found the queue empty has finished, one that left its loop otherwise was aborted. -/
inductive ThreadPoint
  | notStarted | outerHead | errCheck | dequeue | setDone | finished | aborted
  | openFile (curFile : File)
  | innerHead (locals : SendLocals)
  | innerCheck (locals : SendLocals)
  | waitWritable (locals : SendLocals)
  | build (locals : SendLocals)
  | sending (locals : SendLocals) (block : Octets) (nread : Nat)
  | retry (locals : SendLocals) (block : Octets) (nread : Nat)
  deriving DecidableEq

structure FileStream where
  id : UInt32
  isConnected : Bool := false
  isWritable : Bool := true
  isDone : Bool := false
  allAcked : Bool := false
  hasErrInSend : Bool := false
  idealBufferLength : Int := 4096
  /-- Whether a connection is kept. -/
  stream : Bool := false
  fileWriter : Option FileWriter := none
  writeBytes : UInt64 := 0
  retryCnt : Nat := 0
  fileName : Path := []
  fileLength : BitVec 56 := 0
  thread : ThreadPoint := .notStarted
  /-- The first byte of the buffer of the thread, which outlives blocks and files. -/
  bkHeader : FileBkHeader := {}
  deriving DecidableEq

structure IperfFileTransfer where
  testConfig : TestConfig
  testId : UInt32
  /-- Whether the control channel is known. -/
  ctrlChn : Bool := false
  state : TestState := .testNone
  isStopped : Bool := false
  dataChnListener : Option BatsConfiguration := none
  dataChnConnector : Option BatsConfiguration := none
  streams : List FileStream := []
  pendingFiles : List File := []

namespace IperfFileTransfer

/-- The files of the queue: those with a size, each once, numbered by their place in the list. -/
def uniqueFiles (disk : Disk) : Nat → List Path → List Path → List File
  | _, _, [] => []
  | id, seen, file :: rest =>
    if file ∈ seen then uniqueFiles disk (id + 1) seen rest
    else
      match disk file with
      | some content =>
        { barId := id, fileSz := Narrowing.signed 64 content.length, path := file }
          :: uniqueFiles disk (id + 1) (file :: seen) rest
      | none => uniqueFiles disk (id + 1) (file :: seen) rest

def sender (disk : Disk) (config : TestConfig) (testId : UInt32) : IperfFileTransfer where
  testConfig := { config with
    totalBytesInFiles := ((uniqueFiles disk 0 [] config.files).map File.fileSz).sum }
  testId := testId
  pendingFiles := uniqueFiles disk 0 [] config.files

def receiver (config : TestConfig) (testId : UInt32) : IperfFileTransfer where
  testConfig := config
  testId := testId

/-- The control channel is opened in mode 10, TCP. -/
def start (test : IperfFileTransfer) (keyFilesExist : Bool) : Bool × IperfFileTransfer :=
  if keyFilesExist then
    (true, { test with dataChnConnector := some (test.dataChnConnector.getD { transportMode := 10 }) })
  else (false, test)

/-- `Stop` up to the point where it waits for the threads. -/
def stop (test : IperfFileTransfer) : IperfFileTransfer :=
  if test.isStopped then test else { test with isStopped := true, state := .testDone }

/-- The rest of `Stop`, once no thread of a stream runs. -/
def clearStreams (test : IperfFileTransfer) : IperfFileTransfer := { test with streams := [] }

/-! ### The control channel -/

/-- A control message in a zeroed buffer of 300 bytes. -/
def message (test : IperfFileTransfer) (header : IperfControlData) (body : Octets) : Except Fault Octets := do
  Fault.require .failedAssert (test.testId ≠ 0)
  Fault.need .outOfBounds (fill 300 (header.encode ++ body))

def requestHeader (test : IperfFileTransfer) : IperfControlData where
  testId := test.testId
  actionCode := 1
  numOfStreams := .ofNat (Narrowing.unsigned 8 test.testConfig.numStreams)
  param0 := .ofNat test.testConfig.files.length
  param1 := .ofNat (Narrowing.unsigned 32 (test.testConfig.totalBytesInFiles / 2 ^ 32))
  param2 := .ofNat (Narrowing.unsigned 32 test.testConfig.totalBytesInFiles)

def sendFileTransferRequest (test : IperfFileTransfer) : Except Fault (IperfFileTransfer × List Octets) := do
  let bytes ← test.message test.requestHeader test.testConfig.serialize
  Fault.require .nullPointer test.ctrlChn
  return ({ test with state := .testExchangeParameters }, [bytes])

def responseHeader (test : IperfFileTransfer) (denied : Bool) : IperfControlData where
  testId := test.testId
  actionCode := 4
  param0 := if denied then 1 else 0

/-- `SendResponseOk` and `SendResponseDenied`. -/
def sendResponse (test : IperfFileTransfer) (denied : Bool) : Except Fault (List Octets) := do
  let bytes ← test.message (test.responseHeader denied) []
  Fault.require .nullPointer test.ctrlChn
  return [bytes]

/-- Both ends of the data channel use this configuration, with a time-out of five seconds. -/
def dataConfiguration (protocol : Int) : BatsConfiguration where
  connectionTimeout := 5 * 1000
  transportMode := batsTransMode protocol

/-- The configuration of the receiver once it has taken over a request. -/
def receiverConfig (config received : TestConfig) (param0 : UInt32) : TestConfig :=
  { received with
    numFiles := Narrowing.signed 32 param0.toNat
    isDebugMode := config.isDebugMode
    role := .roleReceiver
    resolution := config.resolution }

/-- Whether the free space, where it is known, is too small. Both sides of the comparison are unsigned. -/
def lacksSpace (available : Option Nat) (totalBytes : Nat) : Bool := available.any (· ≤ totalBytes)

def handleFileTransferRequest (test : IperfFileTransfer) (bytes : Octets) (available : Option Nat) :
    Except Fault (IperfFileTransfer × List Octets) := do
  let received ← Fault.need .outOfBounds (TestConfig.deserialize {} (IperfControlData.bodyOf bytes))
  -- the parameters of the header, which ends before the body
  let (header, _) ← Fault.need .outOfBounds (IperfControlData.decode bytes)
  let totalBytes := header.param1.toNat * 2 ^ 32 + header.param2.toNat
  if lacksSpace available totalBytes then
    let sent ← test.sendResponse true
    return (test, sent)
  else
    let test := { test with
      dataChnListener := some (dataConfiguration received.protocol)
      testConfig := receiverConfig test.testConfig received header.param0 }
    let sent ← test.sendResponse false
    return (test, sent)

def onRecvResponse (test : IperfFileTransfer) : Except Fault IperfFileTransfer := do
  Fault.require .nullPointer test.dataChnConnector.isSome
  -- a negative count is no capacity for the vector
  Fault.require .terminated (0 ≤ test.testConfig.numStreams)
  let opened := (List.range test.testConfig.numStreams.toNat).map fun i => ({ id := .ofNat i } : FileStream)
  return { test with
    dataChnConnector := some (dataConfiguration test.testConfig.protocol)
    streams := test.streams ++ opened }

def handleControlMessage (test : IperfFileTransfer) (bytes : Octets) (available : Option Nat) :
    Except Fault (IperfFileTransfer × List Octets) := do
  let testId ← Fault.need .outOfBounds (IperfControlData.testIdAt bytes)
  Fault.require .failedAssert (testId = test.testId)
  let actionCode ← Fault.need .outOfBounds (IperfControlData.actionCodeAt bytes)
  Fault.require .failedAssert (actionCode = 1 ∨ actionCode = 4)
  if actionCode = 4 then
    let param0 ← Fault.need .outOfBounds (IperfControlData.param0At bytes)
    if param0 = 0 then
      let test ← test.onRecvResponse
      return (test, [])
    else return ({ test with ctrlChn := false }.stop, [])
  else
    let test := { test with ctrlChn := true }
    test.handleFileTransferRequest bytes available

section

variable {header : IperfControlData} {bytes body : Octets}

theorem handleFileTransferRequest_decode (hdecode : IperfControlData.decode bytes = some (header, body))
    (test : IperfFileTransfer) (available : Option Nat) :
    test.handleFileTransferRequest bytes available = do
      let received ← Fault.need .outOfBounds (TestConfig.deserialize {} body)
      if lacksSpace available (header.param1.toNat * 2 ^ 32 + header.param2.toNat) then
        let sent ← test.sendResponse true
        return (test, sent)
      else
        let test := { test with
          dataChnListener := some (dataConfiguration received.protocol)
          testConfig := receiverConfig test.testConfig received header.param0 }
        let sent ← test.sendResponse false
        return (test, sent) := by
  simp only [handleFileTransferRequest, (IperfControlData.fields_of_decode hdecode).body, hdecode, Fault.need_some,
    Fault.ok_bind]

theorem handleControlMessage_decode (hdecode : IperfControlData.decode bytes = some (header, body))
    (test : IperfFileTransfer) (available : Option Nat) :
    test.handleControlMessage bytes available = (do
      Fault.require .failedAssert (header.testId = test.testId)
      Fault.require .failedAssert (header.actionCode = 1 ∨ header.actionCode = 4)
      if header.actionCode = 4 then
        if header.param0 = 0 then
          let test ← test.onRecvResponse
          return (test, [])
        else return ({ test with ctrlChn := false }.stop, [])
      else
        let test := { test with ctrlChn := true }
        test.handleFileTransferRequest bytes available) := by
  have hfields := IperfControlData.fields_of_decode hdecode
  simp only [handleControlMessage, hfields.testId, hfields.actionCode, hfields.param0, Fault.need_some, Fault.ok_bind]

end

section

variable {test next : IperfFileTransfer} {bytes : Octets} {available : Option Nat} {sent : List Octets}

theorem handleFileTransferRequest_cases (h : test.handleFileTransferRequest bytes available = .ok (next, sent)) :
    ∃ header body, IperfControlData.decode bytes = some (header, body) ∧ (next = test ∨ ∃ received, next = { test with
      dataChnListener := some (dataConfiguration received.protocol)
      testConfig := receiverConfig test.testConfig received header.param0 }) := by
  obtain ⟨received, _, h⟩ := Fault.bind_eq_ok.mp h
  obtain ⟨⟨header, body⟩, hdecode, h⟩ := Fault.bind_eq_ok.mp h
  refine ⟨header, body, Fault.need_eq_ok.mp hdecode, ?_⟩
  dsimp only at h
  split at h
  · obtain ⟨_, _, h⟩ := Fault.bind_eq_ok.mp h
    exact .inl (Prod.mk.inj (Fault.pure_eq_ok.mp h)).1.symm
  · obtain ⟨_, _, h⟩ := Fault.bind_eq_ok.mp h
    exact .inr ⟨received, (Prod.mk.inj (Fault.pure_eq_ok.mp h)).1.symm⟩

/-- A message is a response that opens the streams or ends the transfer, or a request. -/
theorem handleControlMessage_cases (h : test.handleControlMessage bytes available = .ok (next, sent)) :
    test.onRecvResponse = .ok next ∨ next = { test with ctrlChn := false }.stop ∨
      { test with ctrlChn := true }.handleFileTransferRequest bytes available = .ok (next, sent) := by
  obtain ⟨_, _, h⟩ := Fault.bind_eq_ok.mp h
  obtain ⟨_, _, h⟩ := Fault.bind_eq_ok.mp h
  obtain ⟨_, _, h⟩ := Fault.bind_eq_ok.mp h
  obtain ⟨_, _, h⟩ := Fault.bind_eq_ok.mp h
  split at h
  · obtain ⟨_, _, h⟩ := Fault.bind_eq_ok.mp h
    split at h
    · obtain ⟨opened, hopened, h⟩ := Fault.bind_eq_ok.mp h
      obtain ⟨rfl, _⟩ := Prod.mk.inj (Fault.pure_eq_ok.mp h)
      exact .inl hopened
    · obtain ⟨rfl, _⟩ := Prod.mk.inj (Fault.pure_eq_ok.mp h)
      exact .inr (.inl rfl)
  · exact .inr (.inr h)

end

/-- `BATS_CONNECTION_ESTABLISHED` on the control channel. -/
def ctrlChannelEstablished (test : IperfFileTransfer) : Except Fault (IperfFileTransfer × List Octets) :=
  { test with ctrlChn := true }.sendFileTransferRequest

/-! ### The data streams -/

/-- `BATS_LISTEN_NEW_CONNECTION` on the listener for data streams. -/
def dataListenCallback (test : IperfFileTransfer) : IperfFileTransfer :=
  { test with streams := test.streams ++ [{ id := .ofNat test.streams.length, isConnected := true, stream := true }] }

def onStream (test : IperfFileTransfer) (streamId : Nat) (f : FileStream → Except Fault FileStream) :
    Except Fault IperfFileTransfer := do
  let stream ← Fault.need .outOfBounds test.streams[streamId]?
  let stream ← f stream
  return { test with streams := test.streams.set streamId stream }

/-- What an event of a data stream, apart from received data, does to the stream. Overwriting the handle of a thread that was started before ends the program. -/
def streamEvent (test : IperfFileTransfer) (event : ConnEvent) (stream : FileStream) : Except Fault FileStream :=
  match event with
  | .timeout => do
    if stream.retryCnt < 3 then
      Fault.require .nullPointer test.dataChnConnector.isSome
      return { stream with retryCnt := stream.retryCnt + 1 }
    else return stream
  | .closed | .shutdownByPeer => .ok { stream with stream := false }
  | .established idealBufferLength => do
    Fault.require .terminated (stream.thread = .notStarted)
    return { stream with
      stream := true, isConnected := true, idealBufferLength := idealBufferLength, thread := .outerHead }
  | .bufferFull => .ok { stream with isWritable := false }
  | .writable => .ok { stream with isWritable := true }
  | .idealBufferLength length => .ok { stream with idealBufferLength := length }
  | .allDataAcked => .ok (if stream.isDone then { stream with allAcked := true } else stream)
  | .sendDataError => .ok { stream with hasErrInSend := true }
  | .none | .failed | .sendComplete | .error | .alreadyConnected => .ok stream

/-- Only a closed connection is looked up with a check; some events are not looked up at all. -/
def connectionCallback (test : IperfFileTransfer) (streamId : Nat) (event : ConnEvent) :
    Except Fault IperfFileTransfer :=
  match event with
  | .none | .failed | .sendComplete | .error | .alreadyConnected => .ok test
  | .closed | .shutdownByPeer =>
    if test.streams.length ≤ streamId then .ok test else test.onStream streamId (test.streamEvent event)
  | event => test.onStream streamId (test.streamEvent event)

/-! ### Calls of the main loop -/

def isStreamReady (test : IperfFileTransfer) : Bool :=
  if test.state = .testDone ∧ test.streams = [] then true
  else test.streams.all FileStream.isConnected && decide (test.testConfig.numStreams - test.streams.length = 0)

/-- Whether `IsStreamDone` counts the stream, because of an error or because it is finished. Only a file sender waits for its streams. -/
def countsAsDone (role : TestRole) (stream : FileStream) : Bool :=
  ¬ (stream.hasErrInSend = false ∧ role = .roleFileSender ∧ (stream.isDone = false ∨ stream.allAcked = false))

def isStreamDone (test : IperfFileTransfer) : Bool × IperfFileTransfer :=
  if test.testConfig.role = .roleFileReceiver ∧ test.testConfig.numFiles ≤ 0 ∧ test.state = .testDone then (true, test)
  else if test.state = .testDone ∧ test.streams = [] then (true, test)
  else if test.streams.all (countsAsDone test.testConfig.role) ∧ test.testConfig.numStreams - test.streams.length = 0 then
    (true, { test with state := .testDone })
  else (false, test)

def testFinishState (test : IperfFileTransfer) : Bool × IperfFileTransfer := test.isStreamDone

/-! ### Received blocks -/

/-- What the file system answers while a block is handled. -/
structure FileAnswers where
  sumOpens : Bool := true
  opens : Bool := true
  writes : Bool := true
  /-- Whether the buffer of the file stream reaches the file when the stream is closed. -/
  closes : Bool := true
  /-- How many bytes reach the file where a write or the close fails. -/
  kept : Nat := 0
  deriving DecidableEq

def maxDecompressedBufSz : Int := 300000

def sumExtension : Path := ofText ".sha256sum"

/-- The content of a file after a write at a position. -/
def writeAt (content : Octets) (position : Nat) (data : Octets) : Octets :=
  content.take position ++ List.replicate (position - content.length) 0 ++ data
    ++ content.drop (position + data.length)

/-- What a file keeps of the data that a stream was given, where the end of it is lost with the buffer. -/
def keptOf (given : Octets) (kept : Nat) : Octets := given.dropLast.take kept

/-- `write` of a file stream, which does nothing where a bit of the stream says that it is not good. The data counts as written once the stream has it in its buffer. -/
def writeFile (disk : Disk) (writer : FileWriter) (data : Octets) (answers : FileAnswers) : FileWriter × Disk :=
  let given := writeAt ((disk writer.name).getD []) writer.position data
  if ¬ writer.isOpen ∨ writer.bad then (writer, disk)
  else if ¬ answers.writes then
    ({ writer with bad := true }, Function.update disk writer.name (some (keptOf given answers.kept)))
  else ({ writer with position := writer.position + data.length }, Function.update disk writer.name (some given))

/-- `close` of a file stream, whose failure no one looks at. -/
def closeFile (disk : Disk) (writer : FileWriter) (answers : FileAnswers) : Disk :=
  if writer.isOpen ∧ ¬ answers.closes then
    Function.update disk writer.name (some (keptOf ((disk writer.name).getD []) answers.kept))
  else disk

def writeFileSha256 (disk : Disk) (name : Path) (fileMeta : FileMeta) (opens : Bool) : Disk :=
  if opens then Function.update disk name (some (fileMeta.sha256sum.bytes ++ ofText "\n")) else disk

def withExtension (name ext : Octets) : Path := if ext = [] then name else name ++ ofText "." ++ ext

def filesLeft (numFiles : Int) : Int := if numFiles > 0 then numFiles - 1 else numFiles

/-- The last block of a file: another file is complete. -/
def finishFile (test : IperfFileTransfer) : IperfFileTransfer :=
  if filesLeft test.testConfig.numFiles ≤ 0 then
    { test with state := .testDone, testConfig := { test.testConfig with numFiles := 0 } }
  else { test with testConfig := { test.testConfig with numFiles := filesLeft test.testConfig.numFiles } }

/-- The data a block carries, none where it cannot be decompressed. -/
def blockData (density : Density) (header : FileBkHeader) (content : Octets) : Octets :=
  if header.hasComp then IperfCompressor.decompress density content maxDecompressedBufSz else content

/-- The part of `HandleReceivedFileData` after the file is open. -/
def writeBlock (test : IperfFileTransfer) (disk : Disk) (density : Density) (streamId : Nat) (stream : FileStream)
    (header : FileBkHeader) (content : Octets) (answers : FileAnswers) : Except Fault (IperfFileTransfer × Disk) := do
  let writer ← Fault.need .failedAssert stream.fileWriter
  Fault.require .failedAssert (content ≠ [])
  let data := blockData density header content
  if data = [] then return ({ test with streams := test.streams.set streamId stream }, disk)
  let (writer, disk) := writeFile disk writer data answers
  if writer.bad then
    let stream := { stream with fileWriter := some writer }
    return ({ test with streams := test.streams.set streamId stream }, disk)
  Fault.require .failedAssert (header.fileSeq.toNat < 10)
  if header.fin then
    let stream := { stream with fileWriter := none, writeBytes := 0 }
    return ({ test with streams := test.streams.set streamId stream }.finishFile, closeFile disk writer answers)
  else
    let stream := { stream with
      fileWriter := some writer
      writeBytes := stream.writeBytes + .ofNat content.length }
    return ({ test with streams := test.streams.set streamId stream }, disk)

def handleReceivedFileData (test : IperfFileTransfer) (disk : Disk) (density : Density) (streamId : Nat)
    (data : Octets) (answers : FileAnswers) : Except Fault (IperfFileTransfer × Disk) := do
  let some stream := test.streams[streamId]? | return (test, disk)
  let (header, rest) ← Fault.need .outOfBounds (FileBkHeader.decode data)
  if header.syn then
    let (fileMeta, content) ← Fault.need .outOfBounds (FileMeta.read rest)
    let (name, ext) := fileMeta.readFileNames
    -- the checksum goes to a file named before the extension is put back
    let disk := if header.hasSum then writeFileSha256 disk (name ++ sumExtension) fileMeta answers.sumOpens else disk
    let stream := { stream with
      fileName := withExtension name ext
      fileLength := fileMeta.fileLength
      fileWriter := some { name := withExtension name ext, isOpen := answers.opens } }
    if ¬ answers.opens then return ({ test with streams := test.streams.set streamId stream }, disk)
    let disk := Function.update disk (withExtension name ext) (some [])
    test.writeBlock disk density streamId stream header content answers
  else test.writeBlock disk density streamId stream header rest answers

end IperfFileTransfer

end BatsIperf
