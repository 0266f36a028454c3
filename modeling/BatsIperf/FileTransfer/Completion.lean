import BatsIperf.FileTransfer.IperfFileTransfer
import BatsIperf.Foundation.Machine

/-!
# When a receiver takes a transfer for done

A receiver of files, whatever arrives on its streams: connections are accepted, blocks are handled and the main loop polls, in any order. Two places set `TEST_DONE`. One counts the files that were announced, the other counts streams, and the number of streams it compares with was never negotiated.
-/

namespace BatsIperf

open Octets

namespace IperfFileTransfer

/-! ### What handling a block does to the object -/

/-- The object once a block of a stream is written: the stream has its file open, or the block closed it. -/
inductive Wrote (test : IperfFileTransfer) (streamId : Nat) (stream : FileStream) : IperfFileTransfer → Prop
  | ongoing (written : FileStream) (hid : written.id = stream.id) (hwriter : written.fileWriter.isSome) :
    Wrote test streamId stream { test with streams := test.streams.set streamId written }
  | finished (written : FileStream) (hid : written.id = stream.id) (hwriter : written.fileWriter = none) :
    Wrote test streamId stream { test with streams := test.streams.set streamId written }.finishFile

theorem writeBlock_wrote {test next : IperfFileTransfer} {disk after : Disk} {density : Density} {streamId : Nat}
    {stream : FileStream} {header : FileBkHeader} {content : Octets} {answers : FileAnswers}
    (h : test.writeBlock disk density streamId stream header content answers = .ok (next, after)) :
    Wrote test streamId stream next := by
  obtain ⟨writer, hwriter, h⟩ := Fault.bind_eq_ok.mp h
  have hsome : stream.fileWriter.isSome := by rw [Fault.need_eq_ok.mp hwriter]; rfl
  obtain ⟨_, _, h⟩ := Fault.bind_eq_ok.mp h
  dsimp only at h
  split at h
  · obtain ⟨rfl, _⟩ := Prod.mk.inj (Fault.pure_eq_ok.mp h)
    exact .ongoing stream rfl hsome
  split at h
  · obtain ⟨rfl, _⟩ := Prod.mk.inj (Fault.pure_eq_ok.mp h)
    exact .ongoing _ rfl rfl
  obtain ⟨_, _, h⟩ := Fault.bind_eq_ok.mp h
  split at h
  · obtain ⟨rfl, _⟩ := Prod.mk.inj (Fault.pure_eq_ok.mp h)
    exact .finished _ rfl rfl
  · obtain ⟨rfl, _⟩ := Prod.mk.inj (Fault.pure_eq_ok.mp h)
    exact .ongoing _ rfl rfl

theorem handleReceivedFileData_wrote {test next : IperfFileTransfer} {disk after : Disk} {density : Density}
    {streamId : Nat} {stream : FileStream} {data : Octets} {answers : FileAnswers}
    (hstream : test.streams[streamId]? = some stream)
    (h : test.handleReceivedFileData disk density streamId data answers = .ok (next, after)) :
    Wrote test streamId stream next := by
  unfold handleReceivedFileData at h
  rw [hstream] at h
  obtain ⟨⟨header, rest⟩, _, h⟩ := Fault.bind_eq_ok.mp h
  dsimp only at h
  split at h
  · obtain ⟨⟨fileMeta, content⟩, _, h⟩ := Fault.bind_eq_ok.mp h
    dsimp only at h
    split at h
    · obtain ⟨rfl, _⟩ := Prod.mk.inj (Fault.pure_eq_ok.mp h)
      exact .ongoing _ rfl rfl
    · cases writeBlock_wrote h with
      | ongoing written hid hwriter => exact .ongoing written hid hwriter
      | finished written hid hwriter => exact .finished written hid hwriter
  · exact writeBlock_wrote h

theorem handleReceivedFileData_ignored {test next : IperfFileTransfer} {disk after : Disk} {density : Density}
    {streamId : Nat} {data : Octets} {answers : FileAnswers} (hnone : test.streams[streamId]? = none)
    (h : test.handleReceivedFileData disk density streamId data answers = .ok (next, after)) : next = test := by
  unfold handleReceivedFileData at h
  rw [hnone] at h
  exact (Prod.mk.inj (Fault.pure_eq_ok.mp h)).1.symm

/-- The ways to handle a block: it ends no file, or it closes the file of its stream. -/
inductive Handled (test : IperfFileTransfer) (streamId : Nat) : IperfFileTransfer → Prop
  | ignored (h : test.streams[streamId]? = none) : Handled test streamId test
  | open (stream : FileStream) (h : stream.fileWriter.isSome) (hid : streamId < test.streams.length) :
    Handled test streamId { test with streams := test.streams.set streamId stream }
  | finished (stream : FileStream) (h : stream.fileWriter = none) (hid : streamId < test.streams.length) :
    Handled test streamId { test with streams := test.streams.set streamId stream }.finishFile

theorem handleReceivedFileData_handled {test next : IperfFileTransfer} {disk after : Disk} {density : Density}
    {streamId : Nat} {data : Octets} {answers : FileAnswers}
    (h : test.handleReceivedFileData disk density streamId data answers = .ok (next, after)) :
    Handled test streamId next := by
  cases hstream : test.streams[streamId]? with
  | none =>
    obtain rfl := handleReceivedFileData_ignored hstream h
    exact .ignored hstream
  | some stream =>
    have hlength := (List.getElem?_eq_some_iff.mp hstream).1
    cases handleReceivedFileData_wrote hstream h with
    | ongoing written _ hwriter => exact .open written hwriter hlength
    | finished written _ hwriter => exact .finished written hwriter hlength

/-- A stream without a writer after a block has been handled: the block was the last of a file. -/
def closedFile (test : IperfFileTransfer) (streamId : Nat) : Bool :=
  test.streams[streamId]?.any fun stream => stream.fileWriter.isNone

theorem finishFile_eq (test : IperfFileTransfer) : test.finishFile = { test with
    state := if test.testConfig.numFiles ≤ 1 then .testDone else test.state
    testConfig := { test.testConfig with numFiles := max (test.testConfig.numFiles - 1) 0 } } := by
  unfold finishFile filesLeft
  by_cases hmany : test.testConfig.numFiles ≤ 1
  · rw [if_pos (by split <;> omega), if_pos hmany, max_eq_right (by omega)]
  · rw [if_neg (by split <;> omega), if_neg hmany, if_pos (by omega), max_eq_left (by omega)]

/-- A poll leaves the object alone, or counts every stream and finds as many as are configured. -/
theorem isStreamDone_cases (test : IperfFileTransfer) :
    (test.isStreamDone.2 = test ∧ (test.isStreamDone.1 = true → test.state = .testDone)) ∨
      (test.isStreamDone = (true, { test with state := .testDone }) ∧
        test.testConfig.numStreams = test.streams.length ∧
        ∀ stream ∈ test.streams, countsAsDone test.testConfig.role stream = true) := by
  unfold isStreamDone
  split
  · rename_i h
    exact .inl ⟨rfl, fun _ => h.2.2⟩
  split
  · rename_i h
    exact .inl ⟨rfl, fun _ => h.1⟩
  split
  · rename_i h
    exact .inr ⟨rfl, by omega, List.all_eq_true.mp h.1⟩
  · exact .inl ⟨rfl, fun h => absurd h Bool.false_ne_true⟩

end IperfFileTransfer

/-- A receiver, its disk and the number of files it has closed. -/
structure FileReceiver where
  test : IperfFileTransfer
  disk : Disk
  fins : Nat := 0

namespace FileReceiver

inductive Action
  | accept
  | block (streamId : Nat) (data : Octets) (answers : IperfFileTransfer.FileAnswers)
  | poll

def step (density : Density) (s : FileReceiver) : Action → Option FileReceiver
  | .accept =>
    if s.test.dataChnListener.isSome then some { s with test := s.test.dataListenCallback } else none
  | .block streamId data answers =>
    (s.test.handleReceivedFileData s.disk density streamId data answers).toOption.map fun handled =>
      { test := handled.1
        disk := handled.2
        fins := if handled.1.closedFile streamId then s.fins + 1 else s.fins }
  | .poll => some { s with test := s.test.testFinishState.2 }

def machine (density : Density) : Machine FileReceiver Action where
  step := step density

open IperfFileTransfer

def requested (serverConfig : TestConfig) (testId : UInt32) (request : Octets) (available : Option Nat) (disk : Disk) :
    Except Fault FileReceiver := do
  let (test, _) ← (receiver { serverConfig with role := .roleReceiver } testId).handleControlMessage request available
  return { test := test, disk := disk }

/-- The counter of the files that are left, and what `TEST_DONE` stands for. -/
structure Counting (announced : Nat) (s : FileReceiver) : Prop where
  numFiles : s.test.dataChnListener.isSome → s.test.testConfig.numFiles = (announced - s.fins : Nat)
  idle : s.test.dataChnListener = none → s.test.streams = []
  done : s.test.state = .testDone → announced ≤ s.fins

/-- No poll finds as many streams as the receiver takes to be configured while files are missing. -/
def CountsFilesFirst (s : FileReceiver) : Action → Prop
  | .poll => s.test.state ≠ .testDone → s.test.testConfig.numStreams ≠ s.test.streams.length
  | _ => True

theorem poll_allowed {s : FileReceiver} (hallowed : CountsFilesFirst s .poll) :
    s.test.testFinishState.2 = s.test ∧ (s.test.testFinishState.1 = true → s.test.state = .testDone) := by
  rcases s.test.isStreamDone_cases with hsame | ⟨hdone, hstreams, _⟩
  · exact hsame
  · by_cases hstate : s.test.state = .testDone
    · have heq : { s.test with state := .testDone } = s.test := by rw [← hstate]
      rw [testFinishState, hdone]
      exact ⟨heq, fun _ => hstate⟩
    · exact absurd hstreams (hallowed hstate)

theorem counting_block {announced : Nat} {s : FileReceiver} {test : IperfFileTransfer} {disk : Disk} {streamId : Nat}
    (h : Counting announced s) (hhandled : Handled s.test streamId test) :
    Counting announced { test := test, disk := disk
                         fins := if test.closedFile streamId then s.fins + 1 else s.fins } := by
  cases hhandled with
  | ignored hnone =>
    have hopen : s.test.closedFile streamId = false := by rw [closedFile, hnone]; rfl
    simp only [hopen, Bool.false_eq_true, if_false]
    exact ⟨h.numFiles, h.idle, h.done⟩
  | «open» stream hsome hid =>
    have hopen : ({ s.test with streams := s.test.streams.set streamId stream } : IperfFileTransfer).closedFile streamId
        = false := by
      rw [closedFile, List.getElem?_set_self hid, Option.any_some, Option.isNone_eq_false_iff]
      exact hsome
    simp only [hopen, Bool.false_eq_true, if_false]
    refine ⟨h.numFiles, fun hnone => ?_, h.done⟩
    rw [h.idle hnone] at hid
    exact absurd hid (Nat.not_lt_zero _)
  | finished stream hnone hid =>
    have hclosed : ({ s.test with streams := s.test.streams.set streamId stream } : IperfFileTransfer).finishFile.closedFile
        streamId = true := by
      rw [finishFile_eq, closedFile, List.getElem?_set_self hid, Option.any_some, hnone]
      rfl
    have hlistener : s.test.dataChnListener.isSome := by
      by_contra hno
      rw [h.idle (Option.not_isSome_iff_eq_none.mp hno)] at hid
      exact absurd hid (Nat.not_lt_zero _)
    have hleft := h.numFiles hlistener
    rw [if_pos hclosed, finishFile_eq]
    refine ⟨fun _ => ?_, fun hno => ?_, fun hdone => ?_⟩
    · change max (s.test.testConfig.numFiles - 1) 0 = ((announced - (s.fins + 1) : Nat) : Int)
      rw [hleft]
      omega
    · exact absurd hlistener (by rw [show s.test.dataChnListener = none from hno]; exact Bool.false_ne_true)
    · change (if s.test.testConfig.numFiles ≤ 1 then TestState.testDone else s.test.state) = _ at hdone
      change announced ≤ s.fins + 1
      split at hdone
      · omega
      · exact (h.done hdone).trans (Nat.le_succ _)

theorem counting_step {density : Density} {announced : Nat} {s t : FileReceiver} {a : Action} (h : Counting announced s)
    (hallowed : CountsFilesFirst s a) (hstep : (machine density).step s a = some t) : Counting announced t := by
  cases a with
  | accept =>
    change (if _ then _ else _) = _ at hstep
    split at hstep
    · rename_i hlistener
      obtain rfl := Option.some.inj hstep
      refine ⟨h.numFiles, fun hnone => ?_, h.done⟩
      rw [show s.test.dataChnListener = none from hnone] at hlistener
      exact absurd hlistener Bool.false_ne_true
    · exact absurd hstep (by simp)
  | block streamId data answers =>
    obtain ⟨⟨test, disk⟩, hhandle, rfl⟩ := Option.map_eq_some_iff.mp hstep
    exact counting_block h (handleReceivedFileData_handled (Fault.toOption_eq_some.mp hhandle))
  | poll =>
    obtain rfl := Option.some.inj hstep
    rw [(poll_allowed hallowed).1]
    exact ⟨h.numFiles, h.idle, h.done⟩

theorem counting_requested {serverConfig : TestConfig} {testId : UInt32} {request body : Octets}
    {header : IperfControlData} {available : Option Nat} {disk : Disk} {s : FileReceiver}
    (hheader : IperfControlData.decode request = some (header, body)) (hrequest : header.actionCode = 1)
    (hsmall : header.param0.toNat < 2 ^ 31) (h : requested serverConfig testId request available disk = .ok s) :
    Counting header.param0.toNat s := by
  obtain ⟨⟨test, sent⟩, hhandle, h⟩ := Fault.bind_eq_ok.mp h
  obtain rfl := Fault.pure_eq_ok.mp h
  rw [handleControlMessage_decode hheader] at hhandle
  obtain ⟨_, _, hhandle⟩ := Fault.bind_eq_ok.mp hhandle
  obtain ⟨_, _, hhandle⟩ := Fault.bind_eq_ok.mp hhandle
  rw [hrequest, if_neg (by decide)] at hhandle
  obtain ⟨found, _, hfound, hhandle⟩ := handleFileTransferRequest_cases hhandle
  obtain ⟨rfl, _⟩ := Prod.mk.inj (Option.some.inj (hheader.symm.trans hfound))
  rcases hhandle with rfl | ⟨received, rfl⟩
  · exact ⟨fun hsome => absurd hsome Bool.false_ne_true, fun _ => rfl, fun hdone => TestState.noConfusion hdone⟩
  · refine ⟨fun _ => ?_, fun hnone => absurd hnone (by simp), fun hdone => TestState.noConfusion hdone⟩
    have hkept : Narrowing.signed 32 header.param0.toNat = header.param0.toNat :=
      Narrowing.signed_of_lt (by omega) (by omega)
    simpa only [receiverConfig, Nat.sub_zero] using hkept

/-- Where the request announces fewer than 2^31 files and no poll finds as many streams as `num_streams` while files are missing, the receiver is done, and says so, only when all announced files have been closed. -/
theorem done_only_when_complete {density : Density} {serverConfig : TestConfig} {testId : UInt32} {request body : Octets}
    {header : IperfControlData} {available : Option Nat} {disk : Disk} {start s : FileReceiver} {acts : List Action}
    (hheader : IperfControlData.decode request = some (header, body)) (hrequest : header.actionCode = 1)
    (hsmall : header.param0.toNat < 2 ^ 31) (hstart : requested serverConfig testId request available disk = .ok start)
    (hallowed : (machine density).Respects CountsFilesFirst start acts) (hrun : (machine density).run start acts = some s) :
    (s.test.state = .testDone → header.param0.toNat ≤ s.fins) ∧
      (CountsFilesFirst s .poll → s.test.isStreamDone.1 = true → header.param0.toNat ≤ s.fins) := by
  have hcount : Counting header.param0.toNat s := Machine.run_invariant (fun _ _ _ h => counting_step h)
    (counting_requested hheader hrequest hsmall hstart) hallowed hrun
  exact ⟨hcount.done, fun hpoll htrue => hcount.done ((poll_allowed hpoll).2 htrue)⟩

def briefRequest : Octets :=
  IperfControlData.encode { testId := 7, actionCode := 1, param0 := 1 } ++ TestConfig.serialize { protocol := 1 }

/-- A whole file of one byte in one block, named after the file `a`. -/
def wholeFile : Octets :=
  FileBkHeader.encode { syn := true, fin := true } ++ FileMeta.encode
    { streamIdentifier := 0, fileLength := 1, sha256sum := .overwrite _ [], fileName := .strncpy _ (ofText "a") 255
      fileExtension := .overwrite _ [] } ++ [1]

instance (s : FileReceiver) (a : Action) : Decidable (CountsFilesFirst s a) := by
  cases a <;> unfold CountsFilesFirst <;> infer_instance

theorem done_only_when_complete_brief :
    ∃ start s, requested {} 7 briefRequest none (fun _ => none) = .ok start ∧
      (machine .failing).run start [.poll, .accept, .block 0 wholeFile {}, .poll] = some s ∧
      (s.test.state = .testDone → 1 ≤ s.fins) ∧ (CountsFilesFirst s .poll → s.test.isStreamDone.1 = true → 1 ≤ s.fins) := by
  have hstart : (requested {} 7 briefRequest none (fun _ => none)).toOption.isSome := by decide +kernel
  obtain ⟨start, hstart⟩ := Option.isSome_iff_exists.mp hstart
  have hchecked : (requested {} 7 briefRequest none (fun _ => none)).toOption.any (fun start =>
      decide ((machine .failing).Respects CountsFilesFirst start [.poll, .accept, .block 0 wholeFile {}, .poll]) &&
        ((machine .failing).run start [.poll, .accept, .block 0 wholeFile {}, .poll]).isSome) = true := by
    decide +kernel
  rw [hstart, Option.any_some, Bool.and_eq_true, decide_eq_true_eq] at hchecked
  obtain ⟨s, hrun⟩ := Option.isSome_iff_exists.mp hchecked.2
  have hheader : IperfControlData.decode briefRequest
      = some ({ testId := 7, actionCode := 1, param0 := 1 }, TestConfig.serialize { protocol := 1 }) :=
    IperfControlData.decode_encode _ _
  have hstart := Fault.toOption_eq_some.mp hstart
  exact ⟨start, s, hstart, hrun, done_only_when_complete hheader rfl (by decide) hstart hchecked.1 hrun⟩

/-- One file is announced and its stream accepted. The next poll counts one stream of one and is done, with nothing received. -/
theorem done_before_complete_counterexample :
    ∃ start s, requested {} 7 briefRequest none (fun _ => none) = .ok start ∧
      (machine .failing).run start [.accept, .poll] = some s ∧
      start.test.testConfig.numFiles = 1 ∧ s.test.state = .testDone ∧ s.test.isStreamDone.1 = true ∧ s.fins = 0 := by
  have hrun : (requested {} 7 briefRequest none (fun _ => none)).toOption.bind (fun start =>
      ((machine .failing).run start [.accept, .poll]).map fun s =>
        (start.test.testConfig.numFiles, s.test.state, s.test.isStreamDone.1, s.fins))
      = some (1, .testDone, true, 0) := by decide +kernel
  obtain ⟨start, hstart, hrun⟩ := Option.bind_eq_some_iff.mp hrun
  obtain ⟨s, hs, hrun⟩ := Option.map_eq_some_iff.mp hrun
  simp only [Prod.mk.injEq] at hrun
  exact ⟨start, s, Fault.toOption_eq_some.mp hstart, hs, hrun⟩

end FileReceiver

end BatsIperf
