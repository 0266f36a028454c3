import BatsIperf.FileTransfer.FileSession
import BatsIperf.Stream.FlowControl

/-!
# The retry loop of a file transfer

The thread of `CreateFileTransferThread` repeats a refused send as the thread of a throughput stream does, and here `ConnectionCallback` clears the flag when the buffer is full.
-/

namespace BatsIperf

open FlowControl

namespace IperfFileTransfer

/-- The pass a thread is about to take, where it is in its retry loop. -/
def retryPass (test : IperfFileTransfer) (stream : FileStream) : Option Pass :=
  match stream.thread with
  | .retry .. => some (pass (!test.isInActive stream || stream.hasErrInSend) stream.isWritable)
  | _ => none

variable {disk : Disk} {density : Density} {test : IperfFileTransfer} {stream : FileStream} {answers : ThreadAnswers}

theorem retryPass_eq_some {p : Pass} (h : test.retryPass stream = some p) :
    ∃ locals block nread, stream.thread = .retry locals block nread ∧
      p = pass (!test.isInActive stream || stream.hasErrInSend) stream.isWritable := by
  unfold retryPass at h
  split at h
  · rename_i locals block nread hthread
    exact ⟨locals, block, nread, hthread, (Option.some.inj h).symm⟩
  · exact absurd h (by simp)

theorem threadStep_of_resends (h : test.retryPass stream = some .resends) :
    ∃ locals block nread, threadStep disk density test stream answers =
      .ok (test.moveTo stream (.sending locals block nread)) := by
  obtain ⟨locals, block, nread, hthread, hpass⟩ := retryPass_eq_some h
  obtain ⟨hleave, hwritable⟩ := pass_resends_iff.mp hpass.symm
  have hstay : ¬ (¬ test.isInActive stream = true ∨ stream.hasErrInSend = true) := by simpa using hleave
  exact ⟨locals, block, nread, by simp only [threadStep, hthread, if_neg hstay, if_pos hwritable]⟩

theorem threadStep_of_waits (h : test.retryPass stream = some .waits) :
    threadStep disk density test stream answers = .error .noProgress := by
  obtain ⟨locals, block, nread, hthread, hpass⟩ := retryPass_eq_some h
  obtain ⟨hleave, hwritable⟩ := pass_waits_iff.mp hpass.symm
  have hstay : ¬ (¬ test.isInActive stream = true ∨ stream.hasErrInSend = true) := by simpa using hleave
  have hfull : ¬ stream.isWritable = true := by simpa using hwritable
  simp only [threadStep, hthread, if_neg hstay, if_neg hfull]

theorem threadStep_isWritable {result : ThreadResult} (h : threadStep disk density test stream answers = .ok result) :
    result.stream.isWritable = stream.isWritable := by
  cases threadStep_move h with
  | opens =>
    obtain ⟨header, point, hopen, _⟩ := openStep_moves disk test stream _ answers.opens
    rw [hopen]
    rfl
  | builds _ hbuild =>
    obtain ⟨header, point, rfl, _⟩ := buildStep_moves hbuild
    rfl
  | _ => rfl

theorem streamEvent_isWritable {event : ConnEvent} {next : FileStream} (h : test.streamEvent event stream = .ok next) :
    next.isWritable = (connSignal event).elim stream.isWritable (· == .writable) := by
  cases streamEvent_move h with
  | closed hevent =>
    rcases hevent with rfl | rfl <;> rfl
  | other hevent =>
    simp only [List.mem_cons, List.not_mem_nil, or_false] at hevent
    rcases hevent with rfl | rfl | rfl | rfl | rfl <;> rfl
  | _ => rfl

end IperfFileTransfer

namespace FileSession

open IperfFileTransfer

def signalOf (i : Nat) : Action → Option Signal
  | .event k event => if k = i then connSignal event else none
  | _ => none

def retryLoop (i : Nat) : RetryLoop FileSession Action where
  signal := signalOf i
  flag s := (s.sender.streams[i]?).map fun stream => stream.isWritable
  Resends s a := (∃ answers, a = .thread i answers) ∧
    ∃ stream, s.sender.streams[i]? = some stream ∧ s.sender.retryPass stream = some .resends

variable {senderDisk : Disk} {density : Density}

theorem retryLoop_flag {i : Nat} {s : FileSession} {stream : FileStream} (h : s.sender.streams[i]? = some stream) :
    (retryLoop i).flag s = some stream.isWritable := by
  change (s.sender.streams[i]?).map _ = _
  rw [h, Option.map_some]

theorem signalOf_event (i : Nat) (event : ConnEvent) : signalOf i (.event i event) = connSignal event := if_pos rfl

theorem signalOf_other {i : Nat} {a : Action} (h : ∀ event, a ≠ .event i event) : signalOf i a = none := by
  cases a with
  | event k event => exact if_neg fun hk => h event (by rw [hk])
  | _ => rfl

/-- The flag of a stream follows the events of its connection, whatever the other steps are. -/
theorem retryLoop_follows (i : Nat) : (retryLoop i).Follows (machine senderDisk density) := by
  intro s t a flag hstep hflag
  obtain ⟨next, hnext, rfl⟩ := Option.map_eq_some_iff.mp hflag
  obtain ⟨stream, hstream, hmoved⟩ := stream_moved hstep hnext
  refine ⟨stream.isWritable, retryLoop_flag hstream, ?_⟩
  change next.isWritable = (signalOf i a).elim stream.isWritable _
  cases hmoved with
  | event hevent =>
    rw [signalOf_event]
    exact streamEvent_isWritable hevent
  | thread hthread => exact threadStep_isWritable hthread
  | other hevent =>
    rw [signalOf_other hevent]
    rfl

theorem retryLoop_obeys (i : Nat) (s : FileSession) (acts : List Action) :
    (retryLoop i).Obeys (machine senderDisk density) s acts := by
  apply (retryLoop_follows i).obeys
  rintro s a ⟨_, stream, hstream, hresends⟩
  obtain ⟨_, _, _, _, hpass⟩ := retryPass_eq_some hresends
  rw [retryLoop_flag hstream, (pass_resends_iff.mp hpass.symm).2]

end FileSession

/-! ### Both implementations -/

variable {Recorder : Type} {tools : SeqTools Recorder}

open LiveStream in
/-- In a run of a stream, beside any runs of a file transfer, all retry loops heed the events exactly where the stream has no `BATS_CONNECTION_BUFFER_FULL`: behind one they neither send again nor would leave off waiting. -/
theorem flow_controlled_iff {s t : LiveStream Recorder} {acts : List Action} (hrun : (machine tools).run s acts = some t) :
    (retryLoop.Obeys (machine tools) s acts ∧ ∀ senderDisk density (session : FileSession) fileActs i,
        (FileSession.retryLoop i).Obeys (FileSession.machine senderDisk density) session fileActs) ↔
      ∀ a ∈ acts, a ≠ .event .bufferFull := by
  rw [← retryLoop_obeys_iff hrun]
  exact and_iff_left fun senderDisk density session fileActs i => FileSession.retryLoop_obeys i session fileActs

open LiveStream in
/-- A stream whose first send is refused, and that is told that its buffer is full. -/
def untilFull : List Action := untilBuilt ++ [refusedStep, .event .bufferFull]

open LiveStream in
theorem flow_controlled_iff_sent : retryLoop.Obeys (machine SeqTools.ofLists)
    (connecting { role := .roleSender, protocol := 1 } 1 5 []) (untilBuilt ++ [refusedStep]) := by
  have hruns : ((machine SeqTools.ofLists).run (connecting { role := .roleSender, protocol := 1 } 1 5 [])
      (untilBuilt ++ [refusedStep])).isSome = true := by decide +kernel
  obtain ⟨t, hrun⟩ := Option.isSome_iff_exists.mp hruns
  refine ((flow_controlled_iff hrun).mpr fun a ha hfull => ?_).1
  simp [hfull, untilBuilt, acceptedStep, refusedStep] at ha

open LiveStream in
/-- The next pass of its loop sends again. -/
theorem resend_when_full_counterexample :
    ∃ t, (machine SeqTools.ofLists).run (connecting { role := .roleSender, protocol := 1 } 1 5 []) untilFull = some t ∧
      lastSignal signalOf untilFull = some .full ∧ retryLoop.Resends t refusedStep := by
  have hrun : ((machine SeqTools.ofLists).run (connecting { role := .roleSender, protocol := 1 } 1 5 [])
      untilFull).map (fun t => (t.sendingThread, t.retryPass)) = some (.sending, some .resends) := by decide +kernel
  obtain ⟨t, ht, hpoint⟩ := Option.map_eq_some_iff.mp hrun
  obtain ⟨hsending, hresends⟩ := Prod.mk.inj hpoint
  exact ⟨t, ht, by decide +kernel, ⟨_, rfl⟩, hsending, hresends⟩

end BatsIperf
