import BatsIperf.FileTransfer.FileSession

/-!
# The last acknowledgement of a stream

A file sender counts a stream once its thread has stored `is_done` and an acknowledgement of all data was handled. The callback drops the acknowledgement while `is_done` is not stored yet, and the library gives none to a stream that sent nothing.
-/

namespace BatsIperf

open Octets IperfFileTransfer

namespace FileSession

/-- The acknowledgement of all data of a stream is handled when its thread has stored `is_done`. -/
def AckedWhenDone (i : Nat) (s : FileSession) (a : Action) : Prop :=
  a = .event i .allDataAcked ∧ ∃ stream, s.sender.streams[i]? = some stream ∧ stream.isDone = true

def SendFailed (i : Nat) (_ : FileSession) (a : Action) : Prop := a = .event i .sendDataError

def GivenFile (s : FileSession) (i : Nat) : Prop := ∃ file, (i, file) ∈ s.fetched

/-- The thread of the stream has ended because the queue was empty, and everything it sent is acknowledged or it was given no file. -/
def CompletionDue (s : FileSession) (i : Nat) (stream : FileStream) : Prop :=
  s.sender.streams[i]? = some stream ∧ stream.thread = .finished ∧
    ((s.wire i ≠ [] ∧ s.unacked i = false) ∨ ¬ GivenFile s i)

/-! ### The flags of a stream -/

/-- The flags of a stream after a step, and what the thread does to `is_done`. -/
theorem moved_flags {senderDisk : Disk} {density : Density} {s : FileSession} {i : Nat} {stream next : FileStream}
    {a : Action} (h : Moved senderDisk density s i stream a next) :
    (next.allAcked = true ↔ stream.allAcked = true ∨ (a = .event i .allDataAcked ∧ stream.isDone = true)) ∧
      (next.hasErrInSend = true ↔ stream.hasErrInSend = true ∨ a = .event i .sendDataError) := by
  cases h with
  | event hevent =>
    have hnotified := streamEvent_notified hevent
    simp [hnotified.allAcked, hnotified.hasErrInSend]
  | thread hstep =>
    obtain ⟨_, _, hframe⟩ := (threadStep_stepped hstep).frame
    simp [hframe]
  | other hevent => simp [hevent]

/-- A thread that has ended normally has stored `is_done`. -/
def DoneWhenFinished (s : FileSession) : Prop :=
  ∀ (i : Nat) (stream : FileStream), s.sender.streams[i]? = some stream → stream.thread = .finished → stream.isDone = true

theorem doneWhenFinished_step {senderDisk : Disk} {density : Density} {s t : FileSession} {a : Action}
    (hs : DoneWhenFinished s) (hstep : (machine senderDisk density).step s a = some t) : DoneWhenFinished t := by
  intro i next hnext hfinished
  obtain ⟨stream, hstream, hmoved⟩ := stream_moved hstep hnext
  have hbefore := hs i stream hstream
  cases hmoved with
  | event hevent =>
    have hnotified := streamEvent_notified hevent
    rw [hnotified.isDone]
    rcases hnotified.thread with hsame | ⟨_, hstarted⟩
    · exact hbefore (hsame.symm.trans hfinished)
    · exact ThreadPoint.noConfusion (hstarted.symm.trans hfinished)
  | thread hthread =>
    have hstepped := threadStep_stepped hthread
    obtain ⟨_, _, hframe⟩ := hstepped.frame
    rw [hframe]
    simp [hstepped.finished.mp hfinished]
  | other => exact hbefore hfinished

/-! ### Files and acknowledgements -/

theorem givenFile_step {senderDisk : Disk} {density : Density} {s t : FileSession} {a : Action} {i : Nat}
    (hstep : (machine senderDisk density).step s a = some t) (hgiven : GivenFile s i) : GivenFile t i := by
  obtain ⟨file, hfile⟩ := hgiven
  refine ⟨file, ?_⟩
  by_cases ha : ∃ k answers, a = .thread k answers
  · obtain ⟨k, answers, rfl⟩ := ha
    obtain ⟨_, _, _, _, rfl⟩ := thread_inv hstep
    exact List.mem_append_left _ hfile
  · have hsame := (unsent_of_not_thread hstep fun k answers h => ha ⟨k, answers, h⟩).2.1
    exact hsame ▸ hfile

theorem unacked_step {senderDisk : Disk} {density : Density} {s t : FileSession} {a : Action} {i : Nat}
    (hstep : (machine senderDisk density).step s a = some t) (hunacked : t.unacked i = true) :
    s.unacked i = true ∨ ∃ stream, s.sender.streams[i]? = some stream ∧ stream.thread.holdsFile := by
  by_cases ha : ∃ k answers, a = .thread k answers
  · obtain ⟨k, answers, rfl⟩ := ha
    obtain ⟨stream, _, hstream, hthread, rfl⟩ := thread_inv hstep
    dsimp only at hunacked
    by_cases hk : i = k
    · subst hk
      rw [Function.update_self, Bool.or_eq_true] at hunacked
      exact hunacked.imp id fun haccepted => ⟨stream, hstream, (threadStep_stepped hthread).accepted haccepted⟩
    · rw [Function.update_of_ne hk] at hunacked
      exact .inl hunacked
  · exact .inl ((unsent_of_not_thread hstep fun k answers h => ha ⟨k, answers, h⟩).2.2 i hunacked)

/-- A stream that holds a file, or has data or an acknowledgement of it, was given a file. -/
structure FetchedFirst (s : FileSession) : Prop where
  holdsFile : ∀ (i : Nat) (stream : FileStream), s.sender.streams[i]? = some stream → stream.thread.holdsFile → GivenFile s i
  unacked : ∀ i, s.unacked i = true → GivenFile s i
  allAcked : ∀ (i : Nat) (stream : FileStream), s.sender.streams[i]? = some stream → stream.allAcked = true → GivenFile s i

theorem fetchedFirst_step {senderDisk : Disk} {density : Density} {s t : FileSession} {a : Action}
    (hs : FetchedFirst s) (hstep : (machine senderDisk density).step s a = some t) : FetchedFirst t where
  holdsFile := fun i next hnext hholds => by
    obtain ⟨stream, hstream, hmoved⟩ := stream_moved hstep hnext
    have hbefore (hthread : stream.thread.holdsFile) : GivenFile t i :=
      givenFile_step hstep (hs.holdsFile i stream hstream hthread)
    cases hmoved with
    | event hevent =>
      rcases (streamEvent_notified hevent).thread with hsame | ⟨_, hstarted⟩
      · exact hbefore (hsame ▸ hholds)
      · rw [hstarted] at hholds
        exact absurd hholds Bool.false_ne_true
    | thread hthread =>
      rcases (threadStep_stepped hthread).holdsFile hholds with hsame | ⟨file, hopen⟩
      · exact hbefore hsame
      · obtain ⟨_, result, hagain, hresult, rfl⟩ := thread_inv hstep
        obtain rfl := Option.some.inj (hstream.symm.trans hagain)
        obtain rfl := Except.ok.inj (hthread.symm.trans hresult)
        refine ⟨file, List.mem_append_right _ ?_⟩
        rw [fetchedIn, hopen]
        exact List.mem_singleton_self _
    | other => exact hbefore hholds
  unacked := fun i hunacked => by
    rcases unacked_step hstep hunacked with hbefore | ⟨stream, hstream, hholds⟩
    · exact givenFile_step hstep (hs.unacked i hbefore)
    · exact givenFile_step hstep (hs.holdsFile i stream hstream hholds)
  allAcked := fun i next hnext hacked => by
    obtain ⟨stream, hstream, hmoved⟩ := stream_moved hstep hnext
    rcases (moved_flags hmoved).1.mp hacked with hbefore | ⟨rfl, _⟩
    · exact givenFile_step hstep (hs.allAcked i stream hstream hbefore)
    · exact givenFile_step hstep (hs.unacked i ((event_inv hstep).1 rfl))

/-! ### Whole runs -/

def HasStream (i : Nat) (s : FileSession) : Prop := ∃ stream, s.sender.streams[i]? = some stream

def HasAllAcked (i : Nat) (s : FileSession) : Prop :=
  ∃ stream, s.sender.streams[i]? = some stream ∧ stream.allAcked = true

def HasErrInSend (i : Nat) (s : FileSession) : Prop :=
  ∃ stream, s.sender.streams[i]? = some stream ∧ stream.hasErrInSend = true

theorem allAcked_run {senderDisk : Disk} {density : Density} {s t : FileSession} {acts : List Action} {i : Nat}
    (hrun : (machine senderDisk density).run s acts = some t) (hstream : HasStream i t) :
    HasStream i s ∧
      (HasAllAcked i t ↔ HasAllAcked i s ∨ (machine senderDisk density).Occurs (AckedWhenDone i) s acts) := by
  refine Machine.run_flag (fun s a t hstep hthere => ?_) hrun hstream
  obtain ⟨next, hnext⟩ := hthere
  obtain ⟨stream, hstream, hmoved⟩ := stream_moved hstep hnext
  refine ⟨⟨stream, hstream⟩, ?_⟩
  simp only [HasAllAcked, AckedWhenDone, hnext, hstream, Option.some.injEq, exists_eq_left']
  exact (moved_flags hmoved).1

theorem hasErrInSend_run {senderDisk : Disk} {density : Density} {s t : FileSession} {acts : List Action} {i : Nat}
    (hrun : (machine senderDisk density).run s acts = some t) (hstream : HasStream i t) :
    HasStream i s ∧
      (HasErrInSend i t ↔ HasErrInSend i s ∨ (machine senderDisk density).Occurs (SendFailed i) s acts) := by
  refine Machine.run_flag (fun s a t hstep hthere => ?_) hrun hstream
  obtain ⟨next, hnext⟩ := hthere
  obtain ⟨stream, hstream, hmoved⟩ := stream_moved hstep hnext
  refine ⟨⟨stream, hstream⟩, ?_⟩
  simp only [HasErrInSend, SendFailed, hnext, hstream, Option.some.injEq, exists_eq_left']
  exact (moved_flags hmoved).2

def IsFileSender (s : FileSession) : Prop := s.sender.testConfig.role = .roleFileSender

theorem isFileSender_step {senderDisk : Disk} {density : Density} {s t : FileSession} {a : Action}
    (hs : IsFileSender s) (hstep : (machine senderDisk density).step s a = some t) : IsFileSender t := by
  rw [IsFileSender, testConfig_step hstep]
  exact hs

/-- What holds of a sender whose streams have not begun. -/
structure Fresh (s : FileSession) : Prop where
  role : IsFileSender s
  unacked : s.unacked = fun _ => false
  streams : ∀ (i : Nat) (stream : FileStream), s.sender.streams[i]? = some stream → ∃ id, stream = { id := id }

theorem fresh_start {senderDisk : Disk} {config serverConfig : TestConfig} {testId : UInt32} {available : Option Nat}
    {disk : Disk} {s : FileSession} {i : Nat}
    (h : start senderDisk config serverConfig testId available disk = .ok s) (hstream : HasStream i s) : Fresh s := by
  obtain ⟨hs, hsender⟩ := start_cases h
  split at hsender
  · obtain ⟨stream, hstream⟩ := hstream
    rw [hsender] at hstream
    exact absurd hstream (by simp)
  rw [hs, hsender]
  refine ⟨rfl, rfl, fun i stream hstream => ?_⟩
  dsimp only [opened] at hstream
  rw [List.getElem?_map] at hstream
  obtain ⟨_, _, rfl⟩ := Option.map_eq_some_iff.mp hstream
  exact ⟨_, rfl⟩

theorem Fresh.fetchedFirst {s : FileSession} (h : Fresh s) : FetchedFirst s where
  holdsFile := fun i stream hstream hholds => by
    obtain ⟨_, rfl⟩ := h.streams i stream hstream
    exact absurd hholds Bool.false_ne_true
  unacked := fun i hunacked => by
    rw [h.unacked] at hunacked
    exact absurd hunacked Bool.false_ne_true
  allAcked := fun i stream hstream hacked => by
    obtain ⟨_, rfl⟩ := h.streams i stream hstream
    exact absurd hacked Bool.false_ne_true

theorem Fresh.doneWhenFinished {s : FileSession} (h : Fresh s) : DoneWhenFinished s := by
  intro i stream hstream hfinished
  obtain ⟨_, rfl⟩ := h.streams i stream hstream
  exact ThreadPoint.noConfusion hfinished

theorem Fresh.flags_run {senderDisk : Disk} {density : Density} {s t : FileSession} {acts : List Action} {i : Nat}
    {stream : FileStream} (h : Fresh s) (hrun : (machine senderDisk density).run s acts = some t)
    (hstream : t.sender.streams[i]? = some stream) :
    (stream.allAcked = true ↔ (machine senderDisk density).Occurs (AckedWhenDone i) s acts) ∧
      (stream.hasErrInSend = true ↔ (machine senderDisk density).Occurs (SendFailed i) s acts) := by
  have hacked := (allAcked_run hrun ⟨stream, hstream⟩).2
  have herr := (hasErrInSend_run hrun ⟨stream, hstream⟩).2
  have hclear : ¬ HasAllAcked i s ∧ ¬ HasErrInSend i s := by
    constructor
    · rintro ⟨before, hbefore, hflag⟩
      obtain ⟨_, rfl⟩ := h.streams i before hbefore
      exact absurd hflag Bool.false_ne_true
    · rintro ⟨before, hbefore, hflag⟩
      obtain ⟨_, rfl⟩ := h.streams i before hbefore
      exact absurd hflag Bool.false_ne_true
  simp only [hclear.1, hclear.2, false_or] at hacked herr
  simp only [HasAllAcked, HasErrInSend, hstream, Option.some.injEq, exists_eq_left'] at hacked herr
  exact ⟨hacked, herr⟩

theorem countsAsDone_eq_true {stream : FileStream} (hdone : stream.isDone = true) :
    countsAsDone .roleFileSender stream = true ↔ stream.hasErrInSend = true ∨ stream.allAcked = true := by
  simp only [countsAsDone, hdone]
  cases stream.hasErrInSend <;> cases stream.allAcked <;> decide

/-- A stream whose completion is due is counted in exactly those runs in which an error was reported, or the stream was given a file and an acknowledgement was handled after the thread had stored `is_done`. -/
theorem completion_counted_iff {senderDisk : Disk} {density : Density} {config serverConfig : TestConfig}
    {testId : UInt32} {available : Option Nat} {disk : Disk} {s t : FileSession} {acts : List Action} {i : Nat}
    {stream : FileStream} (hstart : start senderDisk config serverConfig testId available disk = .ok s)
    (hrun : (machine senderDisk density).run s acts = some t) (hdue : CompletionDue t i stream) :
    countsAsDone t.sender.testConfig.role stream = true ↔
      (machine senderDisk density).Occurs (SendFailed i) s acts ∨
        (GivenFile t i ∧ (machine senderDisk density).Occurs (AckedWhenDone i) s acts) := by
  obtain ⟨hstream, hfinished, _⟩ := hdue
  have hfresh : Fresh s := fresh_start hstart (allAcked_run hrun ⟨stream, hstream⟩).1
  have hdone : DoneWhenFinished t :=
    Machine.run_preserves (fun _ _ _ => doneWhenFinished_step) hfresh.doneWhenFinished hrun
  have hfetched : FetchedFirst t := Machine.run_preserves (fun _ _ _ => fetchedFirst_step) hfresh.fetchedFirst hrun
  have hrole : IsFileSender t := Machine.run_preserves (fun _ _ _ => isFileSender_step) hfresh.role hrun
  obtain ⟨hacked, herr⟩ := hfresh.flags_run hrun hstream
  rw [show t.sender.testConfig.role = .roleFileSender from hrole, countsAsDone_eq_true (hdone i stream hstream hfinished), herr, hacked]
  refine or_congr_right ⟨fun hseen => ⟨hfetched.allAcked i stream hstream (hacked.mpr hseen), hseen⟩, And.right⟩

def oneFile : Disk := fun path => if path = ofText "a" then some [1] else none

def oneFileStart : Except Fault FileSession :=
  start oneFile { protocol := 1, numStreams := 1, files := [ofText "a"] } {} 7 none fun _ => none

/-- The stream is established and its thread sends the file. -/
def sendsFile : List Action := .event 0 (.established 4096) :: List.replicate 9 (.thread 0 {})

def findsNoFile : List Action := List.replicate 5 (.thread 0 {})

theorem completion_counted_iff_late :
    ∃ s t stream, oneFileStart = .ok s ∧
      (machine oneFile .failing).run s (sendsFile ++ findsNoFile ++ [.event 0 .allDataAcked]) = some t ∧
      CompletionDue t 0 stream ∧
      (countsAsDone t.sender.testConfig.role stream = true ↔
        (machine oneFile .failing).Occurs (SendFailed 0) s (sendsFile ++ findsNoFile ++ [.event 0 .allDataAcked]) ∨
          (GivenFile t 0 ∧ (machine oneFile .failing).Occurs (AckedWhenDone 0) s
            (sendsFile ++ findsNoFile ++ [.event 0 .allDataAcked]))) := by
  have hrun : oneFileStart.toOption.bind (fun s =>
      ((machine oneFile .failing).run s (sendsFile ++ findsNoFile ++ [.event 0 .allDataAcked])).bind fun t =>
        t.sender.streams[0]?.map fun stream => (decide (stream.thread = .finished), decide (t.wire 0 ≠ []), t.unacked 0))
      = some (true, true, false) := by decide +kernel
  obtain ⟨s, hstart, hrun⟩ := Option.bind_eq_some_iff.mp hrun
  obtain ⟨t, ht, hrun⟩ := Option.bind_eq_some_iff.mp hrun
  obtain ⟨stream, hstream, hrun⟩ := Option.map_eq_some_iff.mp hrun
  simp only [Prod.mk.injEq, decide_eq_true_eq] at hrun
  have hstart := Fault.toOption_eq_some.mp hstart
  have hdue : CompletionDue t 0 stream := ⟨hstream, hrun.1, .inl hrun.2⟩
  exact ⟨s, t, stream, hstart, ht, hdue, completion_counted_iff hstart ht hdue⟩

/-- The same run, but the file is acknowledged before the thread finds that there is no other one. -/
theorem completion_lost_counterexample :
    ∃ s t stream, oneFileStart = .ok s ∧
      (machine oneFile .failing).run s (sendsFile ++ [.event 0 .allDataAcked] ++ findsNoFile) = some t ∧
      CompletionDue t 0 stream ∧ countsAsDone t.sender.testConfig.role stream = false ∧
      t.sender.isStreamDone.1 = false := by
  have hrun : oneFileStart.toOption.bind (fun s =>
      ((machine oneFile .failing).run s (sendsFile ++ [.event 0 .allDataAcked] ++ findsNoFile)).bind fun t =>
        t.sender.streams[0]?.map fun stream =>
          (decide (stream.thread = .finished), decide (t.wire 0 ≠ []), t.unacked 0,
            countsAsDone t.sender.testConfig.role stream, t.sender.isStreamDone.1))
      = some (true, true, false, false, false) := by decide +kernel
  obtain ⟨s, hstart, hrun⟩ := Option.bind_eq_some_iff.mp hrun
  obtain ⟨t, ht, hrun⟩ := Option.bind_eq_some_iff.mp hrun
  obtain ⟨stream, hstream, hrun⟩ := Option.map_eq_some_iff.mp hrun
  simp only [Prod.mk.injEq, decide_eq_true_eq] at hrun
  exact ⟨s, t, stream, Fault.toOption_eq_some.mp hstart, ht, ⟨hstream, hrun.1, .inl ⟨hrun.2.1, hrun.2.2.1⟩⟩,
    hrun.2.2.2⟩

end FileSession

end BatsIperf
