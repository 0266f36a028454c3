import BatsIperf.FileTransfer.SenderDone
import BatsIperf.FileTransfer.StopJoins

/-!
# A sender that is done stays done

The main thread of a file client asks `IsStreamDone` again and again, and between two calls anything may happen to the streams. What the first call has found holds at the last one too: no callback and no thread takes it back, and `Stop` removes the streams only of a test that it has ended.
-/

namespace BatsIperf

open IperfFileTransfer

namespace FileSession

variable {senderDisk : Disk} {density : Density} {s t : FileSession}

theorem countsAsDone_iff {stream : FileStream} : countsAsDone .roleFileSender stream = true ↔
    stream.hasErrInSend = true ∨ (stream.isDone = true ∧ stream.allAcked = true) := by
  unfold countsAsDone
  cases stream.hasErrInSend <;> cases stream.isDone <;> cases stream.allAcked <;> decide

theorem isStreamDone_iff {test : IperfFileTransfer} (hrole : test.testConfig.role = .roleFileSender) :
    test.isStreamDone.1 = true ↔ (test.state = .testDone ∧ test.streams = []) ∨
      ((∀ stream ∈ test.streams, countsAsDone .roleFileSender stream = true) ∧
        test.testConfig.numStreams = test.streams.length) := by
  have hsender : ¬ (test.testConfig.role = .roleFileReceiver ∧ test.testConfig.numFiles ≤ 0 ∧ test.state = .testDone) :=
    fun hreceiver => absurd (hrole.symm.trans hreceiver.1) (by decide)
  rw [isStreamDone, if_neg hsender, ← hrole]
  split
  · rename_i hclosed
    exact iff_of_true rfl (.inl hclosed)
  rename_i hopen
  rw [or_iff_right hopen, ← List.all_eq_true]
  split
  · rename_i hall
    exact iff_of_true rfl ⟨hall.1, sub_eq_zero.mp hall.2⟩
  · rename_i hsome
    exact iff_of_false Bool.false_ne_true fun hall => hsome ⟨hall.1, sub_eq_zero.mpr hall.2⟩

theorem countsAsDone_moved {i : Nat} {stream next : FileStream} {a : Action}
    (h : Moved senderDisk density s i stream a next) (hdone : countsAsDone .roleFileSender stream = true) :
    countsAsDone .roleFileSender next = true := by
  obtain ⟨hacked, herr⟩ := moved_flags h
  have hisDone : stream.isDone = true → next.isDone = true := by
    intro hset
    cases h with
    | event hevent => exact (streamEvent_notified hevent).isDone.trans hset
    | thread hthread =>
      obtain ⟨point, header, hframe⟩ := (threadStep_stepped hthread).frame
      rw [hframe]
      exact Bool.or_eq_true_iff.mpr (.inl hset)
    | other => exact hset
  rw [countsAsDone_iff] at hdone ⊢
  rcases hdone with hfailed | ⟨hset, hall⟩
  · exact .inl (herr.mpr (.inl hfailed))
  · exact .inr ⟨hisDone hset, hacked.mpr (.inl hall)⟩

theorem streams_length_step {a : Action} (hstep : (machine senderDisk density).step s a = some t)
    (ha : a ≠ .clearStreams) : t.sender.streams.length = s.sender.streams.length := by
  cases a with
  | event i event =>
    obtain ⟨_, sender, hcallback, rfl⟩ := event_inv hstep
    rcases connectionCallback_cases hcallback with ⟨_, _, _, _, rfl⟩ | ⟨rfl, _⟩ | ⟨rfl, _⟩
    · exact List.length_set
    · rfl
    · rfl
  | thread i answers =>
    obtain ⟨_, _, _, _, rfl⟩ := thread_inv hstep
    exact List.length_set
  | poll =>
    obtain rfl := Option.some.inj hstep
    exact congrArg List.length (isStreamDone_streams s.sender)
  | stop =>
    obtain rfl := Option.some.inj hstep
    exact congrArg List.length (stop_streams s.sender)
  | clearStreams => exact absurd rfl ha
  | accept | receiverEvent | deliver | receiverPoll => rw [(sender_unchanged hstep rfl).1]

theorem isStopped_step {a : Action} (hstep : (machine senderDisk density).step s a = some t) :
    (s.sender.isStopped = true → t.sender.isStopped = true) ∧
      (t.sender.isStopped = true → s.sender.isStopped = true ∨ (a = .stop ∧ t.sender.state = .testDone)) := by
  have hkept (h : t.sender.isStopped = s.sender.isStopped) : (s.sender.isStopped = true → t.sender.isStopped = true) ∧
      (t.sender.isStopped = true → s.sender.isStopped = true ∨ (a = .stop ∧ t.sender.state = .testDone)) := by
    rw [h]
    exact ⟨id, .inl⟩
  cases a with
  | event i event =>
    obtain ⟨_, sender, hcallback, rfl⟩ := event_inv hstep
    apply hkept
    rcases connectionCallback_cases hcallback with ⟨_, _, _, _, rfl⟩ | ⟨rfl, _⟩ | ⟨rfl, _⟩ <;> rfl
  | thread i answers =>
    apply hkept
    obtain ⟨_, _, _, _, rfl⟩ := thread_inv hstep
    rfl
  | poll =>
    apply hkept
    obtain rfl := Option.some.inj hstep
    show s.sender.isStreamDone.2.isStopped = _
    rcases isStreamDone_cases s.sender with ⟨hsame, _⟩ | ⟨hdone, _⟩
    · rw [hsame]
    · rw [hdone]
  | stop =>
    obtain rfl := Option.some.inj hstep
    show (_ → s.sender.stop.isStopped = true) ∧ (_ → _ ∨ (_ ∧ s.sender.stop.state = .testDone))
    unfold IperfFileTransfer.stop
    split
    · rename_i hstopped
      exact ⟨id, .inl⟩
    · exact ⟨fun _ => rfl, fun _ => .inr ⟨rfl, rfl⟩⟩
  | clearStreams =>
    apply hkept
    rw [clearStreams_inv hstep]
    rfl
  | accept | receiverEvent | deliver | receiverPoll =>
    apply hkept
    rw [(sender_unchanged hstep rfl).1]

/-- What every step of a sender keeps, whoever takes it. -/
structure Steady (s : FileSession) : Prop where
  role : IsFileSender s
  stopped : s.sender.isStopped = true → s.sender.state = .testDone

theorem steady_step {a : Action} (h : Steady s) (hstep : (machine senderDisk density).step s a = some t) : Steady t where
  role := isFileSender_step h.role hstep
  stopped hstopped := by
    rcases (isStopped_step hstep).2 hstopped with hbefore | ⟨_, hdone⟩
    · exact step_done (h.stopped hbefore) hstep
    · exact hdone

/-- A sender that is done stays done: its streams count for good, and they are removed after the test is stopped. -/
theorem isStreamDone_step {a : Action} (h : Steady s) (hdone : s.sender.isStreamDone.1 = true)
    (hstep : (machine senderDisk density).step s a = some t) : t.sender.isStreamDone.1 = true := by
  rw [isStreamDone_iff h.role] at hdone
  rw [isStreamDone_iff (steady_step h hstep).role]
  by_cases ha : a = .clearStreams
  · subst ha
    have hguard : s.sender.isStopped = true := by
      by_contra hopen
      have hnone : (machine senderDisk density).step s .clearStreams = none := if_neg fun hjoin => hopen hjoin.1
      exact Option.some_ne_none t (hstep.symm.trans hnone)
    refine .inl ⟨step_done (h.stopped hguard) hstep, ?_⟩
    rw [clearStreams_inv hstep]
    rfl
  have hlength := streams_length_step hstep ha
  rcases hdone with ⟨hstate, hnone⟩ | ⟨hall, hcount⟩
  · refine .inl ⟨step_done hstate hstep, ?_⟩
    rw [hnone] at hlength
    exact List.eq_nil_of_length_eq_zero hlength
  · refine .inr ⟨fun next hmem => ?_, ?_⟩
    · obtain ⟨i, hnext⟩ := List.mem_iff_getElem?.mp hmem
      obtain ⟨stream, hstream, hmoved⟩ := stream_moved hstep hnext
      exact countsAsDone_moved hmoved (hall stream (List.mem_of_getElem? hstream))
    · rw [testConfig_step hstep, hlength]
      exact hcount

/-! ### A sender that is waited for -/

/-- A sender that nothing has stopped, with its streams open and no error reported. -/
structure Awaited (queue : List File) (n : Nat) (s : FileSession) : Prop where
  accounted : Accounted queue s
  length : s.sender.streams.length = n
  unfailed : ∀ stream ∈ s.sender.streams, stream.hasErrInSend = false
  running : s.sender.isStopped = false

/-- Every file is fetched, no thread goes on, and nothing waits for an acknowledgement. -/
structure Completed (queue : List File) (n : Nat) (s : FileSession) : Prop where
  fetched : s.fetched.map Prod.snd = queue
  finished : ∀ stream ∈ s.sender.streams, stream.thread = .finished
  acked : ∀ i < n, s.unacked i = false

theorem awaited_step {queue : List File} {n : Nat} {a : Action} (h : Awaited queue n s) (hstop : a ≠ .stop)
    (herror : ∀ i, a ≠ .event i .sendDataError) (hstep : (machine senderDisk density).step s a = some t) :
    Awaited queue n t := by
  have hopen : a ≠ .clearStreams := by
    rintro rfl
    have hnone : (machine senderDisk density).step s .clearStreams = none :=
      if_neg fun hjoin => Bool.false_ne_true (h.running.symm.trans hjoin.1)
    exact Option.some_ne_none t (hstep.symm.trans hnone)
  refine ⟨accounted_step h.accounted hstep, (streams_length_step hstep hopen).trans h.length, fun next hmem => ?_, ?_⟩
  · obtain ⟨i, hnext⟩ := List.mem_iff_getElem?.mp hmem
    obtain ⟨stream, hstream, hmoved⟩ := stream_moved hstep hnext
    have hbefore := h.unfailed stream (List.mem_of_getElem? hstream)
    refine Bool.eq_false_iff.mpr fun hfailed => ?_
    rcases (moved_flags hmoved).2.mp hfailed with hset | hevent
    · exact Bool.false_ne_true (hbefore.symm.trans hset)
    · exact herror i hevent
  · refine Bool.eq_false_iff.mpr fun hstopped => ?_
    rcases (isStopped_step hstep).2 hstopped with hset | ⟨hcall, _⟩
    · exact Bool.false_ne_true (h.running.symm.trans hset)
    · exact hstop hcall

theorem Awaited.completed {queue : List File} {n : Nat} (h : Awaited queue n s) (hn : 0 < n)
    (hdone : s.sender.isStreamDone.1 = true) : Completed queue n s := by
  have hopen : s.sender.streams ≠ [] := List.ne_nil_of_length_pos (h.length.symm ▸ hn)
  obtain ⟨hfetched, hstreams⟩ := h.accounted.settled hopen h.unfailed hdone
  refine ⟨hfetched, fun stream hmem => ?_, fun i hi => ?_⟩
  · obtain ⟨i, hstream⟩ := List.mem_iff_getElem?.mp hmem
    exact (hstreams i stream hstream).1
  · have hlength : i < s.sender.streams.length := h.length.symm ▸ hi
    exact (hstreams i _ (List.getElem?_eq_getElem hlength)).2

theorem completed_step {queue : List File} {n : Nat} {a : Action} (h : Completed queue n s)
    (hstep : (machine senderDisk density).step s a = some t) : Completed queue n t := by
  have hthread (i : Nat) (answers : ThreadAnswers) : a ≠ .thread i answers := by
    rintro rfl
    obtain ⟨stream, result, hstream, hresult, _⟩ := thread_inv hstep
    exact (threadStep_ends hresult).running.2 (h.finished stream (List.mem_of_getElem? hstream))
  obtain ⟨_, hfetched, hunacked⟩ := unsent_of_not_thread hstep hthread
  refine ⟨hfetched ▸ h.fetched, fun next hmem => ?_, fun i hi => ?_⟩
  · obtain ⟨i, hnext⟩ := List.mem_iff_getElem?.mp hmem
    obtain ⟨stream, hstream, hmoved⟩ := stream_moved hstep hnext
    have hfinished := h.finished stream (List.mem_of_getElem? hstream)
    cases hmoved with
    | event hevent =>
      rcases (streamEvent_notified hevent).thread with hsame | ⟨hfresh, _⟩
      · exact hsame.trans hfinished
      · exact ThreadPoint.noConfusion (hfresh.symm.trans hfinished)
    | thread => exact absurd rfl (hthread i _)
    | other => exact hfinished
  · exact Bool.eq_false_iff.mpr fun hset => Bool.false_ne_true ((h.acked i hi).symm.trans (hunacked i hset))

end FileSession

end BatsIperf
