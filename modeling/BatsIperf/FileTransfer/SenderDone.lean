import BatsIperf.FileTransfer.Completion
import BatsIperf.FileTransfer.QuietRun

/-!
# What a sender that is done has done

The main thread of a file client leaves its interval loop when `TestFinishState` says that every stream is done. Unless an error was reported, the whole queue is then fetched, every thread has ended by itself and everything that was sent is acknowledged, whatever else happened.
-/

namespace BatsIperf

open Octets IperfFileTransfer

namespace FileSession

theorem threadStep_queue {disk : Disk} {density : Density} {test : IperfFileTransfer} {stream : FileStream}
    {answers : ThreadAnswers} {result : ThreadResult} (h : threadStep disk density test stream answers = .ok result) :
    test.pendingFiles = fetchedFile result.stream ++ result.pendingFiles := by
  cases threadStep_move h with
  | fetches _ hpending => exact hpending
  | opens hthread =>
    obtain ⟨header, point, hopened, hpoint⟩ := openStep_moves disk test stream _ answers.opens
    rw [hopened]
    rcases hpoint with rfl | ⟨_, rfl⟩ <;> rfl
  | builds _ hbuild =>
    obtain ⟨header, point, rfl, ⟨_, rfl⟩ | ⟨_, _, _, rfl⟩⟩ := buildStep_moves hbuild <;> rfl
  | stops | goesOn | aborts | asks | findsNone | ends | enters | leaves | breaks | passes | waited | sends | refused | givesUp
    | resends => rfl

/-- What a stream that is done, or is about to be, stands for. -/
structure Settled (s : FileSession) (i : Nat) (stream : FileStream) : Prop where
  drained : stream.thread = .setDone ∨ stream.isDone = true → s.sender.pendingFiles = []
  finished : stream.isDone = true → stream.thread = .finished
  acked : stream.allAcked = true → stream.isDone = true ∧ s.unacked i = false

/-- The files that are fetched or in the queue are those of the start. -/
structure Accounted (queue : List File) (s : FileSession) : Prop where
  role : IsFileSender s
  queue : s.fetched.map Prod.snd ++ s.sender.pendingFiles = queue
  streams : ∀ (i : Nat) (stream : FileStream), s.sender.streams[i]? = some stream → Settled s i stream

variable {senderDisk : Disk} {density : Density} {queue : List File} {s t : FileSession}

theorem settled_thread {i : Nat} {stream : FileStream} {answers : ThreadAnswers} {result : ThreadResult}
    (h : Settled s i stream) (hthread : threadStep senderDisk density s.sender stream answers = .ok result)
    (hpending : s.sender.pendingFiles = [] → t.sender.pendingFiles = []) : Settled t i result.stream := by
  have hstepped := threadStep_stepped hthread
  have hends := threadStep_ends hthread
  obtain ⟨point, header, hframe⟩ := hstepped.frame
  have hnotDone : stream.isDone = false := Bool.eq_false_iff.mpr fun hdone => hends.running.2 (h.finished hdone)
  have hset : result.stream.isDone = true → stream.thread = .setDone := by
    rw [hframe]
    simp [hnotDone]
  refine ⟨?_, fun hdone => hstepped.finished.mpr (hset hdone), fun hacked => ?_⟩
  · rintro (hthere | hdone)
    · exact hpending (hends.setDone hthere)
    · exact hpending (h.drained (.inl (hset hdone)))
  · rw [hframe] at hacked
    exact absurd (hnotDone.symm.trans (h.acked hacked).1) Bool.false_ne_true

theorem settled_event {i : Nat} {event : ConnEvent} {stream next : FileStream} (h : Settled s i stream)
    (hevent : s.sender.streamEvent event stream = .ok next) (hpending : t.sender.pendingFiles = s.sender.pendingFiles)
    (hunacked : t.unacked = if event = .allDataAcked then Function.update s.unacked i false else s.unacked) :
    Settled t i next := by
  have hnotified := streamEvent_notified hevent
  refine ⟨?_, fun hdone => ?_, fun hacked => ?_⟩
  · rw [hpending, hnotified.isDone]
    rintro (hset | hdone)
    · rcases hnotified.thread with hsame | ⟨_, hstarted⟩
      · exact h.drained (.inl (hsame.symm.trans hset))
      · exact ThreadPoint.noConfusion (hstarted.symm.trans hset)
    · exact h.drained (.inr hdone)
  · rw [hnotified.isDone] at hdone
    rcases hnotified.thread with hsame | ⟨hfresh, _⟩
    · exact hsame.trans (h.finished hdone)
    · exact ThreadPoint.noConfusion (hfresh.symm.trans (h.finished hdone))
  · rw [hnotified.isDone, hunacked]
    rw [hnotified.allAcked, Bool.or_eq_true, Bool.and_eq_true, decide_eq_true_eq] at hacked
    rcases hacked with hbefore | ⟨rfl, hdone⟩
    · obtain ⟨hdone, hnone⟩ := h.acked hbefore
      refine ⟨hdone, ?_⟩
      split
      · exact Function.update_self ..
      · exact hnone
    · exact ⟨hdone, Function.update_self ..⟩

theorem queue_step {a : Action} (hstep : (machine senderDisk density).step s a = some t) :
    t.fetched.map Prod.snd ++ t.sender.pendingFiles = s.fetched.map Prod.snd ++ s.sender.pendingFiles ∧
      (s.sender.pendingFiles = [] → t.sender.pendingFiles = []) := by
  cases a with
  | thread i answers =>
    obtain ⟨stream, result, _, hthread, rfl⟩ := thread_inv hstep
    have hqueue := threadStep_queue hthread
    have hnames : ((fetchedFile result.stream).map fun file => (i, file)).map Prod.snd = fetchedFile result.stream := by
      rw [List.map_map]
      exact List.map_id _
    constructor
    · dsimp only
      rw [fetchedIn_eq, List.map_append, hnames, List.append_assoc, ← hqueue]
    · intro hempty
      rw [hempty] at hqueue
      exact (List.append_eq_nil_iff.mp hqueue.symm).2
  | event i event =>
    obtain ⟨_, sender, hcallback, rfl⟩ := event_inv hstep
    rcases connectionCallback_cases hcallback with ⟨_, _, _, _, rfl⟩ | ⟨rfl, _⟩ | ⟨rfl, _⟩ <;> exact ⟨rfl, id⟩
  | poll =>
    obtain rfl := Option.some.inj hstep
    have hsame : s.sender.isStreamDone.2.pendingFiles = s.sender.pendingFiles := by
      rcases isStreamDone_cases s.sender with ⟨hsame, _⟩ | ⟨hdone, _⟩
      · rw [hsame]
      · rw [hdone]
    exact ⟨congrArg (s.fetched.map Prod.snd ++ ·) hsame, hsame.trans⟩
  | stop =>
    obtain rfl := Option.some.inj hstep
    have hsame : s.sender.stop.pendingFiles = s.sender.pendingFiles := by
      unfold IperfFileTransfer.stop
      split <;> rfl
    exact ⟨congrArg (s.fetched.map Prod.snd ++ ·) hsame, hsame.trans⟩
  | clearStreams =>
    obtain rfl := clearStreams_inv hstep
    exact ⟨rfl, id⟩
  | accept | receiverEvent | deliver | receiverPoll =>
    obtain ⟨hsender, _, _, hfetched⟩ := sender_unchanged hstep rfl
    rw [hsender, hfetched]
    exact ⟨rfl, id⟩

theorem unacked_other {a : Action} {i : Nat} (hstep : (machine senderDisk density).step s a = some t)
    (ha : ∀ answers, a ≠ .thread i answers) (hnone : s.unacked i = false) : t.unacked i = false := by
  by_cases hthread : ∃ k answers, a = .thread k answers
  · obtain ⟨k, answers, rfl⟩ := hthread
    obtain ⟨_, _, _, _, rfl⟩ := thread_inv hstep
    exact (Function.update_of_ne (fun hk => ha answers (by rw [hk])) ..).trans hnone
  · have hother := (unsent_of_not_thread hstep fun k answers h => hthread ⟨k, answers, h⟩).2.2 i
    exact Bool.eq_false_iff.mpr fun hunacked => Bool.false_ne_true (hnone.symm.trans (hother hunacked))

theorem accounted_step {a : Action} (h : Accounted queue s) (hstep : (machine senderDisk density).step s a = some t) :
    Accounted queue t := by
  obtain ⟨hqueue, hpending⟩ := queue_step hstep
  refine ⟨isFileSender_step h.role hstep, hqueue.trans h.queue, fun i next hnext => ?_⟩
  obtain ⟨stream, hstream, hmoved⟩ := stream_moved hstep hnext
  have hsettled := h.streams i stream hstream
  cases hmoved with
  | event hevent =>
    obtain ⟨_, sender, hcallback, rfl⟩ := event_inv hstep
    have hsame : sender.pendingFiles = s.sender.pendingFiles := by
      rcases connectionCallback_cases hcallback with ⟨_, _, _, _, rfl⟩ | ⟨rfl, _⟩ | ⟨rfl, _⟩ <;> rfl
    exact settled_event hsettled hevent hsame rfl
  | thread hthread => exact settled_thread hsettled hthread hpending
  | other _ hother =>
    refine ⟨fun hdone => hpending (hsettled.drained hdone), hsettled.finished, fun hacked => ?_⟩
    obtain ⟨hdone, hnone⟩ := hsettled.acked hacked
    exact ⟨hdone, unacked_other hstep hother hnone⟩

theorem accounted_start {config serverConfig : TestConfig} {testId : UInt32} {available : Option Nat} {disk : Disk}
    (hstart : start senderDisk config serverConfig testId available disk = .ok s) (hrole : IsFileSender s) :
    Accounted s.sender.pendingFiles s where
  role := hrole
  queue := by
    rw [(start_cases hstart).1]
    rfl
  streams i stream hstream := by
    obtain ⟨_, rfl⟩ := (fresh_start hstart ⟨stream, hstream⟩).streams i stream hstream
    refine ⟨?_, fun hno => absurd hno Bool.false_ne_true, fun hno => absurd hno Bool.false_ne_true⟩
    rintro (hno | hno)
    · exact ThreadPoint.noConfusion hno
    · exact absurd hno Bool.false_ne_true

theorem Accounted.settled (h : Accounted queue t) (hopen : t.sender.streams ≠ [])
    (hnoError : ∀ stream ∈ t.sender.streams, stream.hasErrInSend = false) (hdone : t.sender.isStreamDone.1 = true) :
    t.fetched.map Prod.snd = queue ∧ ∀ (i : Nat) (stream : FileStream),
      t.sender.streams[i]? = some stream → stream.thread = .finished ∧ t.unacked i = false := by
  obtain ⟨first, hfirst⟩ := List.exists_mem_of_ne_nil _ hopen
  obtain ⟨k, hk⟩ := List.mem_iff_getElem?.mp hfirst
  have hrole : t.sender.testConfig.role = .roleFileSender := h.role
  have hcounted : ∀ stream ∈ t.sender.streams, countsAsDone .roleFileSender stream = true := by
    unfold isStreamDone at hdone
    split at hdone
    · rename_i hreceiver
      exact absurd (hrole.symm.trans hreceiver.1) (by decide)
    split at hdone
    · rename_i hempty
      exact absurd hempty.2 hopen
    split at hdone
    · rename_i hall
      rw [← hrole]
      exact List.all_eq_true.mp hall.1
    · exact absurd hdone Bool.false_ne_true
  have hflags : ∀ stream ∈ t.sender.streams, stream.isDone = true ∧ stream.allAcked = true := by
    intro stream hmem
    have hcount := hcounted stream hmem
    rw [countsAsDone, hnoError stream hmem] at hcount
    simpa using hcount
  have hdrained : t.sender.pendingFiles = [] := (h.streams k first hk).drained (.inr (hflags first hfirst).1)
  constructor
  · rw [← h.queue, hdrained, List.append_nil]
  · intro i stream hstream
    have hsettled := h.streams i stream hstream
    have hstreamDone := hflags stream (List.mem_of_getElem? hstream)
    exact ⟨hsettled.finished hstreamDone.1, (hsettled.acked hstreamDone.2).2⟩

/-- A file sender with streams and without an error says that it is done only when it has fetched every file of its queue, in its order, every thread has ended by itself, and everything that was sent is acknowledged. -/
theorem sender_done_settled {config serverConfig : TestConfig} {testId : UInt32} {available : Option Nat} {disk : Disk}
    {acts : List Action} (hstart : start senderDisk config serverConfig testId available disk = .ok s)
    (hrun : (machine senderDisk density).run s acts = some t) (hopen : t.sender.streams ≠ [])
    (hnoError : ∀ stream ∈ t.sender.streams, stream.hasErrInSend = false) (hdone : t.sender.isStreamDone.1 = true) :
    t.fetched.map Prod.snd = s.sender.pendingFiles ∧ ∀ (i : Nat) (stream : FileStream),
      t.sender.streams[i]? = some stream → stream.thread = .finished ∧ t.unacked i = false := by
  obtain ⟨first, hfirst⟩ := List.exists_mem_of_ne_nil _ hopen
  obtain ⟨k, hk⟩ := List.mem_iff_getElem?.mp hfirst
  have hfresh : Fresh s := fresh_start hstart (allAcked_run hrun ⟨first, hk⟩).1
  have haccounted : Accounted s.sender.pendingFiles t :=
    Machine.run_preserves (fun _ _ _ => accounted_step) (accounted_start hstart hfresh.role) hrun
  exact haccounted.settled hopen hnoError hdone

theorem sender_done_settled_late :
    ∃ s t, oneFileStart = .ok s ∧
      (machine oneFile .failing).run s (sendsFile ++ findsNoFile ++ [.event 0 .allDataAcked]) = some t ∧
      t.sender.isStreamDone.1 = true ∧ t.fetched.map Prod.snd = s.sender.pendingFiles ∧ t.fetched ≠ [] := by
  have hrun : oneFileStart.toOption.bind (fun s =>
      ((machine oneFile .failing).run s (sendsFile ++ findsNoFile ++ [.event 0 .allDataAcked])).map fun t =>
        (t.sender.isStreamDone.1, decide (t.sender.streams ≠ []), t.sender.streams.all (!·.hasErrInSend),
          decide (t.fetched ≠ []))) = some (true, true, true, true) := by decide +kernel
  obtain ⟨s, hstart, hrun⟩ := Option.bind_eq_some_iff.mp hrun
  obtain ⟨t, ht, hrun⟩ := Option.map_eq_some_iff.mp hrun
  simp only [Prod.mk.injEq, decide_eq_true_eq, List.all_eq_true, Bool.not_eq_true'] at hrun
  obtain ⟨hdone, hopen, hnoError, hfetched⟩ := hrun
  have hstart := Fault.toOption_eq_some.mp hstart
  exact ⟨s, t, hstart, ht, hdone, (sender_done_settled hstart ht hopen hnoError hdone).1, hfetched⟩

end FileSession

end BatsIperf
