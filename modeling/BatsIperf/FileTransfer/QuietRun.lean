import BatsIperf.FileTransfer.AllAcked
import BatsIperf.FileTransfer.Sending

/-!
# The sender while nothing goes wrong

No stream reports an error or a close, nobody calls `Stop`, and every answer of the file system is a success. The threads share the queue and take their steps in any order; whatever they have taken from it is on the streams, file by file.
-/

namespace BatsIperf

open Octets Assembly IperfFileTransfer

/-- The events of a stream that reports no error and no close. -/
def ConnEvent.IsQuiet : ConnEvent → Prop
  | .closed | .shutdownByPeer | .sendDataError => False
  | .established length | .idealBufferLength length => 362 ≤ length ∧ length ≤ 300000
  | _ => True

instance (event : ConnEvent) : Decidable event.IsQuiet := by
  cases event <;> unfold ConnEvent.IsQuiet <;> infer_instance

namespace FileSession

def Quiet : Action → Prop
  | .event _ event => event.IsQuiet
  | .thread _ answers => answers.opens = true ∧ answers.reads = true
  | .stop | .clearStreams => False
  | .deliver _ answers => answers = {}
  | .poll | .accept _ | .receiverEvent .. | .receiverPoll => True

instance (a : Action) : Decidable (Quiet a) := by
  cases a <;> unfold Quiet <;> infer_instance

/-- The files a stream has fetched, in their order. -/
def filesOf (s : FileSession) (i : Nat) : List File := (s.fetched.filter fun entry => entry.1 == i).map Prod.snd

structure Sound (senderDisk : Disk) (density : Density) (s : FileSession) (i : Nat) (stream : FileStream) : Prop where
  noError : stream.hasErrInSend = false
  low : 362 ≤ stream.idealBufferLength
  high : stream.idealBufferLength ≤ 300000
  connected : stream.thread ≠ .notStarted → stream.isConnected = true ∧ stream.stream = true
  notAborted : stream.thread ≠ .aborted
  done : stream.isDone = true → stream.thread = .finished
  drained : stream.thread = .setDone ∨ stream.thread = .finished → s.sender.pendingFiles = []
  progress : Progress senderDisk density stream (s.wire i) (s.filesOf i)

/-- The sender: the files in the queue and on the streams are those of the start. -/
structure Sending (senderDisk : Disk) (density : Density) (queue : List File) (s : FileSession) : Prop where
  role : IsFileSender s
  nonempty : s.sender.streams ≠ []
  queue : s.fetched.map Prod.snd ++ s.sender.pendingFiles = queue
  bounded : ∀ entry ∈ s.fetched, entry.1 < s.sender.streams.length
  done : s.sender.state = .testDone → ∀ stream ∈ s.sender.streams, stream.thread = .finished
  streams : ∀ (i : Nat) (stream : FileStream), s.sender.streams[i]? = some stream → Sound senderDisk density s i stream

section

variable {senderDisk : Disk} {density : Density} {queue : List File} {s t : FileSession}

theorem Sending.of_same (h : Sending senderDisk density queue s) (hsender : t.sender = s.sender) (hwire : t.wire = s.wire)
    (hfetched : t.fetched = s.fetched) : Sending senderDisk density queue t := by
  have hfiles (i : Nat) : t.filesOf i = s.filesOf i := by rw [filesOf, hfetched]; rfl
  refine ⟨?_, ?_, ?_, ?_, ?_, fun i stream hstream => ?_⟩
  · rw [IsFileSender, hsender]
    exact h.role
  · rw [hsender]
    exact h.nonempty
  · rw [hfetched, hsender]
    exact h.queue
  · rw [hfetched, hsender]
    exact h.bounded
  · rw [hsender]
    exact h.done
  · rw [hsender] at hstream
    have hsound := h.streams i stream hstream
    exact { hsound with
      drained := by rw [hsender]; exact hsound.drained
      progress := by rw [hwire, hfiles]; exact hsound.progress }

/-! ### Events -/

structure QuietEvent (stream next : FileStream) : Prop where
  id : next.id = stream.id
  bkHeader : next.bkHeader = stream.bkHeader
  low : 362 ≤ stream.idealBufferLength → 362 ≤ next.idealBufferLength
  high : stream.idealBufferLength ≤ 300000 → next.idealBufferLength ≤ 300000
  thread : (next.thread = stream.thread ∧ next.isConnected = stream.isConnected ∧ next.stream = stream.stream) ∨
    (stream.thread = .notStarted ∧ next.thread = .outerHead ∧ next.isConnected = true ∧ next.stream = true)

theorem streamEvent_quiet {test : IperfFileTransfer} {event : ConnEvent} {stream next : FileStream}
    (hquiet : event.IsQuiet) (h : test.streamEvent event stream = .ok next) : QuietEvent stream next := by
  cases streamEvent_move h with
  | closed hevent => rcases hevent with rfl | rfl <;> exact absurd hquiet (by simp [ConnEvent.IsQuiet])
  | sendDataError => exact absurd hquiet (by simp [ConnEvent.IsQuiet])
  | established hthread => exact ⟨rfl, rfl, fun _ => hquiet.1, fun _ => hquiet.2, .inr ⟨hthread, rfl, rfl, rfl⟩⟩
  | measured => exact ⟨rfl, rfl, fun _ => hquiet.1, fun _ => hquiet.2, .inl ⟨rfl, rfl, rfl⟩⟩
  | retried | givenUp | full | writable | acked | ackedEarly | other =>
    exact ⟨rfl, rfl, id, id, .inl ⟨rfl, rfl, rfl⟩⟩

theorem sound_event {test : IperfFileTransfer} {i : Nat} {event : ConnEvent} {stream next : FileStream}
    (h : Sound senderDisk density s i stream) (hquiet : event.IsQuiet) (hevent : test.streamEvent event stream = .ok next) :
    Sound senderDisk density s i next := by
  have hsame := streamEvent_quiet hquiet hevent
  have hnotified := streamEvent_notified hevent
  have hno : event ≠ .sendDataError := fun heq => by
    rw [heq] at hquiet
    exact hquiet
  have hnoError : next.hasErrInSend = false := by rw [hnotified.hasErrInSend, h.noError, decide_eq_false hno]; rfl
  rcases hsame.thread with ⟨hthread, hconnected, hstream⟩ | ⟨hbefore, hthread, hconnected, hstream⟩
  · refine ⟨hnoError, hsame.low h.low, hsame.high h.high, ?_, ?_, ?_, ?_, h.progress.of_same hsame.id hsame.bkHeader hthread⟩
    · rw [hthread, hconnected, hstream]
      exact h.connected
    · rw [hthread]
      exact h.notAborted
    · rw [hthread, hnotified.isDone]
      exact h.done
    · rw [hthread]
      exact h.drained
  · refine ⟨hnoError, hsame.low h.low, hsame.high h.high, fun _ => ⟨hconnected, hstream⟩, ?_, ?_, ?_, ?_⟩
    · rw [hthread]
      exact ThreadPoint.noConfusion
    · rw [hnotified.isDone]
      intro hdone
      exact absurd ((h.done hdone).symm.trans hbefore) ThreadPoint.noConfusion
    · rw [hthread]
      intro hended
      simp at hended
    · exact h.progress.rest (by rw [hbefore]; rfl) hsame.id (by rw [hthread]; rfl)

theorem Sound.of_same {i : Nat} {stream : FileStream} (h : Sound senderDisk density s i stream)
    (hpending : s.sender.pendingFiles = [] → t.sender.pendingFiles = []) (hwire : t.wire i = s.wire i)
    (hfiles : t.filesOf i = s.filesOf i) : Sound senderDisk density t i stream :=
  { h with
    drained := fun hended => hpending (h.drained hended)
    progress := by rw [hwire, hfiles]; exact h.progress }

/-! ### Steps of a thread -/

theorem fetchedIn_eq (i : Nat) (stream : FileStream) : fetchedIn i stream = (fetchedFile stream).map fun file => (i, file) := by
  unfold fetchedIn fetchedFile
  cases stream.thread <;> rfl

theorem filter_fetched_self (i : Nat) (files : List File) :
    ((files.map fun file => (i, file)).filter fun entry => entry.1 == i).map Prod.snd = files := by
  induction files with
  | nil => rfl
  | cons file files ih => simpa using ih

theorem filter_fetched_of_ne {i k : Nat} (hk : k ≠ i) (files : List File) :
    ((files.map fun file => (i, file)).filter fun entry => entry.1 == k) = [] := by
  apply List.filter_eq_nil_iff.mpr
  intro entry hentry
  obtain ⟨file, _, rfl⟩ := List.mem_map.mp hentry
  simpa using Ne.symm hk

theorem filesOf_append {i : Nat} {files : List File} (hfetched : t.fetched = s.fetched ++ files.map fun file => (i, file)) :
    t.filesOf i = s.filesOf i ++ files ∧ ∀ k, k ≠ i → t.filesOf k = s.filesOf k := by
  constructor
  · rw [filesOf, hfetched, List.filter_append, List.map_append, filter_fetched_self]
    rfl
  · intro k hk
    rw [filesOf, hfetched, List.filter_append, filter_fetched_of_ne hk, List.append_nil]
    rfl

theorem mem_of_filesOf (hqueue : s.fetched.map Prod.snd ++ s.sender.pendingFiles = queue) {file : File} {i : Nat}
    (hfile : file ∈ s.filesOf i) : file ∈ queue := by
  obtain ⟨entry, hentry, rfl⟩ := List.mem_map.mp hfile
  rw [← hqueue]
  exact List.mem_append_left _ (List.mem_map_of_mem (List.mem_of_mem_filter hentry))

theorem untroubled_of_sound (h : Sending senderDisk density queue s) {i : Nat} {stream : FileStream}
    (hstream : s.sender.streams[i]? = some stream) : Untroubled s.sender stream := by
  have hsound := h.streams i stream hstream
  refine ⟨hsound.noError, hsound.low, hsound.high, fun hholds => ?_⟩
  have hstarted : stream.thread ≠ .notStarted := fun hthread => by
    rw [hthread] at hholds
    exact Bool.false_ne_true hholds
  have hnotDone : s.sender.state ≠ .testDone := fun hdone => by
    rw [h.done hdone stream (List.mem_of_getElem? hstream)] at hholds
    exact Bool.false_ne_true hholds
  simp [isInActive, (hsound.connected hstarted).1, hnotDone]

/-- A step of a thread moves its own stream on, and takes what it fetches from the queue. -/
theorem sound_thread (hlawful : density.Lawful) (hsendable : ∀ file ∈ queue, Sendable senderDisk file)
    (h : Sending senderDisk density queue s) {i : Nat} {stream : FileStream} {answers : ThreadAnswers}
    {result : ThreadResult} (hstream : s.sender.streams[i]? = some stream)
    (hquiet : answers.opens = true ∧ answers.reads = true)
    (hthread : threadStep senderDisk density s.sender stream answers = .ok result)
    (hpending : t.sender.pendingFiles = result.pendingFiles)
    (hwire : t.wire i = s.wire i ++ result.accepted.toList) (hfiles : t.filesOf i = s.filesOf i ++ fetchedFile result.stream) :
    s.sender.pendingFiles = fetchedFile result.stream ++ t.sender.pendingFiles ∧
      Sound senderDisk density t i result.stream := by
  have hsound := h.streams i stream hstream
  have hstepped := threadStep_stepped hthread
  have hends := threadStep_ends hthread
  obtain ⟨point, header, hframe⟩ := hstepped.frame
  obtain ⟨hqueue, hprogress⟩ := progress_threadStep hlawful (fun file hfile => hsendable file (mem_of_filesOf h.queue hfile))
    (untroubled_of_sound h hstream) hquiet.1 hquiet.2 hsound.progress hthread
  have hrest (hempty : s.sender.pendingFiles = []) : t.sender.pendingFiles = [] := by
    rw [hempty] at hqueue
    rw [hpending]
    exact (List.append_eq_nil_iff.mp hqueue.symm).2
  rw [← hpending] at hqueue
  refine ⟨hqueue, ?_, ?_, ?_, fun _ => ?_, fun haborted => ?_, fun hdone => ?_, fun hended => ?_, ?_⟩
  · rw [hframe]
    exact hsound.noError
  · rw [hframe]
    exact hsound.low
  · rw [hframe]
    exact hsound.high
  · rw [hframe]
    exact hsound.connected hends.running.1
  · rcases hends.aborted haborted with hdone | herror
    · exact hends.running.2 (h.done hdone stream (List.mem_of_getElem? hstream))
    · rw [hsound.noError] at herror
      exact Bool.false_ne_true herror
  · apply hstepped.finished.mpr
    rw [hframe] at hdone
    simp only [Bool.or_eq_true, decide_eq_true_eq] at hdone
    exact hdone.resolve_left fun hbefore => hends.running.2 (hsound.done hbefore)
  · apply hrest
    rcases hended with hset | hfinished
    · exact hends.setDone hset
    · exact hsound.drained (.inl (hstepped.finished.mp hfinished))
  · rw [hwire, hfiles]
    exact hprogress

theorem sending_thread (hlawful : density.Lawful) (hsendable : ∀ file ∈ queue, Sendable senderDisk file)
    (h : Sending senderDisk density queue s) {i : Nat} {answers : ThreadAnswers}
    (hquiet : answers.opens = true ∧ answers.reads = true) (hstep : thread senderDisk density s i answers = some t) :
    Sending senderDisk density queue t := by
  have hrole : IsFileSender t := isFileSender_step h.role (show (machine senderDisk density).step s (.thread i answers) = _ from hstep)
  obtain ⟨stream, result, hstream, hthread, ht⟩ := thread_inv hstep
  have hi := (List.getElem?_eq_some_iff.mp hstream).1
  have hfetched : t.fetched = s.fetched ++ (fetchedFile result.stream).map fun file => (i, file) := by
    rw [ht, ← fetchedIn_eq]
  have hstreams : t.sender.streams = s.sender.streams.set i result.stream := by rw [ht]
  have hwire : t.wire = Function.update s.wire i (s.wire i ++ result.accepted.toList) := by rw [ht]
  obtain ⟨hown, hothers⟩ := filesOf_append hfetched
  obtain ⟨hqueue, hsound⟩ := sound_thread hlawful hsendable h hstream hquiet hthread (by rw [ht])
    (by rw [hwire, Function.update_self]) hown
  refine ⟨hrole, ?_, ?_, fun entry hentry => ?_, fun hdone => ?_, fun k x hx => ?_⟩
  · rw [hstreams]
    simpa using h.nonempty
  · have hnames : ((fetchedFile result.stream).map fun file => (i, file)).map Prod.snd = fetchedFile result.stream := by
      simp [Function.comp_def]
    rw [hfetched, List.map_append, hnames, List.append_assoc, ← hqueue]
    exact h.queue
  · rw [hstreams, List.length_set]
    rw [hfetched, List.mem_append] at hentry
    rcases hentry with hbefore | hnew
    · exact h.bounded entry hbefore
    · obtain ⟨_, _, rfl⟩ := List.mem_map.mp hnew
      exact hi
  · have hbefore : s.sender.state = .testDone := by
      rw [ht] at hdone
      exact hdone
    exact absurd (h.done hbefore stream (List.mem_of_getElem? hstream)) (threadStep_ends hthread).running.2
  · rw [hstreams] at hx
    rcases getElem?_set_cases hstream hx with ⟨rfl, rfl⟩ | ⟨hk, hx⟩
    · exact hsound
    · refine (h.streams k x hx).of_same (fun hempty => ?_) ?_ (hothers k hk)
      · rw [hempty] at hqueue
        exact (List.append_eq_nil_iff.mp hqueue.symm).2
      · rw [hwire, Function.update_of_ne hk]

/-! ### Whole runs -/

theorem sending_event (h : Sending senderDisk density queue s) {i : Nat} {event : ConnEvent} (hquiet : event.IsQuiet)
    (hstep : s.event i event = some t) : Sending senderDisk density queue t := by
  obtain ⟨_, sender, hcallback, rfl⟩ := event_inv hstep
  rcases connectionCallback_cases hcallback with ⟨stream, changed, hstream, hchanged, rfl⟩ | ⟨rfl, _⟩ | ⟨rfl, _⟩
  · have hsound := sound_event (h.streams i stream hstream) hquiet hchanged
    refine ⟨h.role, by simpa using h.nonempty, h.queue, ?_, fun hdone x hx => ?_, fun k x hx => ?_⟩
    · simpa using h.bounded
    · obtain ⟨k, hk⟩ := List.mem_iff_getElem?.mp hx
      rcases getElem?_set_cases hstream hk with ⟨rfl, rfl⟩ | ⟨_, hx⟩
      · have hbefore := h.done hdone stream (List.mem_of_getElem? hstream)
        rcases (streamEvent_notified hchanged).thread with hsame | ⟨hnot, _⟩
        · exact hsame.trans hbefore
        · exact absurd (hnot.symm.trans hbefore) ThreadPoint.noConfusion
      · exact h.done hdone x (List.mem_of_getElem? hx)
    · rcases getElem?_set_cases hstream hx with ⟨rfl, rfl⟩ | ⟨_, hx⟩
      · exact { hsound with drained := hsound.drained, progress := hsound.progress }
      · exact (h.streams k x hx).of_same id rfl rfl
  · exact h.of_same rfl rfl rfl
  · exact h.of_same rfl rfl rfl

theorem sending_poll (h : Sending senderDisk density queue s) :
    Sending senderDisk density queue { s with sender := s.sender.testFinishState.2 } := by
  rcases s.sender.isStreamDone_cases with ⟨hsame, _⟩ | ⟨hdone, _, hcounted⟩
  · exact h.of_same hsame rfl rfl
  · have hsender : s.sender.testFinishState.2 = { s.sender with state := .testDone } := congrArg Prod.snd hdone
    rw [hsender]
    refine ⟨h.role, h.nonempty, h.queue, h.bounded, fun _ stream hstream => ?_, fun i stream hstream => ?_⟩
    · obtain ⟨i, hi⟩ := List.mem_iff_getElem?.mp hstream
      have hsound := h.streams i stream hi
      have hcounts := hcounted stream hstream
      rw [show s.sender.testConfig.role = .roleFileSender from h.role] at hcounts
      apply hsound.done
      simp [countsAsDone, hsound.noError] at hcounts
      exact hcounts.1
    · exact (h.streams i stream hstream).of_same id rfl rfl

theorem sending_step (hlawful : density.Lawful) (hsendable : ∀ file ∈ queue, Sendable senderDisk file)
    {a : Action} (h : Sending senderDisk density queue s) (hquiet : Quiet a)
    (hstep : (machine senderDisk density).step s a = some t) : Sending senderDisk density queue t := by
  cases a with
  | event i event => exact sending_event h hquiet hstep
  | thread i answers => exact sending_thread hlawful hsendable h hquiet hstep
  | poll =>
    obtain rfl := Option.some.inj hstep
    exact sending_poll h
  | stop | clearStreams => exact absurd hquiet (by simp [Quiet])
  | accept | receiverEvent | deliver | receiverPoll =>
    obtain ⟨hsender, hwire, _, hfetched⟩ := sender_unchanged hstep rfl
    exact h.of_same hsender hwire hfetched

end

end FileSession

end BatsIperf
