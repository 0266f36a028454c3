import BatsIperf.FileTransfer.BlockSizes
import BatsIperf.FileTransfer.SenderDone
import BatsIperf.FileTransfer.StopJoins

/-!
# The sender when something goes wrong

An error that is reported for a stream, or a test that ends, takes a thread out of its loops wherever it is. The thread may leave a file in the middle then, and it counts the block it gives up as sent. It never sends again, so what is on the stream is still a beginning of what the thread has fetched.
-/

namespace BatsIperf

open Octets Assembly IperfFileTransfer

namespace IperfFileTransfer

/-- A thread on its way out of its loops, behind which no other block is sent. -/
def Leaving (state : TestState) (stream : FileStream) : Prop :=
  match stream.thread with
  | .innerHead _ | .outerHead => state = .testDone ∨ stream.hasErrInSend = true
  | .innerCheck _ | .errCheck => stream.hasErrInSend = true
  | .aborted => True
  | _ => False

/-- The thread has left its last file where it was. -/
structure BrokenOff (disk : Disk) (density : Density) (state : TestState) (stream : FileStream) (wire : List Octets)
    (files : List File) : Prop where
  leaving : Leaving state stream
  wire : ∃ before file sent, files = before ++ [file] ∧ sent ≤ (content disk file).length ∧
    assemble (segment density) wire = some (sentTo (before.map (transfer disk stream.id))
      (opening disk stream.id file) (content disk file) sent)

structure Queued (disk : Disk) (file : File) : Prop where
  readable : disk file.path = some (content disk file)
  fileSz : file.fileSz = (content disk file).length
  short : (content disk file).length < 2 ^ 31
  barId : file.barId < 10

theorem Queued.sendable {disk : Disk} {file : File} (h : Queued disk file) (hnonempty : content disk file ≠ []) :
    Sendable disk file := ⟨h.readable, h.fileSz, hnonempty, h.short, h.barId⟩

theorem queued_of_mem {disk : Disk} {files : List Path} {file : File} (hcount : files.length ≤ 10)
    (hshort : (content disk file).length < 2 ^ 31) (hfile : file ∈ uniqueFiles disk 0 [] files) : Queued disk file := by
  obtain ⟨_, hid, found, hfound, hsize⟩ := mem_uniqueFiles hfile
  have hcontent : content disk file = found := by rw [content, hfound, Option.getD_some]
  refine ⟨hcontent ▸ hfound, ?_, hshort, by omega⟩
  rw [hsize, hcontent, Narrowing.signed_of_lt (by omega) (by rw [hcontent] at hshort; omega)]

/-- The thread has an empty file, of which nothing will be sent. -/
def Blank (disk : Disk) : ThreadPoint → Prop
  | .openFile file => content disk file = []
  | .innerHead locals | .innerCheck locals | .waitWritable locals | .build locals => locals.reader.rest = []
  | _ => False

inductive Standing (disk : Disk) (density : Density) (state : TestState) (stream : FileStream) (wire : List Octets)
    (files : List File) : Prop
  | goesOn (h : Progress disk density stream wire files)
  | leaves (h : BrokenOff disk density state stream wire files)
  | skips (hblank : Blank disk stream.thread)
      (hwire : assemble (segment density) wire = some { finished := files.map (transfer disk stream.id) })

/-- The files that were sent are some of those that were fetched: an empty file is not sent, and one that cannot be opened is not either. -/
def Begun (disk : Disk) (density : Density) (state : TestState) (stream : FileStream) (wire : List Octets)
    (files : List File) : Prop :=
  ∃ opened : List File, opened.Sublist files ∧ (∀ file ∈ opened, content disk file ≠ []) ∧
    Standing disk density state stream wire opened

section

variable {disk : Disk} {density : Density} {state : TestState} {test : IperfFileTransfer} {stream next : FileStream}
  {wire : List Octets} {files opened : List File}

theorem Begun.carried (h : Begun disk density state stream wire files) : Carried disk density wire files := by
  obtain ⟨opened, hopened, _, hstanding⟩ := h
  cases hstanding with
  | goesOn h =>
    obtain ⟨id, sent, a, hsent, hwire, hbeginning⟩ := h.carried
    exact ⟨id, sent, a, hsent.trans hopened, hwire, hbeginning⟩
  | leaves h =>
    obtain ⟨before, file, sent, rfl, hfits, hwire⟩ := h.wire
    exact carried_sentTo hopened hfits hwire
  | skips _ hwire => exact ⟨stream.id, opened, _, hopened, hwire, beginningOf_finished _⟩

theorem Leaving.of_same (h : Leaving state stream) {after : TestState} (hthread : next.thread = stream.thread)
    (hdone : state = .testDone → after = .testDone) (herror : stream.hasErrInSend = true → next.hasErrInSend = true) :
    Leaving after next := by
  unfold Leaving at h ⊢
  rw [hthread]
  split at h
  · exact h.imp hdone herror
  · exact h.imp hdone herror
  · exact herror h
  · exact herror h
  · trivial
  · exact h.elim

theorem Leaving.started (h : Leaving state stream) : stream.thread ≠ .notStarted := by
  intro hthread
  unfold Leaving at h
  rw [hthread] at h
  exact h

theorem Begun.of_same (h : Begun disk density state stream wire files) {after : TestState} (hid : next.id = stream.id)
    (hheader : next.bkHeader = stream.bkHeader) (hthread : next.thread = stream.thread)
    (hdone : state = .testDone → after = .testDone) (herror : stream.hasErrInSend = true → next.hasErrInSend = true) :
    Begun disk density after next wire files := by
  obtain ⟨opened, hopened, hnonempty, hstanding⟩ := h
  refine ⟨opened, hopened, hnonempty, ?_⟩
  cases hstanding with
  | goesOn h => exact .goesOn (h.of_same hid hheader hthread)
  | leaves h => exact .leaves ⟨h.leaving.of_same hthread hdone herror, hid ▸ h.wire⟩
  | skips hblank hwire => exact .skips (hthread ▸ hblank) (hid ▸ hwire)

/-! ### Steps of a thread -/

theorem leaving_threadStep {answers : ThreadAnswers} {result : ThreadResult} (hleaving : Leaving test.state stream)
    (h : threadStep disk density test stream answers = .ok result) : result.accepted = none ∧
      fetchedFile result.stream = [] ∧ result.stream.id = stream.id ∧ Leaving test.state result.stream := by
  unfold Leaving at hleaving
  cases threadStep_move h with
  | stops => exact ⟨rfl, rfl, rfl, trivial⟩
  | aborts => exact ⟨rfl, rfl, rfl, trivial⟩
  | goesOn hthread hrunning =>
    rw [hthread] at hleaving
    exact ⟨rfl, rfl, rfl, hleaving.resolve_left hrunning⟩
  | asks hthread hnoError =>
    rw [hthread] at hleaving
    exact absurd hleaving hnoError
  | enters hthread hactive =>
    rw [hthread] at hleaving
    refine ⟨rfl, rfl, rfl, hleaving.resolve_left fun hdone => ?_⟩
    have hidle := hactive.2
    rw [isInActive, hdone, bne_self_eq_false, Bool.and_false] at hidle
    exact Bool.false_ne_true hidle
  | leaves hthread =>
    rw [hthread] at hleaving
    exact ⟨rfl, rfl, rfl, hleaving⟩
  | breaks hthread =>
    rw [hthread] at hleaving
    exact ⟨rfl, rfl, rfl, .inr hleaving⟩
  | passes hthread hnoError =>
    rw [hthread] at hleaving
    exact absurd (.inr hleaving) hnoError
  | findsNone hthread | fetches hthread | ends hthread | opens hthread | waited hthread | builds hthread | sends hthread
    | refused hthread | givesUp hthread | resends hthread =>
    rw [hthread] at hleaving
    exact hleaving.elim

theorem begun_of_quiet {result : ThreadResult} (haccepted : result.accepted = none)
    (hfetched : fetchedFile result.stream = []) (hbegun : Begun disk density state result.stream wire files) :
    Begun disk density state result.stream (wire ++ result.accepted.toList) (files ++ fetchedFile result.stream) := by
  rw [haccepted, hfetched, Option.toList_none, List.append_nil, List.append_nil]
  exact hbegun

theorem done_of_inactive (hconnected : stream.isConnected = true) (hinactive : test.isInActive stream ≠ true) :
    test.state = .testDone := by
  by_contra hrunning
  exact hinactive (by simp [isInActive, hconnected, hrunning])

/-- A block that is given up leaves the file where it is, with the error or the end of the test that will take the thread out. -/
theorem standing_givenUp {locals : SendLocals} {block : Octets} {nread : Nat} (hconnected : stream.isConnected = true)
    (h : Progress disk density stream wire opened) (hthread : stream.thread = .retry locals block nread)
    (hinactive : test.isInActive stream ≠ true ∨ stream.hasErrInSend = true) :
    Standing disk density test.state (test.moveTo stream (.innerHead (advance locals nread))).stream wire opened := by
  have hsending : stream.thread.sends = some (locals, block, nread) := by rw [hthread]; rfl
  obtain ⟨before, file, sent, rfl, _, hlocals, _, hwire⟩ := h.sending_inv hsending
  have hfits := hlocals.fits
  exact .leaves ⟨hinactive.imp_left (done_of_inactive hconnected), before, file, sent, rfl, by omega, hwire⟩

theorem standing_left {locals : SendLocals} (h : Progress disk density stream wire opened)
    (hthread : stream.thread.reads = some locals) (hleft : test.state = .testDone ∨ stream.hasErrInSend = true) :
    Standing disk density test.state (test.moveTo stream .outerHead).stream wire opened := by
  obtain ⟨before, file, sent, rfl, hlocals, hwire⟩ := h.reading_inv hthread
  exact .leaves ⟨hleft, before, file, sent, rfl, hlocals.fits, hwire⟩

theorem openStep_skipped (disk : Disk) (test : IperfFileTransfer) (stream : FileStream) (file : File) :
    openStep disk test stream file false
      = test.moveTo { stream with bkHeader := fileBkHeader disk stream.bkHeader file } .outerHead := by
  unfold openStep
  dsimp only
  split
  · contradiction
  · rfl

theorem standing_threadStep {answers : ThreadAnswers} {result : ThreadResult} (hlawful : density.Lawful)
    (hsendable : ∀ file ∈ opened, Sendable disk file) (hlow : 362 ≤ stream.idealBufferLength)
    (hhigh : stream.idealBufferLength ≤ 300000) (hconnected : stream.isConnected = true) (hreads : answers.reads = true)
    (hholds : stream.thread.holdsFile = true) (h : Progress disk density stream wire opened)
    (hstep : threadStep disk density test stream answers = .ok result) : fetchedFile result.stream = [] ∧
      ∃ sent : List File, sent.Sublist opened ∧
        Standing disk density test.state result.stream (wire ++ result.accepted.toList) sent := by
  have hkept {result : ThreadResult} (hresult : Kept disk density test wire opened result) :
      fetchedFile result.stream = [] ∧ ∃ sent : List File, sent.Sublist opened ∧
        Standing disk density test.state result.stream (wire ++ result.accepted.toList) sent := by
    rw [hresult.accepted, Option.toList_none, List.append_nil]
    exact ⟨hresult.fetched, opened, List.Sublist.refl _, .goesOn hresult.progress⟩
  have hleaves {result : ThreadResult} (haccepted : result.accepted = none) (hfetched : fetchedFile result.stream = [])
      (hresult : Standing disk density test.state result.stream wire opened) :
      fetchedFile result.stream = [] ∧ ∃ sent : List File, sent.Sublist opened ∧
        Standing disk density test.state result.stream (wire ++ result.accepted.toList) sent := by
    rw [haccepted, Option.toList_none, List.append_nil]
    exact ⟨hfetched, opened, List.Sublist.refl _, hresult⟩
  cases threadStep_move hstep with
  | stops hthread | goesOn hthread | aborts hthread | asks hthread | findsNone hthread | ends hthread | fetches hthread =>
    rw [hthread] at hholds
    exact absurd hholds Bool.false_ne_true
  | opens hthread =>
    obtain ⟨before, rfl, hwire⟩ := h.fetched_inv hthread
    cases answers.opens with
    | true => exact hkept (progress_openStep (hsendable _ (by simp)) h hthread)
    | false =>
      rw [openStep_skipped]
      refine ⟨rfl, before, List.sublist_append_left _ _, .goesOn (.idle rfl ?_)⟩
      exact (congrArg (assemble (segment density)) (List.append_nil wire)).trans hwire
  | @enters locals hthread | @passes locals hthread | @waited locals hthread =>
    have hreading : stream.thread.reads = some locals := by rw [hthread]; rfl
    exact hkept ⟨rfl, rfl, rfl, h.move hreading rfl⟩
  | @leaves locals hthread hinactive =>
    have hreading : stream.thread.reads = some locals := by rw [hthread]; rfl
    by_cases heof : locals.reader.eof = true
    · exact hkept ⟨rfl, rfl, rfl, h.leave hreading heof rfl⟩
    · have hdone := done_of_inactive hconnected fun hactive => hinactive ⟨Bool.eq_false_iff.mpr heof, hactive⟩
      exact hleaves rfl rfl (standing_left h hreading (.inl hdone))
  | @breaks locals hthread herror =>
    -- no read of the file has failed
    have hreading : stream.thread.reads = some locals := by rw [hthread]; rfl
    obtain ⟨_, _, _, _, hlocals, _⟩ := h.reading_inv hreading
    have herror := herror.resolve_left fun hbad => Bool.false_ne_true (hlocals.bad.symm.trans hbad)
    exact hleaves rfl rfl (standing_left h hreading (.inr herror))
  | builds hthread hbuild =>
    exact hkept (progress_build hlawful hsendable hlow hhigh hreads h hthread hbuild)
  | @sends locals block nread hthread =>
    have hsending : stream.thread.sends = some (locals, block, nread) := by rw [hthread]; rfl
    exact ⟨rfl, opened, List.Sublist.refl _, .goesOn (progress_sent hsendable h hsending)⟩
  | @refused locals block nread hthread | @resends locals block nread hthread =>
    have hsending : stream.thread.sends = some (locals, block, nread) := by rw [hthread]; rfl
    exact hkept ⟨rfl, rfl, rfl, h.resend hsending rfl⟩
  | givesUp hthread hinactive => exact hleaves rfl rfl (standing_givenUp hconnected h hthread hinactive)

theorem blank_threadStep {answers : ThreadAnswers} {result : ThreadResult} (hlow : 362 ≤ stream.idealBufferLength)
    (hhigh : stream.idealBufferLength ≤ 300000) (hreads : answers.reads = true) (hblank : Blank disk stream.thread)
    (hstep : threadStep disk density test stream answers = .ok result) : result.accepted = none ∧
      fetchedFile result.stream = [] ∧ result.stream.id = stream.id ∧
      (Blank disk result.stream.thread ∨ result.stream.thread.holdsFile = false) := by
  unfold Blank at hblank
  cases threadStep_move hstep with
  | @opens file hthread =>
    rw [hthread] at hblank
    unfold openStep
    dsimp only
    split
    · rename_i found hfound _
      have hempty : found = [] := by
        rw [← hblank, content, hfound]
        rfl
      exact ⟨rfl, rfl, rfl, .inl hempty⟩
    · exact ⟨rfl, rfl, rfl, .inr rfl⟩
  | enters hthread | passes hthread | waited hthread =>
    rw [hthread] at hblank
    exact ⟨rfl, rfl, rfl, .inl hblank⟩
  | leaves hthread | breaks hthread => exact ⟨rfl, rfl, rfl, .inr rfl⟩
  | @builds locals _ hthread hbuild =>
    rw [hthread] at hblank
    rw [buildStep, hreads, buildBlock_end (usable_of_mem hlow hhigh locals.sentBytes) hblank] at hbuild
    obtain rfl := Fault.pure_eq_ok.mp hbuild
    exact ⟨rfl, rfl, rfl, .inl hblank⟩
  | stops hthread | goesOn hthread | aborts hthread | asks hthread | findsNone hthread | ends hthread | fetches hthread
    | sends hthread | refused hthread | givesUp hthread | resends hthread =>
    rw [hthread] at hblank
    exact hblank.elim

theorem begun_idle {answers : ThreadAnswers} {result : ThreadResult} (hopened : opened.Sublist files)
    (hnonempty : ∀ file ∈ opened, content disk file ≠ []) (hidle : stream.thread.holdsFile = false)
    (h : Progress disk density stream wire opened) (hstep : threadStep disk density test stream answers = .ok result) :
    Begun disk density test.state result.stream (wire ++ result.accepted.toList) (files ++ fetchedFile result.stream) := by
  cases threadStep_move hstep with
  | stops | goesOn | aborts | asks | findsNone | ends =>
    exact begun_of_quiet rfl rfl ⟨opened, hopened, hnonempty, .goesOn (h.rest hidle rfl rfl)⟩
  | @fetches file rest hthread hpending =>
    rw [Option.toList_none, List.append_nil]
    by_cases hempty : content disk file = []
    · exact ⟨opened, hopened.trans (List.sublist_append_left _ _), hnonempty, .skips hempty (h.idle_inv hidle)⟩
    · refine ⟨opened ++ [file], hopened.append (List.Sublist.refl _), ?_, .goesOn (.fetched rfl (h.idle_inv hidle))⟩
      intro other hother
      rcases List.mem_append.mp hother with hbefore | hlast
      · exact hnonempty other hbefore
      · obtain rfl := List.mem_singleton.mp hlast
        exact hempty
  | opens hthread | enters hthread | leaves hthread | breaks hthread | passes hthread | waited hthread | builds hthread
    | sends hthread | refused hthread | givesUp hthread | resends hthread =>
    rw [hthread] at hidle
    exact absurd hidle.symm Bool.false_ne_true

theorem begun_threadStep {answers : ThreadAnswers} {result : ThreadResult} (hlawful : density.Lawful)
    (hqueued : ∀ file ∈ files, Queued disk file) (hlow : 362 ≤ stream.idealBufferLength)
    (hhigh : stream.idealBufferLength ≤ 300000) (hconnected : stream.thread ≠ .notStarted → stream.isConnected = true)
    (hreads : answers.reads = true) (h : Begun disk density test.state stream wire files)
    (hstep : threadStep disk density test stream answers = .ok result) :
    Begun disk density test.state result.stream (wire ++ result.accepted.toList) (files ++ fetchedFile result.stream) := by
  obtain ⟨opened, hopened, hnonempty, hstanding⟩ := h
  cases hstanding with
  | goesOn h =>
    cases hholds : stream.thread.holdsFile with
    | false => exact begun_idle hopened hnonempty hholds h hstep
    | true =>
      have hsendable (file : File) (hfile : file ∈ opened) : Sendable disk file :=
        (hqueued file (hopened.subset hfile)).sendable (hnonempty file hfile)
      obtain ⟨hfetched, sent, hsent, hnext⟩ := standing_threadStep hlawful hsendable hlow hhigh
        (hconnected (threadStep_ends hstep).running.1) hreads hholds h hstep
      rw [hfetched, List.append_nil]
      exact ⟨sent, hsent.trans hopened, fun file hfile => hnonempty file (hsent.subset hfile), hnext⟩
  | leaves h =>
    obtain ⟨haccepted, hfetched, hid, hleaving⟩ := leaving_threadStep h.leaving hstep
    exact begun_of_quiet haccepted hfetched ⟨opened, hopened, hnonempty, .leaves ⟨hleaving, hid ▸ h.wire⟩⟩
  | skips hblank hwire =>
    obtain ⟨haccepted, hfetched, hid, hnext⟩ := blank_threadStep hlow hhigh hreads hblank hstep
    refine begun_of_quiet haccepted hfetched ⟨opened, hopened, hnonempty, ?_⟩
    rcases hnext with hblank | hidle
    · exact .skips hblank (hid ▸ hwire)
    · exact .goesOn (.idle hidle (hid ▸ hwire))

end

end IperfFileTransfer

namespace FileSession

/-- Anything may go wrong but the reading of a file that is open and, at the receiver, the opening of a file and the flush when it is closed. -/
def Tolerable : Action → Prop
  | .thread _ answers => answers.reads = true
  | .deliver _ answers => answers.opens = true ∧ answers.closes = true
  | a => AnnouncesRange a

instance (i : Nat) (event : ConnEvent) : Decidable (AnnouncesRange (.event i event)) :=
  match event with
  | .established length | .idealBufferLength length => inferInstanceAs (Decidable (362 ≤ length ∧ length ≤ 300000))
  | .none | .failed | .timeout | .shutdownByPeer | .writable | .sendComplete | .sendDataError | .bufferFull | .closed
  | .error | .alreadyConnected | .allDataAcked => isTrue trivial

instance (a : Action) : Decidable (Tolerable a) :=
  match a with
  | .thread _ answers => inferInstanceAs (Decidable (answers.reads = true))
  | .deliver _ answers => inferInstanceAs (Decidable (answers.opens = true ∧ answers.closes = true))
  | .event i event => inferInstanceAs (Decidable (AnnouncesRange (.event i event)))
  | .poll | .stop | .clearStreams | .accept _ | .receiverEvent .. | .receiverPoll => isTrue trivial

/-- A stream of the sender, whatever has gone wrong. -/
structure Engaged (senderDisk : Disk) (density : Density) (s : FileSession) (i : Nat) (stream : FileStream) : Prop where
  low : 362 ≤ stream.idealBufferLength
  high : stream.idealBufferLength ≤ 300000
  connected : stream.thread ≠ .notStarted → stream.isConnected = true
  begun : Begun senderDisk density s.sender.state stream (s.wire i) (s.filesOf i)

/-- The sender. What is on the streams stays there when the sender has removed them. -/
structure Underway (senderDisk : Disk) (density : Density) (queue : List File) (s : FileSession) : Prop where
  queue : s.fetched.map Prod.snd ++ s.sender.pendingFiles = queue
  streams : ∀ (i : Nat) (stream : FileStream), s.sender.streams[i]? = some stream → Engaged senderDisk density s i stream
  carried : ∀ i, Carried senderDisk density (s.wire i) (s.filesOf i)

section

variable {senderDisk : Disk} {density : Density} {queue : List File} {s t : FileSession} {a : Action} {i : Nat}
  {stream next : FileStream}

theorem Underway.fetched (h : Underway senderDisk density queue s) : s.fetched.map Prod.snd <+: queue :=
  h.queue ▸ List.prefix_append _ _

theorem engaged_event {event : ConnEvent} (h : Engaged senderDisk density s i stream) (hrange : AnnouncesRange (.event i event))
    (hevent : s.sender.streamEvent event stream = .ok next) (hwire : t.wire i = s.wire i)
    (hfiles : t.filesOf i = s.filesOf i) (hdone : s.sender.state = .testDone → t.sender.state = .testDone) :
    Engaged senderDisk density t i next := by
  obtain ⟨hlow, hhigh, hconnected, hbegun⟩ := h
  have hsame {other : FileStream} (hid : other.id = stream.id) (hheader : other.bkHeader = stream.bkHeader)
      (hthread : other.thread = stream.thread) (herror : stream.hasErrInSend = true → other.hasErrInSend = true) :
      Begun senderDisk density t.sender.state other (t.wire i) (t.filesOf i) := by
    rw [hwire, hfiles]
    exact hbegun.of_same hid hheader hthread hdone herror
  cases streamEvent_move hevent with
  | retried | givenUp | full | writable | acked | ackedEarly | other | closed =>
    exact ⟨hlow, hhigh, hconnected, hsame rfl rfl rfl id⟩
  | sendDataError => exact ⟨hlow, hhigh, hconnected, hsame rfl rfl rfl fun _ => rfl⟩
  | measured => exact ⟨hrange.1, hrange.2, hconnected, hsame rfl rfl rfl id⟩
  | established hthread =>
    refine ⟨hrange.1, hrange.2, fun _ => rfl, ?_⟩
    obtain ⟨opened, hopened, hnonempty, hstanding⟩ := hbegun
    cases hstanding with
    | goesOn h =>
      rw [hwire, hfiles]
      exact ⟨opened, hopened, hnonempty, .goesOn (h.rest (by rw [hthread]; rfl) rfl rfl)⟩
    | leaves h => exact absurd hthread h.leaving.started
    | skips hblank =>
      rw [hthread] at hblank
      exact hblank.elim

theorem filesOf_other (hstep : (machine senderDisk density).step s a = some t) (ha : ∀ answers, a ≠ .thread i answers) :
    t.filesOf i = s.filesOf i := by
  by_cases hthread : ∃ k answers, a = .thread k answers
  · obtain ⟨k, answers, rfl⟩ := hthread
    obtain ⟨stream, result, _, _, ht⟩ := thread_inv hstep
    have hfetched : t.fetched = s.fetched ++ (fetchedFile result.stream).map fun file => (k, file) := by
      rw [ht, ← fetchedIn_eq]
    exact (filesOf_append hfetched).2 i fun hk => ha answers (by rw [hk])
  · rw [filesOf, (unsent_of_not_thread hstep fun k answers h => hthread ⟨k, answers, h⟩).2.1]
    rfl

theorem engaged_step (hlawful : density.Lawful) (hqueued : ∀ file ∈ queue, Queued senderDisk file)
    (h : Underway senderDisk density queue s) (htolerable : Tolerable a)
    (hstep : (machine senderDisk density).step s a = some t) (hnext : t.sender.streams[i]? = some next) :
    Engaged senderDisk density t i next := by
  obtain ⟨stream, hstream, hmoved⟩ := stream_moved hstep hnext
  have hengaged := h.streams i stream hstream
  have hdone (hstate : s.sender.state = .testDone) : t.sender.state = .testDone := step_done hstate hstep
  cases hmoved with
  | event hevent =>
    exact engaged_event hengaged htolerable hevent (wire_other hstep fun _ => Action.noConfusion)
      (filesOf_other hstep fun _ => Action.noConfusion) hdone
  | @thread answers result hthread =>
    obtain ⟨_, _, hown, hresult, ht⟩ := thread_inv hstep
    obtain rfl := Option.some.inj (hstream.symm.trans hown)
    obtain rfl := Except.ok.inj (hthread.symm.trans hresult)
    have hfetched : t.fetched = s.fetched ++ (fetchedFile result.stream).map fun file => (i, file) := by
      rw [ht, ← fetchedIn_eq]
    have hwire : t.wire i = s.wire i ++ result.accepted.toList := by
      rw [ht]
      exact Function.update_self ..
    have hstate : t.sender.state = s.sender.state := by rw [ht]
    have hbegun := begun_threadStep hlawful (fun file hfile => hqueued file (mem_of_filesOf h.queue hfile))
      hengaged.low hengaged.high hengaged.connected htolerable hengaged.begun hthread
    obtain ⟨point, header, hframe⟩ := (threadStep_stepped hthread).frame
    refine ⟨?_, ?_, fun _ => ?_, ?_⟩
    · rw [hframe]
      exact hengaged.low
    · rw [hframe]
      exact hengaged.high
    · rw [hframe]
      exact hengaged.connected (threadStep_ends hthread).running.1
    · rw [hwire, (filesOf_append hfetched).1, hstate]
      exact hbegun
  | other _ hother =>
    refine ⟨hengaged.low, hengaged.high, hengaged.connected, ?_⟩
    rw [wire_other hstep hother, filesOf_other hstep hother]
    exact hengaged.begun.of_same rfl rfl rfl hdone id

theorem underway_step (hlawful : density.Lawful) (hqueued : ∀ file ∈ queue, Queued senderDisk file)
    (h : Underway senderDisk density queue s) (htolerable : Tolerable a)
    (hstep : (machine senderDisk density).step s a = some t) : Underway senderDisk density queue t where
  queue := (queue_step hstep).1.trans h.queue
  streams _ _ hnext := engaged_step hlawful hqueued h htolerable hstep hnext
  carried i := by
    by_cases hthread : ∃ answers, a = .thread i answers
    · obtain ⟨answers, rfl⟩ := hthread
      obtain ⟨stream, result, hstream, _, ht⟩ := thread_inv hstep
      have hnext : t.sender.streams[i]? = some result.stream := by
        rw [ht]
        exact List.getElem?_set_self (List.getElem?_eq_some_iff.mp hstream).1
      exact (engaged_step hlawful hqueued h htolerable hstep hnext).begun.carried
    · have hother (answers : ThreadAnswers) : a ≠ .thread i answers := fun hown => hthread ⟨answers, hown⟩
      rw [wire_other hstep hother, filesOf_other hstep hother]
      exact h.carried i

end

end FileSession

end BatsIperf
