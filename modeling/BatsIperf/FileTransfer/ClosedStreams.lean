import BatsIperf.FileTransfer.AllAcked
import BatsIperf.FileTransfer.BlockData

/-!
# Closed streams of a file sender

The sending thread looks at `is_connected` and at the state of the transfer, not at the connection it sends on. A closed connection is given up and `is_connected` stays set, so the thread goes on and calls `SendData` on nothing. Once the transfer is done the loop ends at its next test, but a thread that has passed its test still sends.
-/

namespace BatsIperf

open Octets IperfFileTransfer

/-- The next step of the thread calls `SendData`. -/
def ThreadPoint.atSend : ThreadPoint → Bool
  | .sending .. => true
  | _ => false

/-- The thread calls `SendData` when it is next woken. -/
def ThreadPoint.atRetry : ThreadPoint → Bool
  | .retry .. => true
  | _ => false

/-- The next step of the thread reads the data of a block. -/
def ThreadPoint.building : ThreadPoint → Option SendLocals
  | .build locals => some locals
  | _ => none

namespace IperfFileTransfer

theorem threadStep_null_iff {disk : Disk} {density : Density} {test : IperfFileTransfer} {stream : FileStream}
    {answers : ThreadAnswers} :
    threadStep disk density test stream answers = .error .nullPointer ↔
      stream.thread.atSend = true ∧ stream.stream = false := by
  unfold threadStep
  cases hthread : stream.thread with
  | notStarted | finished | aborted =>
    exact iff_of_false (fun h => Fault.noConfusion (Except.error.inj h)) fun h => Bool.false_ne_true h.1
  | outerHead | errCheck | setDone | openFile | innerHead | innerCheck =>
    exact iff_of_false (Fault.avoids_ok _) fun h => Bool.false_ne_true h.1
  | dequeue =>
    refine iff_of_false ?_ fun h => Bool.false_ne_true h.1
    dsimp only
    split <;> exact Fault.avoids_ok _
  | waitWritable locals =>
    refine iff_of_false ?_ fun h => Bool.false_ne_true h.1
    dsimp only
    split
    · exact Fault.avoids_ok _
    · exact fun h => Fault.noConfusion (Except.error.inj h)
  | build locals =>
    refine iff_of_false ?_ fun h => Bool.false_ne_true h.1
    refine (avoids_buildBlock _ _ _ _ _ _ _).bind fun (header, locals, built) => ?_
    cases built <;> exact Fault.avoids_pure _
  | sending locals block nread =>
    refine (Fault.bind_eq_error_iff_of_next fun _ => ?_).trans ?_
    · split <;> exact Fault.avoids_pure _
    · rw [Fault.require_eq_error, Bool.not_eq_true]
      exact (and_iff_right rfl).symm
  | retry locals block nread =>
    refine iff_of_false ?_ fun h => Bool.false_ne_true h.1
    dsimp only
    split
    · exact Fault.avoids_ok _
    split
    · exact Fault.avoids_ok _
    · exact fun h => Fault.noConfusion (Except.error.inj h)

/-- A thread that builds a block is about to send it where the read has delivered data. -/
theorem threadStep_build {disk : Disk} {density : Density} {test : IperfFileTransfer} {stream : FileStream}
    {answers : ThreadAnswers} {result : ThreadResult} {locals : SendLocals}
    (hthread : stream.thread.building = some locals)
    (h : threadStep disk density test stream answers = .ok result) :
    result.stream.thread.atSend = true ↔
      nextData test.testConfig locals stream.idealBufferLength answers.reads ≠ [] := by
  have hthread : stream.thread = .build locals := by
    unfold ThreadPoint.building at hthread
    split at hthread
    · rename_i hbuild
      exact Option.some.inj hthread ▸ hbuild
    · exact absurd hthread.symm (Option.some_ne_none locals)
  rw [threadStep, hthread] at h
  obtain ⟨⟨header, after, built⟩, hbuild, h⟩ := Fault.bind_eq_ok.mp h
  rw [ne_eq, ← buildBlock_built hbuild]
  cases built with
  | none =>
    obtain rfl := Fault.pure_eq_ok.mp h
    exact iff_of_false Bool.false_ne_true fun hsome => hsome rfl
  | some block =>
    obtain rfl := Fault.pure_eq_ok.mp h
    exact iff_of_true rfl (Option.some_ne_none _)

/-- A thread comes to a call of `SendData` from a block it has built, or from a retry on a stream it has found active. -/
theorem threadStep_atSend {disk : Disk} {density : Density} {test : IperfFileTransfer} {stream : FileStream}
    {answers : ThreadAnswers} {result : ThreadResult} (h : threadStep disk density test stream answers = .ok result)
    (hsend : result.stream.thread.atSend = true) :
    (∃ locals, stream.thread.building = some locals) ∨
      stream.thread.atRetry = true ∧ test.isInActive stream = true := by
  cases threadStep_move h with
  | @builds locals _ hthread => exact .inl ⟨locals, by rw [hthread]; rfl⟩
  | resends hthread hactive => exact .inr ⟨by rw [hthread]; rfl, not_not.mp (not_or.mp hactive).1⟩
  | opens =>
    obtain ⟨header, point, hopened, hpoint⟩ := openStep_moves disk test stream _ answers.opens
    rw [hopened] at hsend
    rcases hpoint with rfl | ⟨_, rfl⟩ <;> exact absurd hsend Bool.false_ne_true
  | stops | goesOn | aborts | asks | findsNone | fetches | ends | enters | leaves | breaks | passes | waited | sends
    | refused | givesUp =>
    exact absurd hsend Bool.false_ne_true

end IperfFileTransfer

def ConnEvent.closes : ConnEvent → Bool
  | .closed | .shutdownByPeer => true
  | _ => false

namespace IperfFileTransfer

/-- What an event does to the connection of its stream and to the flag that stands for it. -/
inductive Reconnected (stream next : FileStream) : ConnEvent → Prop
  | closed {event : ConnEvent} (hcloses : event.closes = true) (hnext : next = { stream with stream := false }) :
      Reconnected stream next event
  | established {length : Int} (hstream : next.stream = true) (hconnected : next.isConnected = true) :
      Reconnected stream next (.established length)
  | same {event : ConnEvent} (hcloses : event.closes = false) (hstream : next.stream = stream.stream)
      (hconnected : next.isConnected = stream.isConnected) (hthread : next.thread = stream.thread) :
      Reconnected stream next event

theorem streamEvent_reconnected {test : IperfFileTransfer} {event : ConnEvent} {stream next : FileStream}
    (h : test.streamEvent event stream = .ok next) : Reconnected stream next event := by
  cases streamEvent_move h with
  | closed hevent => exact .closed (by rcases hevent with rfl | rfl <;> rfl) rfl
  | established => exact .established rfl rfl
  | other hevent =>
    simp only [List.mem_cons, List.not_mem_nil, or_false] at hevent
    exact .same (by rcases hevent with rfl | rfl | rfl | rfl | rfl <;> rfl) rfl rfl rfl
  | retried | givenUp | full | writable | measured | acked | ackedEarly | sendDataError => exact .same rfl rfl rfl rfl

/-- A connected stream has its connection until the transfer is done, and a thread that is about to send has it then as well. -/
structure HoldsConnection (state : TestState) (stream : FileStream) : Prop where
  connected : state ≠ .testDone → stream.isConnected = true → stream.stream = true
  sends : stream.thread.atSend = true → stream.stream = true

/-- Neither the flag, while the transfer goes on, nor a pending call stands for the connection of the stream. -/
def Spare (state : TestState) (stream : FileStream) : Prop :=
  stream.isConnected = false ∨ (state = .testDone ∧ stream.thread.atSend = false)

instance (state : TestState) (stream : FileStream) : Decidable (Spare state stream) :=
  inferInstanceAs (Decidable (_ ∨ _))

/-- The thread takes up no block for a connection that is gone. -/
def BuildsNothing (config : TestConfig) (stream : FileStream) (reads : Bool) : Prop :=
  ∀ locals ∈ stream.thread.building, stream.stream = true ∨ nextData config locals stream.idealBufferLength reads = []

instance (config : TestConfig) (stream : FileStream) (reads : Bool) : Decidable (BuildsNothing config stream reads) :=
  inferInstanceAs (Decidable (∀ locals ∈ stream.thread.building, _))

end IperfFileTransfer

namespace FileSession

/-! ### One step -/

variable {senderDisk : Disk} {density : Density} {s t : FileSession} {a : Action}

/-- A connection is closed only where it is spare, and no thread takes up a block for a connection that is gone. -/
def ClosesSpare (s : FileSession) : Action → Prop
  | .event i event => event.closes = true → ∀ stream ∈ s.sender.streams[i]?, Spare s.sender.state stream
  | .thread i answers => ∀ stream ∈ s.sender.streams[i]?, BuildsNothing s.sender.testConfig stream answers.reads
  | _ => True

instance (s : FileSession) : (a : Action) → Decidable (ClosesSpare s a)
  | .event i event => inferInstanceAs (Decidable (event.closes = true → ∀ stream ∈ s.sender.streams[i]?, _))
  | .thread i _ => inferInstanceAs (Decidable (∀ stream ∈ s.sender.streams[i]?, _))
  | .poll | .stop | .clearStreams | .accept _ | .receiverEvent .. | .deliver .. | .receiverPoll => isTrue trivial

/-- A thread was started when its stream was connected. -/
def StartedConnected (s : FileSession) : Prop :=
  ∀ (i : Nat) (stream : FileStream), s.sender.streams[i]? = some stream → stream.thread ≠ .notStarted →
    stream.isConnected = true

theorem startedConnected_step (hs : StartedConnected s) (hstep : (machine senderDisk density).step s a = some t) :
    StartedConnected t := by
  intro i next hnext hthread
  obtain ⟨stream, hstream, hmoved⟩ := stream_moved hstep hnext
  cases hmoved with
  | event hevent =>
    cases streamEvent_reconnected hevent with
    | closed _ hclosed =>
      subst hclosed
      exact hs i stream hstream hthread
    | established _ hconnected => exact hconnected
    | same _ _ hconnected hsame =>
      rw [hconnected]
      exact hs i stream hstream (hsame ▸ hthread)
  | thread hstepped =>
    obtain ⟨_, _, hframe⟩ := (threadStep_stepped hstepped).frame
    rw [hframe]
    exact hs i stream hstream (threadStep_ends hstepped).running.1
  | other => exact hs i next hstream hthread

theorem isStreamDone_state {test : IperfFileTransfer} (h : test.state = .testDone) :
    test.isStreamDone.2.state = .testDone := by
  unfold isStreamDone
  split
  · exact h
  split
  · exact h
  split
  · rfl
  · exact h

/-- Nothing takes the sender back once it is done, and only a poll or `Stop` brings it there. -/
theorem state_step (hstep : (machine senderDisk density).step s a = some t) :
    (s.sender.state = .testDone → t.sender.state = .testDone) ∧
      (a ≠ .poll → a ≠ .stop → t.sender.state = s.sender.state) := by
  cases a with
  | event k event =>
    obtain ⟨_, sender, hcallback, rfl⟩ := event_inv hstep
    have hsame : sender.state = s.sender.state := by
      rcases connectionCallback_cases hcallback with ⟨_, _, _, _, rfl⟩ | ⟨rfl, _⟩ | ⟨rfl, _⟩ <;> rfl
    exact ⟨hsame.trans, fun _ _ => hsame⟩
  | thread k answers =>
    obtain ⟨_, _, _, _, rfl⟩ := thread_inv hstep
    exact ⟨id, fun _ _ => rfl⟩
  | poll =>
    obtain rfl := Option.some.inj hstep
    exact ⟨isStreamDone_state, fun h => absurd rfl h⟩
  | stop =>
    obtain rfl := Option.some.inj hstep
    refine ⟨fun h => ?_, fun _ h => absurd rfl h⟩
    change s.sender.stop.state = _
    unfold IperfFileTransfer.stop
    split
    · exact h
    · rfl
  | clearStreams =>
    obtain rfl := clearStreams_inv hstep
    exact ⟨id, fun _ _ => rfl⟩
  | accept | receiverEvent | deliver | receiverPoll =>
    rw [(sender_unchanged hstep rfl).1]
    exact ⟨id, fun _ _ => rfl⟩

/-- Every stream has the connection its flag and its thread go by. -/
def Held (s : FileSession) : Prop :=
  ∀ (i : Nat) (stream : FileStream), s.sender.streams[i]? = some stream → HoldsConnection s.sender.state stream

theorem held_of_spare (hconnected : StartedConnected s) (hs : Held s) (hspare : ClosesSpare s a)
    (hstep : (machine senderDisk density).step s a = some t) : Held t := by
  intro i next hnext
  obtain ⟨stream, hstream, hmoved⟩ := stream_moved hstep hnext
  obtain ⟨hdone, hstate⟩ := state_step hstep
  have hbefore := hs i stream hstream
  cases hmoved with
  | event hevent =>
    have hstate := hstate Action.noConfusion Action.noConfusion
    cases streamEvent_reconnected hevent with
    | closed hcloses hclosed =>
      subst hclosed
      rcases hspare hcloses stream hstream with hunused | ⟨hended, hpast⟩
      · have hidle : stream.thread.atSend ≠ true := fun hsend => by
          have hstarted : stream.thread ≠ .notStarted := fun hthread => by
            rw [hthread] at hsend
            exact Bool.false_ne_true hsend
          exact Bool.false_ne_true (hunused.symm.trans (hconnected i stream hstream hstarted))
        exact ⟨fun _ hflag => absurd (hunused.symm.trans hflag) Bool.false_ne_true, fun hsend => absurd hsend hidle⟩
      · exact ⟨fun hrunning => absurd (hdone hended) hrunning,
          fun hsend => absurd (hpast.symm.trans hsend) Bool.false_ne_true⟩
    | established hstream => exact ⟨fun _ _ => hstream, fun _ => hstream⟩
    | same _ hsame hflag hthread =>
      rw [hstate]
      exact ⟨fun hrunning hconnected => hsame.trans (hbefore.connected hrunning (hflag ▸ hconnected)),
        fun hsend => hsame.trans (hbefore.sends (hthread ▸ hsend))⟩
  | @thread _ result hthread =>
    have hstate := hstate Action.noConfusion Action.noConfusion
    obtain ⟨_, _, hframe⟩ := (threadStep_stepped hthread).frame
    have hsame : result.stream.stream = stream.stream := by rw [hframe]
    have hflag : result.stream.isConnected = stream.isConnected := by rw [hframe]
    refine ⟨fun hrunning hconnected => ?_, fun hsend => ?_⟩
    · rw [hsame]
      exact hbefore.connected (hstate ▸ hrunning) (hflag ▸ hconnected)
    · rw [hsame]
      rcases threadStep_atSend hthread hsend with ⟨locals, hbuilding⟩ | ⟨_, hactive⟩
      · have hdata := (threadStep_build hbuilding hthread).mp hsend
        exact (hspare stream hstream locals hbuilding).resolve_right hdata
      · obtain ⟨hactive, hrunning⟩ := Bool.and_eq_true_iff.mp hactive
        exact hbefore.connected (bne_iff_ne.mp hrunning) hactive
  | other => exact ⟨fun hrunning => hbefore.connected fun hended => hrunning (hdone hended), hbefore.sends⟩

theorem closed_stream {i : Nat} {event : ConnEvent} {stream : FileStream} (hcloses : event.closes = true)
    (hstream : s.sender.streams[i]? = some stream)
    (hstep : (machine senderDisk density).step s (.event i event) = some t) :
    t.sender.streams[i]? = some { stream with stream := false } := by
  have hclosed {test : IperfFileTransfer} {changed : FileStream} (h : test.streamEvent event stream = .ok changed) :
      changed = { stream with stream := false } := by
    cases streamEvent_reconnected h with
    | closed _ hclosed => exact hclosed
    | established => exact absurd hcloses Bool.false_ne_true
    | same hopen => exact absurd (hopen.symm.trans hcloses) Bool.false_ne_true
  obtain ⟨_, sender, hcallback, rfl⟩ := event_inv hstep
  rcases connectionCallback_cases hcallback with ⟨found, changed, hfound, hchanged, rfl⟩ | ⟨rfl, hnone⟩ | ⟨rfl, hquiet⟩
  · obtain rfl := Option.some.inj (hstream.symm.trans hfound)
    rw [← hclosed hchanged]
    exact List.getElem?_set_self (List.getElem?_eq_some_iff.mp hstream).1
  · exact absurd (hstream.symm.trans hnone) (Option.some_ne_none stream)
  · rw [← hclosed (hquiet stream)]
    exact hstream

theorem spare_of_held (hstep : (machine senderDisk density).step s a = some t) (ht : Held t) : ClosesSpare s a := by
  cases a with
  | event i event =>
    intro hcloses stream hstream
    have hstate := (state_step hstep).2 Action.noConfusion Action.noConfusion
    have hafter := ht i _ (closed_stream hcloses hstream hstep)
    by_cases hunused : stream.isConnected = false
    · exact .inl hunused
    · refine .inr ⟨?_, Bool.eq_false_iff.mpr fun hsend => Bool.false_ne_true (hafter.sends hsend)⟩
      by_contra hrunning
      have hflag := Bool.of_not_eq_false hunused
      exact Bool.false_ne_true (hafter.connected (hstate ▸ hrunning) hflag)
  | thread i answers =>
    intro stream hstream locals hbuilding
    obtain ⟨found, result, hfound, hresult, rfl⟩ := thread_inv hstep
    obtain rfl := Option.some.inj (Option.mem_def.mp hstream ▸ hfound)
    obtain ⟨_, _, hframe⟩ := (threadStep_stepped hresult).frame
    have hafter := ht i result.stream (List.getElem?_set_self (List.getElem?_eq_some_iff.mp hfound).1)
    by_contra hbuilds
    obtain ⟨hgone, hdata⟩ := not_or.mp hbuilds
    have hheld := hafter.sends ((threadStep_build hbuilding hresult).mpr hdata)
    rw [hframe] at hheld
    exact hgone hheld
  | poll | stop | clearStreams | accept | receiverEvent | deliver | receiverPoll => exact trivial

/-! ### Every run -/

/-- While the transfer is not done a connected stream has its connection, and no thread calls `SendData` without one. -/
structure Guarded (senderDisk : Disk) (density : Density) (s : FileSession) : Prop where
  connected : s.sender.state ≠ .testDone → ∀ (i : Nat) (stream : FileStream), s.sender.streams[i]? = some stream →
    stream.isConnected = true → stream.stream = true
  sends : ∀ (i : Nat) (stream : FileStream) (answers : ThreadAnswers), s.sender.streams[i]? = some stream →
    threadStep senderDisk density s.sender stream answers ≠ .error .nullPointer

theorem guarded_iff_held : Guarded senderDisk density s ↔ Held s := by
  constructor
  · intro h i stream hstream
    refine ⟨fun hrunning hconnected => h.connected hrunning i stream hstream hconnected, fun hsend => ?_⟩
    by_contra hgone
    exact h.sends i stream {} hstream (threadStep_null_iff.mpr ⟨hsend, Bool.eq_false_iff.mpr hgone⟩)
  · intro h
    refine ⟨fun hrunning i stream hstream hconnected => (h i stream hstream).connected hrunning hconnected, ?_⟩
    intro i stream answers hstream hnull
    obtain ⟨hsend, hgone⟩ := threadStep_null_iff.mp hnull
    exact Bool.false_ne_true (hgone.symm.trans ((h i stream hstream).sends hsend))

/-- The guard of the sending loop holds in every state of a run exactly where the run closes only spare connections and no thread takes up a block for one that is gone. -/
theorem guarded_throughout_iff {config serverConfig : TestConfig} {testId : UInt32} {available : Option Nat} {disk : Disk}
    {acts : List Action} (hstart : start senderDisk config serverConfig testId available disk = .ok s)
    (hrun : (machine senderDisk density).run s acts = some t) :
    (∀ first rest u, acts = first ++ rest → (machine senderDisk density).run s first = some u →
        Guarded senderDisk density u) ↔
      (machine senderDisk density).Respects ClosesSpare s acts := by
  have hfresh (i : Nat) (stream : FileStream) (hstream : s.sender.streams[i]? = some stream) :
      ∃ id, stream = { id := id } := (fresh_start hstart ⟨stream, hstream⟩).streams i stream hstream
  have hconnected : StartedConnected s := fun i stream hstream hstarted => by
    obtain ⟨_, rfl⟩ := hfresh i stream hstream
    exact absurd rfl hstarted
  have hheld : Held s := fun i stream hstream => by
    obtain ⟨_, rfl⟩ := hfresh i stream hstream
    exact ⟨fun _ hflag => absurd hflag Bool.false_ne_true, fun hsend => absurd hsend Bool.false_ne_true⟩
  have hstep (s : FileSession) (a : Action) (t : FileSession) (hinv : StartedConnected s) (hheld : Held s)
      (hstep : (machine senderDisk density).step s a = some t) : StartedConnected t ∧ (Held t ↔ ClosesSpare s a) :=
    ⟨startedConnected_step hinv hstep, spare_of_held hstep, fun hspare => held_of_spare hinv hheld hspare hstep⟩
  simp only [guarded_iff_held]
  exact (Machine.respects_iff_holds hstep hconnected hheld hrun).symm

/-- The sender is stopped and its stream closed before the thread looks at the state again. -/
def stopsThenCloses : List Action :=
  sendsFile ++ [.stop, .event 0 .closed, .thread 0 {}, .thread 0 {}, .clearStreams]

theorem guarded_throughout_iff_stopped :
    ∃ s t, oneFileStart = .ok s ∧ (machine oneFile .failing).run s stopsThenCloses = some t ∧
      ∀ first rest u, stopsThenCloses = first ++ rest → (machine oneFile .failing).run s first = some u →
        Guarded oneFile .failing u := by
  have hrun : oneFileStart.toOption.bind (fun s => ((machine oneFile .failing).run s stopsThenCloses).map fun _ =>
      decide ((machine oneFile .failing).Respects ClosesSpare s stopsThenCloses)) = some true := by decide +kernel
  obtain ⟨s, hstart, hrun⟩ := Option.bind_eq_some_iff.mp hrun
  obtain ⟨t, ht, hspare⟩ := Option.map_eq_some_iff.mp hrun
  have hstart := Fault.toOption_eq_some.mp hstart
  exact ⟨s, t, hstart, ht, (guarded_throughout_iff hstart ht).mpr (of_decide_eq_true hspare)⟩

/-- The connection is closed while the thread is at the head of its loop; the thread passes its test and sends. -/
def closesThenSends : List Action :=
  .event 0 (.established 4096) :: List.replicate 4 (.thread 0 {}) ++ [.event 0 .closed] ++ List.replicate 4 (.thread 0 {})

theorem closed_while_sending_counterexample :
    ∃ s t stream, oneFileStart = .ok s ∧ (machine oneFile .failing).run s closesThenSends = some t ∧
      t.sender.streams[0]? = some stream ∧ t.sender.state ≠ .testDone ∧ stream.isConnected = true ∧
      stream.stream = false ∧ threadStep oneFile .failing t.sender stream {} = .error .nullPointer := by
  have hrun : oneFileStart.toOption.bind (fun s => ((machine oneFile .failing).run s closesThenSends).bind fun t =>
      t.sender.streams[0]?.map fun stream =>
        (decide (t.sender.state ≠ .testDone), stream.isConnected, stream.stream, stream.thread.atSend))
      = some (true, true, false, true) := by decide +kernel
  obtain ⟨s, hstart, hrun⟩ := Option.bind_eq_some_iff.mp hrun
  obtain ⟨t, ht, hrun⟩ := Option.bind_eq_some_iff.mp hrun
  obtain ⟨stream, hstream, hrun⟩ := Option.map_eq_some_iff.mp hrun
  simp only [Prod.mk.injEq, decide_eq_true_eq] at hrun
  obtain ⟨hrunning, hconnected, hgone, hsend⟩ := hrun
  exact ⟨s, t, stream, Fault.toOption_eq_some.mp hstart, ht, hstream, hrunning, hconnected, hgone,
    threadStep_null_iff.mpr ⟨hsend, hgone⟩⟩

end FileSession

end BatsIperf
