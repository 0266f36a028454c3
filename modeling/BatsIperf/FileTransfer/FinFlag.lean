import BatsIperf.FileTransfer.ClosedStreams

/-!
# The last data of a connection

The last block of a file is sent with `BATS_SEND_FLAG_FIN`, which tells the library that nothing more comes on the connection. The thread goes on to the next file of the queue, over the same connection, and a file whose length was narrowed to fewer bytes than it has goes on itself.
-/

namespace BatsIperf

open Octets IperfFileTransfer

/-- Whether a block is sent with `BATS_SEND_FLAG_FIN`: the flag is taken from the header in its first byte. -/
def sentWithFin (block : Octets) : Bool := (FileBkHeader.decode block).any fun decoded => decoded.1.fin

namespace IperfFileTransfer

variable {disk : Disk} {density : Density} {test : IperfFileTransfer} {stream : FileStream} {answers : ThreadAnswers}
  {result : ThreadResult}

theorem threadStep_accepted (h : threadStep disk density test stream answers = .ok result)
    (hnext : result.stream.thread.atSend = true ∨ result.stream.thread.atRetry = true) : result.accepted = none := by
  cases threadStep_move h with
  | sends => exact absurd hnext (by simp [moveTo, ThreadPoint.atSend, ThreadPoint.atRetry])
  | builds _ hbuild =>
    obtain ⟨header, point, rfl, _⟩ := buildStep_moves hbuild
    rfl
  | opens =>
    obtain ⟨header, point, hopened, _⟩ := openStep_moves disk test stream _ answers.opens
    rw [hopened]
    rfl
  | stops | goesOn | aborts | asks | findsNone | fetches | ends | enters | leaves | breaks | passes | waited | refused
    | givesUp | resends => rfl

theorem threadStep_atRetry (h : threadStep disk density test stream answers = .ok result)
    (hretry : result.stream.thread.atRetry = true) : stream.thread.atSend = true ∧ stream.stream = true := by
  cases threadStep_move h with
  | refused hthread hopen => exact ⟨by rw [hthread]; rfl, hopen⟩
  | builds _ hbuild =>
    obtain ⟨header, point, rfl, ⟨_, rfl⟩ | ⟨_, _, _, rfl⟩⟩ := buildStep_moves hbuild <;>
    exact absurd hretry Bool.false_ne_true
  | opens =>
    obtain ⟨header, point, hopened, hpoint⟩ := openStep_moves disk test stream _ answers.opens
    rw [hopened] at hretry
    rcases hpoint with rfl | ⟨_, rfl⟩ <;> exact absurd hretry Bool.false_ne_true
  | stops | goesOn | aborts | asks | findsNone | fetches | ends | enters | leaves | breaks | passes | waited | sends
    | givesUp | resends => exact absurd hretry Bool.false_ne_true

end IperfFileTransfer

namespace FileSession

variable {senderDisk : Disk} {density : Density} {s t : FileSession} {a : Action}

/-- The library has accepted the last data of the connection behind a stream. -/
def FinSent (s : FileSession) (i : Nat) : Prop := ∃ block ∈ s.wire i, sentWithFin block = true

instance (s : FileSession) (i : Nat) : Decidable (s.FinSent i) := inferInstanceAs (Decidable (∃ _ ∈ _, _))

/-- No thread is about to send on a connection whose last data was sent. -/
def NoneAfterFin (s : FileSession) : Prop :=
  ∀ (i : Nat) (stream : FileStream), s.sender.streams[i]? = some stream → stream.thread.atSend = true →
    stream.stream = true → ¬ s.FinSent i

/-- A thread reads no data for a block of a connection whose last data was sent. -/
def ReadsNothing (s : FileSession) (i : Nat) (reads : Bool) : Prop :=
  ∀ stream ∈ s.sender.streams[i]?, ∀ locals ∈ stream.thread.building, stream.stream = true → s.FinSent i →
    nextData s.sender.testConfig locals stream.idealBufferLength reads = []

/-- The step takes up no block after the last data of a connection. -/
def RestsAfterFin (s : FileSession) : Action → Prop
  | .thread i answers => s.ReadsNothing i answers.reads
  | _ => True

instance (s : FileSession) : (a : Action) → Decidable (RestsAfterFin s a)
  | .thread i _ => inferInstanceAs (Decidable (∀ stream ∈ s.sender.streams[i]?, ∀ locals ∈ stream.thread.building, _))
  | .event .. | .poll | .stop | .clearStreams | .accept _ | .receiverEvent .. | .deliver .. | .receiverPoll => isTrue trivial

/-! ### One step -/

theorem wire_moved {i : Nat} {stream next : FileStream} (hstream : s.sender.streams[i]? = some stream)
    (hstep : (machine senderDisk density).step s a = some t) (hnext : t.sender.streams[i]? = some next) :
    (t.wire i = s.wire i ∧ ∀ answers, a ≠ .thread i answers) ∨ ∃ answers result, a = .thread i answers ∧
      threadStep senderDisk density s.sender stream answers = .ok result ∧ next = result.stream ∧
      t.wire i = s.wire i ++ result.accepted.toList := by
  by_cases hthread : ∃ k answers, a = .thread k answers
  · obtain ⟨k, answers, rfl⟩ := hthread
    obtain ⟨found, result, hfound, hresult, rfl⟩ := thread_inv hstep
    rcases getElem?_set_cases hfound hnext with ⟨rfl, rfl⟩ | ⟨hk, _⟩
    · obtain rfl := Option.some.inj (hstream.symm.trans hfound)
      exact .inr ⟨answers, result, rfl, hresult, rfl, Function.update_self ..⟩
    · exact .inl ⟨Function.update_of_ne hk _ _, fun _ heq => hk (Action.thread.inj heq).1.symm⟩
  · have hother : ∀ k answers, a ≠ .thread k answers := fun k answers heq => hthread ⟨k, answers, heq⟩
    exact .inl ⟨congrFun (unsent_of_not_thread hstep hother).1 i, hother i⟩

theorem finSent_mono {i : Nat} {more : List Octets} (hwire : t.wire i = s.wire i ++ more) (h : s.FinSent i) :
    t.FinSent i := by
  obtain ⟨block, hblock, hfin⟩ := h
  exact ⟨block, hwire ▸ List.mem_append_left more hblock, hfin⟩

/-- A block that was refused was refused before the last data was sent. -/
def RetriesBeforeFin (s : FileSession) : Prop :=
  ∀ (i : Nat) (stream : FileStream), s.sender.streams[i]? = some stream → stream.thread.atRetry = true → ¬ s.FinSent i

theorem unsent_moved {i : Nat} {next : FileStream} (hother : ∀ answers, a ≠ .thread i answers)
    (hstep : (machine senderDisk density).step s a = some t) (hnext : t.sender.streams[i]? = some next) :
    ∃ stream, s.sender.streams[i]? = some stream ∧ ((next.thread = stream.thread ∧
      (next.stream = true → stream.stream = true)) ∨ next.thread = .outerHead) := by
  obtain ⟨stream, hstream, hmoved⟩ := stream_moved hstep hnext
  refine ⟨stream, hstream, ?_⟩
  cases hmoved with
  | event hevent =>
    cases streamEvent_move hevent with
    | closed => exact .inl ⟨rfl, fun hgone => absurd hgone Bool.false_ne_true⟩
    | established => exact .inr rfl
    | retried | givenUp | full | writable | measured | acked | ackedEarly | sendDataError | other =>
      exact .inl ⟨rfl, id⟩
  | @thread answers => exact absurd rfl (hother answers)
  | other => exact .inl ⟨rfl, id⟩

theorem retriesBeforeFin_step (hretries : RetriesBeforeFin s) (hs : NoneAfterFin s)
    (hstep : (machine senderDisk density).step s a = some t) : RetriesBeforeFin t := by
  intro i next hnext hretry
  obtain ⟨before, hbefore, _⟩ := stream_moved hstep hnext
  rcases wire_moved hbefore hstep hnext with ⟨hwire, hother⟩ | ⟨_, result, rfl, hthread, rfl, hwire⟩
  · obtain ⟨stream, hstream, ⟨hsame, _⟩ | hhead⟩ := unsent_moved hother hstep hnext
    · rw [FinSent, hwire]
      exact hretries i stream hstream (hsame ▸ hretry)
    · exact absurd hretry (by simp [hhead, ThreadPoint.atRetry])
  · obtain ⟨hsend, hopen⟩ := threadStep_atRetry hthread hretry
    rw [FinSent, hwire, threadStep_accepted hthread (.inr hretry), Option.toList_none, List.append_nil]
    exact hs i before hbefore hsend hopen

theorem noneAfterFin_of_rests (hretries : RetriesBeforeFin s) (hs : NoneAfterFin s) (hrests : RestsAfterFin s a)
    (hstep : (machine senderDisk density).step s a = some t) : NoneAfterFin t := by
  intro i next hnext hsend hopen
  obtain ⟨before, hbefore, _⟩ := stream_moved hstep hnext
  rcases wire_moved hbefore hstep hnext with ⟨hwire, hother⟩ | ⟨_, result, rfl, hthread, rfl, hwire⟩
  · obtain ⟨stream, hstream, ⟨hsame, hkept⟩ | hhead⟩ := unsent_moved hother hstep hnext
    · rw [FinSent, hwire]
      exact hs i stream hstream (hsame ▸ hsend) (hkept hopen)
    · exact absurd hsend (by simp [hhead, ThreadPoint.atSend])
  · rw [FinSent, hwire, threadStep_accepted hthread (.inl hsend), Option.toList_none, List.append_nil]
    rcases threadStep_atSend hthread hsend with ⟨locals, hbuilding⟩ | ⟨hretry, _⟩
    · intro hfin
      obtain ⟨_, _, hframe⟩ := (threadStep_stepped hthread).frame
      have hhad : before.stream = true := by simpa [hframe] using hopen
      exact (threadStep_build hbuilding hthread).mp hsend (hrests before hbefore locals hbuilding hhad hfin)
    · exact hretries i before hbefore hretry

theorem rests_of_noneAfterFin (hstep : (machine senderDisk density).step s a = some t) (ht : NoneAfterFin t) :
    RestsAfterFin s a := by
  cases a with
  | event | poll | stop | clearStreams | accept | receiverEvent | deliver | receiverPoll => trivial
  | thread i answers =>
    intro stream hstream locals hbuilding hopen hfin
    obtain ⟨found, result, hfound, hresult, ht'⟩ := thread_inv hstep
    obtain rfl := Option.some.inj (hfound.symm.trans hstream)
    by_contra hdata
    have hsend := (threadStep_build hbuilding hresult).mpr hdata
    have hnext : t.sender.streams[i]? = some result.stream := by
      rw [ht']
      exact List.getElem?_set_self (List.getElem?_eq_some_iff.mp hfound).1
    have hwire : t.wire i = s.wire i ++ result.accepted.toList := by
      rw [ht']
      exact Function.update_self ..
    obtain ⟨_, _, hframe⟩ := (threadStep_stepped hresult).frame
    have hkept : result.stream.stream = true := by simpa [hframe] using hopen
    exact ht i result.stream hnext hsend hkept (finSent_mono hwire hfin)

/-! ### Runs -/

theorem none_after_fin_iff {config serverConfig : TestConfig} {testId : UInt32} {available : Option Nat} {disk : Disk}
    {acts : List Action} (hstart : start senderDisk config serverConfig testId available disk = .ok s)
    (hrun : (machine senderDisk density).run s acts = some t) :
    (∀ first rest u, acts = first ++ rest → (machine senderDisk density).run s first = some u → NoneAfterFin u) ↔
      (machine senderDisk density).Respects RestsAfterFin s acts := by
  have hfresh (i : Nat) (stream : FileStream) (hstream : s.sender.streams[i]? = some stream) :
      ∃ id, stream = { id := id } := (fresh_start hstart ⟨stream, hstream⟩).streams i stream hstream
  have hretries : RetriesBeforeFin s := fun i stream hstream hretry => by
    obtain ⟨_, rfl⟩ := hfresh i stream hstream
    exact absurd hretry Bool.false_ne_true
  have hnone : NoneAfterFin s := fun i stream hstream hsend => by
    obtain ⟨_, rfl⟩ := hfresh i stream hstream
    exact absurd hsend Bool.false_ne_true
  have hstep (s : FileSession) (a : Action) (t : FileSession) (hretries : RetriesBeforeFin s) (hs : NoneAfterFin s)
      (hstep : (machine senderDisk density).step s a = some t) :
      RetriesBeforeFin t ∧ (NoneAfterFin t ↔ RestsAfterFin s a) :=
    ⟨retriesBeforeFin_step hretries hs hstep, rests_of_noneAfterFin hstep,
      fun hrests => noneAfterFin_of_rests hretries hs hrests hstep⟩
  exact (Machine.respects_iff_holds hstep hretries hnone hrun).symm

/-- A stream that sends one file rests after its last block. -/
theorem none_after_fin_iff_single :
    ∃ s t, oneFileStart = .ok s ∧ (machine oneFile .failing).run s (sendsFile ++ findsNoFile) = some t ∧ t.FinSent 0 ∧
      ∀ first rest u, sendsFile ++ findsNoFile = first ++ rest → (machine oneFile .failing).run s first = some u →
        NoneAfterFin u := by
  have hrun : oneFileStart.toOption.bind (fun s =>
      ((machine oneFile .failing).run s (sendsFile ++ findsNoFile)).map fun t => (decide (t.FinSent 0),
        decide ((machine oneFile .failing).Respects RestsAfterFin s (sendsFile ++ findsNoFile)))) = some (true, true) := by
    decide +kernel
  obtain ⟨s, hstart, hrun⟩ := Option.bind_eq_some_iff.mp hrun
  obtain ⟨t, ht, hrun⟩ := Option.map_eq_some_iff.mp hrun
  simp only [Prod.mk.injEq, decide_eq_true_eq] at hrun
  have hstart := Fault.toOption_eq_some.mp hstart
  exact ⟨s, t, hstart, ht, hrun.1, (none_after_fin_iff hstart ht).mpr hrun.2⟩

def twoFiles : Disk := fun path => if path = ofText "a" ∨ path = ofText "b" then some [1] else none

def twoFilesStart : Except Fault FileSession :=
  start twoFiles { protocol := 1, numStreams := 1, files := [ofText "a", ofText "b"] } {} 7 none fun _ => none

/-- The stream is established and its thread takes some steps. -/
def takesSteps (count : Nat) : List Action := .event 0 (.established 4096) :: List.replicate count (.thread 0 {})

/-- The last data of the connection is accepted with the first file, and after it the second file. -/
theorem sent_after_fin_counterexample :
    ∃ s t u, twoFilesStart = .ok s ∧ (machine twoFiles .failing).run s (takesSteps 18) = some t ∧ t.FinSent 0 ∧
      ¬ NoneAfterFin t ∧ (machine twoFiles .failing).step t (.thread 0 {}) = some u ∧
      (t.wire 0).length = 1 ∧ (u.wire 0).length = 2 := by
  have hrun : twoFilesStart.toOption.bind (fun s => ((machine twoFiles .failing).run s (takesSteps 18)).bind fun t =>
      ((machine twoFiles .failing).step t (.thread 0 {})).bind fun u => t.sender.streams[0]?.map fun stream =>
        (decide (t.FinSent 0), stream.thread.atSend, stream.stream, (t.wire 0).length, (u.wire 0).length))
      = some (true, true, true, 1, 2) := by decide +kernel
  obtain ⟨s, hstart, hrun⟩ := Option.bind_eq_some_iff.mp hrun
  obtain ⟨t, ht, hrun⟩ := Option.bind_eq_some_iff.mp hrun
  obtain ⟨u, hu, hrun⟩ := Option.bind_eq_some_iff.mp hrun
  obtain ⟨stream, hstream, hrun⟩ := Option.map_eq_some_iff.mp hrun
  simp only [Prod.mk.injEq, decide_eq_true_eq] at hrun
  obtain ⟨hfin, hsend, hopen, hbefore, hafter⟩ := hrun
  exact ⟨s, t, u, Fault.toOption_eq_some.mp hstart, ht, hfin, fun h => h 0 stream hstream hsend hopen hfin, hu, hbefore,
    hafter⟩

end FileSession

end BatsIperf
