import BatsIperf.Stream.Pointers
import BatsIperf.Stream.SendCount

/-!
# Calls through a null pointer

`perform_null_iff` says which steps of a stream call through a null pointer: an event that restarts the connection without a connector, a FIN or a send of the thread without a connection, and a FIN whose retry loop calls a connection that another thread has cleared meanwhile. With what a run has done to the two pointers, it is known for every step of every run.
-/

namespace BatsIperf

open Octets

namespace IperfStream

/-! ### The passes of the retry loop -/

/-- Whether a pass calls `SendData`. -/
def RetryView.calls (view : RetryView) : Bool :=
  decide (view.state ≠ .streamDone) && !view.hasErrInSend && view.isWritable

def RetryView.goesOn (view : RetryView) : Bool :=
  decide (view.state ≠ .streamDone) && !view.hasErrInSend && !(view.isWritable && view.sendOk)

/-- Some pass that is reached calls `SendData` when the connection has been cleared. -/
def RetriesCleared (views : List RetryView) : Prop :=
  ∃ before view after, views = before ++ view :: after ∧ (∀ v ∈ before, v.goesOn = true) ∧ view.calls = true ∧
    view.dataConn = false

theorem retriesCleared_cons {view : RetryView} {views : List RetryView} : RetriesCleared (view :: views) ↔
    (view.calls = true ∧ view.dataConn = false) ∨ (view.goesOn = true ∧ RetriesCleared views) := by
  constructor
  · rintro ⟨_ | ⟨first, before⟩, cleared, after, hsplit, hbefore, hcalls⟩
    · obtain ⟨rfl, _⟩ := List.cons.inj hsplit
      exact .inl hcalls
    · obtain ⟨rfl, hrest⟩ := List.cons.inj hsplit
      obtain ⟨hfirst, hbefore⟩ := List.forall_mem_cons.mp hbefore
      exact .inr ⟨hfirst, before, cleared, after, hrest, hbefore, hcalls⟩
  · rintro (hcalls | ⟨hfirst, before, cleared, after, rfl, hbefore, hcalls⟩)
    · exact ⟨[], view, views, rfl, fun v hv => absurd hv List.not_mem_nil, hcalls⟩
    · exact ⟨view :: before, cleared, after, rfl, List.forall_mem_cons.mpr ⟨hfirst, hbefore⟩, hcalls⟩

theorem retrySend_null_iff (views : List RetryView) :
    retrySend views = .error .nullPointer ↔ RetriesCleared views := by
  induction views with
  | nil =>
    refine iff_of_false (fun h => Fault.noConfusion (Except.error.inj h)) ?_
    rintro ⟨before, view, after, hsplit, _⟩
    simp at hsplit
  | cons view views ih =>
    rw [retriesCleared_cons, retrySend, RetryView.calls, RetryView.goesOn]
    split
    · rename_i hdone
      simp [hdone]
    split
    · rename_i herror
      simp [herror]
    rename_i hrunning hnoError
    have hstays : decide (view.state ≠ .streamDone) = true := decide_eq_true hrunning
    rw [hstays, Bool.eq_false_iff.mpr hnoError]
    split
    · rename_i hwritable
      rw [hwritable]
      cases hconn : view.dataConn with
      | false => exact iff_of_true rfl (.inl ⟨rfl, rfl⟩)
      | true =>
        rw [Fault.require_of_true rfl, Fault.ok_bind]
        cases view.sendOk with
        | true => simp
        | false => simpa using ih
    · rename_i hfull
      rw [Bool.eq_false_iff.mpr hfull]
      simpa using ih

end IperfStream

namespace LiveStream

variable {Recorder : Type} {tools : SeqTools Recorder}

/-! ### The calls -/

/-- Whether an event makes the stream call its connector. -/
def callsConnector (s : LiveStream Recorder) : Action → Bool
  | .event .failed | .event .timeout => decide (s.connectRetryCnt < IperfStream.maxConnectRetry)
  | _ => false

/-- Whether received data is valid and a FIN, to which the stream sends a FIN-ACK. -/
def handlesFin (s : LiveStream Recorder) (data : Octets) : Bool :=
  match wordAt data 16, flagsAt data with
  | .ok seq, .ok flags =>
    (s.checkData data).isOk && (s.learnIdentifier data seq).isOk && flags.last && !flags.ack
  | _, _ => false

/-- Whether the next step of a running thread is a send. -/
def sendsNext (s : LiveStream Recorder) : Bool :=
  match s.point with
  | .send _ | .finSend => true
  | .retry _ => decide (s.state = .streamStart) && !s.hasErrInSend && s.isWritable
  | .finRetry => decide (s.state ≠ .streamDone) && !s.hasErrInSend && s.isWritable
  | .check | .errorCheck | .waitWritable | .build | .countBytes _ | .countDatagrams | .fin | .finCountBytes
  | .finCountDatagrams => false

/-- Whether an action makes the stream call its connection. -/
def callsConn (s : LiveStream Recorder) : Action → Bool
  | .received reception => s.handlesFin reception.data
  | .thread _ => s.sendingThread == .sending && s.sendsNext
  | _ => false

/-- Whether the FIN-ACK to this data is repeated through a connection that has been cleared. -/
def RepeatsCleared (s : LiveStream Recorder) : Action → Prop
  | .received reception =>
    s.handlesFin reception.data = true ∧ reception.fin.sendOk = false ∧ IperfStream.RetriesCleared reception.fin.views
  | _ => False

/-! ### Stages without such a call -/

theorem wordAt_avoids (data : Octets) (offset : Nat) : Fault.Avoids .nullPointer (wordAt data offset) := by
  unfold wordAt
  cases nextWord (data.drop offset) with
  | none => exact fun h => Fault.noConfusion (Except.error.inj h)
  | some word => exact Fault.avoids_ok word.1

theorem octetAt_avoids (data : Octets) (offset : Nat) : Fault.Avoids .nullPointer (octetAt data offset) :=
  Fault.avoids_need (by decide) _

theorem flagsAt_avoids (data : Octets) : Fault.Avoids .nullPointer (flagsAt data) :=
  (octetAt_avoids data 32).bind fun _ => Fault.avoids_pure _

theorem validateReceivedData_avoids (data : Octets) : Fault.Avoids .nullPointer (validateReceivedData data) := by
  unfold validateReceivedData
  refine (wordAt_avoids data 0).bind fun magic => ?_
  split
  · exact Fault.avoids_pure false
  split
  · exact Fault.avoids_pure true
  refine (octetAt_avoids data _).bind fun first => ?_
  split
  · exact Fault.avoids_pure false
  refine (octetAt_avoids data _).bind fun last => ?_
  split
  · exact Fault.avoids_pure false
  split
  · refine (octetAt_avoids data _).bind fun mid => ?_
    split
    · exact Fault.avoids_pure false
    · exact Fault.avoids_pure true
  · exact Fault.avoids_pure true

theorem deserializeInterval_avoids (cursor : Octets) : Fault.Avoids .nullPointer (deserializeInterval cursor) := by
  unfold deserializeInterval
  refine (Fault.avoids_need (by decide) _).bind fun _ => ?_
  refine (Fault.avoids_need (by decide) _).bind fun _ => ?_
  refine (Fault.avoids_need (by decide) _).bind fun _ => ?_
  exact (Fault.avoids_need (by decide) _).bind fun _ => Fault.avoids_pure _

theorem checkData_avoids (s : LiveStream Recorder) (data : Octets) : Fault.Avoids .nullPointer (s.checkData data) := by
  unfold checkData
  split
  · exact Fault.avoids_ok ()
  · apply (validateReceivedData_avoids data).bind
    intro isValid
    split
    · exact Fault.avoids_pure ()
    · apply (Fault.avoids_require (by decide) _).bind
      exact fun _ h => Fault.noConfusion (Except.error.inj h)

theorem learnIdentifier_avoids (s : LiveStream Recorder) (data : Octets) (seq : UInt64) :
    Fault.Avoids .nullPointer (s.learnIdentifier data seq) := by
  unfold learnIdentifier
  split
  · refine (wordAt_avoids data 8).bind fun _ => ?_
    exact (Fault.avoids_require (by decide) _).bind fun _ => Fault.avoids_pure _
  · exact Fault.avoids_ok s

theorem onInterval_avoids (s : LiveStream Recorder) (flags : TestFlags) (seq : UInt64) (data : Octets) (now : UInt64) :
    Fault.Avoids .nullPointer (s.onInterval tools flags seq data now) := by
  unfold onInterval
  dsimp only
  split
  · unfold onReceivedIntervalData
    split
    · refine (deserializeInterval_avoids data).bind fun _ => ?_
      refine (Fault.avoids_require (by decide) _).bind fun _ => ?_
      refine Fault.Avoids.bind ?_ fun _ => Fault.avoids_pure _
      exact (Fault.avoids_require (by decide) _).bind fun _ => Fault.avoids_pure _
    · exact Fault.avoids_ok _
  · exact Fault.avoids_ok _

theorem switchDataBlockLength_avoids (stream : IperfStream) (length : Int) :
    Fault.Avoids .nullPointer (stream.switchDataBlockLength length) := by
  refine (Fault.avoids_require (by decide) _).bind fun _ => ?_
  exact (Fault.avoids_require (by decide) _).bind fun _ => Fault.avoids_pure _

/-! ### The steps that call -/

theorem onEvent_null_iff (s : LiveStream Recorder) (event : ConnEvent) :
    s.onEvent event = .error .nullPointer
      ↔ s.callsConnector (.event event) = true ∧ s.connector.isSome = false := by
  have hcallback : s.onEvent event = .error .nullPointer
      ↔ s.toIperfStream.connectionCallback event = .error .nullPointer :=
    Fault.bind_eq_error_iff_of_next fun _ => Fault.avoids_pure _
  rw [hcallback]
  cases event with
  | established length =>
    refine iff_of_false ?_ fun h => Bool.false_ne_true h.1
    simp only [IperfStream.connectionCallback]
    split
    · exact switchDataBlockLength_avoids _ length
    · exact Fault.avoids_ok _
  | idealBufferLength length =>
    exact iff_of_false (switchDataBlockLength_avoids _ length) fun h => Bool.false_ne_true h.1
  | failed | timeout =>
    simp only [IperfStream.connectionCallback, callsConnector, decide_eq_true_eq]
    split
    · rename_i hretry
      rw [Fault.bind_eq_error_iff_of_next, Fault.require_eq_error, Bool.not_eq_true]
      · exact (and_iff_right hretry).symm
      · intro _
        refine Fault.Avoids.bind ?_ fun _ => Fault.avoids_pure _
        exact (Fault.avoids_require (by decide) _).bind fun _ => Fault.avoids_pure _
    · rename_i hretry
      exact iff_of_false (Fault.avoids_pure _) fun h => hretry h.1
  | closed | shutdownByPeer | none | writable | sendComplete | sendDataError | bufferFull | error | alreadyConnected
  | allDataAcked => exact iff_of_false (Fault.avoids_ok _) fun h => Bool.false_ne_true h.1

theorem sendFinAck_null_iff (sendOk : Bool) (views : List IperfStream.RetryView) :
    IperfStream.sendFinAck sendOk views = .error .nullPointer ↔ sendOk = false ∧ IperfStream.RetriesCleared views := by
  cases sendOk with
  | true => exact iff_of_false (Fault.avoids_ok true) fun h => Bool.false_ne_true h.1.symm
  | false => exact (IperfStream.retrySend_null_iff views).trans (and_iff_right rfl).symm

/-- What keeps a FIN from calling the connection it needs. -/
def FinCleared (s : LiveStream Recorder) (answer : FinAnswer) : Prop :=
  s.dataConn = false ∨ answer.sendOk = false ∧ IperfStream.RetriesCleared answer.views

theorem onReceivedFIN_null_iff (s : LiveStream Recorder) (answer : FinAnswer) :
    s.onReceivedFIN answer = .error .nullPointer ↔ s.FinCleared answer := by
  unfold onReceivedFIN IperfStream.onReceivedFIN FinCleared
  rw [Fault.bind_eq_error_iff_of_next fun _ => Fault.avoids_pure _]
  cases s.dataConn with
  | false => exact iff_of_true rfl (.inl rfl)
  | true =>
    rw [Fault.require_of_true rfl, Fault.ok_bind, Fault.bind_eq_error_iff_of_next fun _ => Fault.avoids_pure _,
      sendFinAck_null_iff, or_iff_right (Bool.false_ne_true ∘ Eq.symm)]

theorem onFlags_null_iff (s : LiveStream Recorder) (flags : TestFlags) (answer : FinAnswer) :
    s.onFlags flags answer = .error .nullPointer
      ↔ (flags.last = true ∧ flags.ack = false) ∧ s.FinCleared answer := by
  unfold onFlags
  split
  · rename_i hlast
    split
    · rename_i hack
      refine iff_of_false (Fault.avoids_ok _) fun h => ?_
      rw [hack] at h
      exact Bool.false_ne_true h.1.2.symm
    · rename_i hack
      rw [onReceivedFIN_null_iff]
      exact (and_iff_right ⟨hlast, Bool.eq_false_iff.mpr hack⟩).symm
  · rename_i hlast
    exact iff_of_false (Fault.avoids_ok s) fun h => hlast h.1.1

theorem learnIdentifier_isOk_congr {s t : LiveStream Recorder} (hidentifier : t.streamIdentifier = s.streamIdentifier)
    (hconfig : t.config = s.config) (data : Octets) (seq : UInt64) :
    (t.learnIdentifier data seq).isOk = (s.learnIdentifier data seq).isOk := by
  unfold learnIdentifier
  rw [hidentifier, hconfig]
  split
  · cases wordAt data 8 with
    | error fault => rfl
    | ok identifier =>
      rw [Fault.ok_bind, Fault.ok_bind]
      unfold Fault.require
      split <;> rfl
  · rfl

/-- So it is behind the counting of data, which changes neither the checks nor the connection. -/
theorem learnIdentifier_counted (s : LiveStream Recorder) (data : Octets) (now : UInt64) (recorder : Recorder)
    (seq : UInt64) : (({ s.countReceived data.length now with recvSeqRecorder := recorder } : LiveStream Recorder).learnIdentifier
      data seq).isOk = (s.learnIdentifier data seq).isOk := by
  apply learnIdentifier_isOk_congr
  · rfl
  · rfl

theorem handlesFin_iff {s : LiveStream Recorder} {data : Octets} :
    s.handlesFin data = true ↔ ∃ seq flags, wordAt data 16 = .ok seq ∧ flagsAt data = .ok flags ∧
      s.checkData data = .ok () ∧ (s.learnIdentifier data seq).isOk = true ∧ flags.last = true ∧ flags.ack = false := by
  unfold handlesFin
  cases wordAt data 16 with
  | error fault => exact iff_of_false Bool.false_ne_true fun ⟨_, _, h, _⟩ => by cases h
  | ok seq =>
    cases flagsAt data with
    | error fault => exact iff_of_false Bool.false_ne_true fun ⟨_, _, _, h, _⟩ => by cases h
    | ok flags =>
      simp only [Bool.and_eq_true, Bool.not_eq_true', and_assoc, Fault.isOk_iff]
      constructor
      · rintro ⟨⟨_, hcheck⟩, hlearn, hfin⟩
        exact ⟨seq, flags, rfl, rfl, hcheck, hlearn, hfin⟩
      · rintro ⟨_, _, hseq, hflags, hcheck, hlearn, hfin⟩
        obtain rfl := Except.ok.inj hseq
        obtain rfl := Except.ok.inj hflags
        exact ⟨⟨(), hcheck⟩, hlearn, hfin⟩

theorem updateReceived_null_iff (s : LiveStream Recorder) (reception : Reception) :
    s.updateReceived tools reception = .error .nullPointer
      ↔ s.handlesFin reception.data = true ∧ s.FinCleared reception.fin := by
  unfold updateReceived
  split
  · rename_i hempty
    refine iff_of_false (Fault.avoids_ok s) fun h => ?_
    rw [hempty] at h
    exact Bool.false_ne_true h.1
  have hlearned (seq : UInt64) := s.learnIdentifier_counted reception.data reception.countedAt
    (tools.record s.recvSeqRecorder seq) seq
  have hafter : ∀ (flags : TestFlags) (seq : UInt64) (t : LiveStream Recorder), Fault.Avoids .nullPointer (do
      let t ← t.onInterval tools flags seq (reception.data.drop IperfTestHeader.size) reception.snapshotAt
      let time ← wordAt reception.data 24
      return t.updateJitter reception.arrival time) := by
    intro flags seq t
    refine (onInterval_avoids t flags seq _ _).bind fun _ => ?_
    exact (wordAt_avoids _ 24).bind fun _ => Fault.avoids_pure _
  dsimp only
  rw [(wordAt_avoids _ 16).bind_eq_error_iff, handlesFin_iff]
  constructor
  · rintro ⟨seq, hseq, h⟩
    obtain ⟨_, hcheck, h⟩ := (checkData_avoids _ _).bind_eq_error_iff.mp h
    obtain ⟨identified, hidentified, h⟩ := (learnIdentifier_avoids _ _ seq).bind_eq_error_iff.mp h
    obtain ⟨flags, hflags, h⟩ := (flagsAt_avoids _).bind_eq_error_iff.mp h
    obtain ⟨hfin, hcleared⟩ := (onFlags_null_iff _ _ _).mp ((Fault.bind_eq_error_iff_of_next (hafter flags seq)).mp h)
    obtain ⟨identifier, rfl⟩ := learnIdentifier_eq hidentified
    have hok := (hlearned seq).symm.trans (Fault.isOk_iff.mpr ⟨_, hidentified⟩)
    exact ⟨⟨seq, flags, hseq, hflags, hcheck, hok, hfin⟩, hcleared⟩
  · rintro ⟨⟨seq, flags, hseq, hflags, hcheck, hok, hfin⟩, hcleared⟩
    obtain ⟨identified, hidentified⟩ := Fault.isOk_iff.mp ((hlearned seq).trans hok)
    refine ⟨seq, hseq, ?_⟩
    refine (checkData_avoids _ _).bind_eq_error_iff.mpr ⟨(), hcheck, ?_⟩
    refine (learnIdentifier_avoids _ _ seq).bind_eq_error_iff.mpr ⟨identified, hidentified, ?_⟩
    refine (flagsAt_avoids _).bind_eq_error_iff.mpr ⟨flags, hflags, ?_⟩
    obtain ⟨identifier, rfl⟩ := learnIdentifier_eq hidentified
    exact (Fault.bind_eq_error_iff_of_next (hafter flags seq)).mpr ((onFlags_null_iff _ _ _).mpr ⟨hfin, hcleared⟩)

theorem sendData_null_iff (s : LiveStream Recorder) (length : Int) (sendOk : Bool) (sent unsent : SendPoint) :
    s.sendData length sendOk sent unsent = .error .nullPointer ↔ s.dataConn = false := by
  unfold sendData
  rw [Fault.bind_eq_error_iff_of_next fun _ => Fault.avoids_pure _, Fault.require_eq_error, Bool.not_eq_true]

theorem loopStep_null_iff (s : LiveStream Recorder) (input : ThreadInput) :
    s.loopStep input = .error .nullPointer ↔ s.sendsNext = true ∧ s.dataConn = false := by
  unfold loopStep sendsNext
  cases s.point with
  | check | errorCheck | waitWritable | build | countBytes | countDatagrams | fin | finCountBytes | finCountDatagrams =>
    exact iff_of_false (Fault.avoids_ok _) fun h => Bool.false_ne_true h.1
  | send | finSend =>
    dsimp only
    rw [sendData_null_iff]
    exact (and_iff_right rfl).symm
  | retry length =>
    dsimp only
    simp only [Bool.and_eq_true, decide_eq_true_eq, Bool.not_eq_true']
    by_cases hleft : s.state ≠ .streamStart ∨ s.hasErrInSend = true
    · rw [if_pos hleft]
      refine iff_of_false (Fault.avoids_ok _) fun h => ?_
      rcases hleft with hstate | herror
      · exact hstate h.1.1.1
      · exact Bool.false_ne_true (h.1.1.2.symm.trans herror)
    · rw [if_neg hleft]
      obtain ⟨hstate, herror⟩ := not_or.mp hleft
      have hstay : s.state = .streamStart ∧ s.hasErrInSend = false :=
        ⟨not_not.mp hstate, Bool.eq_false_iff.mpr herror⟩
      split
      · rename_i hwritable
        rw [sendData_null_iff]
        exact (and_iff_right ⟨hstay, hwritable⟩).symm
      · rename_i hwritable
        exact iff_of_false (Fault.avoids_ok _) fun h => hwritable h.1.2
  | finRetry =>
    dsimp only
    simp only [Bool.and_eq_true, decide_eq_true_eq, Bool.not_eq_true']
    by_cases hleft : s.state = .streamDone ∨ s.hasErrInSend = true
    · rw [if_pos hleft]
      refine iff_of_false (Fault.avoids_ok _) fun h => ?_
      rcases hleft with hstate | herror
      · exact h.1.1.1 hstate
      · exact Bool.false_ne_true (h.1.1.2.symm.trans herror)
    · rw [if_neg hleft]
      obtain ⟨hstate, herror⟩ := not_or.mp hleft
      have hstay : s.state ≠ .streamDone ∧ s.hasErrInSend = false := ⟨hstate, Bool.eq_false_iff.mpr herror⟩
      split
      · rename_i hwritable
        rw [sendData_null_iff]
        exact (and_iff_right ⟨hstay, hwritable⟩).symm
      · rename_i hwritable
        exact iff_of_false (Fault.avoids_ok _) fun h => hwritable h.1.2

theorem threadStep_null_iff (s : LiveStream Recorder) (input : ThreadInput) :
    s.threadStep input = .error .nullPointer ↔ s.callsConn (.thread input) = true ∧ s.dataConn = false := by
  unfold threadStep callsConn
  cases s.sendingThread with
  | notStarted | ended =>
    exact iff_of_false (fun h => Fault.noConfusion (Except.error.inj h)) fun h => Bool.false_ne_true h.1
  | starting => exact iff_of_false (Fault.avoids_ok _) fun h => Bool.false_ne_true h.1
  | sending => exact loopStep_null_iff s input

/-- A step calls through a null pointer where it calls the connector or the connection without having it, or repeats a FIN-ACK through a connection that was cleared meanwhile. -/
theorem perform_null_iff (s : LiveStream Recorder) (a : Action) :
    s.perform tools a = .error .nullPointer ↔
      (s.callsConnector a = true ∧ s.connector.isSome = false) ∨ (s.callsConn a = true ∧ s.dataConn = false) ∨
        s.RepeatsCleared a := by
  cases a with
  | event event =>
    refine (onEvent_null_iff s event).trans (or_iff_left ?_).symm
    exact fun h => h.elim (fun h => Bool.false_ne_true h.1) id
  | received reception =>
    refine ((updateReceived_null_iff s reception).trans and_or_left).trans (or_iff_right ?_).symm
    exact fun h => Bool.false_ne_true h.1
  | thread input =>
    refine ((threadStep_null_iff s input).trans (or_iff_left id).symm).trans (or_iff_right ?_).symm
    exact fun h => Bool.false_ne_true h.1
  | startSend now =>
    refine iff_of_false (Fault.Avoids.bind ?_ fun _ => Fault.avoids_pure _) ?_
    · exact (Fault.avoids_require (by decide) _).bind fun _ => Fault.avoids_pure _
    · simp [callsConnector, callsConn, RepeatsCleared]
  | summary cursor now =>
    refine iff_of_false ((Fault.avoids_need (by decide) _).bind fun _ => Fault.avoids_pure _) ?_
    simp [callsConnector, callsConn, RepeatsCleared]
  | snapshotReport | poll | finishReport | stop =>
    refine iff_of_false (Fault.avoids_ok _) ?_
    simp [callsConnector, callsConn, RepeatsCleared]

/-! ### Every run -/

/-- A stream calls its connector only where it was built with one and is not stopped, and its connection only where it was handed one and was not stopped since, not even while it repeats a FIN-ACK. -/
def CallsHeld (tools : SeqTools Recorder) (s₀ : LiveStream Recorder) (first : List Action) (s : LiveStream Recorder)
    (a : Action) : Prop :=
  (s.callsConnector a = true → s₀.connector.isSome = true ∧ s.isStopped = false) ∧
    (s.callsConn a = true → HoldsConn tools s₀ first s) ∧ ¬ s.RepeatsCleared a

theorem isStopped_new {s : LiveStream Recorder} {recorder : Recorder} (hnew : IsNew recorder s) :
    s.isStopped = false := by
  cases hnew with
  | connecting => rfl
  | accepted haccepted =>
    rw [IperfStream.switchDataBlockLength_eq haccepted]
    rfl

/-- A stream that is established, starts its thread and sends its first packet. -/
def untilSent : List Action := untilBuilt ++ [acceptedStep]

end LiveStream

end BatsIperf
