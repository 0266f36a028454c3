import BatsIperf.Stream.Handling
import BatsIperf.Stream.ReceiverReport

/-!
# The connector and the connection of a stream

A connecting stream has a connector from its constructor on, and an accepted one has a connection. An event may hand a connection to a sender, and `Stop` takes both away. The callbacks and the sending thread call through the two without a check, so a call goes through a null pointer exactly where the stream was never given the object, or was stopped since.
-/

namespace BatsIperf

namespace LiveStream

variable {Recorder : Type} {tools : SeqTools Recorder}

/-! ### What a step does to them -/

/-- Two states of a stream with the same connector and connection. -/
structure SamePointers (s t : LiveStream Recorder) : Prop where
  config : t.config = s.config
  isStopped : t.isStopped = s.isStopped
  connector : t.connector = s.connector
  dataConn : t.dataConn = s.dataConn

theorem SamePointers.refl (s : LiveStream Recorder) : SamePointers s s := by constructor <;> rfl

theorem SamePointers.trans {s t u : LiveStream Recorder} (hst : SamePointers s t) (htu : SamePointers t u) :
    SamePointers s u where
  config := htu.config.trans hst.config
  isStopped := htu.isStopped.trans hst.isStopped
  connector := htu.connector.trans hst.connector
  dataConn := htu.dataConn.trans hst.dataConn

theorem SameSending.samePointers {s t : LiveStream Recorder} (h : SameSending s t) : SamePointers s t :=
  ⟨h.config, h.isStopped, h.connector, h.dataConn⟩

theorem samePointers_of_stream {s t : LiveStream Recorder}
    (h : IperfStream.SameConnection s.toIperfStream t.toIperfStream) : SamePointers s t :=
  ⟨h.config, h.isStopped, h.connector, h.dataConn⟩

/-- Whether an action hands a connection to the stream. -/
def gainsConn (s : LiveStream Recorder) : Action → Bool
  | .event (.established _) => decide (s.config.role = .roleSender)
  | _ => false

/-- A step keeps connector and connection, gains a connection, or stops the stream for the first time. -/
inductive PointerStep (s : LiveStream Recorder) (a : Action) (t : LiveStream Recorder) : Prop
  | keep (hsame : SamePointers s t) (hgains : s.gainsConn a = false)
  | gain (hgains : s.gainsConn a = true) (hconfig : t.config = s.config) (hstopped : t.isStopped = s.isStopped)
      (hconnector : t.connector = s.connector) (hconn : t.dataConn = true)
  | clear (hrunning : s.isStopped = false) (hconfig : t.config = s.config) (hstopped : t.isStopped = true)
      (hconnector : t.connector = none) (hconn : t.dataConn = false)

theorem event_pointers {s t : LiveStream Recorder} {event : ConnEvent} (h : s.onEvent event = .ok t) :
    PointerStep s (.event event) t := by
  obtain ⟨stream, hstream, h⟩ := Fault.bind_eq_ok.mp h
  obtain rfl := Fault.pure_eq_ok.mp h
  cases IperfStream.connectionCallback_move hstream with
  | connected hrole => exact .gain (decide_eq_true hrole) rfl rfl rfl rfl
  | ignored hrole => exact .keep (.refl s) (decide_eq_false hrole)
  | measured | sendDataError => exact .keep ⟨rfl, rfl, rfl, rfl⟩ rfl
  | retried hevent | givenUp hevent | closed hevent | writable hevent =>
    rcases hevent with rfl | rfl <;> exact .keep ⟨rfl, rfl, rfl, rfl⟩ rfl
  | other hevent =>
    simp only [List.mem_cons, List.not_mem_nil, or_false] at hevent
    rcases hevent with rfl | rfl | rfl | rfl | rfl <;> exact .keep (.refl s) rfl

theorem updateReceived_pointers {s t : LiveStream Recorder} {reception : Reception}
    (h : s.updateReceived tools reception = .ok t) : SamePointers s t := by
  rcases updateReceived_stages h with ⟨-, rfl⟩ | ⟨seq, time, flags, identified, flagged, detected, _, _, hidentified,
    hflagged, hdetected, rfl⟩
  · exact .refl t
  · obtain ⟨identifier, rfl⟩ := learnIdentifier_eq hidentified
    have hidentified : SamePointers s ({ s.countReceived reception.data.length reception.countedAt with
        recvSeqRecorder := tools.record s.recvSeqRecorder seq
        streamIdentifier := identifier } : LiveStream Recorder) := ⟨rfl, rfl, rfl, rfl⟩
    have hflagged := onFlags_cases hflagged
    have hrest := ((onInterval_same hdetected).trans (updateJitter_same detected reception.arrival time)).samePointers
    refine (hidentified.trans ?_).trans hrest
    rcases hflagged with hsame | ⟨_, _, isSent, hfin⟩
    · exact hsame.samePointers
    · exact ⟨hfin.config, hfin.isStopped, hfin.connector, hfin.dataConn⟩

theorem stop_pointers (s : LiveStream Recorder) (now : UInt64) :
    SamePointers s (s.stop now) ∨
      (s.isStopped = false ∧ (s.stop now).config = s.config ∧ (s.stop now).isStopped = true ∧
        (s.stop now).connector = none ∧ (s.stop now).dataConn = false) := by
  by_cases hstopped : s.isStopped = true
  · have hsame : s.toIperfStream.stop now = s.toIperfStream := if_pos hstopped
    refine .inl ?_
    show SamePointers s ({ s with toIperfStream := s.toIperfStream.stop now }.logSnapshots _)
    rw [hsame]
    exact ⟨rfl, rfl, rfl, rfl⟩
  · refine .inr ⟨Bool.eq_false_iff.mpr hstopped, ?_⟩
    have hfinish := IperfStream.finishReport_same { s.toIperfStream with isStopped := true } now
    show (s.toIperfStream.stop now).config = s.config ∧ (s.toIperfStream.stop now).isStopped = true ∧
      (s.toIperfStream.stop now).connector = none ∧ (s.toIperfStream.stop now).dataConn = false
    unfold IperfStream.stop
    rw [if_neg hstopped]
    dsimp only
    split
    · exact ⟨hfinish.config, hfinish.isStopped, rfl, rfl⟩
    · exact ⟨rfl, rfl, rfl, rfl⟩

theorem sendData_pointers {s t : LiveStream Recorder} {length : Int} {sendOk : Bool} {sent unsent : SendPoint}
    (h : s.sendData length sendOk sent unsent = .ok t) : SamePointers s t := by
  obtain ⟨_, rfl⟩ := sendData_eq h
  cases sendOk <;> exact ⟨rfl, rfl, rfl, rfl⟩

theorem loopStep_pointers {s t : LiveStream Recorder} {input : ThreadInput} (h : s.loopStep input = .ok t) :
    SamePointers s t := by
  cases loopStep_move h with
  | waits => exact .refl s
  | builds =>
    have hstream := s.buildHeader_stream input.time
    refine samePointers_of_stream ?_
    show IperfStream.SameConnection s.toIperfStream (s.buildHeader input.time).toIperfStream
    rw [hstream]
    exact .refl _
  | sendsBlock _ hsend | sendsFin _ hsend => exact sendData_pointers hsend
  | goesOn | leaves | fails | givesUp | countsBytes | countsDatagram | buildsFin | countsFinBytes | countsFinDatagram
    | ends => exact ⟨rfl, rfl, rfl, rfl⟩

theorem threadStep_pointers {s t : LiveStream Recorder} {input : ThreadInput} (h : s.threadStep input = .ok t) :
    PointerStep s (.thread input) t := by
  unfold threadStep at h
  cases hthread : s.sendingThread with
  | notStarted | ended =>
    rw [hthread] at h
    cases h
  | starting =>
    rw [hthread] at h
    obtain rfl := Except.ok.inj h
    split
    · exact .keep ⟨rfl, rfl, rfl, rfl⟩ rfl
    · rcases stop_pointers s input.now with hsame | ⟨hrunning, hconfig, hstopped, hconnector, hconn⟩
      · exact .keep (hsame.trans ⟨rfl, rfl, rfl, rfl⟩) rfl
      · exact .clear hrunning hconfig hstopped hconnector hconn
  | sending =>
    rw [hthread] at h
    exact .keep (loopStep_pointers h) rfl

theorem step_pointers {s t : LiveStream Recorder} {a : Action} (h : (machine tools).step s a = some t) :
    PointerStep s a t := by
  have hperform := step_eq_some.mp h
  cases a with
  | event event => exact event_pointers hperform
  | received reception => exact .keep (updateReceived_pointers hperform) rfl
  | startSend now =>
    obtain ⟨stream, hstream, hperform⟩ := Fault.bind_eq_ok.mp hperform
    obtain ⟨_, _, hstream⟩ := Fault.bind_eq_ok.mp hstream
    obtain rfl := Fault.pure_eq_ok.mp hstream
    obtain rfl := Fault.pure_eq_ok.mp hperform
    exact .keep ⟨rfl, rfl, rfl, rfl⟩ rfl
  | thread input => exact threadStep_pointers hperform
  | snapshotReport now =>
    obtain rfl := Except.ok.inj hperform
    have hsame := s.toIperfStream.snapshotReport_same now
    refine .keep ?_ rfl
    unfold snapshotReport
    dsimp only
    split <;> exact samePointers_of_stream hsame
  | poll now =>
    obtain rfl := Except.ok.inj hperform
    exact .keep (samePointers_of_stream (s.toIperfStream.isIntervalDataReceivedTimeout_same now)) rfl
  | summary cursor now =>
    obtain ⟨⟨stream, rest⟩, hentry, hperform⟩ := Fault.bind_eq_ok.mp hperform
    obtain ⟨bytes, datagrams, bitrate, rfl⟩ := IperfStream.deserializeReport_eq (Fault.need_eq_ok.mp hentry)
    obtain rfl := Fault.pure_eq_ok.mp hperform
    refine .keep ?_ rfl
    split
    · exact ⟨rfl, rfl, rfl, rfl⟩
    · have hfinish := IperfStream.finishReport_same
        { s.toIperfStream with report := s.report.setSender bytes datagrams bitrate, isSumReceived := true } now
      exact ⟨hfinish.config, hfinish.isStopped, hfinish.connector, hfinish.dataConn⟩
  | finishReport now =>
    obtain rfl := Except.ok.inj hperform
    exact .keep (samePointers_of_stream (s.toIperfStream.finishReport_same now)) rfl
  | stop now =>
    obtain rfl := Except.ok.inj hperform
    rcases stop_pointers s now with hsame | ⟨hrunning, hconfig, hstopped, hconnector, hconn⟩
    · exact .keep hsame rfl
    · exact .clear hrunning hconfig hstopped hconnector hconn

/-! ### What a run has done to them -/

variable (tools) in
/-- The listener or an event has handed a connection to the stream, and the stream has not been stopped since. -/
def HoldsConn (s₀ : LiveStream Recorder) (acts : List Action) (s : LiveStream Recorder) : Prop :=
  (s₀.dataConn = true ∧ s.isStopped = false) ∨
    (s₀.config.role = .roleSender ∧ ∃ before length after u, acts = before ++ .event (.established length) :: after ∧
      (machine tools).run s₀ before = some u ∧ u.isStopped = s.isStopped)

theorem run_stopped {s t : LiveStream Recorder} {acts : List Action} (hrun : (machine tools).run s acts = some t)
    (hs : s.isStopped = true) : t.isStopped = true := by
  have hstep : ∀ (s : LiveStream Recorder) (a : Action) (t : LiveStream Recorder), s.isStopped = true →
      (machine tools).step s a = some t → t.isStopped = true := by
    intro s a t hs ht
    cases step_pointers ht with
    | keep hsame => exact hsame.isStopped.trans hs
    | gain _ _ hstopped => exact hstopped.trans hs
    | clear _ _ hstopped => exact hstopped
  exact Machine.run_preserves hstep hs hrun

/-- Connector and connection, in terms of what has happened to the stream. -/
structure Pointers (tools : SeqTools Recorder) (s₀ : LiveStream Recorder) (acts : List Action)
    (s : LiveStream Recorder) : Prop where
  config : s.config = s₀.config
  connector : s.connector.isSome ↔ s₀.connector.isSome ∧ s.isStopped = false
  dataConn : s.dataConn = true ↔ HoldsConn tools s₀ acts s

theorem append_singleton_eq_cut {first before after : List Action} {a b : Action}
    (h : first ++ [a] = before ++ b :: after) :
    (after = [] ∧ first = before ∧ a = b) ∨ ∃ rest, after = rest ++ [a] ∧ first = before ++ b :: rest := by
  rcases List.eq_nil_or_concat after with rfl | ⟨rest, last, rfl⟩
  · obtain ⟨hfirst, hlast⟩ := List.append_inj' h rfl
    exact .inl ⟨rfl, hfirst, List.cons.inj hlast |>.1⟩
  · rw [List.concat_eq_append, ← List.cons_append, ← List.append_assoc] at h
    obtain ⟨hfirst, hlast⟩ := List.append_inj' h rfl
    obtain ⟨rfl, _⟩ := List.cons.inj hlast
    exact .inr ⟨rest, List.concat_eq_append, hfirst⟩

theorem holdsConn_keep {s₀ s t : LiveStream Recorder} {first : List Action} {a : Action}
    (hconfig : s.config = s₀.config) (hgains : s.gainsConn a = false) (hstopped : t.isStopped = s.isStopped) :
    HoldsConn tools s₀ (first ++ [a]) t ↔ HoldsConn tools s₀ first s := by
  unfold HoldsConn
  rw [hstopped]
  refine or_congr_right (and_congr_right fun hrole => ?_)
  constructor
  · rintro ⟨before, length, after, u, hcut, hu, heq⟩
    rcases append_singleton_eq_cut hcut with ⟨_, _, rfl⟩ | ⟨rest, _, hfirst⟩
    · have hgains : decide (s.config.role = .roleSender) = false := hgains
      rw [hconfig, hrole] at hgains
      exact absurd hgains (by decide)
    · exact ⟨before, length, rest, u, hfirst, hu, heq⟩
  · rintro ⟨before, length, after, u, rfl, hu, heq⟩
    exact ⟨before, length, after ++ [a], u, by rw [List.append_assoc, List.cons_append], hu, heq⟩

theorem not_holdsConn_clear {s₀ s t : LiveStream Recorder} {first : List Action} {a : Action}
    (hrun : (machine tools).run s₀ first = some s) (hrunning : s.isStopped = false) (hstopped : t.isStopped = true) :
    ¬ HoldsConn tools s₀ (first ++ [a]) t := by
  rintro (⟨_, hstart⟩ | ⟨_, before, length, after, u, hcut, hu, heq⟩)
  · rw [hstopped] at hstart
    cases hstart
  · -- the stream was stopped before the event, hence before the step that stops it
    have hfirst : ∃ rest, first = before ++ rest := by
      rcases append_singleton_eq_cut hcut with ⟨_, hfirst, _⟩ | ⟨rest, _, hfirst⟩
      · exact ⟨[], by rw [List.append_nil, hfirst]⟩
      · exact ⟨_, hfirst⟩
    obtain ⟨rest, rfl⟩ := hfirst
    obtain ⟨v, hv, hrest⟩ := Machine.run_append.mp hrun
    obtain rfl := Option.some.inj (hu.symm.trans hv)
    have hs := run_stopped hrest (heq.trans hstopped)
    rw [hrunning] at hs
    cases hs

theorem run_pointers {s₀ s : LiveStream Recorder} {acts : List Action} (hstart : s₀.isStopped = false)
    (hrun : (machine tools).run s₀ acts = some s) : Pointers tools s₀ acts s := by
  induction acts using List.reverseRecOn generalizing s with
  | nil =>
    obtain rfl := Option.some.inj hrun
    refine ⟨rfl, (and_iff_left hstart).symm, ?_⟩
    constructor
    · intro hconn
      exact .inl ⟨hconn, hstart⟩
    · rintro (⟨hconn, _⟩ | ⟨_, before, length, after, u, hcut, _⟩)
      · exact hconn
      · exact absurd hcut.symm (by simp)
  | append_singleton first a ih =>
    obtain ⟨u, hu, hlast⟩ := Machine.run_append.mp hrun
    obtain ⟨t, ht, hlast⟩ := Machine.run_cons.mp hlast
    obtain rfl := Option.some.inj hlast
    have hpointers := ih hu
    cases step_pointers ht with
    | keep hsame hgains =>
      refine ⟨hsame.config.trans hpointers.config, ?_, ?_⟩
      · rw [hsame.connector, hsame.isStopped]
        exact hpointers.connector
      · rw [hsame.dataConn, holdsConn_keep hpointers.config hgains hsame.isStopped]
        exact hpointers.dataConn
    | gain hgains hconfig hstopped hconnector hconn =>
      refine ⟨hconfig.trans hpointers.config, ?_, ?_⟩
      · rw [hconnector, hstopped]
        exact hpointers.connector
      · cases a with
        | event event =>
          cases event with
          | established length =>
            have hrole : s₀.config.role = .roleSender := hpointers.config ▸ of_decide_eq_true hgains
            exact iff_of_true hconn (.inr ⟨hrole, first, length, [], u, rfl, hu, hstopped.symm⟩)
          | _ => cases hgains
        | _ => cases hgains
    | clear hrunning hconfig hstopped hconnector hconn =>
      refine ⟨hconfig.trans hpointers.config, ?_, ?_⟩
      · rw [hconnector, hstopped]
        exact iff_of_false Bool.false_ne_true fun h => absurd h.2 (by decide)
      · rw [hconn]
        exact iff_of_false Bool.false_ne_true (not_holdsConn_clear hu hrunning hstopped)

end LiveStream

end BatsIperf
