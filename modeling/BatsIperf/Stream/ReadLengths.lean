import BatsIperf.Stream.NullCalls

/-!
# How much of a datagram is read

`UpdateReceived` looks at no length but whether it is positive. Each stage reads a fixed part of the header or of what follows, and an earlier stage may end the handling, so the length that a datagram must have depends on what is in it and on the stream.
-/

namespace BatsIperf

open Octets

/-! ### Reads at a place -/

theorem wordAt_ok {data : Octets} {offset : Nat} (h : offset + 8 ≤ data.length) :
    ∃ word, wordAt data offset = .ok word := by
  obtain ⟨word, hword⟩ := reads_nextWord.enough (show 8 ≤ (data.drop offset).length by
    rw [List.length_drop]
    omega)
  refine ⟨word, ?_⟩
  rw [wordAt, hword, Fault.need_some]
  rfl

theorem wordAt_short {data : Octets} {offset : Nat} (h : data.length < offset + 8) :
    wordAt data offset = .error .outOfBounds := by
  rw [wordAt, nextWord_eq_none (by rw [List.length_drop]; omega)]
  rfl

theorem octetAt_ok {data : Octets} {index : Nat} (h : index < data.length) : ∃ octet, octetAt data index = .ok octet :=
  ⟨data[index], by rw [octetAt, List.getElem?_eq_getElem h, Fault.need_some]⟩

theorem flagsAt_ok {data : Octets} (h : 33 ≤ data.length) : ∃ flags, flagsAt data = .ok flags := by
  obtain ⟨octet, hoctet⟩ := octetAt_ok (show 32 < data.length by omega)
  rw [flagsAt, hoctet]
  exact ⟨_, rfl⟩

theorem flagsAt_short {data : Octets} (h : data.length < 33) : flagsAt data = .error .outOfBounds := by
  rw [flagsAt, octetAt, List.getElem?_eq_none (by omega)]
  rfl

/-- The probes of the filling are made only where there is filling. -/
theorem validateReceivedData_ok {data : Octets} (h : 8 ≤ data.length) :
    ∃ isValid, validateReceivedData data = .ok isValid := by
  obtain ⟨magic, hmagic⟩ := wordAt_ok (show 0 + 8 ≤ data.length by omega)
  unfold validateReceivedData
  rw [hmagic, Fault.ok_bind]
  split
  · exact ⟨false, rfl⟩
  split
  · exact ⟨true, rfl⟩
  · rename_i hlong
    obtain ⟨first, hfirst⟩ := octetAt_ok (Nat.lt_of_not_le hlong)
    obtain ⟨last, hlast⟩ := octetAt_ok (show data.length - 1 < data.length by omega)
    rw [hfirst, Fault.ok_bind]
    split
    · exact ⟨false, rfl⟩
    rw [hlast, Fault.ok_bind]
    split
    · exact ⟨false, rfl⟩
    split
    · obtain ⟨mid, hmid⟩ := octetAt_ok (show data.length - 1 - linkMtu < data.length by omega)
      rw [hmid, Fault.ok_bind]
      split
      · exact ⟨false, rfl⟩
      · exact ⟨true, rfl⟩
    · exact ⟨true, rfl⟩

def nextInterval (cursor : Octets) : Option TestInterval := do
  let (bytes, cursor) ← nextWord cursor
  let (datagrams, cursor) ← nextWord cursor
  let (startSeq, cursor) ← nextWord cursor
  let (bitrate, _) ← nextWord cursor
  return { bytes := bytes, datagrams := datagrams, startSeq := startSeq, bitrate := bitrate.toNat / 100 }

theorem needs_nextInterval : Needs 32 nextInterval :=
  reads_nextWord.bind_needs fun _ => reads_nextWord.bind_needs fun _ => reads_nextWord.bind_needs fun _ =>
    reads_nextWord.bind_needs fun _ => needs_some _

theorem deserializeInterval_eq (cursor : Octets) :
    deserializeInterval cursor = Fault.need .outOfBounds (nextInterval cursor) := by
  simp only [nextInterval, Option.bind_eq_bind, Fault.need_bind]
  rfl

theorem deserializeInterval_avoids_iff {cursor : Octets} :
    Fault.Avoids .outOfBounds (deserializeInterval cursor) ↔ intervalDataSize ≤ cursor.length := by
  rw [deserializeInterval_eq, Fault.Avoids, Ne, Fault.need_eq_error, needs_nextInterval, Nat.not_lt]
  rfl

namespace LiveStream

variable {Recorder : Type} (tools : SeqTools Recorder)

/-! ### What the stages need -/

/-- Whether the data is not that of a test, and ends the program. -/
def rejects (s : LiveStream Recorder) (data : Octets) : Bool :=
  match validateReceivedData data with
  | .ok isValid => decide (s.config.protocol ≠ 2) && !isValid
  | .error _ => false

/-- Whether the first data over a reliable protocol does not have number 0, which ends the program as well. -/
def refusesStart (s : LiveStream Recorder) (seq : UInt64) : Bool :=
  decide (s.streamIdentifier = 0 ∧ seq ≠ 0 ∧ (s.config.protocol = 1 ∨ s.config.protocol = 10))

/-- Whether the stream does not get past a FIN, because it has no connection for the FIN-ACK, loses it or tries forever. -/
def staysInFin (s : LiveStream Recorder) (flags : TestFlags) (answer : FinAnswer) : Bool :=
  flags.last && !flags.ack && !(s.dataConn && (IperfStream.finAckSent answer.sendOk answer.views).isSome)

def readLength (s : LiveStream Recorder) (data : Octets) (answer : FinAnswer) : Nat :=
  match wordAt data 16, flagsAt data with
  | .error _, _ => 24
  | .ok seq, flags =>
    if s.rejects data then IperfTestHeader.size + 8
    else if s.refusesStart seq then 24
    else match flags with
      | .error _ => 33
      | .ok flags =>
        if s.takesInterval tools flags seq ∧ ¬ s.staysInFin flags answer then IperfTestHeader.size + intervalDataSize
        else 33

variable {tools} {s : LiveStream Recorder}

theorem checkData_of_not_rejects {data : Octets} (hlength : 8 ≤ data.length) (h : s.rejects data = false) :
    s.checkData data = .ok () := by
  obtain ⟨isValid, hvalid⟩ := validateReceivedData_ok hlength
  unfold checkData
  unfold rejects at h
  rw [hvalid] at h ⊢
  by_cases hprotocol : s.config.protocol = 2
  · rw [if_pos hprotocol]
  · have hyes : isValid = true := by simpa [hprotocol] using h
    rw [if_neg hprotocol, Fault.ok_bind, if_pos hyes]
    rfl

theorem checkData_of_rejects {data : Octets} (h : s.rejects data = true) :
    s.checkData data = .error (if IperfTestHeader.size + 8 ≤ data.length then .terminated else .outOfBounds) := by
  unfold checkData
  unfold rejects at h
  cases hvalid : validateReceivedData data with
  | error fault =>
    rw [hvalid] at h
    exact absurd h Bool.false_ne_true
  | ok isValid =>
    rw [hvalid] at h
    simp only [Bool.and_eq_true, decide_eq_true_eq, Bool.not_eq_true'] at h
    rw [if_neg h.1, Fault.ok_bind, h.2, if_neg Bool.false_ne_true]
    unfold Fault.require
    split <;> rfl

theorem learnIdentifier_of_refuses {data : Octets} {seq : UInt64} (hlength : 16 ≤ data.length)
    (h : s.refusesStart seq = true) : s.learnIdentifier data seq = .error .terminated := by
  obtain ⟨identifier, hidentifier⟩ := wordAt_ok (show 8 + 8 ≤ data.length by omega)
  obtain ⟨hnone, hseq, hprotocol⟩ := of_decide_eq_true h
  have hbad : ¬ (seq = 0 ∨ ¬ (s.config.protocol = 1 ∨ s.config.protocol = 10)) := by
    rintro (hzero | hother)
    · exact hseq hzero
    · exact hother hprotocol
  rw [learnIdentifier, if_pos hnone, hidentifier, Fault.ok_bind, Fault.require_eq_error.mpr hbad]
  rfl

theorem learnIdentifier_of_not_refuses {data : Octets} {seq : UInt64} (hlength : 16 ≤ data.length)
    (h : s.refusesStart seq = false) :
    ∃ identifier, s.learnIdentifier data seq = .ok { s with streamIdentifier := identifier } := by
  obtain ⟨identifier, hidentifier⟩ := wordAt_ok (show 8 + 8 ≤ data.length by omega)
  unfold learnIdentifier
  by_cases hnone : s.streamIdentifier = 0
  · have hallowed : seq = 0 ∨ ¬ (s.config.protocol = 1 ∨ s.config.protocol = 10) := by
      by_contra hbad
      rw [not_or, not_not] at hbad
      exact of_decide_eq_false h ⟨hnone, hbad⟩
    rw [if_pos hnone, hidentifier, Fault.ok_bind, Fault.require_of_true hallowed]
    exact ⟨identifier, rfl⟩
  · rw [if_neg hnone]
    exact ⟨s.streamIdentifier, rfl⟩

theorem onFlags_of_not_stays {flags : TestFlags} {answer : FinAnswer} (h : s.staysInFin flags answer = false) :
    ∃ t, s.onFlags flags answer = .ok t ∧ t.config = s.config ∧ t.lastGrpId = s.lastGrpId ∧
      t.seqOfLastChangedGrpId = s.seqOfLastChangedGrpId := by
  unfold onFlags
  unfold staysInFin at h
  cases hlast : flags.last with
  | false => exact ⟨s, rfl, rfl, rfl, rfl⟩
  | true =>
    cases hack : flags.ack with
    | true => exact ⟨_, rfl, rfl, rfl, rfl⟩
    | false =>
      simp only [hlast, hack, Bool.not_false, Bool.and_self, Bool.true_and, Bool.not_eq_false', Bool.and_eq_true] at h
      obtain ⟨isSent, hsent⟩ := Option.isSome_iff_exists.mp h.2
      rw [if_pos rfl, if_neg Bool.false_ne_true, onReceivedFIN, IperfStream.onReceivedFIN, Fault.require_of_true h.1,
        Fault.ok_bind, IperfStream.finAckSent_eq_some.mp hsent, Fault.ok_bind]
      refine ⟨_, rfl, ?_, rfl, rfl⟩
      exact ((s.toIperfStream.countFinAck isSent).finishReport_same answer.now).config.trans
        (countFinAck_same s.toIperfStream isSent).1.config

theorem retrySend_avoids {fault : Fault} (hnull : .nullPointer ≠ fault) (hstuck : .noProgress ≠ fault)
    (views : List IperfStream.RetryView) : Fault.Avoids fault (IperfStream.retrySend views) := by
  induction views with
  | nil => exact fun h => hstuck (Except.error.inj h)
  | cons view views ih =>
    unfold IperfStream.retrySend
    split
    · exact Fault.avoids_ok false
    split
    · exact Fault.avoids_ok false
    split
    · apply (Fault.avoids_require hnull _).bind
      intro _
      split
      · exact Fault.avoids_ok true
      · exact ih
    · exact ih

/-- The FIN-ACK faults in no other way. -/
theorem sendFinAck_avoids {fault : Fault} (hnull : .nullPointer ≠ fault) (hstuck : .noProgress ≠ fault)
    (answer : FinAnswer) : Fault.Avoids fault (IperfStream.sendFinAck answer.sendOk answer.views) := by
  unfold IperfStream.sendFinAck
  split
  · exact Fault.avoids_ok true
  · exact retrySend_avoids hnull hstuck answer.views

theorem onFlags_of_stays {flags : TestFlags} {answer : FinAnswer} (h : s.staysInFin flags answer = true) :
    ∃ fault, s.onFlags flags answer = .error fault ∧ fault ≠ .outOfBounds := by
  simp only [staysInFin, Bool.and_eq_true, Bool.not_eq_true'] at h
  obtain ⟨⟨hlast, hack⟩, hanswer⟩ := h
  rw [onFlags, if_pos hlast, if_neg (by simp [hack]), onReceivedFIN, IperfStream.onReceivedFIN]
  cases hconn : s.dataConn with
  | false => exact ⟨.nullPointer, rfl, by decide⟩
  | true =>
    rw [hconn, Bool.true_and, Option.isSome_eq_false_iff, Option.isNone_iff_eq_none] at hanswer
    rw [Fault.require_of_true rfl, Fault.ok_bind]
    have havoids : Fault.Avoids .outOfBounds _ := sendFinAck_avoids (by decide) (by decide) answer
    cases hsend : IperfStream.sendFinAck answer.sendOk answer.views with
    | ok isSent => exact absurd ((IperfStream.finAckSent_eq_some.mpr hsend).symm.trans hanswer) (by simp)
    | error fault =>
      rw [hsend] at havoids
      exact ⟨fault, rfl, fun h => havoids (congrArg Except.error h)⟩

theorem onReceivedIntervalData_avoids_iff {data : Octets} {now : UInt64} :
    Fault.Avoids .outOfBounds (s.onReceivedIntervalData tools data now) ↔
      (s.config.role = .roleReceiver → intervalDataSize ≤ data.length) := by
  unfold onReceivedIntervalData
  by_cases hrole : s.config.role = .roleReceiver
  · rw [if_pos hrole, Fault.Avoids, Ne, Fault.bind_eq_error_iff_of_next]
    · exact deserializeInterval_avoids_iff.trans ⟨fun h _ => h, fun h => h hrole⟩
    · intro received
      apply (Fault.avoids_require (by decide) _).bind
      intro _
      apply Fault.Avoids.bind
      · exact (Fault.avoids_require (by decide) _).bind fun _ => Fault.avoids_pure _
      · exact fun _ => Fault.avoids_pure _
  · rw [if_neg hrole]
    exact iff_of_true (Fault.avoids_ok s) fun h => absurd h hrole

theorem onInterval_avoids_iff {flags : TestFlags} {seq : UInt64} {data : Octets} {now : UInt64} :
    Fault.Avoids .outOfBounds (s.onInterval tools flags seq data now) ↔
      (s.takesInterval tools flags seq = true → intervalDataSize ≤ data.length) := by
  obtain ⟨grpId, hmarked⟩ := s.hasNewGrpId_eq flags.grpId seq
  unfold onInterval takesInterval
  dsimp only
  rw [hmarked]
  split
  · rename_i hopens
    rw [onReceivedIntervalData_avoids_iff]
    simp [hopens]
  · rename_i hno
    refine iff_of_true (Fault.avoids_ok _) fun h => ?_
    simp only [Bool.and_eq_true] at h
    exact absurd h.1 hno

theorem afterIdentifier_avoids_iff (reception : Reception) (seq : UInt64) :
    Fault.Avoids .outOfBounds (do
      let flags ← flagsAt reception.data
      let t ← s.onFlags flags reception.fin
      let t ← t.onInterval tools flags seq (reception.data.drop IperfTestHeader.size) reception.snapshotAt
      let time ← wordAt reception.data 24
      return t.updateJitter reception.arrival time) ↔
    (match flagsAt reception.data with
      | .error _ => 33
      | .ok flags =>
        if s.takesInterval tools flags seq ∧ ¬ s.staysInFin flags reception.fin then
          IperfTestHeader.size + intervalDataSize
        else 33) ≤ reception.data.length := by
  by_cases hflagged : reception.data.length < 33
  · rw [flagsAt_short hflagged]
    refine iff_of_false (fun h => h rfl) (Nat.not_le.mpr hflagged)
  · obtain ⟨flags, hflags⟩ := flagsAt_ok (Nat.le_of_not_lt hflagged)
    obtain ⟨time, htime⟩ := wordAt_ok (show 24 + 8 ≤ reception.data.length by omega)
    rw [hflags, Fault.ok_bind]
    dsimp only
    cases hstays : s.staysInFin flags reception.fin with
    | true =>
      obtain ⟨fault, hfault, hne⟩ := onFlags_of_stays hstays
      rw [hfault, if_neg (by simp)]
      exact iff_of_true (fun h => hne (Except.error.inj h)) (Nat.le_of_not_lt hflagged)
    | false =>
      obtain ⟨t, ht, hconfig, hgroup, hboundary⟩ := onFlags_of_not_stays hstays
      rw [ht, Fault.ok_bind, Fault.Avoids, Ne, Fault.bind_eq_error_iff_of_next]
      · have hinterval : Fault.Avoids .outOfBounds (t.onInterval tools flags seq
            (reception.data.drop IperfTestHeader.size) reception.snapshotAt) ↔ _ := onInterval_avoids_iff
        refine hinterval.trans ?_
        rw [takesInterval_congr hconfig hgroup hboundary, List.length_drop]
        have hsize : IperfTestHeader.size + intervalDataSize ≤ reception.data.length ↔
            intervalDataSize ≤ reception.data.length - IperfTestHeader.size := by
          rw [IperfTestHeader.size, intervalDataSize]
          omega
        cases s.takesInterval tools flags seq with
        | false => simpa using Nat.le_of_not_lt hflagged
        | true => simpa using hsize.symm
      · intro u
        rw [htime, Fault.ok_bind]
        exact Fault.avoids_pure _

theorem afterCheck_avoids_iff {reception : Reception} (seq : UInt64) (hlength : 24 ≤ reception.data.length) :
    Fault.Avoids .outOfBounds (do
      let t ← s.learnIdentifier reception.data seq
      let flags ← flagsAt reception.data
      let t ← t.onFlags flags reception.fin
      let t ← t.onInterval tools flags seq (reception.data.drop IperfTestHeader.size) reception.snapshotAt
      let time ← wordAt reception.data 24
      return t.updateJitter reception.arrival time) ↔
    (if s.refusesStart seq then 24
      else match flagsAt reception.data with
        | .error _ => 33
        | .ok flags =>
          if s.takesInterval tools flags seq ∧ ¬ s.staysInFin flags reception.fin then
            IperfTestHeader.size + intervalDataSize
          else 33) ≤ reception.data.length := by
  cases hrefuses : s.refusesStart seq with
  | true =>
    rw [learnIdentifier_of_refuses (by omega) hrefuses, if_pos rfl]
    exact iff_of_true (fun h => Fault.noConfusion (Except.error.inj h)) hlength
  | false =>
    obtain ⟨identifier, hidentified⟩ :=
      learnIdentifier_of_not_refuses (show 16 ≤ reception.data.length by omega) hrefuses
    have hsame : ({ s with streamIdentifier := identifier } : LiveStream Recorder).takesInterval tools
        = s.takesInterval tools := takesInterval_congr rfl rfl rfl
    rw [hidentified, Fault.ok_bind, if_neg Bool.false_ne_true, ← hsame]
    exact afterIdentifier_avoids_iff reception seq

/-- For any stream and any data, no read of the handling of received data leaves the data if and only if the data is as long as it is read. -/
theorem reads_inside_iff (s : LiveStream Recorder) {reception : Reception} (hdata : reception.data ≠ []) :
    Fault.Avoids .outOfBounds (s.updateReceived tools reception) ↔
      s.readLength tools reception.data reception.fin ≤ reception.data.length := by
  unfold updateReceived readLength
  rw [if_neg hdata]
  dsimp only
  by_cases hshort : reception.data.length < 24
  · rw [wordAt_short (show reception.data.length < 16 + 8 by omega)]
    exact iff_of_false (fun h => h rfl) (Nat.not_le.mpr hshort)
  · obtain ⟨seq, hseq⟩ := wordAt_ok (show 16 + 8 ≤ reception.data.length by omega)
    rw [hseq, Fault.ok_bind]
    dsimp only
    cases hrejects : s.rejects reception.data with
    | true =>
      have hcheck : (s.countReceived reception.data.length reception.countedAt).checkData reception.data = .error _ :=
        checkData_of_rejects hrejects
      rw [hcheck, if_pos rfl, IperfTestHeader.size]
      by_cases hlogged : 40 + 8 ≤ reception.data.length
      · rw [if_pos hlogged]
        exact iff_of_true (fun h => Fault.noConfusion (Except.error.inj h)) hlogged
      · rw [if_neg hlogged]
        exact iff_of_false (fun h => h rfl) hlogged
    | false =>
      have hcheck : (s.countReceived reception.data.length reception.countedAt).checkData reception.data = .ok () :=
        checkData_of_not_rejects (by omega) hrejects
      have hsame : ({ s.countReceived reception.data.length reception.countedAt with
          recvSeqRecorder := tools.record s.recvSeqRecorder seq } : LiveStream Recorder).takesInterval tools
            = s.takesInterval tools := takesInterval_congr rfl rfl rfl
      rw [hcheck, Fault.ok_bind, if_neg Bool.false_ne_true, ← hsame]
      exact afterCheck_avoids_iff seq (Nat.le_of_not_lt hshort)

def acceptedReceiver : LiveStream (List UInt64) :=
  fresh { config := { role := .roleReceiver, protocol := 0 }, connState := .connConnected, report := { streamId := 1 }
          dataConn := true } []

def received (data : Octets) : Reception :=
  { data := data, countedAt := 0, snapshotAt := 0, arrival := 0, fin := { sendOk := true, views := [], now := 0 } }

def intervalHeader : Octets :=
  IperfTestHeader.encode { streamIdentifier := 5, seq := 0, time := 0, grpId := true, last := false, ack := false
                           hasInterval := true }

/-- A packet with an interval and nothing behind it. -/
theorem reads_inside_iff_interval :
    Fault.Avoids .outOfBounds (acceptedReceiver.updateReceived SeqTools.ofLists
      (received (intervalHeader ++ serializeInterval {}))) :=
  (reads_inside_iff acceptedReceiver (by decide)).mpr (by decide +kernel)

/-- One byte, a header that is cut off in front of its flags, data of another program and a header that announces an interval are read beyond their ends. -/
theorem read_beyond_counterexample :
    List.Forall (fun data => data ≠ [] ∧
      acceptedReceiver.updateReceived SeqTools.ofLists (received data) = .error .outOfBounds)
      [[0], intervalHeader.take 32, List.replicate 47 0, intervalHeader] := by
  refine ⟨?_, ?_, ?_, ?_⟩
  · exact ⟨by decide, rfl⟩
  · exact ⟨by decide, rfl⟩
  · exact ⟨by decide, rfl⟩
  · exact ⟨by decide, rfl⟩

end LiveStream

end BatsIperf
