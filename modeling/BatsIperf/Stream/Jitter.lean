import BatsIperf.Foundation.Smoothing
import BatsIperf.Stream.IntervalCalls
import BatsIperf.Stream.ReadLengths

/-!
# The jitter of a receiver

A receiver compares the transit time of each block with that of the block before it and smooths the differences. When it takes an interval from a block, the comparison starts anew with that block, and the jitter stays what it was until there is a difference again.

The differences are those of an `int` and the smoothing is that of doubles. Below 2^31 no difference wraps, and rounding keeps the jitter within the differences.

Nothing but received data has a part in this: every other step leaves the transit times and the jitter alone, and does the same whatever they are.
-/

namespace BatsIperf

open Smoothing

/-- The jitter of the summary and that of the last interval, which is printed with it. -/
def IperfStream.jitters (stream : IperfStream) : ℚ × ℚ :=
  (stream.report.receiverReport.summary.jitter, stream.report.receiverReport.lastInterval.jitter)

namespace IperfStream

theorem finishReport_jitters (stream : IperfStream) (now : UInt64) :
    (stream.finishReport now).jitters = stream.jitters := by
  unfold finishReport
  split
  · split <;> rfl
  · dsimp only
    split <;> rfl
  · rfl

theorem stop_jitters (stream : IperfStream) (now : UInt64) : (stream.stop now).jitters = stream.jitters := by
  unfold stop
  split
  · rfl
  · dsimp only
    split
    · exact finishReport_jitters { stream with isStopped := true } now
    · rfl

theorem connectionCallback_jitters {stream next : IperfStream} {event : ConnEvent}
    (h : stream.connectionCallback event = .ok next) : next.jitters = stream.jitters := by
  cases connectionCallback_move h <;> rfl

end IperfStream

namespace LiveStream

variable {Recorder : Type} (tools : SeqTools Recorder)

/-! ### What the jitter is computed from -/

def withTransits (s : LiveStream Recorder) (transits : List Int) (isFirst : Bool) : LiveStream Recorder :=
  { s with diffSRList := transits, isFirstJitterCalculation := isFirst }

section

variable {tools} {s t : LiveStream Recorder} {transits : List Int} {isFirst : Bool}

theorem learnIdentifier_withTransits (data : Octets) (seq : UInt64) :
    (s.withTransits transits isFirst).learnIdentifier data seq
      = (·.withTransits transits isFirst) <$> s.learnIdentifier data seq := by
  unfold learnIdentifier withTransits
  dsimp only
  split
  · simp only [map_bind, map_pure]
  · rfl

theorem onFlags_withTransits (flags : TestFlags) (answer : FinAnswer) :
    (s.withTransits transits isFirst).onFlags flags answer
      = (·.withTransits transits isFirst) <$> s.onFlags flags answer := by
  unfold onFlags onReceivedFIN
  split
  · split
    · rfl
    · simp only [map_bind, map_pure]
      rfl
  · rfl

theorem hasNewGrpId_withTransits (flag : Bool) (seq : UInt64) :
    (s.withTransits transits isFirst).hasNewGrpId tools flag seq
      = ((s.hasNewGrpId tools flag seq).1, (s.hasNewGrpId tools flag seq).2.withTransits transits isFirst) := by
  obtain ⟨stream, data, lastGrpId⟩ := s
  unfold hasNewGrpId withTransits
  cases lastGrpId with
  | none => rfl
  | some grpId =>
    dsimp only
    split <;> rfl

theorem ite_withTransits (c : Prop) [Decidable c] (s t : LiveStream Recorder) :
    (if c then s else t).withTransits transits isFirst
      = if c then s.withTransits transits isFirst else t.withTransits transits isFirst :=
  apply_ite (·.withTransits transits isFirst) c s t

theorem ok_withTransits (t : LiveStream Recorder) :
    (·.withTransits transits isFirst) <$> (.ok t : Except Fault (LiveStream Recorder))
      = .ok (t.withTransits transits isFirst) := rfl

theorem buildHeader_withTransits (time : UInt64) :
    (s.withTransits transits isFirst).buildHeader time = (s.buildHeader time).withTransits transits isFirst := by
  unfold buildHeader
  rw [ite_withTransits]
  rfl

theorem sendData_withTransits (length : Int) (sendOk : Bool) (sent unsent : SendPoint) :
    (s.withTransits transits isFirst).sendData length sendOk sent unsent
      = (·.withTransits transits isFirst) <$> s.sendData length sendOk sent unsent := by
  unfold sendData
  simp only [map_bind, map_pure, ite_withTransits]
  rfl

theorem loopStep_withTransits (input : ThreadInput) :
    (s.withTransits transits isFirst).loopStep input = (·.withTransits transits isFirst) <$> s.loopStep input := by
  have hsend (length : Int) (sent unsent : SendPoint) :
      (s.withTransits transits isFirst).sendData length input.sendOk sent unsent
        = (·.withTransits transits isFirst) <$> s.sendData length input.sendOk sent unsent := sendData_withTransits ..
  have hbuild : (s.withTransits transits isFirst).buildHeader input.time
      = (s.buildHeader input.time).withTransits transits isFirst := buildHeader_withTransits input.time
  have hite (c : Prop) [Decidable c] (x y : Except Fault (LiveStream Recorder)) :
      (·.withTransits transits isFirst) <$> (if c then x else y)
        = if c then (·.withTransits transits isFirst) <$> x else (·.withTransits transits isFirst) <$> y :=
    apply_ite ..
  obtain ⟨stream, data, lastGrpId, boundary, recorder, list, first, point, threadGrpId, log⟩ := s
  unfold loopStep
  cases point with
  | check | errorCheck | fin =>
    dsimp only
    rw [ok_withTransits, ite_withTransits]
    rfl
  | waitWritable =>
    dsimp only
    rw [ok_withTransits, ite_withTransits, ite_withTransits]
    rfl
  | build =>
    unfold build
    rw [hbuild]
    rfl
  | send length => exact hsend ..
  | retry length =>
    dsimp only
    rw [hite, hite, ← hsend]
    rfl
  | countBytes | countDatagrams | finCountBytes | finCountDatagrams => rfl
  | finSend => exact hsend ..
  | finRetry =>
    dsimp only
    rw [hite, hite, ← hsend]
    rfl

theorem threadStep_withTransits (input : ThreadInput) :
    (s.withTransits transits isFirst).threadStep input = (·.withTransits transits isFirst) <$> s.threadStep input := by
  have hthread : (s.withTransits transits isFirst).sendingThread = s.sendingThread := rfl
  unfold threadStep
  rw [hthread]
  cases s.sendingThread with
  | notStarted | ended => rfl
  | starting =>
    dsimp only
    rw [ok_withTransits, ite_withTransits]
    rfl
  | sending => exact loopStep_withTransits input

theorem perform_withTransits {a : Action} (hother : ∀ reception, a ≠ .received reception) :
    (s.withTransits transits isFirst).perform tools a = (·.withTransits transits isFirst) <$> s.perform tools a := by
  cases a with
  | event event =>
    unfold perform onEvent
    simp only [map_bind, map_pure]
    rfl
  | received reception => exact absurd rfl (hother reception)
  | startSend now =>
    unfold perform startSend
    simp only [map_bind, map_pure]
    rfl
  | thread input => exact threadStep_withTransits input
  | snapshotReport now =>
    unfold perform snapshotReport
    rw [ok_withTransits, ite_withTransits]
    rfl
  | poll now | finishReport now | stop now => rfl
  | summary cursor now =>
    unfold perform onSummary
    simp only [map_bind, map_pure, ite_withTransits]
    rfl

theorem withTransits_self (s : LiveStream Recorder) : s.withTransits s.diffSRList s.isFirstJitterCalculation = s := rfl

/-- So every other step keeps them. -/
theorem perform_transits {a : Action} (hother : ∀ reception, a ≠ .received reception)
    (h : s.perform tools a = .ok t) :
    t.diffSRList = s.diffSRList ∧ t.isFirstJitterCalculation = s.isFirstJitterCalculation := by
  have hsame : (s.withTransits s.diffSRList s.isFirstJitterCalculation).perform tools a
      = (·.withTransits s.diffSRList s.isFirstJitterCalculation) <$> s.perform tools a := perform_withTransits hother
  rw [withTransits_self, h] at hsame
  have hkept : t = t.withTransits s.diffSRList s.isFirstJitterCalculation := Except.ok.inj hsame
  rw [hkept]
  exact ⟨rfl, rfl⟩

theorem threadStep_jitters {input : ThreadInput} (h : s.threadStep input = .ok t) : t.jitters = s.jitters := by
  unfold threadStep at h
  split at h
  · cases h
  · cases h
  · obtain rfl := Except.ok.inj h
    split
    · rfl
    · exact s.toIperfStream.stop_jitters input.now
  · cases loopStep_move h with
    | builds => exact congrArg IperfStream.jitters (buildHeader_stream s input.time)
    | sendsBlock _ hsend | sendsFin _ hsend =>
      rw [(sendData_eq hsend).2]
      split <;> rfl
    | waits | goesOn | leaves | fails | givesUp | countsBytes | countsDatagram | buildsFin | countsFinBytes
      | countsFinDatagram | ends => rfl

theorem perform_jitters {a : Action} (hother : ∀ reception, a ≠ .received reception) (h : s.perform tools a = .ok t) :
    t.jitters = s.jitters := by
  cases a with
  | event event =>
    obtain ⟨stream, hstream, h⟩ := Fault.bind_eq_ok.mp h
    obtain rfl := Fault.pure_eq_ok.mp h
    exact IperfStream.connectionCallback_jitters hstream
  | received reception => exact absurd rfl (hother reception)
  | startSend now =>
    obtain ⟨stream, hstream, h⟩ := Fault.bind_eq_ok.mp h
    obtain rfl := Fault.pure_eq_ok.mp h
    obtain ⟨_, _, hstream⟩ := Fault.bind_eq_ok.mp hstream
    obtain rfl := Fault.pure_eq_ok.mp hstream
    rfl
  | thread input => exact threadStep_jitters h
  | snapshotReport now =>
    obtain rfl := Except.ok.inj h
    by_cases hdue : s.isSnapshotDue now = true
    · rw [snapshotReport, if_pos hdue, taken_of_due hdue]
      rfl
    · rw [snapshotReport, if_neg hdue, kept_of_not_due hdue]
  | poll now =>
    obtain rfl := Except.ok.inj h
    unfold poll IperfStream.isIntervalDataReceivedTimeout
    dsimp only
    split <;> rfl
  | summary cursor now =>
    obtain ⟨⟨stream, rest⟩, hread, h⟩ := Fault.bind_eq_ok.mp h
    obtain ⟨bytes, datagrams, bitrate, rfl⟩ := IperfStream.deserializeReport_eq (Fault.need_eq_ok.mp hread)
    obtain rfl := Fault.pure_eq_ok.mp h
    split
    · rfl
    · exact IperfStream.finishReport_jitters
        { s.toIperfStream with report := s.report.setSender bytes datagrams bitrate, isSumReceived := true } now
  | finishReport now =>
    obtain rfl := Except.ok.inj h
    exact s.toIperfStream.finishReport_jitters now
  | stop now =>
    obtain rfl := Except.ok.inj h
    exact s.toIperfStream.stop_jitters now

/-! ### What comes before an interval -/

/-- Two states of a stream with the same transit times, jitter and groups. -/
structure SameTransits (s t : LiveStream Recorder) : Prop where
  config : t.config = s.config
  lastGrpId : t.lastGrpId = s.lastGrpId
  boundary : t.seqOfLastChangedGrpId = s.seqOfLastChangedGrpId
  transits : t.diffSRList = s.diffSRList
  isFirst : t.isFirstJitterCalculation = s.isFirstJitterCalculation
  jitters : t.jitters = s.jitters

theorem SameTransits.trans {s t u : LiveStream Recorder} (hst : SameTransits s t) (htu : SameTransits t u) :
    SameTransits s u where
  config := htu.config.trans hst.config
  lastGrpId := htu.lastGrpId.trans hst.lastGrpId
  boundary := htu.boundary.trans hst.boundary
  transits := htu.transits.trans hst.transits
  isFirst := htu.isFirst.trans hst.isFirst
  jitters := htu.jitters.trans hst.jitters

theorem countReceived_sameTransits (length : Nat) (now : UInt64) (recorder : Recorder) :
    SameTransits s { s.countReceived length now with recvSeqRecorder := recorder } := by
  unfold countReceived
  dsimp only
  split <;> constructor <;> rfl

theorem learnIdentifier_sameTransits {data : Octets} {seq : UInt64} (h : s.learnIdentifier data seq = .ok t) :
    SameTransits s t := by
  obtain ⟨identifier, rfl⟩ := learnIdentifier_eq h
  constructor <;> rfl

theorem onFlags_sameTransits {flags : TestFlags} {answer : FinAnswer} (h : s.onFlags flags answer = .ok t) :
    SameTransits s t := by
  unfold onFlags at h
  split at h
  · split at h
    · obtain rfl := Except.ok.inj h
      constructor <;> rfl
    · obtain ⟨stream, hstream, h⟩ := Fault.bind_eq_ok.mp h
      obtain ⟨_, _, hstream⟩ := Fault.bind_eq_ok.mp hstream
      obtain ⟨isSent, _, hstream⟩ := Fault.bind_eq_ok.mp hstream
      obtain rfl := Fault.pure_eq_ok.mp hstream
      obtain rfl := Fault.pure_eq_ok.mp h
      have hcounted : (s.toIperfStream.countFinAck isSent).jitters = s.jitters := by cases isSent <;> rfl
      have hfinished := (s.toIperfStream.countFinAck isSent).finishReport_jitters answer.now
      have hconfig := ((s.toIperfStream.countFinAck isSent).finishReport_same answer.now).config
      exact ⟨hconfig.trans (countFinAck_same s.toIperfStream isSent).1.config, rfl, rfl, rfl, rfl, hfinished.trans hcounted⟩
  · obtain rfl := Except.ok.inj h
    constructor <;> rfl

theorem sameTransits_before {identified flagged : LiveStream Recorder} {length : Nat} {now : UInt64} {recorder : Recorder}
    {data : Octets} {seq : UInt64} {flags : TestFlags} {answer : FinAnswer}
    (hidentified : ({ s.countReceived length now with recvSeqRecorder := recorder } : LiveStream Recorder).learnIdentifier
      data seq = .ok identified)
    (hflagged : identified.onFlags flags answer = .ok flagged) : SameTransits s flagged :=
  ((countReceived_sameTransits length now recorder).trans (learnIdentifier_sameTransits hidentified)).trans
    (onFlags_sameTransits hflagged)

/-! ### The comparison starts anew -/

theorem onReceivedIntervalData_receiver (hrole : s.config.role = .roleReceiver) (data : Octets) (now : UInt64) :
    (s.withTransits transits isFirst).onReceivedIntervalData tools data now = s.onReceivedIntervalData tools data now := by
  have hother : (s.withTransits transits isFirst).config.role = .roleReceiver := hrole
  unfold onReceivedIntervalData
  rw [if_pos hother, if_pos hrole]
  dsimp only
  refine bind_congr fun received => bind_congr fun _ => ?_
  unfold resetSeqRecord
  simp only [bind_assoc, pure_bind]
  rfl

theorem onReceivedIntervalData_restarts (hrole : s.config.role = .roleReceiver) {data : Octets} {now : UInt64}
    (h : s.onReceivedIntervalData tools data now = .ok t) : t = t.withTransits [] true := by
  unfold onReceivedIntervalData at h
  rw [if_pos hrole] at h
  obtain ⟨received, _, h⟩ := Fault.bind_eq_ok.mp h
  obtain ⟨_, _, h⟩ := Fault.bind_eq_ok.mp h
  obtain ⟨reset, _, h⟩ := Fault.bind_eq_ok.mp h
  obtain rfl := Fault.pure_eq_ok.mp h
  rw [ite_withTransits]
  rfl

theorem onInterval_jitters {flags : TestFlags} {seq : UInt64} {data : Octets} {now : UInt64}
    (h : s.onInterval tools flags seq data now = .ok t) : t.jitters = s.jitters := by
  obtain ⟨found, rfl | ⟨received, actual, escaped, rfl⟩⟩ := onInterval_cases h <;> rfl

theorem onInterval_restarts {flags : TestFlags} {seq : UInt64} {data : Octets} {now : UInt64}
    (htakes : s.takesInterval tools flags seq = true) (h : s.onInterval tools flags seq data now = .ok t) :
    t = t.withTransits [] true := by
  rw [onInterval_of_takes htakes] at h
  exact onReceivedIntervalData_restarts (hasNewGrpId_role htakes) h

theorem onInterval_of_not_takes {flags : TestFlags} {seq : UInt64} (hnot : s.takesInterval tools flags seq = false)
    (data : Octets) (now : UInt64) :
    s.onInterval tools flags seq data now = .ok (s.hasNewGrpId tools flags.grpId seq).2 := by
  obtain ⟨grpId, hmarked⟩ : ∃ grpId, (s.hasNewGrpId tools flags.grpId seq).2 = { s with lastGrpId := grpId } :=
    s.hasNewGrpId_eq flags.grpId seq
  unfold onInterval
  dsimp only
  split
  · rename_i hnew
    unfold onReceivedIntervalData
    rw [if_neg]
    intro hrole
    rw [hmarked] at hrole
    have hrole : s.config.role = .roleReceiver := hrole
    simp [takesInterval, hrole, hnew] at hnot
  · rfl

theorem onInterval_transits {flags : TestFlags} {seq : UInt64} {data : Octets} {now : UInt64}
    (hnot : s.takesInterval tools flags seq = false) (h : s.onInterval tools flags seq data now = .ok t) :
    t.diffSRList = s.diffSRList ∧ t.isFirstJitterCalculation = s.isFirstJitterCalculation := by
  obtain ⟨grpId, hmarked⟩ : ∃ grpId, (s.hasNewGrpId tools flags.grpId seq).2 = { s with lastGrpId := grpId } :=
    s.hasNewGrpId_eq flags.grpId seq
  rw [onInterval_of_not_takes hnot, hmarked] at h
  obtain rfl := Except.ok.inj h
  exact ⟨rfl, rfl⟩

end

/-! ### The transit times of a run -/

/-- The transit times of what a stream has received: those compared before the last interval was taken, group by group, and those compared since. -/
structure Transits where
  past : List (List Int) := []
  current : List Int := []
  deriving DecidableEq

namespace Transits

def groups (n : Transits) : List (List Int) := n.past ++ [n.current]

/-- One more transit time, which is compared with the last one of its group. -/
def add (n : Transits) (transit : Int) : Transits := { n with current := n.current ++ [transit] }

/-- The next transit time is the first of a group. -/
def restart (n : Transits) : Transits := { past := n.groups }

def jumps (group : List Int) : List ℚ := (distances absDifference group).map Int.cast

def jitter (n : Transits) : ℚ := (lastSmoothed smoothJitter (n.groups.map jumps)).getD 0

theorem jitter_eq (n : Transits) :
    n.jitter = (lastSmoothed smoothJitter (n.past.map jumps ++ [jumps n.current])).getD 0 := by
  rw [jitter, groups, List.map_append]
  rfl

theorem jumps_concat (group : List Int) (last next : Int) :
    jumps (group ++ [last, next]) = jumps (group ++ [last]) ++ [(absDifference next last : ℚ)] := by
  rw [jumps, distances_concat, List.map_append]
  rfl

theorem jitter_restart (n : Transits) : n.restart.jitter = n.jitter := by
  rw [jitter_eq]
  exact congrArg (Option.getD · 0) (lastSmoothed_concat_nil _)

theorem jitter_add_nil {n : Transits} (h : n.current = []) (transit : Int) : (n.add transit).jitter = n.jitter := by
  rw [jitter_eq, jitter_eq, h]
  show (lastSmoothed _ (n.past.map jumps ++ [jumps (n.current ++ [transit])])).getD 0 = _
  rw [h]
  rfl

theorem jitter_add_concat {n : Transits} {group : List Int} {last : Int} (h : n.current = group ++ [last]) (transit : Int) :
    (n.add transit).jitter
      = if (distances absDifference n.current).isEmpty then (absDifference transit last : ℚ)
        else smoothJitter n.jitter (absDifference transit last) := by
  have hjumps : jumps (n.add transit).current = jumps n.current ++ [(absDifference transit last : ℚ)] := by
    rw [h, ← jumps_concat, add, h, List.append_assoc]
    rfl
  have hpast : (n.add transit).past = n.past := rfl
  rw [jitter_eq, hpast, hjumps]
  split
  · rename_i hempty
    have hnone : smoothed smoothJitter (jumps n.current) = none := by
      rw [jumps, List.isEmpty_iff.mp hempty]
      rfl
    rw [lastSmoothed_concat_of_some (smoothed_concat_of_none hnone _), Option.getD_some]
  · rename_i hsome
    obtain ⟨estimate, hestimate⟩ : ∃ estimate, smoothed smoothJitter (jumps n.current) = some estimate := by
      cases hvalues : jumps n.current with
      | nil => exact absurd (List.isEmpty_iff.mpr (List.map_eq_nil_iff.mp hvalues)) hsome
      | cons value rest => exact ⟨_, rfl⟩
    rw [lastSmoothed_concat_of_some (smoothed_concat_of_some hestimate _), Option.getD_some, jitter_eq,
      lastSmoothed_concat_of_some hestimate, Option.getD_some]

/-! ### Differences that do not wrap -/

theorem absDifference_eq {next last : Int} {bound : Nat} (hbound : bound < 2 ^ 31) (h : |next - last| ≤ bound) :
    absDifference next last = |next - last| := by
  rw [Int.abs_eq_natAbs] at h ⊢
  have hdifference : Narrowing.signed 32 (next - last) = next - last :=
    Narrowing.signed_of_lt (w := 31) (by omega) (by omega)
  rw [absDifference, hdifference]
  exact Narrowing.signed_of_lt (w := 31) (by omega) (by omega)

/-- Neighbouring transit times are at most this far apart. -/
def Within (bound : Nat) (n : Transits) : Prop :=
  ∀ group ∈ n.groups, group.IsChain fun last next => |next - last| ≤ (bound : Int)

theorem smoothJitter_between {bound : Nat} (hbound : bound < 2 ^ 31) (estimate value : ℚ)
    (hestimate : 0 ≤ estimate ∧ estimate ≤ bound) (hvalue : 0 ≤ value ∧ value ≤ bound) :
    0 ≤ smoothJitter estimate value ∧ smoothJitter estimate value ≤ bound := by
  have hround (x : ℚ) (n : Nat) (hn : n ≤ 16 * bound) (hx : 0 ≤ x) (hle : x ≤ n) :
      0 ≤ BinaryFormat.binary64.round x ∧ BinaryFormat.binary64.round x ≤ n := by
    have hfits : n < 2 ^ BinaryFormat.binary64.precision := by
      show n < 2 ^ 53
      omega
    exact ⟨BinaryFormat.round_nonneg hx, BinaryFormat.round_le hx hle hfits⟩
  obtain ⟨hestimate, hestimateLe⟩ := hestimate
  obtain ⟨hvalue, hvalueLe⟩ := hvalue
  obtain ⟨hscaled, hscaledLe⟩ := hround (15 * estimate) (15 * bound) (by omega) (by linarith) (by push_cast; linarith)
  push_cast at hscaledLe
  obtain ⟨hsum, hsumLe⟩ := hround (BinaryFormat.binary64.round (15 * estimate) + value) (16 * bound) le_rfl
    (add_nonneg hscaled hvalue) (by push_cast; linarith)
  push_cast at hsumLe
  exact hround _ bound (by omega) (by linarith) (by linarith)

theorem jitter_between {n : Transits} {bound : Nat} (hbound : bound < 2 ^ 31) (h : n.Within bound) :
    0 ≤ n.jitter ∧ n.jitter ≤ bound := by
  unfold jitter
  cases hlast : lastSmoothed smoothJitter (n.groups.map jumps) with
  | none => exact ⟨le_refl 0, Nat.cast_nonneg bound⟩
  | some estimate =>
    refine lastSmoothed_of_forall (p := fun x => 0 ≤ x ∧ x ≤ (bound : ℚ)) (smoothJitter_between hbound) ?_ hlast
    intro values hvalues value hvalue
    obtain ⟨group, hgroup, rfl⟩ := List.mem_map.mp hvalues
    obtain ⟨distance, hdistance, rfl⟩ := List.mem_map.mp hvalue
    have hbetween (last next : Int) (hnear : |next - last| ≤ (bound : Int)) :
        0 ≤ absDifference next last ∧ absDifference next last ≤ bound := by
      rw [absDifference_eq hbound hnear]
      exact ⟨abs_nonneg _, hnear⟩
    have hdistance := forall_distances (p := fun d => 0 ≤ d ∧ d ≤ (bound : Int)) hbetween (h group hgroup) distance hdistance
    exact ⟨Int.cast_nonneg hdistance.1, by exact_mod_cast hdistance.2⟩

end Transits

/-- The time between what the sender writes into a block and its arrival, as far as an `int` holds it. -/
def transitOf (reception : Reception) : Option Int :=
  (wordAt reception.data 24).toOption.map fun time => Narrowing.signed 32 (reception.arrival - time).toNat

def noteTransit (s : LiveStream Recorder) : Action → Transits → Transits
  | .received reception, n =>
    match transitOf reception with
    | some transit => if s.restartsAt tools reception.data then n.restart.add transit else n.add transit
    | none => n
  | _, n => n

def transits (s : LiveStream Recorder) (acts : List Action) : Transits :=
  (machine tools).record (noteTransit tools) {} s acts

/-- What is remembered of the transit times, and the jitter they have led to. That of an interval is never set. -/
structure Estimating (s : LiveStream Recorder) (n : Transits) : Prop where
  kept : s.diffSRList = n.current.getLast?.toList
  first : s.isFirstJitterCalculation = (distances absDifference n.current).isEmpty
  jitters : s.jitters = (n.jitter, 0)

variable {tools} {s t : LiveStream Recorder} {n : Transits}

theorem Estimating.of_same (h : Estimating s n) (htransits : t.diffSRList = s.diffSRList)
    (hfirst : t.isFirstJitterCalculation = s.isFirstJitterCalculation) (hjitters : t.jitters = s.jitters) :
    Estimating t n :=
  ⟨htransits.trans h.kept, hfirst.trans h.first, hjitters.trans h.jitters⟩

theorem Estimating.restart (hanew : t = t.withTransits [] true) (hjitters : t.jitters = (n.jitter, 0)) :
    Estimating t n.restart where
  kept := congrArg diffSRList hanew
  first := congrArg isFirstJitterCalculation hanew
  jitters := by
    rw [Transits.jitter_restart]
    exact hjitters

theorem Estimating.add (h : Estimating s n) (arrival time : UInt64) :
    Estimating (s.updateJitter arrival time) (n.add (Narrowing.signed 32 (arrival - time).toNat)) := by
  generalize htransit : Narrowing.signed 32 (arrival - time).toNat = transit
  have hkept := h.kept
  have hfirst := h.first
  have hjitters := Prod.mk.inj h.jitters
  unfold updateJitter
  rw [htransit]
  rcases List.eq_nil_or_concat' n.current with hnil | ⟨group, last, hcurrent⟩
  · rw [hnil] at hkept hfirst
    rw [hkept]
    refine ⟨?_, ?_, ?_⟩
    · rw [Transits.add, hnil]
      rfl
    · rw [Transits.add, hnil]
      exact hfirst
    · rw [Transits.jitter_add_nil hnil]
      exact h.jitters
  · have hlast : s.diffSRList = [last] := by rw [hkept, hcurrent, List.getLast?_concat]; rfl
    have hadded : (n.add transit).current = group ++ [last, transit] := by
      rw [Transits.add, hcurrent, List.append_assoc]
      rfl
    rw [hlast]
    refine ⟨?_, ?_, ?_⟩
    · rw [hadded, List.getLast?_append]
      rfl
    · rw [hadded, distances_concat]
      simp
    · rw [Transits.jitter_add_concat hcurrent, ← hfirst, ← hjitters.1]
      exact Prod.ext rfl hjitters.2

theorem estimating_received {reception : Reception} (h : Estimating s n)
    (hupdate : s.updateReceived tools reception = .ok t) : Estimating t (noteTransit tools s (.received reception) n) := by
  unfold updateReceived at hupdate
  split at hupdate
  · rename_i hdata
    obtain rfl := Except.ok.inj hupdate
    have hnone : transitOf reception = none := by
      rw [transitOf, hdata]
      rfl
    rw [noteTransit, hnone]
    exact h
  · obtain ⟨seq, hseq, hupdate⟩ := Fault.bind_eq_ok.mp hupdate
    obtain ⟨_, _, hupdate⟩ := Fault.bind_eq_ok.mp hupdate
    obtain ⟨identified, hidentified, hupdate⟩ := Fault.bind_eq_ok.mp hupdate
    obtain ⟨flags, hflags, hupdate⟩ := Fault.bind_eq_ok.mp hupdate
    obtain ⟨flagged, hflagged, hupdate⟩ := Fault.bind_eq_ok.mp hupdate
    obtain ⟨detected, hdetected, hupdate⟩ := Fault.bind_eq_ok.mp hupdate
    obtain ⟨time, htime, hupdate⟩ := Fault.bind_eq_ok.mp hupdate
    obtain rfl := Fault.pure_eq_ok.mp hupdate
    have hsame := sameTransits_before hidentified hflagged
    have htakes : flagged.takesInterval tools flags seq = s.takesInterval tools flags seq := by
      rw [takesInterval_congr hsame.config hsame.lastGrpId hsame.boundary]
    have htransit : transitOf reception = some (Narrowing.signed 32 (reception.arrival - time).toNat) := by
      rw [transitOf, htime]
      rfl
    have hrestarts : s.restartsAt tools reception.data = s.takesInterval tools flags seq := by
      rw [restartsAt, hflags, hseq]
    have hflagged := h.of_same hsame.transits hsame.isFirst hsame.jitters
    have hjitters := (onInterval_jitters hdetected).trans hflagged.jitters
    rw [noteTransit, htransit]
    dsimp only
    rw [hrestarts]
    cases hinterval : s.takesInterval tools flags seq with
    | true =>
      rw [hinterval] at htakes
      exact (Estimating.restart (onInterval_restarts htakes hdetected) hjitters).add ..
    | false =>
      rw [hinterval] at htakes
      obtain ⟨htransits, hfirst⟩ := onInterval_transits htakes hdetected
      rw [if_neg Bool.false_ne_true]
      exact (hflagged.of_same htransits hfirst (onInterval_jitters hdetected)).add ..

theorem step_estimating {a : Action} (h : Estimating s n) (hstep : (machine tools).step s a = some t) :
    Estimating t (noteTransit tools s a n) := by
  have hperform := step_eq_some.mp hstep
  by_cases hreceived : ∃ reception, a = .received reception
  · obtain ⟨reception, rfl⟩ := hreceived
    exact estimating_received h hperform
  · have hother (reception : Reception) : a ≠ .received reception := fun heq => hreceived ⟨reception, heq⟩
    have hnote : noteTransit tools s a n = n := by
      cases a with
      | received reception => exact absurd rfl (hother reception)
      | _ => rfl
    obtain ⟨htransits, hfirst⟩ := perform_transits hother hperform
    rw [hnote]
    exact h.of_same htransits hfirst (perform_jitters hother hperform)

theorem estimating_new {recorder : Recorder} (hnew : IsNew recorder s) : Estimating s {} := by
  cases hnew with
  | connecting => exact ⟨rfl, rfl, rfl⟩
  | accepted haccepted =>
    rw [IperfStream.switchDataBlockLength_eq haccepted]
    exact ⟨rfl, rfl, rfl⟩

theorem run_estimating {s₀ : LiveStream Recorder} {recorder : Recorder} {acts : List Action} (hnew : IsNew recorder s₀)
    (hrun : (machine tools).run s₀ acts = some s) : Estimating s (s₀.transits tools acts) := by
  have hall : (machine tools).Respects (fun _ _ => True) s₀ acts :=
    Machine.respects_of_forall (fun _ _ => trivial) s₀ acts
  have hstep (s : LiveStream Recorder) (n : Transits) (a : Action) (t : LiveStream Recorder) (h : Estimating s n) (_ : True)
      (hstep : (machine tools).step s a = some t) : Estimating t (noteTransit tools s a n) := step_estimating h hstep
  exact Machine.run_record hstep (estimating_new hnew) hall hrun

/-- On every run the jitter is what the differences of neighbouring transit times are smoothed to, since the last interval or, where that has brought none yet, before it. Below 2^31 these are the absolute differences, and the jitter never exceeds them. The jitter of an interval is 0 throughout. -/
theorem jitter_smooths {s₀ : LiveStream Recorder} {recorder : Recorder} {acts : List Action} (hnew : IsNew recorder s₀)
    (hrun : (machine tools).run s₀ acts = some s) :
    s.report.receiverReport.summary.jitter = (s₀.transits tools acts).jitter ∧
      s.report.receiverReport.lastInterval.jitter = 0 ∧
      ∀ bound < 2 ^ 31, (s₀.transits tools acts).Within bound →
        (∀ group ∈ (s₀.transits tools acts).groups,
          distances absDifference group = distances (fun next last => |next - last|) group) ∧
        0 ≤ s.report.receiverReport.summary.jitter ∧ s.report.receiverReport.summary.jitter ≤ bound := by
  obtain ⟨hjitter, hinterval⟩ := Prod.mk.inj (run_estimating hnew hrun).jitters
  refine ⟨hjitter, hinterval, fun bound hbound hwithin => ⟨fun group hgroup => ?_, ?_⟩⟩
  · have hsame (last next : Int) (hnear : |next - last| ≤ (bound : Int)) := Transits.absDifference_eq hbound hnear
    exact distances_congr hsame (hwithin group hgroup)
  · rw [hjitter]
    exact Transits.jitter_between hbound hwithin

/-- A data packet that is 1000 ms or more under way. -/
def lateAction (group seq : Nat) (arrival : UInt64) : Action :=
  .received { (sample 129 group seq).reception with arrival := arrival }

/-- Three packets of one group and the first of the next. -/
def untilNextGroup : List Action :=
  [lateAction 0 0 1000, lateAction 0 1 1004, lateAction 0 2 1004, lateAction 1 130 1020]

theorem jitter_smooths_late :
    ∃ stream s, IperfStream.accepted { protocol := 1, role := .roleReceiver } 1 1000 = .ok stream ∧
      (machine SeqTools.ofLists).run (fresh stream []) untilNextGroup = some s ∧
      s.report.receiverReport.summary.jitter = 15 / 4 ∧ s.report.receiverReport.lastInterval.jitter = 0 := by
  obtain ⟨stream, haccepted⟩ : ∃ stream,
    IperfStream.accepted { protocol := 1, role := .roleReceiver } 1 1000 = .ok stream := ⟨_, rfl⟩
  have hsome : (IperfStream.accepted { protocol := 1, role := .roleReceiver } 1 1000).toOption.all fun stream =>
      ((machine SeqTools.ofLists).run (fresh stream []) untilNextGroup).isSome &&
        decide (((fresh stream []).transits SeqTools.ofLists untilNextGroup).jitter = 15 / 4) := by
    decide +kernel
  rw [haccepted] at hsome
  obtain ⟨hisSome, hvalue⟩ := Bool.and_eq_true_iff.mp hsome
  obtain ⟨s, hs⟩ := Option.isSome_iff_exists.mp hisSome
  obtain ⟨hjitter, hinterval, _⟩ := jitter_smooths (.accepted haccepted) hs
  exact ⟨stream, s, haccepted, hs, hjitter.trans (of_decide_eq_true hvalue), hinterval⟩

end LiveStream

end BatsIperf
