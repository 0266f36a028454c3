import BatsIperf.Foundation.Loop
import BatsIperf.Stream.SendingLoop

/-!
# What a reset of the recorder keeps

`ResetSeqRecord` counts from the boundary up to the largest recorded number, collects the numbers it finds, and records them again once the recorder is empty. Its counter is a 64-bit number like the maximum it is compared with, and wraps.
-/

namespace BatsIperf

namespace LiveStream

variable {Recorder : Type} (tools : SeqTools Recorder) (recorder : Recorder)

/-- The loop of `ResetSeqRecord`: the counter and the numbers found so far. -/
def extraLoop : Loop (UInt64 × List UInt64) (List UInt64) where
  step := fun (i, extra) =>
    if i ≤ tools.maxSeqRecorded recorder then
      .inl (i + 1, if tools.has recorder i then extra ++ [i] else extra)
    else .inr extra

/-- The recorded numbers from the counter on, in their order. -/
def recordedFrom (i : UInt64) : List UInt64 :=
  ((List.range' i.toNat ((tools.maxSeqRecorded recorder).toNat + 1 - i.toNat)).map UInt64.ofNat).filter
    (tools.has recorder)

variable {tools recorder}

theorem recordedFrom_of_lt {i : UInt64} (h : ¬ i ≤ tools.maxSeqRecorded recorder) : recordedFrom tools recorder i = [] := by
  have hlt := UInt64.lt_iff_toNat_lt.mp (UInt64.not_le.mp h)
  rw [recordedFrom, Nat.sub_eq_zero_of_le (by omega)]
  rfl

theorem recordedFrom_of_le {i : UInt64} (h : i ≤ tools.maxSeqRecorded recorder)
    (hmax : (tools.maxSeqRecorded recorder).toNat + 1 < 2 ^ 64) : recordedFrom tools recorder i
      = (if tools.has recorder i then [i] else []) ++ recordedFrom tools recorder (i + 1) := by
  have hle := UInt64.le_iff_toNat_le.mp h
  have hnext : (i + 1).toNat = i.toNat + 1 := by
    rw [UInt64.toNat_add, UInt64.toNat_one, Nat.mod_eq_of_lt (by omega)]
  have hcount : (tools.maxSeqRecorded recorder).toNat + 1 - i.toNat
      = (tools.maxSeqRecorded recorder).toNat + 1 - (i.toNat + 1) + 1 := by omega
  rw [recordedFrom, recordedFrom, hnext, hcount, List.range'_succ, List.map_cons, UInt64.ofNat_toNat, List.filter_cons]
  split <;> rfl

theorem extraLoop_returns (hmax : (tools.maxSeqRecorded recorder).toNat + 1 < 2 ^ 64) (i : UInt64) (extra : List UInt64) :
    (extraLoop tools recorder).Returns (i, extra) (extra ++ recordedFrom tools recorder i) := by
  generalize hleft : (tools.maxSeqRecorded recorder).toNat + 1 - i.toNat = left
  induction left generalizing i extra with
  | zero =>
    have hbeyond : ¬ i ≤ tools.maxSeqRecorded recorder := by
      rw [UInt64.le_iff_toNat_le]
      omega
    rw [recordedFrom_of_lt hbeyond, List.append_nil]
    exact Loop.returns_of_left (if_neg hbeyond)
  | succ left ih =>
    have hwithin : i ≤ tools.maxSeqRecorded recorder := by
      rw [UInt64.le_iff_toNat_le]
      omega
    have hnext : (i + 1).toNat = i.toNat + 1 := by
      have hle := UInt64.le_iff_toNat_le.mp hwithin
      rw [UInt64.toNat_add, UInt64.toNat_one, Nat.mod_eq_of_lt (by omega)]
    rw [Loop.returns_iff_of_next (if_pos hwithin), recordedFrom_of_le hwithin hmax]
    have hrest := ih (i + 1) (if tools.has recorder i then extra ++ [i] else extra) (by omega)
    split at hrest
    · rename_i hhas
      rwa [if_pos hhas, if_pos hhas, ← List.append_assoc]
    · rename_i hno
      rwa [if_neg hno, if_neg hno, List.nil_append]

theorem extraLoop_ends_iff (i : UInt64) (extra : List UInt64) :
    (extraLoop tools recorder).Ends (i, extra) ↔ (tools.maxSeqRecorded recorder).toNat + 1 < 2 ^ 64 := by
  refine ⟨fun hends => ?_, fun hmax => ⟨_, extraLoop_returns hmax i extra⟩⟩
  by_contra htop
  have hwithin (k : UInt64) : k ≤ tools.maxSeqRecorded recorder := by
    have hlt := k.toNat_lt
    rw [UInt64.le_iff_toNat_le]
    omega
  have hgoesOn (s : UInt64 × List UInt64) (_ : True) : ∃ t, (extraLoop tools recorder).step s = .inl t ∧ True :=
    ⟨_, if_pos (hwithin s.1), trivial⟩
  exact Loop.not_ends_of_invariant hgoesOn trivial hends

/-- What the model of `ResetSeqRecord` computes is what the loop returns, recorded again. -/
theorem resetSeqRecord_eq_ok_iff {s t : LiveStream Recorder} : s.resetSeqRecord tools = .ok t ↔
    ∃ extra, (extraLoop tools s.recvSeqRecorder).Returns (s.seqOfLastChangedGrpId, []) extra ∧
      t = { s with recvSeqRecorder := extra.foldl tools.record (tools.reset s.recvSeqRecorder) } := by
  constructor
  · intro h
    obtain ⟨_, hmax, h⟩ := Fault.bind_eq_ok.mp h
    have hreturns := extraLoop_returns (Fault.require_eq_ok.mp hmax) s.seqOfLastChangedGrpId []
    exact ⟨_, hreturns, (Fault.pure_eq_ok.mp h).symm⟩
  · rintro ⟨extra, hreturns, rfl⟩
    have hmax := (extraLoop_ends_iff _ _).mp ⟨extra, hreturns⟩
    have hextra := hreturns.unique (extraLoop_returns hmax s.seqOfLastChangedGrpId [])
    rw [hextra, resetSeqRecord, Fault.require_of_true hmax, Fault.ok_bind]
    rfl

/-! ### The numbers that stay recorded -/

variable {seqs : Recorder → Finset Nat}

theorem seqs_recordedFrom (htools : tools.ActsAsSet seqs) (hmax : (tools.maxSeqRecorded recorder).toNat + 1 < 2 ^ 64)
    (i : UInt64) : ((recordedFrom tools recorder i).map UInt64.toNat).toFinset
      = (seqs recorder).filter fun seq => i.toNat ≤ seq := by
  ext seq
  rw [List.mem_toFinset, List.mem_map, Finset.mem_filter]
  constructor
  · rintro ⟨word, hword, rfl⟩
    obtain ⟨hrange, hhas⟩ := List.mem_filter.mp hword
    obtain ⟨number, hnumber, rfl⟩ := List.mem_map.mp hrange
    rw [List.mem_range'_1] at hnumber
    have hword : (UInt64.ofNat number).toNat = number := by
      rw [UInt64.toNat_ofNat', Nat.mod_eq_of_lt (by omega)]
    refine ⟨(htools.has _ _).mp hhas, ?_⟩
    rw [hword]
    exact hnumber.1
  · rintro ⟨hrecorded, hboundary⟩
    have hle := htools.le_max hrecorded
    have hword : (UInt64.ofNat seq).toNat = seq := by
      rw [UInt64.toNat_ofNat', Nat.mod_eq_of_lt (by omega)]
    refine ⟨.ofNat seq, List.mem_filter.mpr ⟨?_, ?_⟩, hword⟩
    · exact List.mem_map.mpr ⟨seq, List.mem_range'_1.mpr (by omega), rfl⟩
    · rw [htools.has, hword]
      exact hrecorded

/-- `ResetSeqRecord` ends, and what is recorded then is what was recorded from the boundary on. -/
def ResetsExactly (tools : SeqTools Recorder) (seqs : Recorder → Finset Nat) (s : LiveStream Recorder) : Prop :=
  ∃ extra, (extraLoop tools s.recvSeqRecorder).Returns (s.seqOfLastChangedGrpId, []) extra ∧
    seqs (extra.foldl tools.record (tools.reset s.recvSeqRecorder))
      = (seqs s.recvSeqRecorder).filter fun seq => s.seqOfLastChangedGrpId.toNat ≤ seq

theorem resetsExactly_of_lt (htools : tools.ActsAsSet seqs) {s : LiveStream Recorder}
    (hmax : (tools.maxSeqRecorded s.recvSeqRecorder).toNat + 1 < 2 ^ 64) : ResetsExactly tools seqs s := by
  refine ⟨_, extraLoop_returns hmax s.seqOfLastChangedGrpId [], ?_⟩
  rw [List.nil_append, SeqTools.seqs_foldl_record htools.record, htools.reset, Finset.empty_union,
    seqs_recordedFrom htools hmax]

theorem not_resetsExactly_of_top {s : LiveStream Recorder}
    (htop : ¬ (tools.maxSeqRecorded s.recvSeqRecorder).toNat + 1 < 2 ^ 64) : ¬ ResetsExactly tools seqs s := by
  rintro ⟨extra, hreturns, _⟩
  exact htop ((extraLoop_ends_iff _ _).mp ⟨extra, hreturns⟩)

/-- For every recorder and every boundary, the reset ends and keeps what it should exactly where the largest 64-bit number is not recorded. -/
theorem reset_exact_iff (htools : tools.ActsAsSet seqs) (s : LiveStream Recorder) :
    ResetsExactly tools seqs s ↔ 2 ^ 64 - 1 ∉ seqs s.recvSeqRecorder := by
  rw [← htools.max_lt_iff]
  exact ⟨fun h => by_contra fun htop => not_resetsExactly_of_top htop h, resetsExactly_of_lt htools⟩

/-- A stream with some numbers recorded and a boundary. -/
def recordingStream (recorded : List UInt64) (boundary : UInt64) : LiveStream (List UInt64) :=
  { fresh { config := {} } recorded with seqOfLastChangedGrpId := boundary }

theorem reset_exact_iff_four :
    ResetsExactly .ofLists (fun recorder => (recorder.map UInt64.toNat).toFinset) (recordingStream [9, 3, 5, 4] 4) :=
  (reset_exact_iff SeqTools.ofLists_actsAsSet (recordingStream [9, 3, 5, 4] 4)).mpr (by decide)

/-- One packet with the largest number is enough: the counter comes back to 0. -/
theorem reset_endless_counterexample :
    ¬ ResetsExactly .ofLists (fun recorder => (recorder.map UInt64.toNat).toFinset)
      (recordingStream [18446744073709551615, 7] 7) :=
  not_resetsExactly_of_top (by decide)

end LiveStream

end BatsIperf
