import Mathlib.Data.Finset.Card
import Mathlib.Data.Finset.Image
import Mathlib.Data.Finset.Max
import Mathlib.Order.Interval.Finset.Nat
import Mathlib.Order.Lattice.Nat
import Mathlib.Tactic.NormNum

/-!
# Sequence numbers

A recorder of 64-bit sequence numbers and the comparison of two numbers on their ring, as a program takes them from a library. `SeqTools.Lawful` is what the documentation and the tests of such a library promise: the recorder is a set of numbers, its range count stops short of its own maximum, and a number comes before another if the way ahead to it is less than half the ring.
-/

structure SeqTools (Recorder : Type) where
  record : Recorder → UInt64 → Recorder
  has : Recorder → UInt64 → Bool
  reset : Recorder → Recorder
  maxSeqRecorded : Recorder → UInt64
  recordedNumInRange : Recorder → UInt64 → UInt64 → Nat
  isLessThanInHalfRing : UInt64 → UInt64 → Bool

namespace SeqTools

variable {Recorder : Type}

structure Lawful (tools : SeqTools Recorder) (seqs : Recorder → Finset Nat) : Prop where
  record : ∀ recorder seq, seqs (tools.record recorder seq) = insert seq.toNat (seqs recorder)
  has : ∀ recorder seq, tools.has recorder seq = true ↔ seq.toNat ∈ seqs recorder
  reset : ∀ recorder, seqs (tools.reset recorder) = ∅
  max_mem : ∀ recorder, (seqs recorder).Nonempty → (tools.maxSeqRecorded recorder).toNat ∈ seqs recorder
  le_max : ∀ recorder, ∀ seq ∈ seqs recorder, seq ≤ (tools.maxSeqRecorded recorder).toNat
  count : ∀ recorder low high, tools.recordedNumInRange recorder low high
    = ((seqs recorder).filter fun seq =>
        low.toNat ≤ seq ∧ seq < min high.toNat (tools.maxSeqRecorded recorder).toNat).card
  halfRing : ∀ before after, tools.isLessThanInHalfRing before after = true
    ↔ 0 < (after - before).toNat ∧ (after - before).toNat < 2 ^ 63

variable {tools : SeqTools Recorder} {seqs : Recorder → Finset Nat}

/-- Within half the ring of each other, numbers compare as they do off the ring. -/
theorem Lawful.isLess_iff (h : tools.Lawful seqs) {before after : Nat} (hahead : after < before + 2 ^ 63)
    (hbehind : before ≤ after + 2 ^ 63) :
    tools.isLessThanInHalfRing (.ofNat before) (.ofNat after) = true ↔ before < after := by
  rw [h.halfRing, UInt64.toNat_sub, UInt64.toNat_ofNat', UInt64.toNat_ofNat']
  omega

theorem Lawful.not_isLess_of_behind (h : tools.Lawful seqs) {before after : Nat} (hle : after ≤ before)
    (hreach : (before - after) % 2 ^ 64 ≤ 2 ^ 63) : tools.isLessThanInHalfRing (.ofNat before) (.ofNat after) = false := by
  rw [← Bool.not_eq_true, h.halfRing, UInt64.toNat_sub, UInt64.toNat_ofNat', UInt64.toNat_ofNat']
  omega

/-- The range count is exact where the recorder holds a number beyond the range. -/
theorem Lawful.count_eq (h : tools.Lawful seqs) {recorder : Recorder} {low high : UInt64} {beyond : Nat}
    (hbeyond : beyond ∈ seqs recorder) (hhigh : high.toNat ≤ beyond) :
    tools.recordedNumInRange recorder low high
      = ((seqs recorder).filter fun seq => low.toNat ≤ seq ∧ seq < high.toNat).card := by
  have hmax := h.le_max recorder beyond hbeyond
  rw [h.count, min_eq_left (hhigh.trans hmax)]

theorem seqs_foldl_record (hrecord : ∀ recorder seq, seqs (tools.record recorder seq) = insert seq.toNat (seqs recorder))
    (recorded : List UInt64) (recorder : Recorder) :
    seqs (recorded.foldl tools.record recorder) = seqs recorder ∪ (recorded.map UInt64.toNat).toFinset := by
  induction recorded generalizing recorder with
  | nil => simp
  | cons seq recorded ih =>
    rw [List.foldl_cons, ih, hrecord, List.map_cons, List.toFinset_cons, Finset.insert_union, Finset.union_insert]

theorem Lawful.seqs_foldl_record (h : tools.Lawful seqs) (recorded : List UInt64) (recorder : Recorder) :
    seqs (recorded.foldl tools.record recorder) = seqs recorder ∪ (recorded.map UInt64.toNat).toFinset :=
  SeqTools.seqs_foldl_record h.record recorded recorder

/-- The recorder is a set that knows its maximum, which is 0 where nothing is recorded. -/
structure ActsAsSet (tools : SeqTools Recorder) (seqs : Recorder → Finset Nat) : Prop where
  record : ∀ recorder seq, seqs (tools.record recorder seq) = insert seq.toNat (seqs recorder)
  has : ∀ recorder seq, tools.has recorder seq = true ↔ seq.toNat ∈ seqs recorder
  reset : ∀ recorder, seqs (tools.reset recorder) = ∅
  max : ∀ recorder, (tools.maxSeqRecorded recorder).toNat = (seqs recorder).sup id

theorem ActsAsSet.le_max (h : tools.ActsAsSet seqs) {recorder : Recorder} {seq : Nat} (hseq : seq ∈ seqs recorder) :
    seq ≤ (tools.maxSeqRecorded recorder).toNat := by
  have hle : id seq ≤ (seqs recorder).sup id := Finset.le_sup hseq
  rw [h.max]
  exact hle

/-- The largest 64-bit number is the maximum exactly where it is recorded. -/
theorem ActsAsSet.max_lt_iff (h : tools.ActsAsSet seqs) (recorder : Recorder) :
    (tools.maxSeqRecorded recorder).toNat + 1 < 2 ^ 64 ↔ 2 ^ 64 - 1 ∉ seqs recorder := by
  have hlt := (tools.maxSeqRecorded recorder).toNat_lt
  constructor
  · intro hmax hmem
    have hle := h.le_max hmem
    omega
  · intro hno
    by_contra hmax
    have htop : (seqs recorder).sup id = 2 ^ 64 - 1 := by
      rw [← h.max]
      omega
    have hne : (seqs recorder).Nonempty := by
      rw [Finset.nonempty_iff_ne_empty]
      intro hempty
      rw [hempty, Finset.sup_empty, Nat.bot_eq_zero] at htop
      omega
    obtain ⟨seq, hseq, heq⟩ := Finset.exists_mem_eq_sup (seqs recorder) hne id
    rw [htop] at heq
    exact hno (heq ▸ hseq)

/-! ### A recorder -/

/-- The highest of some numbers, 0 where there are none. -/
def highest (recorder : List UInt64) : Nat := recorder.foldr (fun seq most => max seq.toNat most) 0

theorem le_highest {recorder : List UInt64} {seq : UInt64} (h : seq ∈ recorder) : seq.toNat ≤ highest recorder := by
  induction recorder with
  | nil => exact absurd h List.not_mem_nil
  | cons first rest ih =>
    rw [highest, List.foldr_cons]
    rcases List.mem_cons.mp h with rfl | hrest
    · exact le_max_left _ _
    · exact (ih hrest).trans (le_max_right _ _)

theorem highest_mem {recorder : List UInt64} (h : recorder ≠ []) : ∃ seq ∈ recorder, seq.toNat = highest recorder := by
  induction recorder with
  | nil => exact absurd rfl h
  | cons first rest ih =>
    rw [highest, List.foldr_cons, ← highest]
    rcases le_total (highest rest) first.toNat with hle | hle
    · exact ⟨first, List.mem_cons_self, (max_eq_left hle).symm⟩
    · rcases eq_or_ne rest [] with rfl | hne
      · exact ⟨first, List.mem_cons_self, (max_eq_left (Nat.zero_le _)).symm⟩
      · obtain ⟨seq, hseq, heq⟩ := ih hne
        exact ⟨seq, List.mem_cons_of_mem first hseq, heq.trans (max_eq_right hle).symm⟩

/-- A recorder that keeps every recorded number in a list. -/
def ofLists : SeqTools (List UInt64) where
  record recorder seq := seq :: recorder
  has recorder seq := decide (seq ∈ recorder)
  reset _ := []
  maxSeqRecorded recorder := .ofNat (highest recorder)
  recordedNumInRange recorder low high :=
    ((recorder.map UInt64.toNat).filter fun seq =>
      low.toNat ≤ seq ∧ seq < min high.toNat (UInt64.ofNat (highest recorder)).toNat).dedup.length
  isLessThanInHalfRing before after := 0 < (after - before).toNat ∧ (after - before).toNat < 2 ^ 63

theorem highest_lt (recorder : List UInt64) : highest recorder < 2 ^ 64 := by
  rcases eq_or_ne recorder [] with rfl | hne
  · exact Nat.two_pow_pos 64
  · obtain ⟨seq, _, heq⟩ := highest_mem hne
    exact heq ▸ seq.toNat_lt

theorem toNat_maxSeqRecorded (recorder : List UInt64) :
    (ofLists.maxSeqRecorded recorder).toNat = highest recorder := by
  show (UInt64.ofNat (highest recorder)).toNat = highest recorder
  rw [UInt64.toNat_ofNat', Nat.mod_eq_of_lt (highest_lt recorder)]

theorem ofLists_lawful : ofLists.Lawful fun recorder => (recorder.map UInt64.toNat).toFinset where
  record recorder seq := by
    show ((seq :: recorder).map UInt64.toNat).toFinset = _
    rw [List.map_cons, List.toFinset_cons]
  has recorder seq := by
    show decide (seq ∈ recorder) = true ↔ _
    rw [decide_eq_true_iff, List.mem_toFinset, List.mem_map]
    constructor
    · intro h
      exact ⟨seq, h, rfl⟩
    · rintro ⟨other, hother, heq⟩
      exact UInt64.toNat_inj.mp heq ▸ hother
  reset recorder := rfl
  max_mem recorder hne := by
    have hnil : recorder ≠ [] := by
      rintro rfl
      exact Finset.not_nonempty_empty hne
    rw [toNat_maxSeqRecorded, List.mem_toFinset, List.mem_map]
    exact highest_mem hnil
  le_max recorder seq hseq := by
    obtain ⟨word, hword, rfl⟩ := List.mem_map.mp (List.mem_toFinset.mp hseq)
    rw [toNat_maxSeqRecorded]
    exact le_highest hword
  count recorder low high := by
    show List.length (List.dedup _) = _
    rw [← List.card_toFinset]
    congr 1
    ext seq
    simp only [List.mem_toFinset, List.mem_filter, Finset.mem_filter, decide_eq_true_eq]
    rfl
  halfRing before after := decide_eq_true_iff

theorem sup_toFinset (recorder : List UInt64) : (recorder.map UInt64.toNat).toFinset.sup id = highest recorder := by
  induction recorder with
  | nil => rfl
  | cons seq rest ih =>
    rw [List.map_cons, List.toFinset_cons, Finset.sup_insert, ih]
    rfl

theorem ofLists_actsAsSet : ofLists.ActsAsSet fun recorder => (recorder.map UInt64.toNat).toFinset where
  record := ofLists_lawful.record
  has := ofLists_lawful.has
  reset := ofLists_lawful.reset
  max recorder := by rw [toNat_maxSeqRecorded, sup_toFinset]

end SeqTools
