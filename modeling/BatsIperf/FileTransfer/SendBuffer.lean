import BatsIperf.FileTransfer.BlockData

/-!
# The writes to the send buffer

One pass of the chunk loop writes the block header, in the first block the meta data, and behind them the data of the file, read in place or compressed or copied where the compression does not pay. The assert in front of the read bounds the length that is read, and the data is written behind the front of the block.
-/

namespace BatsIperf

open Octets

namespace IperfFileTransfer

/-- A write of `length` bytes at `offset`. -/
structure BufferWrite where
  offset : Nat
  length : Nat
  deriving DecidableEq

def BufferWrite.Inside (write : BufferWrite) : Prop := write.offset + write.length ≤ maxSendBufSz

instance (write : BufferWrite) : Decidable write.Inside := inferInstanceAs (Decidable (_ ≤ _))

/-- The writes of the data of a block behind its front. The library may use all the room it is given for a compression. -/
def dataWrites (config : TestConfig) (density : Density) (call : Nat) (data : Octets) (front : Nat) : List BufferWrite :=
  if config.isCompressionEnabled then
    if data = [] then []
    else
      let compressed := compressedData config density call data front
      let fallback := compressed = [] ∨ data.length < compressed.length
      { offset := front, length := maxSendBufSz - front } ::
        if fallback then [{ offset := front, length := data.length }] else []
  else [{ offset := front, length := data.length }]

/-- The writes to `send_buf` in one pass of the chunk loop, in their order. -/
def blockWrites (config : TestConfig) (density : Density) (locals : SendLocals) (idealBufferLength : Int) (call : Nat)
    (reads : Bool) : List BufferWrite :=
  let data := nextData config locals idealBufferLength reads
  { offset := 0, length := 1 } ::
    (if locals.sentBytes = 0 then [{ offset := 1, length := FileMeta.size }] else []) ++
      dataWrites config density call data (frontLength locals.sentBytes)

theorem frontLength_le (sentBytes : UInt64) : frontLength sentBytes ≤ 361 := by
  unfold frontLength
  split <;> decide

theorem front_inside {sentBytes : UInt64} {write : BufferWrite}
    (h : write ∈ ({ offset := 0, length := 1 } : BufferWrite) ::
      (if sentBytes = 0 then [{ offset := 1, length := FileMeta.size }] else [])) : write.Inside := by
  rcases List.mem_cons.mp h with rfl | h
  · decide
  · split at h
    · obtain rfl := List.mem_singleton.mp h
      decide
    · exact absurd h List.not_mem_nil

/-- The writes of the data end inside the buffer where the block is packed inside it. -/
theorem dataWrites_inside_iff {config : TestConfig} {density : Density} {call : Nat} {data : Octets} {front : Nat}
    (hfront : front ≤ maxSendBufSz) (hdata : data ≠ []) (ideal : Int) :
    (∀ write ∈ dataWrites config density call data front, write.Inside) ↔
      Fault.Avoids .outOfBounds (packData config density call data front ideal) := by
  have hroom : front + (maxSendBufSz - front) ≤ maxSendBufSz := (Nat.add_sub_cancel' hfront).le
  have hfits : Fault.Avoids .outOfBounds (Fault.require .outOfBounds (front + data.length ≤ maxSendBufSz) >>= fun _ =>
      pure (false, data)) ↔ front + data.length ≤ maxSendBufSz := by
    rw [Fault.Avoids, ne_eq, Fault.bind_eq_error_iff_of_next fun _ => Fault.avoids_pure _, Fault.require_eq_error,
      not_not]
  unfold dataWrites packData
  by_cases hcompress : config.isCompressionEnabled = true
  · rw [if_pos hcompress, if_neg hdata]
    dsimp only
    split
    · rw [hfits]
      simp [BufferWrite.Inside, hroom]
    · refine iff_of_true ?_ ((Fault.avoids_require (by decide) _).bind fun _ => Fault.avoids_pure _)
      simp [BufferWrite.Inside, hroom]
  · have hnone : compressedData config density call data front = [] := if_neg hcompress
    rw [if_neg hcompress]
    dsimp only
    rw [hnone, if_pos (.inl rfl), hfits]
    simp [BufferWrite.Inside]

theorem blockWrites_inside_iff {config : TestConfig} {density : Density} {locals : SendLocals} {idealBufferLength : Int}
    {call : Nat} {reads : Bool} :
    (∀ write ∈ blockWrites config density locals idealBufferLength call reads, write.Inside) ↔
      ∀ write ∈ dataWrites config density call (nextData config locals idealBufferLength reads)
        (frontLength locals.sentBytes), write.Inside := by
  unfold blockWrites
  dsimp only
  rw [List.forall_mem_append]
  exact and_iff_right fun write => front_inside

/-- The writes of a pass whose read passes the assert end inside the buffer exactly where the block is built inside it. -/
theorem blockWrites_avoids_iff {config : TestConfig} {density : Density} {locals : SendLocals} {idealBufferLength : Int}
    (hassert : Narrowing.unsigned 64 (idealFileReadLen locals.sentBytes idealBufferLength) ≤ maxSendBufSz)
    (header : FileBkHeader) (call : Nat) (reads : Bool) :
    (∀ write ∈ blockWrites config density locals idealBufferLength call reads, write.Inside) ↔
      Fault.Avoids .outOfBounds (buildBlock config density header locals idealBufferLength call reads) := by
  have hfront : frontLength locals.sentBytes ≤ maxSendBufSz := (frontLength_le _).trans (by decide)
  rw [blockWrites_inside_iff, buildBlock]
  dsimp only
  rw [Fault.require_of_true hassert, Fault.ok_bind]
  change _ ↔ Fault.Avoids _ (if nextData config locals idealBufferLength reads = [] then _ else _)
  by_cases hdata : nextData config locals idealBufferLength reads = []
  · rw [if_pos hdata, hdata]
    refine iff_of_true ?_ (Fault.avoids_pure _)
    unfold dataWrites
    split
    · simp
    · simpa [BufferWrite.Inside] using hfront
  · rw [if_neg hdata, dataWrites_inside_iff hfront hdata (idealFileReadLen locals.sentBytes idealBufferLength),
      length_blockFront rfl]
    unfold Fault.Avoids
    rw [ne_eq, ne_eq, Fault.bind_eq_error_iff_of_next fun _ => Fault.avoids_pure _]
    rfl

/-! ### The lengths for which the writes stay inside -/

theorem length_nextData_le {config : TestConfig} {locals : SendLocals} {idealBufferLength : Int} {reads : Bool} :
    (nextData config locals idealBufferLength reads).length
      ≤ (idealFileReadLen locals.sentBytes idealBufferLength).toNat := by
  have hactual : (if config.isCompressionEnabled then
      min (idealFileReadLen locals.sentBytes idealBufferLength) (maxCompressBufSz : Int)
      else idealFileReadLen locals.sentBytes idealBufferLength).toNat
        ≤ (idealFileReadLen locals.sentBytes idealBufferLength).toNat := by
    split
    · exact Int.toNat_le_toNat (min_le_left _ _)
    · exact Nat.le_refl _
  unfold nextData FileReader.read
  dsimp only
  split
  · exact (List.length_take_le _ _).trans hactual
  · exact Nat.zero_le _

/-- The variables of a thread in front of a file that is longer than any block. -/
def longLocals (sentBytes : UInt64) : SendLocals :=
  { openLocals (fun _ => none) 0 { path := [] } (List.replicate maxSendBufSz 0) with sentBytes := sentBytes }

theorem length_nextData_long {sentBytes : UInt64} {idealBufferLength : Int}
    (hassert : Narrowing.unsigned 64 (idealFileReadLen sentBytes idealBufferLength) ≤ maxSendBufSz)
    (hpos : 0 < idealFileReadLen sentBytes idealBufferLength) (config : TestConfig) :
    (nextData config (longLocals sentBytes) idealBufferLength true).length
      = (idealFileReadLen sentBytes idealBufferLength).toNat := by
  have hmax : maxSendBufSz = 300000 := rfl
  have hcompress : (maxCompressBufSz : Int) = 300000 := rfl
  have hrange : idealFileReadLen sentBytes idealBufferLength < 2 ^ 31 := by
    unfold idealFileReadLen
    split <;> exact (Narrowing.signed32_mem _).2
  have hle : idealFileReadLen sentBytes idealBufferLength ≤ 300000 := by
    rw [Narrowing.unsigned, Int.emod_eq_of_lt (by omega) (by omega)] at hassert
    omega
  have hactual : (if config.isCompressionEnabled then
      min (idealFileReadLen sentBytes idealBufferLength) (maxCompressBufSz : Int)
      else idealFileReadLen sentBytes idealBufferLength) = idealFileReadLen sentBytes idealBufferLength := by
    split
    · exact min_eq_left (by omega)
    · rfl
  unfold nextData longLocals FileReader.read
  dsimp only [openLocals]
  rw [hactual, if_pos rfl, List.length_take, List.length_replicate]
  omega

theorem dataWrites_inside {config : TestConfig} {density : Density} {call : Nat} {data : Octets} {front : Nat}
    (hfits : front + data.length ≤ maxSendBufSz) :
    ∀ write ∈ dataWrites config density call data front, write.Inside := by
  have hroom : front + (maxSendBufSz - front) ≤ maxSendBufSz := by omega
  intro write hmem
  unfold dataWrites at hmem
  split at hmem
  · split at hmem
    · exact absurd hmem List.not_mem_nil
    · rcases List.mem_cons.mp hmem with rfl | hmem
      · exact hroom
      · split at hmem
        · obtain rfl := List.mem_singleton.mp hmem
          exact hfits
        · exact absurd hmem List.not_mem_nil
  · obtain rfl := List.mem_singleton.mp hmem
    exact hfits

/-- Where no compression succeeds, the data is copied or read behind the front. -/
theorem dataWrites_copies (config : TestConfig) (call : Nat) {data : Octets} (hdata : data ≠ []) (front : Nat) :
    ({ offset := front, length := data.length } : BufferWrite) ∈ dataWrites config .failing call data front := by
  have hnone : compressedData config .failing call data front = [] := by
    unfold compressedData IperfCompressor.compress Density.failing
    simp
  unfold dataWrites
  by_cases hcompress : config.isCompressionEnabled = true
  · rw [if_pos hcompress, if_neg hdata]
    dsimp only
    rw [hnone, if_pos (.inl rfl)]
    exact List.mem_cons_of_mem _ List.mem_cons_self
  · rw [if_neg hcompress]
    exact List.mem_cons_self

/-- Whatever is read and however it is compressed, a block stays inside exactly where its longest read does behind its front. -/
theorem writes_inside_iff {config : TestConfig} {sentBytes : UInt64} {idealBufferLength : Int}
    (hassert : Narrowing.unsigned 64 (idealFileReadLen sentBytes idealBufferLength) ≤ maxSendBufSz)
    (hpos : 0 < idealFileReadLen sentBytes idealBufferLength) :
    (∀ (density : Density) (locals : SendLocals) (call : Nat) (reads : Bool), locals.sentBytes = sentBytes →
        ∀ write ∈ blockWrites config density locals idealBufferLength call reads, write.Inside) ↔
      frontLength sentBytes + idealFileReadLen sentBytes idealBufferLength ≤ maxSendBufSz := by
  constructor
  · intro hall
    have hlength := length_nextData_long hassert hpos config
    have hdata : nextData config (longLocals sentBytes) idealBufferLength true ≠ [] := by
      rw [← List.length_pos_iff, hlength]
      omega
    have hinside := blockWrites_inside_iff.mp (hall .failing (longLocals sentBytes) 0 true rfl)
    have hwrite : frontLength sentBytes + (nextData config (longLocals sentBytes) idealBufferLength true).length
        ≤ maxSendBufSz := hinside _ (dataWrites_copies config 0 hdata (frontLength sentBytes))
    omega
  · rintro hfits density locals call reads rfl
    have hlength : (nextData config locals idealBufferLength reads).length
        ≤ (idealFileReadLen locals.sentBytes idealBufferLength).toNat := length_nextData_le
    exact blockWrites_inside_iff.mpr (dataWrites_inside (by omega))

/-- The buffer lengths for which a block of a file asks for at least one byte and stays inside the buffer. -/
def BufferLengthFits (sentBytes : UInt64) (idealBufferLength : Int) : Prop :=
  if sentBytes = 0 then 362 ≤ idealBufferLength ∧ idealBufferLength ≤ 300000
  else 361 ≤ idealBufferLength ∧ idealBufferLength ≤ 300359

instance (sentBytes : UInt64) (idealBufferLength : Int) : Decidable (BufferLengthFits sentBytes idealBufferLength) := by
  unfold BufferLengthFits
  infer_instance

/-- For a buffer length whose read passes the assert, a block asks for at least one byte and every write of it stays inside the buffer, compressed or not, exactly in these ranges. -/
theorem block_writes_fit_iff {sentBytes : UInt64} {idealBufferLength : Int} (hpos : 0 < idealBufferLength)
    (hint : idealBufferLength < 2 ^ 31)
    (hassert : Narrowing.unsigned 64 (idealFileReadLen sentBytes idealBufferLength) ≤ maxSendBufSz)
    (config : TestConfig) :
    (0 < idealFileReadLen sentBytes idealBufferLength ∧
      ∀ (density : Density) (locals : SendLocals) (call : Nat) (reads : Bool), locals.sentBytes = sentBytes →
        ∀ write ∈ blockWrites config density locals idealBufferLength call reads, write.Inside) ↔
      BufferLengthFits sentBytes idealBufferLength := by
  have hmax : maxSendBufSz = 300000 := rfl
  have hsize : (FileMeta.size : Int) = 360 := rfl
  have hranges : 0 < idealFileReadLen sentBytes idealBufferLength ∧
      frontLength sentBytes + idealFileReadLen sentBytes idealBufferLength ≤ maxSendBufSz ↔
        BufferLengthFits sentBytes idealBufferLength := by
    unfold BufferLengthFits idealFileReadLen frontLength
    split
    · rw [hsize, Narrowing.signed_of_lt (by omega) (by omega)]
      have hfront : ((1 + FileMeta.size : Nat) : Int) = 361 := rfl
      rw [hfront]
      omega
    · rw [hsize, Narrowing.signed_of_lt (by omega) (by omega)]
      omega
  rw [← hranges]
  exact and_congr_right fun hread => writes_inside_iff hassert hread

theorem block_writes_fit_iff_mtu :
    0 < idealFileReadLen 0 1400 ∧ ∀ (density : Density) (locals : SendLocals) (call : Nat) (reads : Bool),
      locals.sentBytes = 0 → ∀ write ∈ blockWrites { isCompressionEnabled := true } density locals 1400 call reads,
        write.Inside :=
  (block_writes_fit_iff (by decide) (by decide) (by decide) _).mpr (by decide)

/-- The assert passes for a length of 361, of which the first block reads nothing, and for one of 300001, of which it reads one byte behind the end of the buffer. -/
theorem block_writes_outside_counterexample :
    (Narrowing.unsigned 64 (idealFileReadLen 0 361) ≤ maxSendBufSz ∧ idealFileReadLen 0 361 = 0) ∧
      Narrowing.unsigned 64 (idealFileReadLen 0 300001) ≤ maxSendBufSz ∧
      ∃ write ∈ blockWrites {} .failing (longLocals 0) 300001 0 true, ¬ write.Inside := by
  refine ⟨by decide, by decide, ?_⟩
  have hlength := length_nextData_long (show Narrowing.unsigned 64 (idealFileReadLen 0 300001) ≤ maxSendBufSz by decide)
    (by decide) {}
  have hdata : nextData {} (longLocals 0) 300001 true ≠ [] := by
    rw [← List.length_pos_iff, hlength]
    decide
  refine ⟨_, List.mem_append_right _ (dataWrites_copies {} 0 hdata (frontLength 0)), ?_⟩
  unfold BufferWrite.Inside
  rw [hlength]
  decide

end IperfFileTransfer

end BatsIperf
