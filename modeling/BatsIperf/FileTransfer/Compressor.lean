import BatsIperf.Common

/-!
# The compressor

`IperfCompressor` wraps the functions of the compression library, which are not part of the repository. They are a parameter here, together with what the transfer relies on.
-/

namespace BatsIperf

/-- The four library functions in use. Two calls on one input may differ, so a compression has a number. A result of `none` is an error state. -/
structure Density where
  compressSafeSize : Nat → Nat
  decompressSafeSize : Nat → Nat
  compress : Nat → Octets → Nat → Option Octets
  decompress : Octets → Nat → Option Octets

/-- What the library guarantees: a result can be decompressed into a buffer of the safe size, which exceeds the size of the data by a constant slack. -/
structure Density.Lawful (density : Density) : Prop where
  inverts : ∀ {call : Nat} {input output : Octets} {outLength size : Nat},
    density.compress call input outLength = some output → density.decompressSafeSize input.length ≤ size →
      density.decompress output size = some input
  slack : ∀ size, density.decompressSafeSize size ≤ size + 360

/-- The library when every call ends in an error state. -/
def Density.failing : Density where
  compressSafeSize := fun size => size + 256
  decompressSafeSize := fun size => size + 256
  compress := fun _ _ _ => none
  decompress := fun _ _ => none

theorem Density.failing_lawful : Density.failing.Lawful where
  inverts := fun h => absurd h (by simp [Density.failing])
  slack := fun size => by simp [Density.failing]

namespace IperfCompressor

/-- The bytes written, none of them where the call fails. -/
def compress (density : Density) (call : Nat) (input : Octets) (outLength : Int) : Octets :=
  if input = [] ∨ outLength ≤ 0 then []
  else if outLength.toNat < density.compressSafeSize input.length then []
  else (density.compress call input outLength.toNat).getD []

/-- The safe size is asked for the length of the compressed data. -/
def decompress (density : Density) (input : Octets) (outLength : Int) : Octets :=
  if input = [] ∨ outLength ≤ 0 then []
  else if outLength.toNat < density.decompressSafeSize input.length then []
  else (density.decompress input outLength.toNat).getD []

/-- Data that was compressed to at most its own length comes back from a buffer with room for the slack. -/
theorem decompress_compress {density : Density} (hlawful : density.Lawful) {call : Nat} {input : Octets}
    {outLength size : Int} (hwritten : compress density call input outLength ≠ [])
    (hshort : (compress density call input outLength).length ≤ input.length) (hsize : input.length + 360 ≤ size) :
    decompress density (compress density call input outLength) size = input := by
  obtain ⟨output, houtput, hcompress⟩ : ∃ output, compress density call input outLength = output ∧
      density.compress call input outLength.toNat = some output := by
    unfold compress at hwritten ⊢
    split at hwritten
    · exact absurd rfl hwritten
    split at hwritten
    · exact absurd rfl hwritten
    cases hresult : density.compress call input outLength.toNat with
    | none => exact absurd (by rw [hresult]; rfl) hwritten
    | some output =>
      rw [if_neg (by assumption), if_neg (by assumption)]
      exact ⟨output, rfl, rfl⟩
  rw [houtput] at hwritten hshort ⊢
  have hroom := hlawful.slack output.length
  have hinput := hlawful.slack input.length
  have hopen : ¬ (output = [] ∨ size ≤ 0) := by
    rintro (hnil | hneg)
    · exact hwritten hnil
    · omega
  rw [decompress, if_neg hopen, if_neg (by omega), hlawful.inverts hcompress (by omega), Option.getD_some]

end IperfCompressor

end BatsIperf
