import BatsIperf.Common

/-!
# The blocks of a file

A file travels as a sequence of blocks. Each starts with one byte of flags; the first block of a file also carries its meta data.
-/

namespace BatsIperf

open Octets

def batsIperfFileCode : UInt64 := 0xa1b2ffff626174
def maxHashLength : Nat := 64
def maxNameLength : Nat := 256
def maxExtensionLength : Nat := 16

/-- The flags of a block. `fileSeq` is the place of the file in the list of the sender. -/
structure FileBkHeader where
  syn : Bool := false
  fin : Bool := false
  hasSum : Bool := false
  hasComp : Bool := false
  fileSeq : BitVec 4 := 0
  deriving DecidableEq

namespace FileBkHeader

def encode (header : FileBkHeader) : Octets :=
  [.ofNat (header.syn.toNat + 2 * header.fin.toNat + 4 * header.hasSum.toNat + 8 * header.hasComp.toNat
    + 16 * header.fileSeq.toNat)]

def decode (block : Octets) : Option (FileBkHeader × Octets) := do
  let (flags, rest) ← nextLE 1 block
  return ({ syn := flags.testBit 0, fin := flags.testBit 1, hasSum := flags.testBit 2, hasComp := flags.testBit 3
            fileSeq := .ofNat 4 (flags / 16) }, rest)

theorem decode_encode_nil : ∀ (syn fin hasSum hasComp : Bool) (fileSeq : BitVec 4),
    decode (FileBkHeader.mk syn fin hasSum hasComp fileSeq).encode = some (⟨syn, fin, hasSum, hasComp, fileSeq⟩, []) := by
  decide +kernel

theorem decode_cons (flags : UInt8) (rest : Octets) :
    decode (flags :: rest) = (decode [flags]).map fun read => (read.1, rest) := rfl

theorem decode_encode (header : FileBkHeader) (rest : Octets) :
    decode (header.encode ++ rest) = some (header, rest) := by
  obtain ⟨syn, fin, hasSum, hasComp, fileSeq⟩ := header
  have hbyte := decode_encode_nil syn fin hasSum hasComp fileSeq
  rw [encode] at hbyte ⊢
  rw [List.singleton_append, decode_cons, hbyte, Option.map_some]

theorem reads_decode : Reads 1 decode := (reads_nextLE 1).bind fun _ => reads_pure _

end FileBkHeader

/-- The meta data of a file. `compression` and `reserved` are always sent as zero. -/
structure FileMeta where
  magic : UInt64 := batsIperfFileCode
  streamIdentifier : UInt64
  compression : BitVec 3 := 0
  reserved : BitVec 5 := 0
  fileLength : BitVec 56
  sha256sum : CharArray maxHashLength
  fileName : CharArray maxNameLength
  fileExtension : CharArray maxExtensionLength
  deriving DecidableEq

namespace FileMeta

def size : Nat := 360

def lengthWord (fileMeta : FileMeta) : Nat :=
  fileMeta.compression.toNat + 8 * (fileMeta.reserved.toNat + 32 * fileMeta.fileLength.toNat)

def encode (fileMeta : FileMeta) : Octets :=
  leBytes 8 fileMeta.magic.toNat ++ (leBytes 8 fileMeta.streamIdentifier.toNat ++ (leBytes 8 fileMeta.lengthWord ++
    (fileMeta.sha256sum.bytes ++ (fileMeta.fileName.bytes ++ fileMeta.fileExtension.bytes))))

def decode (block : Octets) : Option (FileMeta × Octets) := do
  let (magic, rest) ← nextLE 8 block
  let (streamIdentifier, rest) ← nextLE 8 rest
  let (word, rest) ← nextLE 8 rest
  let (sha256sum, rest) ← nextArray maxHashLength rest
  let (fileName, rest) ← nextArray maxNameLength rest
  let (fileExtension, rest) ← nextArray maxExtensionLength rest
  return ({ magic := .ofNat magic, streamIdentifier := .ofNat streamIdentifier
            compression := .ofNat 3 word, reserved := .ofNat 5 (word / 8), fileLength := .ofNat 56 (word / 256)
            sha256sum := sha256sum, fileName := fileName, fileExtension := fileExtension }, rest)

theorem length_encode (fileMeta : FileMeta) : fileMeta.encode.length = size := by
  simp only [encode, List.length_append, length_leBytes, fileMeta.sha256sum.length_bytes,
    fileMeta.fileName.length_bytes, fileMeta.fileExtension.length_bytes]
  rfl

theorem reads_decode : Reads size decode :=
  (reads_nextLE 8).bind fun _ => (reads_nextLE 8).bind fun _ => (reads_nextLE 8).bind fun _ =>
    (reads_nextArray maxHashLength).bind fun _ => (reads_nextArray maxNameLength).bind fun _ =>
      (reads_nextArray maxExtensionLength).bind fun _ => reads_pure _

theorem lengthWord_lt (fileMeta : FileMeta) : fileMeta.lengthWord < 256 ^ 8 := by
  have hcompression := fileMeta.compression.isLt
  have hreserved := fileMeta.reserved.isLt
  have hlength := fileMeta.fileLength.isLt
  rw [lengthWord]
  omega

theorem compression_lengthWord (fileMeta : FileMeta) : BitVec.ofNat 3 fileMeta.lengthWord = fileMeta.compression := by
  apply BitVec.eq_of_toNat_eq
  have hcompression := fileMeta.compression.isLt
  rw [BitVec.toNat_ofNat, lengthWord]
  omega

theorem reserved_lengthWord (fileMeta : FileMeta) : BitVec.ofNat 5 (fileMeta.lengthWord / 8) = fileMeta.reserved := by
  apply BitVec.eq_of_toNat_eq
  have hcompression := fileMeta.compression.isLt
  have hreserved := fileMeta.reserved.isLt
  rw [BitVec.toNat_ofNat, lengthWord]
  omega

theorem fileLength_lengthWord (fileMeta : FileMeta) :
    BitVec.ofNat 56 (fileMeta.lengthWord / 256) = fileMeta.fileLength := by
  apply BitVec.eq_of_toNat_eq
  have hcompression := fileMeta.compression.isLt
  have hreserved := fileMeta.reserved.isLt
  have hlength := fileMeta.fileLength.isLt
  rw [BitVec.toNat_ofNat, lengthWord]
  omega

theorem decode_encode (fileMeta : FileMeta) (rest : Octets) :
    decode (fileMeta.encode ++ rest) = some (fileMeta, rest) := by
  simp only [decode, encode, List.append_assoc, nextLE_leBytes_append, nextArray_append, Option.bind_eq_bind,
    Option.bind_some, uint64_word, Nat.mod_eq_of_lt fileMeta.lengthWord_lt, compression_lengthWord,
    reserved_lengthWord, fileLength_lengthWord]
  rfl

/-- What a receiver reads of the meta data and what follows it. Of the extension, which is the last field, nothing is read behind its first NUL, so a block may end there. -/
def read (block : Octets) : Option (FileMeta × Octets) :=
  if size ≤ block.length ∨ 0 ∈ block.drop (size - maxExtensionLength) then
    decode (block ++ List.replicate (size - block.length) 0)
  else none

theorem read_of_decode {block rest : Octets} {fileMeta : FileMeta} (h : decode block = some (fileMeta, rest)) :
    read block = some (fileMeta, rest) := by
  have hsize : size ≤ block.length := (reads_decode.rest_eq h).1
  rw [read, if_pos (.inl hsize), Nat.sub_eq_zero_of_le hsize, List.replicate_zero, List.append_nil, h]

/-- The meta data is read inside a block that holds all of it, or the end of the extension. -/
theorem read_eq_none_iff {block : Octets} :
    read block = none ↔ block.length < size ∧ 0 ∉ block.drop (size - maxExtensionLength) := by
  unfold read
  split
  · rename_i hinside
    rw [reads_decode.eq_none_iff, List.length_append, List.length_replicate]
    apply iff_of_false
    · omega
    · rintro ⟨hshort, hnul⟩
      exact hinside.elim (fun hsize => absurd hsize (by omega)) hnul
  · rename_i houtside
    simpa [not_or] using houtside

/-- `ReadFileNames`: the name and the extension, each up to its first NUL. -/
def readFileNames (fileMeta : FileMeta) : Octets × Octets :=
  (untilNul fileMeta.fileName.bytes, untilNul fileMeta.fileExtension.bytes)

end FileMeta

end BatsIperf
