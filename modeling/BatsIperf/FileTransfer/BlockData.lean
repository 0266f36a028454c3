import BatsIperf.FileTransfer.SendingThread

/-!
# What a block is built from

A block takes the next bytes of the file, as many as the buffer length allows, and ends the read of the file when there are fewer. The lemmas of this module are all that the rest of the development uses of `buildBlock`.
-/

namespace BatsIperf

open Octets

namespace IperfFileTransfer

/-! ### The queue -/

theorem mem_uniqueFiles {disk : Disk} {file : File} {files : List Path} {id : Nat} {seen : List Path}
    (h : file ∈ uniqueFiles disk id seen files) :
    file.path ∉ seen ∧ file.barId < id + files.length ∧
      ∃ content, disk file.path = some content ∧ file.fileSz = Narrowing.signed 64 content.length := by
  induction files generalizing id seen with
  | nil => exact absurd h List.not_mem_nil
  | cons path rest ih =>
    rw [uniqueFiles] at h
    rw [List.length_cons]
    split at h
    · obtain ⟨hseen, hid, hcontent⟩ := ih h
      exact ⟨hseen, by omega, hcontent⟩
    · rename_i hnew
      split at h
      · rename_i content hdisk
        rcases List.mem_cons.mp h with rfl | h
        · exact ⟨hnew, Nat.lt_add_of_pos_right (Nat.succ_pos _), content, hdisk, by dsimp only⟩
        · obtain ⟨hseen, hid, hcontent⟩ := ih h
          exact ⟨fun hmem => hseen (List.mem_cons_of_mem _ hmem), by omega, hcontent⟩
      · obtain ⟨hseen, hid, hcontent⟩ := ih h
        exact ⟨fun hmem => hseen (List.mem_cons_of_mem _ hmem), by omega, hcontent⟩

theorem fileSz_of_mem {disk : Disk} {config : TestConfig} {testId : UInt32} {file : File} {content : Octets}
    (h : file ∈ (sender disk config testId).pendingFiles) (hcontent : disk file.path = some content) :
    file.fileSz = Narrowing.signed 64 content.length := by
  obtain ⟨_, _, found, hfound, hsize⟩ := mem_uniqueFiles h
  obtain rfl := Option.some.inj (hfound.symm.trans hcontent)
  exact hsize

/-! ### The block -/

/-- The bytes in front of the data: block header and, in the first block, meta data. -/
def frontLength (sentBytes : UInt64) : Nat := if sentBytes = 0 then 1 + FileMeta.size else 1

theorem length_blockFront {header : FileBkHeader} {fileMeta : FileMeta} {sentBytes : UInt64}
    (hsyn : header.syn = decide (sentBytes = 0)) : (blockFront header fileMeta).length = frontLength sentBytes := by
  rw [blockFront, frontLength, List.length_append, hsyn]
  by_cases hfirst : sentBytes = 0
  · simp [hfirst, FileMeta.length_encode, FileBkHeader.encode]
  · simp [hfirst, FileBkHeader.encode]

/-- A buffer length with room for at least one byte of the file and for at most what the send buffer takes. -/
structure Usable (sentBytes : UInt64) (idealBufferLength : Int) : Prop where
  pos : 0 < idealFileReadLen sentBytes idealBufferLength
  fits : frontLength sentBytes + idealFileReadLen sentBytes idealBufferLength ≤ maxSendBufSz

theorem usable_of_mem {idealBufferLength : Int} (hlow : 362 ≤ idealBufferLength) (hhigh : idealBufferLength ≤ 300000)
    (sentBytes : UInt64) : Usable sentBytes idealBufferLength := by
  have hsize : (FileMeta.size : Int) = 360 := rfl
  by_cases hfirst : sentBytes = 0
  · have hlen : idealFileReadLen sentBytes idealBufferLength = idealBufferLength - 361 := by
      rw [idealFileReadLen, if_pos hfirst, hsize, Narrowing.signed_of_lt (by omega) (by omega)]
      omega
    refine ⟨by omega, ?_⟩
    rw [hlen, frontLength, if_pos hfirst]
    simp only [FileMeta.size, maxSendBufSz]
    omega
  · have hlen : idealFileReadLen sentBytes idealBufferLength = idealBufferLength - 360 := by
      rw [idealFileReadLen, if_neg hfirst, hsize, Narrowing.signed_of_lt (by omega) (by omega)]
    refine ⟨by omega, ?_⟩
    rw [hlen, frontLength, if_neg hfirst]
    simp only [maxSendBufSz]
    omega

theorem idealFileReadLen_le {idealBufferLength : Int} (hlow : 362 ≤ idealBufferLength)
    (hhigh : idealBufferLength ≤ 300000) (sentBytes : UInt64) :
    (idealFileReadLen sentBytes idealBufferLength).toNat + 360 ≤ 300000 := by
  have hsize : (FileMeta.size : Int) = 360 := rfl
  unfold idealFileReadLen
  split
  · rw [hsize, Narrowing.signed_of_lt (by omega) (by omega)]
    omega
  · rw [hsize, Narrowing.signed_of_lt (by omega) (by omega)]
    omega

/-- What stands for the data in a block: the data, or a compression of it that is not longer. -/
inductive Packed (density : Density) (data : Octets) : Bool → Octets → Prop
  | raw : Packed density data false data
  | compressed {call : Nat} {outLength : Int} (hwritten : IperfCompressor.compress density call data outLength ≠ [])
      (hshort : (IperfCompressor.compress density call data outLength).length ≤ data.length) :
      Packed density data true (IperfCompressor.compress density call data outLength)

theorem packData_packed (density : Density) {data : Octets} {front : Nat} {ideal : Int}
    (hfits : front + data.length ≤ maxSendBufSz) (hread : data.length ≤ Narrowing.unsigned 64 ideal)
    (config : TestConfig) (call : Nat) :
    ∃ hasComp packed, packData config density call data front ideal = .ok (hasComp, packed) ∧
      Packed density data hasComp packed := by
  rw [packData]
  split
  · rw [Fault.require_of_true hfits]
    exact ⟨false, data, rfl, .raw⟩
  · rename_i hused
    obtain ⟨hwritten, hshort⟩ := not_or.mp hused
    have hshort := Nat.le_of_not_lt hshort
    rw [Fault.require_of_true (hshort.trans hread)]
    refine ⟨true, _, rfl, ?_⟩
    unfold compressedData at hwritten hshort ⊢
    split at hwritten
    · rename_i henabled
      rw [if_pos henabled] at hshort ⊢
      exact .compressed hwritten hshort
    · exact absurd rfl hwritten

/-- The variables of the thread after it has read `count` bytes. -/
def readLocals (locals : SendLocals) (count : Nat) : SendLocals :=
  { locals with reader := (locals.reader.read count true).2 }

theorem unsigned64_of_usable {sentBytes : UInt64} {idealBufferLength : Int} (h : Usable sentBytes idealBufferLength) :
    Narrowing.unsigned 64 (idealFileReadLen sentBytes idealBufferLength)
      = (idealFileReadLen sentBytes idealBufferLength).toNat := by
  have hpos := h.pos
  have hfits := h.fits
  have hmax : maxSendBufSz = 300000 := rfl
  rw [Narrowing.unsigned, Int.emod_eq_of_lt (by omega) (by omega)]

theorem actual_eq {sentBytes : UInt64} {idealBufferLength : Int} (h : Usable sentBytes idealBufferLength)
    (config : TestConfig) :
    (if config.isCompressionEnabled then min (idealFileReadLen sentBytes idealBufferLength) maxCompressBufSz
      else idealFileReadLen sentBytes idealBufferLength) = idealFileReadLen sentBytes idealBufferLength := by
  have hfits := h.fits
  have hmax : (maxCompressBufSz : Int) = maxSendBufSz := rfl
  split
  · rw [min_eq_left]
    omega
  · rfl

/-- At the end of the file nothing is built, and the next read would find the end. -/
theorem buildBlock_end {locals : SendLocals} {idealBufferLength : Int} (h : Usable locals.sentBytes idealBufferLength)
    (hend : locals.reader.rest = []) (config : TestConfig) (density : Density) (header : FileBkHeader) (call : Nat) :
    buildBlock config density header locals idealBufferLength call true
      = .ok ({ header with syn := decide (locals.sentBytes = 0), hasComp := config.isCompressionEnabled },
        { locals with reader := { locals.reader with eof := true } }, none) := by
  have hassert : Narrowing.unsigned 64 (idealFileReadLen locals.sentBytes idealBufferLength) ≤ maxSendBufSz := by
    have hfits := h.fits
    rw [unsigned64_of_usable h]
    omega
  have hpos := h.pos
  have hread : locals.reader.read (idealFileReadLen locals.sentBytes idealBufferLength).toNat true
      = ([], { locals.reader with eof := true }) := by
    have hshort : decide (locals.reader.rest.length < (idealFileReadLen locals.sentBytes idealBufferLength).toNat) = true := by
      rw [hend, decide_eq_true_eq, List.length_nil]
      omega
    rw [FileReader.read, if_pos rfl, hshort, hend, List.take_nil, List.drop_nil, Bool.or_true]
    exact congrArg (fun rest => ([], FileReader.mk rest true locals.reader.bad)) hend.symm
  rw [buildBlock]
  dsimp only
  rw [Fault.require_of_true hassert, Fault.ok_bind, actual_eq h, hread]
  rfl

theorem buildBlock_data {locals : SendLocals} {idealBufferLength : Int} (h : Usable locals.sentBytes idealBufferLength)
    (hrest : locals.reader.rest ≠ []) (config : TestConfig) (density : Density) (header : FileBkHeader) (call : Nat) :
    ∃ count hasComp packed, 0 < count ∧ count = (idealFileReadLen locals.sentBytes idealBufferLength).toNat ∧
      Packed density (locals.reader.rest.take count) hasComp packed ∧
      let next := { header with
        syn := decide (locals.sentBytes = 0)
        fin := isLastBlock locals (locals.reader.rest.take count).length
        hasComp := hasComp }
      buildBlock config density header locals idealBufferLength call true
        = .ok (next, readLocals locals count,
          some (blockFront next locals.fileMeta ++ packed, (locals.reader.rest.take count).length)) := by
  have hpos := h.pos
  have hfits := h.fits
  have hunsigned := unsigned64_of_usable h
  have hassert : Narrowing.unsigned 64 (idealFileReadLen locals.sentBytes idealBufferLength) ≤ maxSendBufSz := by
    rw [hunsigned]
    omega
  have hcount : 0 < (idealFileReadLen locals.sentBytes idealBufferLength).toNat := by omega
  have hnonempty : locals.reader.rest.take (idealFileReadLen locals.sentBytes idealBufferLength).toNat ≠ [] := by
    rw [ne_eq, List.take_eq_nil_iff]
    rintro (hzero | hnil)
    · omega
    · exact hrest hnil
  have hlength : (locals.reader.rest.take (idealFileReadLen locals.sentBytes idealBufferLength).toNat).length
      ≤ (idealFileReadLen locals.sentBytes idealBufferLength).toNat := by
    rw [List.length_take]
    omega
  have hroom : frontLength locals.sentBytes
      + (locals.reader.rest.take (idealFileReadLen locals.sentBytes idealBufferLength).toNat).length ≤ maxSendBufSz := by
    omega
  obtain ⟨hasComp, packed, hpack, hpacked⟩ := packData_packed density hroom (hlength.trans_eq hunsigned.symm) config call
  refine ⟨_, hasComp, packed, hcount, rfl, hpacked, ?_⟩
  rw [buildBlock]
  dsimp only
  rw [Fault.require_of_true hassert, Fault.ok_bind, actual_eq h, FileReader.read, if_pos rfl]
  dsimp only
  rw [if_neg hnonempty, length_blockFront rfl, hpack]
  rfl

/-- The data the next block takes from the file, for any buffer length. -/
def nextData (config : TestConfig) (locals : SendLocals) (idealBufferLength : Int) (reads : Bool) : Octets :=
  let ideal := idealFileReadLen locals.sentBytes idealBufferLength
  let actual := if config.isCompressionEnabled then min ideal maxCompressBufSz else ideal
  (locals.reader.read actual.toNat reads).1

theorem buildBlock_built {config : TestConfig} {density : Density} {header next : FileBkHeader}
    {locals after : SendLocals} {idealBufferLength : Int} {call : Nat} {reads : Bool} {built : Option (Octets × Nat)}
    (h : buildBlock config density header locals idealBufferLength call reads = .ok (next, after, built)) :
    built = none ↔ nextData config locals idealBufferLength reads = [] := by
  obtain ⟨_, _, h⟩ := Fault.bind_eq_ok.mp h
  change (if nextData config locals idealBufferLength reads = [] then _ else _) = _ at h
  split at h
  · rename_i hdata
    obtain ⟨_, hlocals⟩ := Prod.mk.inj (Fault.pure_eq_ok.mp h)
    exact iff_of_true (Prod.mk.inj hlocals).2.symm hdata
  · rename_i hdata
    obtain ⟨⟨hasComp, packed⟩, _, h⟩ := Fault.bind_eq_ok.mp h
    obtain ⟨_, hlocals⟩ := Prod.mk.inj (Fault.pure_eq_ok.mp h)
    refine iff_of_false ?_ hdata
    rw [← (Prod.mk.inj hlocals).2]
    exact Option.some_ne_none _

theorem avoids_buildBlock (config : TestConfig) (density : Density) (header : FileBkHeader) (locals : SendLocals)
    (idealBufferLength : Int) (call : Nat) (reads : Bool) :
    Fault.Avoids .nullPointer (buildBlock config density header locals idealBufferLength call reads) := by
  have hpack (data : Octets) (front : Nat) (ideal : Int) :
      Fault.Avoids .nullPointer (packData config density call data front ideal) := by
    unfold packData
    dsimp only
    split <;> exact (Fault.avoids_require (by decide) _).bind fun _ => Fault.avoids_pure _
  refine (Fault.avoids_require (by decide) _).bind fun _ => ?_
  change Fault.Avoids _ (if nextData config locals idealBufferLength reads = [] then _ else _)
  split
  · exact Fault.avoids_pure _
  · exact (hpack _ _ _).bind fun _ => Fault.avoids_pure _

theorem advance_toNat {locals : SendLocals} {nread : Nat} (h : locals.sentBytes.toNat + nread < 2 ^ 64) :
    (advance locals nread).sentBytes.toNat = locals.sentBytes.toNat + nread := by
  have hfits : nread < UInt64.size := (Nat.le_add_left nread _).trans_lt h
  have hread : (UInt64.ofNat nread).toNat = nread := UInt64.toNat_ofNat_of_lt' hfits
  rw [advance, UInt64.toNat_add, hread, Nat.mod_eq_of_lt h]

theorem decode_blockFront (header : FileBkHeader) (fileMeta : FileMeta) (packed : Octets) :
    FileBkHeader.decode (blockFront header fileMeta ++ packed)
      = some (header, (if header.syn then fileMeta.encode else []) ++ packed) := by
  rw [blockFront, List.append_assoc, FileBkHeader.decode_encode]

end IperfFileTransfer

end BatsIperf
