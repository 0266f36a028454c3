import BatsIperf.FileTransfer.FileSession
import Mathlib.Algebra.Order.BigOperators.Group.Finset

/-!
# The space a request asks for

The sender adds the sizes of its files and sends the sum in two halves, and the receiver puts them together and compares with its free space.
-/

namespace BatsIperf

open Octets

namespace IperfFileTransfer

/-! ### The sum of the sizes -/

/-- The size of a file, and 0 for one that cannot be read. -/
def readableSize (disk : Disk) (file : Path) : Nat := (disk file).elim 0 List.length

/-- The sizes of the distinct readable files of a list. -/
def readableBytes (disk : Disk) (files : List Path) : Nat := ∑ file ∈ files.toFinset, readableSize disk file

theorem readableSize_lt {disk : Disk} {files : List Path} {bound : Nat} (h : readableBytes disk files < bound)
    {file : Path} (hfile : file ∈ files) : readableSize disk file < bound := by
  refine lt_of_le_of_lt ?_ h
  exact Finset.single_le_sum (fun _ _ => Nat.zero_le _) (List.mem_toFinset.mpr hfile)

theorem sum_uniqueFiles {disk : Disk} {files : List Path} (hsmall : ∀ file ∈ files, readableSize disk file < 2 ^ 63)
    (id : Nat) (seen : List Path) :
    ((uniqueFiles disk id seen files).map File.fileSz).sum =
      (∑ file ∈ files.toFinset \ seen.toFinset, readableSize disk file : Nat) := by
  induction files generalizing id seen with
  | nil => simp [uniqueFiles]
  | cons file rest ih =>
    have hrest (other : Path) (hother : other ∈ rest) := hsmall other (List.mem_cons_of_mem file hother)
    rw [uniqueFiles, List.toFinset_cons]
    split
    · rename_i hseen
      rw [ih hrest, Finset.insert_sdiff_of_mem _ (List.mem_toFinset.mpr hseen)]
    · rename_i hnew
      have hsplit : ∑ other ∈ insert file rest.toFinset \ seen.toFinset, readableSize disk other =
          readableSize disk file + ∑ other ∈ rest.toFinset \ (file :: seen).toFinset, readableSize disk other := by
        rw [Finset.insert_sdiff_of_notMem _ (mt List.mem_toFinset.mp hnew), List.toFinset_cons, Finset.sdiff_insert,
          ← Finset.erase_insert_eq_erase, Finset.add_sum_erase _ _ (Finset.mem_insert_self _ _)]
      split
      · rename_i content hcontent
        have hsize : readableSize disk file = content.length := by rw [readableSize, hcontent, Option.elim_some]
        have hfits := hsmall file List.mem_cons_self
        rw [List.map_cons, List.sum_cons, ih hrest, hsplit, hsize, Narrowing.signed_of_lt (by omega) (by omega)]
        push_cast
        rfl
      · rename_i hnone
        have hsize : readableSize disk file = 0 := by rw [readableSize, hnone, Option.elim_none]
        rw [ih hrest, hsplit, hsize, Nat.zero_add]

theorem announcedBytes_sender {disk : Disk} {config : TestConfig} (h : readableBytes disk config.files < 2 ^ 63)
    (testId : UInt32) : announcedBytes (sender disk config testId).testConfig = readableBytes disk config.files := by
  have hsum : (sender disk config testId).testConfig.totalBytesInFiles = (readableBytes disk config.files : Int) := by
    change ((uniqueFiles disk 0 [] config.files).map File.fileSz).sum = _
    rw [sum_uniqueFiles (fun file hfile => readableSize_lt h hfile), List.toFinset_nil, Finset.sdiff_empty, readableBytes]
  rw [announcedBytes, hsum, Narrowing.unsigned_of_lt (by omega)]

/-! ### The two halves -/

theorem requestHeader_halves (test : IperfFileTransfer) :
    test.requestHeader.param1 = Narrowing.highHalf (.ofInt test.testConfig.totalBytesInFiles) ∧
      test.requestHeader.param2 = Narrowing.lowHalf (.ofInt test.testConfig.totalBytesInFiles) :=
  ⟨(Narrowing.highHalf_ofInt _).symm, (Narrowing.lowHalf_ofInt _).symm⟩

/-- What the receiver shifts and joins, converted for the comparison with its free space. -/
theorem joinHalves_requestHeader (test : IperfFileTransfer) :
    (Narrowing.joinHalves test.requestHeader.param1 test.requestHeader.param2).toUInt64.toNat =
      announcedBytes test.testConfig := by
  rw [Narrowing.toNat_joinHalves, announcedBytes_eq]

/-! ### The answer -/

def IsAccept (response : Octets) : Prop :=
  IperfControlData.actionCodeAt response = some 4 ∧ IperfControlData.param0At response = some 0

theorem isAccept_iff (test : IperfFileTransfer) (denied : Bool) (rest : Octets) :
    IsAccept ((test.responseHeader denied).encode ++ rest) ↔ denied = false := by
  have hfields := IperfControlData.fields_of_decode (IperfControlData.decode_encode (test.responseHeader denied) rest)
  rw [IsAccept, hfields.actionCode, hfields.param0]
  cases denied <;> simp [responseHeader]

theorem lacksSpace_eq_false_iff (available totalBytes : Nat) :
    lacksSpace (some available) totalBytes = false ↔ totalBytes < available := by
  rw [lacksSpace, Option.any_some, decide_eq_false_iff_not, Nat.not_le]

/-- The sender sends one request and the receiver one response, which accepts exactly where the free space is larger than the sum of the sizes of the distinct readable files. -/
theorem accepts_iff_space {senderDisk : Disk} {config : TestConfig} {testId : UInt32} (hid : testId ≠ 0)
    {server : IperfFileTransfer} (hsame : server.testId = testId)
    (hsum : readableBytes senderDisk config.files < 2 ^ 63) (available : Nat) :
    ∃ client request next response,
      (FileSession.requester senderDisk config testId).ctrlChannelEstablished = .ok (client, [request]) ∧
        server.handleControlMessage request (some available) = .ok (next, [response]) ∧
          (IsAccept response ↔ readableBytes senderDisk config.files < available) := by
  have hannounced : announcedBytes (FileSession.requester senderDisk config testId).testConfig
      = readableBytes senderDisk config.files := announcedBytes_sender hsum testId
  refine ⟨_, _, _, _, sendFileTransferRequest_eq hid rfl, handleControlMessage_request hid hsame.symm _ _, ?_⟩
  rw [isAccept_iff, ← lacksSpace_eq_false_iff, ← hannounced]

/-- A disk on which every file but one has two bytes. -/
def pairDisk : Disk := fun file => if file = ofText "c" then none else some [1, 2]

/-- One path is listed twice, and one cannot be read. -/
def listedConfig : TestConfig where
  role := .roleFileSender
  files := [ofText "a", ofText "b", ofText "a", ofText "c"]

theorem accepts_iff_space_five :
    ∃ client request next response,
      (FileSession.requester pairDisk listedConfig 7).ctrlChannelEstablished = .ok (client, [request]) ∧
        (receiver { role := .roleReceiver } 7).handleControlMessage request (some 5) = .ok (next, [response]) ∧
          IsAccept response := by
  have hbytes : readableBytes pairDisk listedConfig.files = 4 := by decide
  have hsum : readableBytes pairDisk listedConfig.files < 2 ^ 63 := by
    rw [hbytes]
    decide
  obtain ⟨client, request, next, response, hrequest, hresponse, haccepts⟩ :=
    @accepts_iff_space pairDisk listedConfig 7 (by decide) (receiver { role := .roleReceiver } 7) rfl hsum 5
  refine ⟨client, request, next, response, hrequest, hresponse, haccepts.mpr ?_⟩
  rw [hbytes]
  decide

end IperfFileTransfer

end BatsIperf
