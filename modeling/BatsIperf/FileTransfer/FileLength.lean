import BatsIperf.FileTransfer.BlockData

/-!
# The announced length and the last block

A run of the sending loop without errors, from the file a thread has fetched to the point where it asks for the next one. The size of the file is narrowed to `int` on the way, so the length it announces and the block it calls the last are those of the file for some sizes only.
-/

namespace BatsIperf

open Octets

/-- A block and the number of bytes of the file that have been sent once it is. -/
structure SentBlock where
  bytes : Octets
  sentBytes : UInt64
  deriving DecidableEq

namespace SentBlock

def isFin (block : SentBlock) : Bool := (FileBkHeader.decode block.bytes).any fun read => read.1.fin

/-- The length in the meta data of the first block. -/
def announcedLength (sent : List SentBlock) : Option Nat := do
  let first ← sent.head?
  let (header, rest) ← FileBkHeader.decode first.bytes
  if header.syn then
    let (fileMeta, _) ← FileMeta.decode rest
    return fileMeta.fileLength.toNat
  else none

/-- The only block with `fin` is one after which the size is reached. -/
def FinishesOnce (size : Nat) (sent : List SentBlock) : Prop :=
  ∃ last, sent.filter isFin = [last] ∧ last.sentBytes.toNat = size

/-- The size is announced, and the only block with `fin` is one after which it is reached. -/
structure AnnouncesSize (size : Nat) (sent : List SentBlock) : Prop where
  announced : announcedLength sent = some size
  fin : ∃ last, sent.filter isFin = [last] ∧ last.sentBytes.toNat = size

end SentBlock

namespace IperfFileTransfer

/-- The stream when the thread loads the buffer length, which may be another one for every block. -/
def loadIdeal (ideal : UInt64 → Int) (stream : FileStream) : FileStream :=
  match stream.thread with
  | .build locals => { stream with idealBufferLength := ideal locals.sentBytes }
  | _ => stream

def sentIn (result : ThreadResult) : List SentBlock :=
  match result.accepted, result.stream.thread with
  | some block, .innerHead locals => [{ bytes := block, sentBytes := locals.sentBytes }]
  | _, _ => []

/-- The blocks a thread sends until it is back at the head of its outer loop, with every answer a success. -/
def errorFreeRun (disk : Disk) (density : Density) (test : IperfFileTransfer) (ideal : UInt64 → Int) :
    Nat → FileStream → Except Fault (List SentBlock)
  | 0, _ => .error .noProgress
  | fuel + 1, stream =>
    if stream.thread = .outerHead then .ok []
    else do
      let result ← threadStep disk density test (loadIdeal ideal stream) { call := fuel }
      let rest ← errorFreeRun disk density test ideal fuel result.stream
      return sentIn result ++ rest

structure Undisturbed (test : IperfFileTransfer) (stream : FileStream) : Prop where
  running : test.state ≠ .testDone
  isConnected : stream.isConnected = true
  isWritable : stream.isWritable = true
  noError : stream.hasErrInSend = false
  stream : stream.stream = true

theorem Undisturbed.built {test : IperfFileTransfer} {stream : FileStream} (h : Undisturbed test stream)
    (idealBufferLength : Int) (header : FileBkHeader) :
    Undisturbed test { stream with idealBufferLength := idealBufferLength, bkHeader := header } :=
  ⟨h.running, h.isConnected, h.isWritable, h.noError, h.stream⟩

section Run

variable {disk : Disk} {density : Density} {test : IperfFileTransfer} {ideal : UInt64 → Int}

theorem errorFreeRun_move {stream next : FileStream} {point : ThreadPoint} (houter : stream.thread ≠ .outerHead)
    {fuel : Nat} (hstep : threadStep disk density test (loadIdeal ideal stream) { call := fuel }
      = .ok (test.moveTo next point)) :
    errorFreeRun disk density test ideal (fuel + 1) stream
      = errorFreeRun disk density test ideal fuel { next with thread := point } := by
  rw [errorFreeRun, if_neg houter, hstep, Fault.ok_bind]
  change (errorFreeRun disk density test ideal fuel { next with thread := point } >>= fun rest => .ok rest) = _
  cases errorFreeRun disk density test ideal fuel { next with thread := point } <;> rfl

theorem errorFreeRun_end {stream : FileStream} {locals : SendLocals} (hthread : stream.thread = .innerHead locals)
    (heof : locals.reader.eof = true) {fuel : Nat} (hfuel : 2 ≤ fuel) :
    errorFreeRun disk density test ideal fuel stream = .ok [] := by
  obtain ⟨fuel, rfl⟩ := Nat.exists_eq_add_of_le' hfuel
  have houter : stream.thread ≠ .outerHead := by
    rw [hthread]
    exact ThreadPoint.noConfusion
  have hstep : threadStep disk density test (loadIdeal ideal stream) { call := fuel + 1 }
      = .ok (test.moveTo stream .outerHead) := by
    rw [loadIdeal, hthread]
    dsimp only
    rw [threadStep, hthread]
    simp only [heof, Bool.true_eq_false, false_and, if_false]
  rw [errorFreeRun_move houter hstep]
  rfl

/-- The three steps from the head of the inner loop to the point where the block is built. -/
theorem errorFreeRun_build {stream : FileStream} {locals : SendLocals} (hquiet : Undisturbed test stream)
    (heof : locals.reader.eof = false) (hbad : locals.reader.bad = false) (fuel : Nat) :
    errorFreeRun disk density test ideal (fuel + 3) { stream with thread := .innerHead locals }
      = errorFreeRun disk density test ideal fuel { stream with thread := .build locals } := by
  have hactive : test.isInActive stream = true := by
    simp [isInActive, hquiet.isConnected, hquiet.running]
  have hhead : threadStep disk density test { stream with thread := .innerHead locals } { call := fuel + 2 }
      = .ok (test.moveTo { stream with thread := .innerHead locals } (.innerCheck locals)) := by
    change Except.ok (test.moveTo _ (if locals.reader.eof = false ∧ test.isInActive stream then _ else _)) = _
    rw [if_pos ⟨heof, hactive⟩]
  have hcheck : threadStep disk density test { stream with thread := .innerCheck locals } { call := fuel + 1 }
      = .ok (test.moveTo { stream with thread := .innerCheck locals } (.waitWritable locals)) := by
    change Except.ok (test.moveTo _ (if locals.reader.bad ∨ stream.hasErrInSend then _ else _)) = _
    rw [if_neg (by simp [hbad, hquiet.noError])]
  have hwait : threadStep disk density test { stream with thread := .waitWritable locals } { call := fuel }
      = .ok (test.moveTo { stream with thread := .waitWritable locals } (.build locals)) := by
    change (if stream.isWritable ∨ _ ∨ _ then _ else _) = _
    rw [if_pos (.inl hquiet.isWritable)]
  rw [errorFreeRun_move ThreadPoint.noConfusion hhead, errorFreeRun_move ThreadPoint.noConfusion hcheck,
    errorFreeRun_move ThreadPoint.noConfusion hwait]

theorem errorFreeRun_send {stream : FileStream} {locals next : SendLocals} {header : FileBkHeader} {block : Octets}
    {nread fuel : Nat} (hquiet : Undisturbed test stream)
    (hbuild : buildBlock test.testConfig density stream.bkHeader locals (ideal locals.sentBytes) (fuel + 1) true
      = .ok (header, next, some (block, nread))) {rest : List SentBlock}
    (hrest : errorFreeRun disk density test ideal fuel { stream with
      idealBufferLength := ideal locals.sentBytes, bkHeader := header, thread := .innerHead (advance next nread) }
      = .ok rest) :
    errorFreeRun disk density test ideal (fuel + 2) { stream with thread := .build locals }
      = .ok ({ bytes := block, sentBytes := (advance next nread).sentBytes } :: rest) := by
  have hbuilt : threadStep disk density test (loadIdeal ideal { stream with thread := .build locals })
      { call := fuel + 1 } = .ok (test.moveTo { stream with
        idealBufferLength := ideal locals.sentBytes, bkHeader := header, thread := .build locals }
        (.sending next block nread)) := by
    change (buildBlock test.testConfig density stream.bkHeader locals (ideal locals.sentBytes) (fuel + 1) true >>= _) = _
    rw [hbuild]
    rfl
  rw [errorFreeRun_move ThreadPoint.noConfusion hbuilt, errorFreeRun, if_neg ThreadPoint.noConfusion]
  change (Fault.require .nullPointer (stream.stream = true) >>= _) >>= _ = _
  rw [Fault.require_of_true hquiet.stream, Fault.ok_bind]
  change (errorFreeRun disk density test ideal fuel { stream with
    idealBufferLength := ideal locals.sentBytes, bkHeader := header, thread := .innerHead (advance next nread) } >>= _) = _
  rw [hrest]
  rfl

theorem errorFreeRun_nothing {stream : FileStream} {locals next : SendLocals} {header : FileBkHeader} {fuel : Nat}
    (hbuild : buildBlock test.testConfig density stream.bkHeader locals (ideal locals.sentBytes) fuel true
      = .ok (header, next, none)) :
    errorFreeRun disk density test ideal (fuel + 1) { stream with thread := .build locals }
      = errorFreeRun disk density test ideal fuel { stream with
          idealBufferLength := ideal locals.sentBytes, bkHeader := header, thread := .innerHead next } := by
  have hbuilt : threadStep disk density test (loadIdeal ideal { stream with thread := .build locals })
      { call := fuel } = .ok (test.moveTo { stream with
        idealBufferLength := ideal locals.sentBytes, bkHeader := header, thread := .build locals }
        (.innerHead next)) := by
    change (buildBlock test.testConfig density stream.bkHeader locals (ideal locals.sentBytes) fuel true >>= _) = _
    rw [hbuild]
    rfl
  rw [errorFreeRun_move ThreadPoint.noConfusion hbuilt]

/-! ### All blocks of a file -/

/-- What the rest of a file becomes: the blocks marked as last, the block that is the last, and the announcement. -/
structure SendsRest (locals : SendLocals) (sent : List SentBlock) : Prop where
  fin : ∀ block ∈ sent, block.isFin =
    decide (block.sentBytes = .ofNat (Narrowing.unsigned 64 locals.totalFileLength))
  nothing : locals.reader.rest = [] → sent = []
  last : locals.reader.rest ≠ [] → ∃ before last, sent = before ++ [last] ∧
    last.sentBytes.toNat = locals.sentBytes.toNat + locals.reader.rest.length ∧
    ∀ block ∈ before, block.sentBytes.toNat < locals.sentBytes.toNat + locals.reader.rest.length
  first : locals.reader.rest ≠ [] → locals.sentBytes = 0 →
    SentBlock.announcedLength sent = some locals.fileMeta.fileLength.toNat

theorem sendsRest_nil {locals : SendLocals} (hrest : locals.reader.rest = []) : SendsRest locals [] where
  fin := fun _ h => absurd h List.not_mem_nil
  nothing := fun _ => rfl
  last := fun h => absurd hrest h
  first := fun h => absurd hrest h

theorem sendsRest_cons {locals : SendLocals} {count : Nat} {header : FileBkHeader} {packed : Octets}
    {rest : List SentBlock} (hrest : locals.reader.rest ≠ []) (hsum : locals.sentBytes.toNat + locals.reader.rest.length < 2 ^ 64)
    (hsyn : header.syn = decide (locals.sentBytes = 0))
    (hfin : header.fin = isLastBlock locals (locals.reader.rest.take count).length)
    (h : SendsRest (advance (readLocals locals count) (locals.reader.rest.take count).length) rest) :
    SendsRest locals ({ bytes := blockFront header locals.fileMeta ++ packed
                        sentBytes := (advance (readLocals locals count)
                          (locals.reader.rest.take count).length).sentBytes } :: rest) := by
  have hlength : (locals.reader.rest.take count).length = min count locals.reader.rest.length := List.length_take
  have hnonempty : 0 < locals.reader.rest.length := List.length_pos_iff.mpr hrest
  have hfirst : (advance (readLocals locals count) (locals.reader.rest.take count).length).sentBytes.toNat
      = locals.sentBytes.toNat + (locals.reader.rest.take count).length := advance_toNat (by
    change locals.sentBytes.toNat + _ < _
    omega)
  have hdrop : (advance (readLocals locals count) (locals.reader.rest.take count).length).reader.rest
      = locals.reader.rest.drop count := rfl
  have hdropLength : (locals.reader.rest.drop count).length = locals.reader.rest.length - count := List.length_drop
  refine ⟨?_, fun hnil => absurd hnil hrest, fun _ => ?_, fun _ hzero => ?_⟩
  · intro block hmem
    rcases List.mem_cons.mp hmem with rfl | hmem
    · rw [SentBlock.isFin, decode_blockFront, Option.any_some, hfin]
      rfl
    · exact h.fin block hmem
  · by_cases hend : locals.reader.rest.drop count = []
    · rw [h.nothing hend]
      refine ⟨[], _, rfl, ?_, fun _ hmem => absurd hmem List.not_mem_nil⟩
      rw [hend, List.length_nil] at hdropLength
      rw [hfirst]
      omega
    · obtain ⟨before, last, rfl, hlast, hbefore⟩ := h.last (hdrop ▸ hend)
      rw [hfirst, hdrop] at hlast hbefore
      have hpos : 0 < (locals.reader.rest.drop count).length := List.length_pos_iff.mpr hend
      refine ⟨_ :: before, last, rfl, by omega, fun block hmem => ?_⟩
      rcases List.mem_cons.mp hmem with rfl | hmem
      · rw [hfirst]
        omega
      · have hlt := hbefore block hmem
        omega
  · rw [SentBlock.announcedLength, List.head?_cons, Option.bind_eq_bind, Option.bind_some]
    dsimp only
    rw [decode_blockFront, Option.bind_eq_bind, Option.bind_some]
    dsimp only
    rw [hsyn, decide_eq_true hzero, if_pos rfl, if_pos rfl, FileMeta.decode_encode]
    rfl

/-- By induction on what is left of the file, one block at a time. -/
theorem errorFreeRun_sends (husable : ∀ sentBytes, Usable sentBytes (ideal sentBytes)) (n : Nat) :
    ∀ {stream : FileStream} {locals : SendLocals} {fuel : Nat}, Undisturbed test stream →
      locals.reader.eof = false → locals.reader.bad = false → locals.reader.rest.length ≤ n → 5 * n + 6 ≤ fuel →
      locals.sentBytes.toNat + locals.reader.rest.length < 2 ^ 64 →
      ∃ sent, errorFreeRun disk density test ideal fuel { stream with thread := .innerHead locals } = .ok sent ∧
        SendsRest locals sent := by
  induction n with
  | zero =>
    intro stream locals fuel hquiet heof hbad hlength hfuel _
    obtain ⟨fuel, rfl⟩ := Nat.exists_eq_add_of_le' hfuel
    have hrest : locals.reader.rest = [] := List.length_eq_zero_iff.mp (by omega)
    have hbuild := buildBlock_end (husable locals.sentBytes) hrest test.testConfig density stream.bkHeader (fuel + 2)
    refine ⟨[], ?_, sendsRest_nil hrest⟩
    rw [errorFreeRun_build hquiet heof hbad, errorFreeRun_nothing hbuild]
    exact errorFreeRun_end rfl rfl (by omega)
  | succ n ih =>
    intro stream locals fuel hquiet heof hbad hlength hfuel hsum
    obtain ⟨fuel, rfl⟩ := Nat.exists_eq_add_of_le' (show 5 ≤ fuel by omega)
    by_cases hrest : locals.reader.rest = []
    · have hbuild := buildBlock_end (husable locals.sentBytes) hrest test.testConfig density stream.bkHeader (fuel + 1)
      refine ⟨[], ?_, sendsRest_nil hrest⟩
      rw [errorFreeRun_build hquiet heof hbad, errorFreeRun_nothing hbuild]
      exact errorFreeRun_end rfl rfl (by omega)
    · obtain ⟨count, hasComp, packed, hcount, _, _, hbuild⟩ := buildBlock_data (husable locals.sentBytes) hrest
        test.testConfig density stream.bkHeader (fuel + 1)
      have hnext : ∃ sent, errorFreeRun disk density test ideal fuel { stream with
          idealBufferLength := ideal locals.sentBytes
          bkHeader := { stream.bkHeader with
            syn := decide (locals.sentBytes = 0)
            fin := isLastBlock locals (locals.reader.rest.take count).length
            hasComp := hasComp }
          thread := .innerHead (advance (readLocals locals count) (locals.reader.rest.take count).length) } = .ok sent ∧
          SendsRest (advance (readLocals locals count) (locals.reader.rest.take count).length) sent := by
        by_cases hend : locals.reader.rest.length < count
        · refine ⟨[], errorFreeRun_end rfl ?_ (by omega), sendsRest_nil ?_⟩
          · change (locals.reader.eof || decide (locals.reader.rest.length < count)) = true
            rw [decide_eq_true hend, Bool.or_true]
          · exact List.drop_eq_nil_of_le hend.le
        · have hchunk : (locals.reader.rest.take count).length = count := List.length_take_of_le (by omega)
          have hleft : (locals.reader.rest.drop count).length = locals.reader.rest.length - count := List.length_drop
          have hsent := advance_toNat (show (readLocals locals count).sentBytes.toNat + count < 2 ^ 64 by
            change locals.sentBytes.toNat + _ < _
            omega)
          rw [hchunk]
          refine ih (hquiet.built (ideal locals.sentBytes) _) ?_ hbad ?_ ?_ ?_
          · change (locals.reader.eof || decide (locals.reader.rest.length < count)) = false
            rw [heof, decide_eq_false hend, Bool.or_false]
          · change (locals.reader.rest.drop count).length ≤ n
            omega
          · omega
          · rw [hsent]
            change locals.sentBytes.toNat + count + (locals.reader.rest.drop count).length < _
            omega
      obtain ⟨sent, hsent, hsends⟩ := hnext
      have hrun := errorFreeRun_send hquiet hbuild hsent
      rw [errorFreeRun_build hquiet heof hbad]
      exact ⟨_, hrun, sendsRest_cons hrest hsum rfl rfl hsends⟩

theorem unsigned64_signed32_eq_iff {size : Nat} (h : size < 2 ^ 63) :
    Narrowing.unsigned 64 (Narrowing.signed 32 size) = size ↔ size < 2 ^ 31 := by
  have hmem := Narrowing.signed32_mem size
  constructor
  · intro heq
    rw [Narrowing.unsigned] at heq
    omega
  · intro hlt
    rw [Narrowing.signed_of_lt (by omega) (by omega), Narrowing.unsigned_of_lt (by omega)]

/-- The blocks of a whole file mark its end exactly where the length of the code, which has 32 bits, holds its size. -/
theorem SendsRest.finishesOnce_iff {id : UInt32} {file : File} {content : Octets} {sent : List SentBlock}
    (hsends : SendsRest (openLocals disk id file content) sent) (hsize : content.length < 2 ^ 63)
    (hlength : (totalFileLength file : Int) = Narrowing.signed 32 content.length) :
    SentBlock.FinishesOnce content.length sent ↔ 0 < content.length ∧ content.length < 2 ^ 31 := by
  constructor
  · rintro ⟨last, hfilter, hlast⟩
    obtain ⟨hmem, hfin⟩ := List.mem_filter.mp (hfilter ▸ List.mem_singleton_self last)
    have htotal : last.sentBytes = .ofNat (Narrowing.unsigned 64 (Narrowing.signed 32 content.length)) := by
      have hmark := hsends.fin last hmem
      rw [hfin, eq_comm, decide_eq_true_eq] at hmark
      exact hlength ▸ hmark
    have hreached : Narrowing.unsigned 64 (Narrowing.signed 32 content.length) = content.length := by
      rw [htotal, UInt64.toNat_ofNat_of_lt' (Narrowing.unsigned_lt 64 _)] at hlast
      exact hlast
    have hnonempty : content ≠ [] := by
      rintro rfl
      rw [hsends.nothing rfl] at hmem
      exact List.not_mem_nil hmem
    exact ⟨List.length_pos_iff.mpr hnonempty, (unsigned64_signed32_eq_iff hsize).mp hreached⟩
  · rintro ⟨hpos, hlt⟩
    have hnonempty : content ≠ [] := List.length_pos_iff.mp hpos
    have hkept : Narrowing.unsigned 64 (totalFileLength file) = content.length := by
      rw [hlength]
      exact (unsigned64_signed32_eq_iff hsize).mpr hlt
    obtain ⟨before, last, rfl, hlast, hbefore⟩ := hsends.last hnonempty
    have hwrap : content.length < UInt64.size := hlt.trans (by decide)
    have hmark (block : SentBlock) (hmem : block ∈ before ++ [last]) :
        block.isFin = true ↔ block.sentBytes.toNat = content.length := by
      rw [hsends.fin block hmem, decide_eq_true_iff]
      change _ = UInt64.ofNat (Narrowing.unsigned 64 (totalFileLength file)) ↔ _
      rw [hkept, ← UInt64.toNat_inj, UInt64.toNat_ofNat_of_lt' hwrap]
    have hsum' : (openLocals disk id file content).sentBytes.toNat
        + (openLocals disk id file content).reader.rest.length = content.length := Nat.zero_add _
    rw [hsum'] at hlast hbefore
    have hno (block : SentBlock) (hmem : block ∈ before) : ¬ block.isFin = true := by
      rw [hmark block (List.mem_append_left _ hmem)]
      exact (hbefore block hmem).ne
    refine ⟨last, ?_, hlast⟩
    rw [List.filter_append, List.filter_eq_nil_iff.mpr hno, List.nil_append,
      List.filter_singleton, (hmark last (by simp)).mpr hlast]
    rfl

theorem SendsRest.announcesSize_iff {id : UInt32} {file : File} {content : Octets} {sent : List SentBlock}
    (hsends : SendsRest (openLocals disk id file content) sent) (hsize : content.length < 2 ^ 63)
    (hlength : (totalFileLength file : Int) = Narrowing.signed 32 content.length) :
    SentBlock.AnnouncesSize content.length sent ↔ 0 < content.length ∧ content.length < 2 ^ 31 := by
  have hfinishes := hsends.finishesOnce_iff hsize hlength
  refine ⟨fun h => hfinishes.mp h.fin, fun h => ⟨?_, hfinishes.mpr h⟩⟩
  have hkept : Narrowing.unsigned 64 (totalFileLength file) = content.length := by
    rw [hlength]
    exact (unsigned64_signed32_eq_iff hsize).mpr h.2
  rw [hsends.first (List.length_pos_iff.mp h.1) rfl]
  change some (BitVec.ofNat 56 (Narrowing.unsigned 64 (totalFileLength file))).toNat = _
  rw [hkept, BitVec.toNat_ofNat, Nat.mod_eq_of_lt (by omega)]

theorem totalFileLength_of_mem {config : TestConfig} {testId : UInt32} {file : File} {content : Octets}
    (hfile : file ∈ (sender disk config testId).pendingFiles) (hcontent : disk file.path = some content)
    (hsize : content.length < 2 ^ 63) : (totalFileLength file : Int) = Narrowing.signed 32 content.length := by
  have hwide : Narrowing.signed 64 content.length = content.length := Narrowing.signed_of_lt (by omega) (by omega)
  rw [totalFileLength, fileSz_of_mem hfile hcontent, hwide]

/-- An error-free run of a thread that has fetched a file ends, and sends the whole file. -/
theorem errorFreeRun_file {file : File} {content : Octets} (hcontent : disk file.path = some content)
    (hsize : content.length < 2 ^ 63) (husable : ∀ sentBytes, Usable sentBytes (ideal sentBytes)) {stream : FileStream}
    (hquiet : Undisturbed test stream) (hthread : stream.thread = .openFile file) {fuel : Nat}
    (hfuel : 5 * content.length + 7 ≤ fuel) :
    ∃ sent, errorFreeRun disk density test ideal fuel stream = .ok sent ∧
      SendsRest (openLocals disk stream.id file content) sent := by
  obtain ⟨fuel, rfl⟩ := Nat.exists_eq_add_of_le' (show 1 ≤ fuel by omega)
  have hopen : threadStep disk density test (loadIdeal ideal stream) { call := fuel }
      = .ok (test.moveTo { stream with bkHeader := fileBkHeader disk stream.bkHeader file }
        (.innerHead (openLocals disk stream.id file content))) := by
    rw [loadIdeal, hthread]
    dsimp only
    rw [threadStep, hthread]
    simp only [openStep, hcontent]
    rfl
  have hsum : (openLocals disk stream.id file content).sentBytes.toNat + content.length < 2 ^ 64 := by
    change 0 + content.length < _
    omega
  obtain ⟨sent, hsent, hsends⟩ := errorFreeRun_sends husable content.length
    (hquiet.built stream.idealBufferLength (fileBkHeader disk stream.bkHeader file)) rfl rfl le_rfl
    (show 5 * content.length + 6 ≤ fuel by omega) hsum
  refine ⟨sent, ?_, hsends⟩
  rw [errorFreeRun_move (by rw [hthread]; exact ThreadPoint.noConfusion) hopen]
  exact hsent

/-- An error-free run ends. It announces the size of the file and marks the block that reaches it, and no other, for sizes from 1 to 2^31 - 1 and for no others. -/
theorem fileLength_announced_iff {config : TestConfig} {testId : UInt32} {file : File} {content : Octets}
    (hfile : file ∈ (sender disk config testId).pendingFiles) (hcontent : disk file.path = some content)
    (hsize : content.length < 2 ^ 63) (husable : ∀ sentBytes, Usable sentBytes (ideal sentBytes)) {stream : FileStream}
    (hquiet : Undisturbed test stream) (hthread : stream.thread = .openFile file) {fuel : Nat}
    (hfuel : 5 * content.length + 7 ≤ fuel) :
    ∃ sent, errorFreeRun disk density test ideal fuel stream = .ok sent ∧
      (SentBlock.AnnouncesSize content.length sent ↔ 0 < content.length ∧ content.length < 2 ^ 31) := by
  obtain ⟨sent, hsent, hsends⟩ := errorFreeRun_file hcontent hsize husable hquiet hthread hfuel
  exact ⟨sent, hsent, hsends.announcesSize_iff hsize (totalFileLength_of_mem hfile hcontent hsize)⟩

end Run

def soleDisk (content : Octets) : Disk := fun path => if path = ofText "a" then some content else none

def soleSender (content : Octets) : IperfFileTransfer := sender (soleDisk content) { files := [ofText "a"] } 7

def openingStream (content : Octets) : FileStream where
  id := 0
  isConnected := true
  stream := true
  thread := .openFile { fileSz := content.length, path := ofText "a" }

theorem fileLength_announced_iff_sole :
    ∃ sent, errorFreeRun (soleDisk [1, 2]) .failing (soleSender [1, 2]) (fun _ => 4096) 17 (openingStream [1, 2])
        = .ok sent ∧
      (SentBlock.AnnouncesSize 2 sent ↔ 0 < 2 ∧ 2 < 2 ^ 31) := by
  have hfile : { fileSz := 2, path := ofText "a" } ∈ (soleSender [1, 2]).pendingFiles := by decide +kernel
  have hquiet : Undisturbed (soleSender [1, 2]) (openingStream [1, 2]) := ⟨by decide, rfl, rfl, rfl, rfl⟩
  have hcontent : soleDisk [1, 2] (ofText "a") = some [1, 2] := by decide +kernel
  have husable (sentBytes : UInt64) : Usable sentBytes 4096 := usable_of_mem (by decide) (by decide) sentBytes
  exact fileLength_announced_iff hfile hcontent (by decide) husable hquiet rfl (by decide)

/-- Nothing is sent for an empty file: the loop builds a block only from data it has read. -/
theorem emptyFile_unannounced_counterexample :
    (soleSender []).pendingFiles = [{ fileSz := 0, path := ofText "a" }] ∧
      errorFreeRun (soleDisk []) .failing (soleSender []) (fun _ => 4096) 7 (openingStream []) = .ok [] ∧
      ¬ SentBlock.AnnouncesSize 0 [] := by
  refine ⟨by decide +kernel, by decide +kernel, fun h => ?_⟩
  exact absurd h.announced (by simp [SentBlock.announcedLength])

end IperfFileTransfer

end BatsIperf
