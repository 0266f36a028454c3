import BatsIperf.FileTransfer.FinFlag
import BatsIperf.FileTransfer.Reassembly
import BatsIperf.FileTransfer.SendBuffer
import BatsIperf.FileTransfer.Sending
import Mathlib.Algebra.Order.Field.Basic
import Mathlib.Algebra.Order.Ring.Rat

/-!
# The size of a block and its flag

A block takes no more room than the buffer length its iteration has loaded, whatever the lengths of other iterations are. The flag for compressed data is set before anything is compressed and is taken back where the result does not pay. The test looks at a ratio that outlives the block, but a result that is not empty has refreshed it before.
-/

namespace BatsIperf

open Octets IperfFileTransfer

namespace IperfFileTransfer

/-! ### One block -/

/-- `last_comp_ratio` after a call of the compressor. -/
def refreshedRatio (last : ℚ) (nread compressed : Nat) : ℚ := if compressed = 0 then last else nread / compressed

/-- The test that leads back to uncompressed data. -/
def FallsBack (ratio : ℚ) (compressed : Nat) : Prop := compressed = 0 ∨ ratio < 1

theorem fallsBack_refreshed (last : ℚ) (nread compressed : Nat) :
    FallsBack (refreshedRatio last nread compressed) compressed ↔ compressed = 0 ∨ nread < compressed := by
  unfold FallsBack refreshedRatio
  apply or_congr_right'
  intro hresult
  have hpos : (0 : ℚ) < compressed := by exact_mod_cast Nat.pos_of_ne_zero hresult
  rw [if_neg hresult, div_lt_one hpos]
  exact Nat.cast_lt

/-- An iteration of the chunk loop: the buffer length it has loaded, the output of the compressor, and the ratio it leaves. -/
structure Iteration where
  idealBufferLength : Int := 4096
  compressed : Octets := []
  lastCompRatio : ℚ := 1

/-- The iteration that reads the next data of a file. -/
def Iteration.next (config : TestConfig) (density : Density) (locals : SendLocals) (idealBufferLength : Int)
    (answers : ThreadAnswers) (before : Iteration) : Iteration :=
  let data := nextData config locals idealBufferLength answers.reads
  let compressed := compressedData config density answers.call data (frontLength locals.sentBytes)
  { idealBufferLength := idealBufferLength
    compressed := compressed
    lastCompRatio := refreshedRatio before.lastCompRatio data.length compressed.length }

/-- The block is not empty, fits the length that was loaded for it, and tells by its flag whether it carries the output of the compressor. -/
structure Iteration.Keeps (iteration : Iteration) (block : Octets) : Prop where
  nonempty : 2 ≤ block.length
  fits : block.length ≤ iteration.idealBufferLength
  flag : ∃ header rest payload, FileBkHeader.decode block = some (header, rest) ∧
    blockContent header rest = some payload ∧ (header.hasComp = true ↔ payload = iteration.compressed) ∧
    (header.hasComp = false ↔ FallsBack iteration.lastCompRatio iteration.compressed.length)

theorem packData_result {config : TestConfig} {density : Density} {call front : Nat} {data packed : Octets} {ideal : Int}
    {hasComp : Bool} (hdata : data ≠ []) (h : packData config density call data front ideal = .ok (hasComp, packed)) :
    packed ≠ [] ∧ packed.length ≤ data.length ∧
      (hasComp = true ↔ packed = compressedData config density call data front) ∧
      (hasComp = false ↔ (compressedData config density call data front).length = 0 ∨
        data.length < (compressedData config density call data front).length) := by
  unfold packData at h
  dsimp only at h
  rw [List.length_eq_zero_iff]
  split at h
  · rename_i hfallback
    obtain ⟨_, _, h⟩ := Fault.bind_eq_ok.mp h
    obtain ⟨rfl, rfl⟩ := Prod.mk.inj (Fault.pure_eq_ok.mp h)
    refine ⟨hdata, Nat.le_refl _, ?_, iff_of_true rfl hfallback⟩
    apply iff_of_false Bool.false_ne_true
    intro hsame
    rw [← hsame] at hfallback
    exact hfallback.elim hdata (Nat.lt_irrefl _)
  · rename_i hpays
    obtain ⟨_, _, h⟩ := Fault.bind_eq_ok.mp h
    obtain ⟨rfl, rfl⟩ := Prod.mk.inj (Fault.pure_eq_ok.mp h)
    obtain ⟨hresult, hshort⟩ := not_or.mp hpays
    exact ⟨hresult, Nat.le_of_not_lt hshort, iff_of_true rfl rfl, iff_of_false (by simp) hpays⟩

theorem buildBlock_some {config : TestConfig} {density : Density} {header next : FileBkHeader} {locals after : SendLocals}
    {idealBufferLength : Int} {call nread : Nat} {reads : Bool} {block : Octets}
    (h : buildBlock config density header locals idealBufferLength call reads = .ok (next, after, some (block, nread))) :
    ∃ packed, nextData config locals idealBufferLength reads ≠ [] ∧ next.syn = decide (locals.sentBytes = 0) ∧
      packData config density call (nextData config locals idealBufferLength reads) (frontLength locals.sentBytes)
        (idealFileReadLen locals.sentBytes idealBufferLength) = .ok (next.hasComp, packed) ∧
      block = blockFront next locals.fileMeta ++ packed := by
  have hdata : nextData config locals idealBufferLength reads ≠ [] := by
    rw [ne_eq, ← buildBlock_built h]
    exact Option.some_ne_none _
  obtain ⟨_, _, h⟩ := Fault.bind_eq_ok.mp h
  change (if nextData config locals idealBufferLength reads = [] then _ else _) = _ at h
  rw [if_neg hdata] at h
  obtain ⟨⟨hasComp, packed⟩, hpack, h⟩ := Fault.bind_eq_ok.mp h
  rw [length_blockFront rfl] at hpack
  obtain ⟨rfl, hbuilt⟩ := Prod.mk.inj (Fault.pure_eq_ok.mp h)
  obtain ⟨rfl, hblock⟩ := Prod.mk.inj hbuilt
  exact ⟨packed, hdata, rfl, hpack, (Prod.mk.inj (Option.some.inj hblock)).1.symm⟩

theorem avoids_assert_packData {data : Octets} {ideal : Int} (hread : data.length ≤ Narrowing.unsigned 64 ideal)
    (config : TestConfig) (density : Density) (call front : Nat) :
    Fault.Avoids .failedAssert (packData config density call data front ideal) := by
  unfold packData
  dsimp only
  split
  · exact (Fault.avoids_require (by decide) _).bind fun _ => Fault.avoids_pure _
  · rename_i hpays
    have hshort := Nat.le_of_not_lt (not_or.mp hpays).2
    exact (Fault.avoids_require_of_true (hshort.trans hread)).bind fun _ => Fault.avoids_pure _

section Range

variable {idealBufferLength : Int} (hlow : 362 ≤ idealBufferLength) (hhigh : idealBufferLength ≤ 300000)
include hlow hhigh

/-- The front of a block and the data it asks for fit the length that was loaded. -/
theorem frontLength_add_read_le (sentBytes : UInt64) :
    frontLength sentBytes + (idealFileReadLen sentBytes idealBufferLength).toNat ≤ idealBufferLength := by
  have hsize : (FileMeta.size : Int) = 360 := rfl
  have hfront : ((1 + FileMeta.size : Nat) : Int) = 361 := rfl
  unfold frontLength idealFileReadLen
  split
  · rw [hsize, hfront, Narrowing.signed_of_lt (by omega) (by omega)]
    omega
  · rw [hsize, Narrowing.signed_of_lt (by omega) (by omega)]
    omega

theorem buildBlock_keeps {config : TestConfig} {density : Density} {header next : FileBkHeader} {locals after : SendLocals}
    {answers : ThreadAnswers} {block : Octets} {nread : Nat}
    (h : buildBlock config density header locals idealBufferLength answers.call answers.reads
      = .ok (next, after, some (block, nread))) (before : Iteration) :
    (before.next config density locals idealBufferLength answers).Keeps block := by
  obtain ⟨packed, hdata, hsyn, hpack, rfl⟩ := buildBlock_some h
  obtain ⟨hpacked, hshort, hflag, hback⟩ := packData_result hdata hpack
  have hroom := frontLength_add_read_le hlow hhigh locals.sentBytes
  have hread : (nextData config locals idealBufferLength answers.reads).length
      ≤ (idealFileReadLen locals.sentBytes idealBufferLength).toNat := length_nextData_le
  have hlength : (blockFront next locals.fileMeta ++ packed).length = frontLength locals.sentBytes + packed.length := by
    rw [List.length_append, length_blockFront hsyn]
  have hpos := List.length_pos_iff.mpr hpacked
  have hfront : 1 ≤ frontLength locals.sentBytes := by
    unfold frontLength
    split <;> omega
  constructor
  · omega
  · rw [hlength]
    simp only [Iteration.next]
    omega
  · exact ⟨next, _, packed, decode_blockFront next locals.fileMeta packed, blockContent_front next locals.fileMeta packed,
      hflag, hback.trans (fallsBack_refreshed _ _ _).symm⟩

theorem avoids_assert_buildBlock (config : TestConfig) (density : Density) (header : FileBkHeader) (locals : SendLocals)
    (call : Nat) (reads : Bool) :
    Fault.Avoids .failedAssert (buildBlock config density header locals idealBufferLength call reads) := by
  have husable := usable_of_mem hlow hhigh locals.sentBytes
  have hunsigned := unsigned64_of_usable husable
  have hfits := husable.fits
  refine (Fault.avoids_require_of_true (by omega)).bind fun _ => ?_
  change Fault.Avoids _ (if nextData config locals idealBufferLength reads = [] then _ else _)
  split
  · exact Fault.avoids_pure _
  · have hread : (nextData config locals idealBufferLength reads).length
        ≤ (idealFileReadLen locals.sentBytes idealBufferLength).toNat := length_nextData_le
    exact (avoids_assert_packData (hread.trans_eq hunsigned.symm) _ _ _ _).bind fun _ => Fault.avoids_pure _

theorem avoids_assert_threadStep {disk : Disk} {density : Density} {test : IperfFileTransfer} {stream : FileStream}
    (hlength : stream.idealBufferLength = idealBufferLength) (answers : ThreadAnswers) :
    Fault.Avoids .failedAssert (threadStep disk density test stream answers) := by
  unfold threadStep
  cases stream.thread with
  | notStarted | finished | aborted => exact fun h => Fault.noConfusion (Except.error.inj h)
  | outerHead | errCheck | setDone | openFile | innerHead | innerCheck => exact Fault.avoids_ok _
  | dequeue =>
    dsimp only
    split <;> exact Fault.avoids_ok _
  | waitWritable locals =>
    dsimp only
    split
    · exact Fault.avoids_ok _
    · exact fun h => Fault.noConfusion (Except.error.inj h)
  | build locals =>
    subst hlength
    apply (avoids_assert_buildBlock hlow hhigh _ _ _ _ _ _).bind
    rintro ⟨header, locals, built⟩
    cases built <;> exact Fault.avoids_pure _
  | sending locals block nread =>
    apply (Fault.avoids_require (by decide) _).bind
    intro _
    split <;> exact Fault.avoids_pure _
  | retry locals block nread =>
    dsimp only
    split
    · exact Fault.avoids_ok _
    split
    · exact Fault.avoids_ok _
    · exact fun h => Fault.noConfusion (Except.error.inj h)

end Range

end IperfFileTransfer

namespace FileSession

variable {senderDisk : Disk} {density : Density} {s t : FileSession} {a : Action}

/-! ### Runs -/

/-- The iteration of a stream after a step of its thread. -/
def iterationAfter (config : TestConfig) (density : Density) (answers : ThreadAnswers) (stream : FileStream)
    (before : Iteration) : Iteration :=
  match stream.thread with
  | .build locals => before.next config density locals stream.idealBufferLength answers
  | _ => before

def noteIteration (density : Density) (s : FileSession) (a : Action) (iterations : Nat → Iteration) : Nat → Iteration :=
  match a with
  | .thread i answers => Function.update iterations i
      ((s.sender.streams[i]?.map fun stream =>
        iterationAfter s.sender.testConfig density answers stream (iterations i)).getD (iterations i))
  | _ => iterations

/-- The library announces buffer lengths of this range only. -/
def AnnouncesRange : Action → Prop
  | .event _ (.established length) | .event _ (.idealBufferLength length) => 362 ≤ length ∧ length ≤ 300000
  | _ => True

/-- A stream whose next block, if it has one, keeps to the iteration that has built it. -/
structure InIteration (stream : FileStream) (iteration : Iteration) : Prop where
  range : 362 ≤ stream.idealBufferLength ∧ stream.idealBufferLength ≤ 300000
  keeps : ∀ {locals : SendLocals} {block : Octets} {nread : Nat},
    stream.thread.sends = some (locals, block, nread) → iteration.Keeps block

theorem noteIteration_of_ne {i : Nat} (hother : ∀ answers, a ≠ .thread i answers) (iterations : Nat → Iteration) :
    noteIteration density s a iterations i = iterations i := by
  cases a with
  | thread k answers =>
    have hk : i ≠ k := fun heq => hother answers (heq ▸ rfl)
    simp [noteIteration, Function.update_of_ne hk]
  | event | poll | stop | clearStreams | accept | receiverEvent | deliver | receiverPoll => rfl

theorem noteIteration_thread {i : Nat} {answers : ThreadAnswers} {stream : FileStream}
    (hstream : s.sender.streams[i]? = some stream) (iterations : Nat → Iteration) :
    noteIteration density s (.thread i answers) iterations i
      = iterationAfter s.sender.testConfig density answers stream (iterations i) := by
  simp [noteIteration, hstream]

theorem inIteration_event {i : Nat} {event : ConnEvent} {stream next : FileStream} {iteration : Iteration}
    (h : InIteration stream iteration) (hrange : AnnouncesRange (.event i event))
    (hevent : s.sender.streamEvent event stream = .ok next) : InIteration next iteration := by
  cases streamEvent_move hevent with
  | established =>
    constructor
    · exact hrange
    · intro locals block nread hsends
      simp [ThreadPoint.sends] at hsends
  | measured => exact ⟨hrange, h.keeps⟩
  | retried | givenUp | closed | full | writable | acked | ackedEarly | sendDataError | other => exact ⟨h.range, h.keeps⟩

theorem inIteration_thread {i : Nat} {answers : ThreadAnswers} {stream : FileStream} {result : ThreadResult}
    {iterations : Nat → Iteration} (hstream : s.sender.streams[i]? = some stream) (h : InIteration stream (iterations i))
    (hstep : threadStep senderDisk density s.sender stream answers = .ok result) :
    InIteration result.stream (noteIteration density s (.thread i answers) iterations i) := by
  obtain ⟨_, _, hframe⟩ := (threadStep_stepped hstep).frame
  have hlength : result.stream.idealBufferLength = stream.idealBufferLength := by simp [hframe]
  refine ⟨hlength ▸ h.range, ?_⟩
  intro locals block nread hsends
  cases threadStep_move hstep with
  | @builds found _ hthread hbuild =>
    rw [noteIteration_thread hstream, iterationAfter, hthread]
    obtain ⟨⟨header, next, built⟩, hblock, hresult⟩ := Fault.bind_eq_ok.mp hbuild
    cases built with
    | none =>
      obtain rfl := Fault.pure_eq_ok.mp hresult
      simp [moveTo, ThreadPoint.sends] at hsends
    | some made =>
      obtain rfl := Fault.pure_eq_ok.mp hresult
      simp only [moveTo, ThreadPoint.sends, Option.some.injEq, Prod.mk.injEq] at hsends
      obtain ⟨rfl, rfl, rfl⟩ := hsends
      exact buildBlock_keeps h.range.1 h.range.2 hblock _
  | refused hthread | resends hthread =>
    rw [noteIteration_thread hstream, iterationAfter, hthread]
    simp only [moveTo, ThreadPoint.sends, Option.some.injEq, Prod.mk.injEq] at hsends
    obtain ⟨rfl, rfl, rfl⟩ := hsends
    exact h.keeps (by rw [hthread]; rfl)
  | opens =>
    obtain ⟨header, point, hopened, hpoint⟩ := openStep_moves senderDisk s.sender stream _ answers.opens
    rw [hopened] at hsends
    rcases hpoint with rfl | ⟨_, rfl⟩ <;> simp [moveTo, ThreadPoint.sends] at hsends
  | stops | goesOn | aborts | asks | findsNone | fetches | ends | enters | leaves | breaks | passes | waited | sends
    | givesUp =>
    simp [moveTo, ThreadPoint.sends] at hsends

/-- Every stream of the sender keeps to its iterations. -/
def InIterations (s : FileSession) (iterations : Nat → Iteration) : Prop :=
  ∀ (i : Nat) (stream : FileStream), s.sender.streams[i]? = some stream → InIteration stream (iterations i)

theorem inIterations_step {iterations : Nat → Iteration} (h : InIterations s iterations) (hrange : AnnouncesRange a)
    (hstep : (machine senderDisk density).step s a = some t) : InIterations t (noteIteration density s a iterations) := by
  intro i next hnext
  obtain ⟨stream, hstream, hmoved⟩ := stream_moved hstep hnext
  cases hmoved with
  | event hevent =>
    rw [noteIteration_of_ne (by simp)]
    exact inIteration_event (h i stream hstream) hrange hevent
  | thread hthread => exact inIteration_thread hstream (h i stream hstream) hthread
  | other _ hthread =>
    rw [noteIteration_of_ne hthread]
    exact h i next hstream

/-- Whatever buffer lengths of the range the library announces while a transfer runs, each block that a thread passes to `SendData` keeps to the iteration that has built it, and no assert of the thread fails. -/
theorem blocks_keep_iterations {config serverConfig : TestConfig} {testId : UInt32} {available : Option Nat} {disk : Disk}
    {acts : List Action} (hstart : start senderDisk config serverConfig testId available disk = .ok s)
    (hrange : (machine senderDisk density).Respects (fun _ => AnnouncesRange) s acts)
    (hrun : (machine senderDisk density).run s acts = some t) {i : Nat} {stream : FileStream}
    (hstream : t.sender.streams[i]? = some stream) :
    (∀ locals block nread, stream.thread = .sending locals block nread →
      ((machine senderDisk density).record (noteIteration density) (fun _ => {}) s acts i).Keeps block) ∧
    ∀ answers, Fault.Avoids .failedAssert (threadStep senderDisk density t.sender stream answers) := by
  have hfresh : InIterations s fun _ => {} := by
    intro k fresh hk
    obtain ⟨_, rfl⟩ := (fresh_start hstart ⟨fresh, hk⟩).streams k fresh hk
    refine ⟨by simp, fun hsends => ?_⟩
    simp [ThreadPoint.sends] at hsends
  have hall : InIterations t ((machine senderDisk density).record (noteIteration density) (fun _ => {}) s acts) := by
    apply Machine.run_record _ hfresh hrange hrun
    intro before iterations a after hin ha hstep
    exact inIterations_step hin ha hstep
  have hin := hall i stream hstream
  constructor
  · intro locals block nread hthread
    exact hin.keeps (by rw [hthread]; rfl)
  · exact avoids_assert_threadStep hin.range.1 hin.range.2 rfl

def firstByte : Density := { Density.failing with compress := fun _ input _ => some (input.take 1) }

/-- A file of three bytes is sent in one block with one byte of data. -/
theorem blocks_keep_iterations_compressed :
    ∃ s t stream locals block nread,
      start (fun _ => some [1, 2, 3]) { protocol := 1, numStreams := 1, files := [ofText "a"], isCompressionEnabled := true }
        {} 7 none (fun _ => none) = .ok s ∧
      (machine (fun _ => some [1, 2, 3]) firstByte).run s (takesSteps 8) = some t ∧
      t.sender.streams[0]? = some stream ∧ stream.thread = .sending locals block nread ∧ block.length = 362 ∧
      ((machine (fun _ => some [1, 2, 3]) firstByte).record (noteIteration firstByte) (fun _ => {}) s (takesSteps 8)
        0).Keeps block := by
  have hrun : (start (fun _ => some [1, 2, 3])
      { protocol := 1, numStreams := 1, files := [ofText "a"], isCompressionEnabled := true } {} 7 none
        (fun _ => none)).toOption.bind (fun s =>
      ((machine (fun _ => some [1, 2, 3]) firstByte).run s (takesSteps 8)).bind fun t =>
        t.sender.streams[0]?.bind fun stream => stream.thread.sends.map fun sends => (stream.thread.atSend, sends.2.1.length)) = some (true, 362) := by
    decide +kernel
  obtain ⟨s, hstart, hrun⟩ := Option.bind_eq_some_iff.mp hrun
  obtain ⟨t, ht, hrun⟩ := Option.bind_eq_some_iff.mp hrun
  obtain ⟨stream, hstream, hrun⟩ := Option.bind_eq_some_iff.mp hrun
  obtain ⟨⟨locals, block, nread⟩, hsends, hrun⟩ := Option.map_eq_some_iff.mp hrun
  simp only [Prod.mk.injEq] at hrun
  have hthread : stream.thread = .sending locals block nread := by
    cases hpoint : stream.thread with
    | sending => simpa [hpoint, ThreadPoint.sends] using hsends
    | notStarted | outerHead | errCheck | dequeue | setDone | finished | aborted | openFile | innerHead | innerCheck
      | waitWritable | build | retry => simp [hpoint, ThreadPoint.atSend] at hrun
  have hstart := Fault.toOption_eq_some.mp hstart
  have hrange : (machine (fun _ => some [1, 2, 3]) firstByte).Respects (fun _ => AnnouncesRange) s (takesSteps 8) := by
    apply Machine.respects_of_mem
    intro a ha
    rcases List.mem_cons.mp ha with rfl | ha
    · simp [AnnouncesRange]
    · obtain rfl := List.eq_of_mem_replicate ha
      trivial
  exact ⟨s, t, stream, locals, block, nread, hstart, ht, hstream, hthread, hrun.2,
    (blocks_keep_iterations hstart hrange ht hstream).1 locals block nread hthread⟩

end FileSession

end BatsIperf
