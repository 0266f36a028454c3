import BatsIperf.Server.Dispatch
import BatsIperf.Test.Summary

/-!
# How much of a control message is read

The length of a control message reaches the first handlers and goes no further. What is read is decided by the action code, the state of the test and, for a summary, by the count in the header and the streams that take the entries.
-/

namespace BatsIperf

open Octets

/-! ### The fields of the header -/

namespace IperfControlData

theorem testIdAt_eq_none_iff {bytes : Octets} : testIdAt bytes = none ↔ bytes.length < 12 := by
  rw [testIdAt, Option.map_eq_none_iff, leAt_eq_none_iff (by decide)]

theorem actionCodeAt_eq_none_iff {bytes : Octets} : actionCodeAt bytes = none ↔ bytes.length < 13 := by
  rw [actionCodeAt, Option.map_eq_none_iff, leAt_eq_none_iff (by decide)]

theorem numOfStreamsAt_eq_none_iff {bytes : Octets} : numOfStreamsAt bytes = none ↔ bytes.length < 14 := by
  rw [numOfStreamsAt, Option.map_eq_none_iff, leAt_eq_none_iff (by decide)]

theorem param0At_eq_none_iff {bytes : Octets} : param0At bytes = none ↔ bytes.length < 20 := by
  rw [param0At, Option.map_eq_none_iff, leAt_eq_none_iff (by decide)]

theorem length_bodyOf (bytes : Octets) : (bodyOf bytes).length = bytes.length - size := List.length_drop

theorem fill_inside (header : IperfControlData) :
    Fault.Avoids .outOfBounds (Fault.need .outOfBounds (fill 300 (header.encode ++ []))) := by
  have hfit : (header.encode ++ []).length ≤ 300 := by
    rw [List.append_nil, length_encode]
    decide
  rw [fill_eq hfit]
  exact Fault.avoids_ok _

end IperfControlData

theorem header_avoids_iff {α : Type} {bytes : Octets} {expected : UInt32} {next : UInt8 → Except Fault α} {needed : Nat}
    (hneeded : 13 ≤ needed)
    (hnext : 13 ≤ bytes.length → (Fault.Avoids .outOfBounds (next (actionCode bytes)) ↔ needed ≤ bytes.length)) :
    Fault.Avoids .outOfBounds (do
      let testId ← Fault.need .outOfBounds (IperfControlData.testIdAt bytes)
      Fault.require .failedAssert (testId = expected)
      let actionCode ← Fault.need .outOfBounds (IperfControlData.actionCodeAt bytes)
      next actionCode) ↔ (if IperfControlData.testIdAt bytes = some expected then needed else 12) ≤ bytes.length := by
  have hassert : Fault.failedAssert ≠ .outOfBounds := by decide
  rw [Fault.need_bind_avoids_iff]
  cases hid : IperfControlData.testIdAt bytes with
  | none =>
    have hshort := IperfControlData.testIdAt_eq_none_iff.mp hid
    rw [if_neg (by simp)]
    exact iff_of_false (by simp) (by omega)
  | some testId =>
    have hlong : ¬ bytes.length < 12 := by
      rw [← IperfControlData.testIdAt_eq_none_iff, hid]
      simp
    simp only [Option.some.injEq, exists_eq_left', Fault.require_bind_avoids_iff hassert]
    by_cases hsame : testId = expected
    · rw [if_pos hsame, Fault.need_bind_avoids_iff, imp_iff_right hsame]
      cases hcode : IperfControlData.actionCodeAt bytes with
      | none =>
        have hshort := IperfControlData.actionCodeAt_eq_none_iff.mp hcode
        exact iff_of_false (by simp) (by omega)
      | some code =>
        have hlong : ¬ bytes.length < 13 := by
          rw [← IperfControlData.actionCodeAt_eq_none_iff, hcode]
          simp
        have hread := hnext (Nat.le_of_not_lt hlong)
        rw [actionCode, hcode, Option.getD_some] at hread
        simpa using hread
    · rw [if_neg hsame]
      exact iff_of_true (fun h => absurd h hsame) (by omega)


/-! ### The entries of a summary -/

theorem TestReportOfStream.reads_deserialize (report : TestReportOfStream) : Reads 24 report.deserialize :=
  reads_nextWord.bind fun _ => reads_nextWord.bind fun _ => reads_nextWord.bind fun _ => reads_pure _

namespace IperfStream

theorem reads_deserializeReport (stream : IperfStream) : Reads 24 stream.deserializeReport :=
  stream.report.reads_deserialize.bind fun _ => reads_pure _

theorem deserializeReport_streamIdentifier {stream read : IperfStream} {cursor rest : Octets}
    (h : stream.deserializeReport cursor = some (read, rest)) : read.streamIdentifier = stream.streamIdentifier := by
  obtain ⟨⟨report, _⟩, _, h⟩ := Option.bind_eq_some_iff.mp h
  obtain ⟨rfl, _⟩ := Prod.mk.inj (Option.some.inj h)
  rfl

end IperfStream

namespace IperfTest

/-- How far a loop over the entries reads behind its cursor: an identifier, and the three words of a report for each stream that has it. -/
def entriesLength (identifiers : List UInt64) : Nat → Octets → Nat
  | 0, _ => 0
  | entries + 1, cursor =>
    match nextWord cursor with
    | none => 8
    | some (streamIdentifier, rest) =>
      let reports := 24 * identifiers.count streamIdentifier
      8 + reports + entriesLength identifiers entries (rest.drop reports)

theorem entriesLength_pos (identifiers : List UInt64) {entries : Nat} (hentries : 0 < entries) (cursor : Octets) :
    0 < entriesLength identifiers entries cursor := by
  cases entries with
  | zero => exact absurd hentries (Nat.lt_irrefl 0)
  | succ entries =>
    rw [entriesLength]
    split
    · decide
    · dsimp only
      omega

variable (config : TestConfig) (now : UInt64)

/-- What a stream that takes an entry is after it. -/
def taken (stream : IperfStream) : IperfStream :=
  if isReliableProtocol config.protocol then stream else stream.finishReport now

theorem taken_streamIdentifier (stream : IperfStream) :
    (taken config now stream).streamIdentifier = stream.streamIdentifier := by
  unfold taken
  split
  · rfl
  · exact congrArg Prod.fst (stream.finishReport_entry now)

theorem matchStreams_cons_of_eq (stream : IperfStream) (rest : List IperfStream) (cursor : Octets) :
    matchStreams config now stream.streamIdentifier (stream :: rest) cursor
      = (stream.deserializeReport cursor).bind fun read =>
        (matchStreams config now stream.streamIdentifier rest read.2).map fun matched =>
          (taken config now read.1 :: matched.1, matched.2) := by
  rw [matchStreams, if_pos rfl]
  simp only [Option.map_eq_bind]
  rfl

theorem matchStreams_cons_of_ne {streamIdentifier : UInt64} {stream : IperfStream}
    (hne : stream.streamIdentifier ≠ streamIdentifier) (rest : List IperfStream) (cursor : Octets) :
    matchStreams config now streamIdentifier (stream :: rest) cursor
      = (matchStreams config now streamIdentifier rest cursor).map fun matched => (stream :: matched.1, matched.2) := by
  rw [matchStreams, if_neg hne, Option.map_eq_bind]
  rfl

theorem reads_matchStreams (streamIdentifier : UInt64) (streams : List IperfStream) :
    Reads (24 * (streams.map IperfStream.streamIdentifier).count streamIdentifier)
      (matchStreams config now streamIdentifier streams) := by
  induction streams with
  | nil => exact reads_pure []
  | cons stream rest ih =>
    rw [List.map_cons]
    by_cases hid : stream.streamIdentifier = streamIdentifier
    · subst hid
      rw [List.count_cons_self, Nat.mul_succ, funext (matchStreams_cons_of_eq config now stream rest)]
      exact stream.reads_deserializeReport.bind fun read => ih.map (taken config now read :: ·)
    · rw [List.count_cons_of_ne hid, funext (matchStreams_cons_of_ne config now hid rest)]
      exact ih.map (stream :: ·)

theorem matchStreams_streamIdentifier {streamIdentifier : UInt64} {streams matched : List IperfStream}
    {cursor rest : Octets} (h : matchStreams config now streamIdentifier streams cursor = some (matched, rest)) :
    matched.map IperfStream.streamIdentifier = streams.map IperfStream.streamIdentifier := by
  induction streams generalizing matched cursor rest with
  | nil =>
    obtain ⟨rfl, _⟩ := Prod.mk.inj (Option.some.inj h)
    rfl
  | cons stream streams ih =>
    by_cases hid : stream.streamIdentifier = streamIdentifier
    · subst hid
      rw [matchStreams_cons_of_eq] at h
      obtain ⟨⟨read, behind⟩, hread, h⟩ := Option.bind_eq_some_iff.mp h
      obtain ⟨⟨others, _⟩, hothers, h⟩ := Option.map_eq_some_iff.mp h
      obtain ⟨rfl, _⟩ := Prod.mk.inj h
      rw [List.map_cons, List.map_cons, ih hothers, taken_streamIdentifier,
        IperfStream.deserializeReport_streamIdentifier hread]
    · rw [matchStreams_cons_of_ne config now hid] at h
      obtain ⟨⟨others, _⟩, hothers, h⟩ := Option.map_eq_some_iff.mp h
      obtain ⟨rfl, _⟩ := Prod.mk.inj h
      rw [List.map_cons, List.map_cons, ih hothers]

/-- The loop leaves the message exactly where it is shorter than its entries. -/
theorem readSummary_eq_none_iff (entries : Nat) (streams : List IperfStream) (cursor : Octets) :
    readSummary config now entries streams cursor = none ↔
      cursor.length < entriesLength (streams.map IperfStream.streamIdentifier) entries cursor := by
  induction entries generalizing streams cursor with
  | zero => exact iff_of_false (by simp [readSummary]) (Nat.not_lt_zero _)
  | succ entries ih =>
    rw [readSummary, entriesLength]
    cases hword : nextWord cursor with
    | none => exact iff_of_true rfl (reads_nextWord.eq_none_iff.mp hword)
    | some read =>
      obtain ⟨streamIdentifier, rest⟩ := read
      obtain ⟨henough, rfl⟩ := reads_nextWord.rest_eq hword
      have hreads := reads_matchStreams config now streamIdentifier streams
      dsimp only [Option.bind_eq_bind, Option.bind_some]
      cases hmatch : matchStreams config now streamIdentifier streams (cursor.drop 8) with
      | none =>
        have hshort := hreads.eq_none_iff.mp hmatch
        rw [List.length_drop] at hshort
        exact iff_of_true rfl (by omega)
      | some result =>
        obtain ⟨matched, behind⟩ := result
        obtain ⟨hreports, rfl⟩ := hreads.rest_eq hmatch
        rw [List.length_drop] at hreports
        rw [Option.bind_some, ih, matchStreams_streamIdentifier config now hmatch, List.length_drop, List.length_drop]
        dsimp only
        omega

/-! ### Throughput tests -/

/-- The length up to which a summary is read: the count in the header, and the entries where there are any. -/
def summaryLength (test : IperfTest) (bytes : Octets) : Nat :=
  match IperfControlData.numOfStreamsAt bytes with
  | none | some 0 => 14
  | some numOfStreams =>
    IperfControlData.size + entriesLength (test.testStreams.map IperfStream.streamIdentifier) numOfStreams.toNat
      (IperfControlData.bodyOf bytes)

/-- The length up to which a message is read that is for the test. A test that is done looks at nothing behind the action code. -/
def actionLength (test : IperfTest) (bytes : Octets) : Nat :=
  if test.state = .testDone then 13
  else match actionCode bytes with
    | 3 => test.summaryLength bytes
    | 2 => IperfControlData.size + 12
    | _ => 13

/-- The length up to which a message is read. The identifier is asserted before the action code is read. -/
def readLength (test : IperfTest) (bytes : Octets) : Nat :=
  if IperfControlData.testIdAt bytes = some test.testId then test.actionLength bytes else 12

variable {test : IperfTest} {bytes : Octets}

theorem sendAck_inside (test : IperfTest) : Fault.Avoids .outOfBounds test.sendAck := by
  have hmessage : Fault.Avoids .outOfBounds (test.message 300 4 0 []) := by
    apply (Fault.avoids_require (by decide) _).bind
    intro _
    exact (test.controlHeader 4 0).fill_inside
  exact hmessage.bind fun _ => (Fault.avoids_require (by decide) _).bind fun _ => Fault.avoids_pure _

theorem startSend_inside (stream : IperfStream) (now : UInt64) : Fault.Avoids .outOfBounds (stream.startSend now) :=
  (Fault.avoids_require (by decide) _).bind fun _ => Fault.avoids_pure _

theorem handleAckMessage_inside (test : IperfTest) (clock : Nat → UInt64) (streamId : Nat) :
    Fault.Avoids .outOfBounds (test.handleAckMessage clock streamId) := by
  have hopen (i : Nat) : Fault.Avoids .outOfBounds (openStream test.testConfig clock streamId i) := by
    apply ((Fault.avoids_require (by decide) _).bind fun _ => Fault.avoids_pure _).bind
    intro stream
    split
    · exact startSend_inside stream _
    · exact Fault.avoids_pure _
  unfold handleAckMessage
  split
  · exact (Fault.avoids_mapM hopen _).bind fun _ => Fault.avoids_pure _
  all_goals exact Fault.avoids_ok _

theorem handleReadyMessage_inside (test : IperfTest) (now : UInt64) :
    Fault.Avoids .outOfBounds (test.handleReadyMessage now) := by
  simp only [handleReadyMessage]
  split
  · exact (Fault.avoids_mapM (fun stream => startSend_inside stream now) _).bind fun _ => Fault.avoids_pure _
  · exact Fault.avoids_ok _

theorem handleSummaryMessage_avoids_iff (hrunning : test.state ≠ .testDone) :
    Fault.Avoids .outOfBounds (test.handleSummaryMessage bytes now) ↔ test.summaryLength bytes ≤ bytes.length := by
  rw [handleSummaryMessage, if_neg hrunning, Fault.need_bind_avoids_iff]
  -- what comes behind the entries does not read the message
  refine Iff.trans (exists_congr fun numOfStreams => and_congr_right fun _ =>
    Fault.need_bind_avoids_iff_of_next fun streams => (sendAck_inside _).bind fun _ => Fault.avoids_pure _) ?_
  simp only [Ne, readSummary_eq_none_iff, Nat.not_lt]
  unfold summaryLength
  split
  · rename_i hnone
    have hshort := IperfControlData.numOfStreamsAt_eq_none_iff.mp hnone
    exact iff_of_false (by simp [hnone]) (by omega)
  · rename_i hzero
    have hcount : ¬ bytes.length < 14 := by
      rw [← IperfControlData.numOfStreamsAt_eq_none_iff, hzero]
      simp
    exact iff_of_true ⟨0, hzero, Nat.zero_le _⟩ (by omega)
  · rename_i numOfStreams hnonzero hcount
    have hpos : 0 < numOfStreams.toNat := Nat.pos_of_ne_zero fun hzero => hnonzero (UInt8.toNat_inj.mp hzero)
    have hentries := entriesLength_pos (test.testStreams.map IperfStream.streamIdentifier) hpos
      (IperfControlData.bodyOf bytes)
    rw [IperfControlData.length_bodyOf]
    simp only [hcount, Option.some.injEq, exists_eq_left']
    omega

theorem handleTestParameters_avoids_iff (hrunning : test.state ≠ .testDone) :
    Fault.Avoids .outOfBounds (test.handleTestParameters (IperfControlData.bodyOf bytes))
      ↔ IperfControlData.size + 12 ≤ bytes.length := by
  rw [handleTestParameters, if_neg hrunning, Fault.need_bind_avoids_iff_of_next fun _ => sendAck_inside _, Ne,
    TestConfig.needs_deserialize, IperfControlData.length_bodyOf]
  omega

theorem handleAction_avoids_iff (test : IperfTest) (clock : Nat → UInt64) (streamId : Nat) (hcode : 13 ≤ bytes.length) :
    Fault.Avoids .outOfBounds (test.handleAction (actionCode bytes) bytes clock streamId)
      ↔ test.actionLength bytes ≤ bytes.length := by
  unfold actionLength
  by_cases hdone : test.state = .testDone
  · rw [if_pos hdone]
    refine iff_of_true ?_ hcode
    unfold handleAction
    split
    · exact (handleAckMessage_inside test clock streamId).bind fun _ => Fault.avoids_pure _
    · rw [handleSummaryMessage, if_pos hdone]
      exact Fault.avoids_ok _
    · rw [handleTestParameters, if_pos hdone]
      exact Fault.avoids_ok _
    · exact (handleReadyMessage_inside test _).bind fun _ => Fault.avoids_pure _
    · exact Fault.avoids_ok _
  · rw [if_neg hdone]
    unfold handleAction
    generalize actionCode bytes = code
    split
    · exact iff_of_true ((handleAckMessage_inside test clock streamId).bind fun _ => Fault.avoids_pure _) hcode
    · exact handleSummaryMessage_avoids_iff (clock 0) hdone
    · exact handleTestParameters_avoids_iff hdone
    · exact iff_of_true ((handleReadyMessage_inside test _).bind fun _ => Fault.avoids_pure _) hcode
    · rename_i hsummary hparameters _
      split
      · exact absurd rfl hsummary
      · exact absurd rfl hparameters
      · exact iff_of_true (Fault.avoids_ok _) hcode

theorem actionLength_ge (test : IperfTest) (bytes : Octets) : 13 ≤ test.actionLength bytes := by
  unfold actionLength
  split
  · exact le_refl 13
  · split
    · unfold summaryLength
      split
      · decide
      · decide
      · exact Nat.le_add_right_of_le (by decide)
    · decide
    · exact le_refl 13

theorem handleControlMessage_avoids_iff (test : IperfTest) (bytes : Octets) (clock : Nat → UInt64) (streamId : Nat) :
    Fault.Avoids .outOfBounds (test.handleControlMessage bytes clock streamId) ↔ test.readLength bytes ≤ bytes.length :=
  header_avoids_iff (test.actionLength_ge bytes) fun hcode =>
    handleAction_avoids_iff { test with ctrlChn := true } clock streamId hcode

end IperfTest

/-! ### File transfers -/

namespace IperfFileTransfer

/-- The length up to which a message is read that is for the test. A response says in a parameter of the header whether the request was denied, and the configuration follows the header of a request. -/
def actionLength : UInt8 → Nat
  | 4 => 20
  | 1 => IperfControlData.size + 12
  | _ => 13

def readLength (test : IperfFileTransfer) (bytes : Octets) : Nat :=
  if IperfControlData.testIdAt bytes = some test.testId then actionLength (actionCode bytes) else 12

variable {test : IperfFileTransfer} {bytes : Octets}

theorem sendResponse_inside (test : IperfFileTransfer) (denied : Bool) :
    Fault.Avoids .outOfBounds (test.sendResponse denied) := by
  have hmessage : Fault.Avoids .outOfBounds (test.message (test.responseHeader denied) []) := by
    apply (Fault.avoids_require (by decide) _).bind
    intro _
    exact (test.responseHeader denied).fill_inside
  exact hmessage.bind fun _ => (Fault.avoids_require (by decide) _).bind fun _ => Fault.avoids_pure _

theorem onRecvResponse_inside (test : IperfFileTransfer) : Fault.Avoids .outOfBounds test.onRecvResponse :=
  (Fault.avoids_require (by decide) _).bind fun _ => (Fault.avoids_require (by decide) _).bind fun _ =>
    Fault.avoids_pure _

theorem handleFileTransferRequest_avoids_iff (test : IperfFileTransfer) (bytes : Octets) (available : Option Nat) :
    Fault.Avoids .outOfBounds (test.handleFileTransferRequest bytes available)
      ↔ IperfControlData.size + 12 ≤ bytes.length := by
  rw [handleFileTransferRequest, Fault.need_bind_avoids_iff]
  cases hreceived : TestConfig.deserialize {} (IperfControlData.bodyOf bytes) with
  | none =>
    have hshort := (TestConfig.needs_deserialize {} _).mp hreceived
    rw [IperfControlData.length_bodyOf] at hshort
    exact iff_of_false (by simp) (by omega)
  | some received =>
    have hlong : ¬ (IperfControlData.bodyOf bytes).length < 12 := by
      rw [← TestConfig.needs_deserialize {}, hreceived]
      simp
    rw [IperfControlData.length_bodyOf] at hlong
    obtain ⟨header, hheader⟩ := IperfControlData.reads_decode.enough (show 32 ≤ bytes.length by
      unfold IperfControlData.size at hlong
      omega)
    simp only [Option.some.injEq, exists_eq_left', hheader, Fault.need_some, Fault.ok_bind]
    refine iff_of_true ?_ (by omega)
    split
    · exact (sendResponse_inside _ _).bind fun _ => Fault.avoids_pure _
    · exact (sendResponse_inside _ _).bind fun _ => Fault.avoids_pure _

theorem actionLength_ge (code : UInt8) : 13 ≤ actionLength code := by
  unfold actionLength
  split
  · decide
  · decide
  · exact le_refl 13

theorem handleControlMessage_avoids_iff (test : IperfFileTransfer) (bytes : Octets) (available : Option Nat) :
    Fault.Avoids .outOfBounds (test.handleControlMessage bytes available) ↔ test.readLength bytes ≤ bytes.length := by
  apply header_avoids_iff (actionLength_ge _)
  intro hcode
  have hassert : Fault.failedAssert ≠ .outOfBounds := by decide
  rw [Fault.require_bind_avoids_iff hassert]
  by_cases hresponse : actionCode bytes = 4
  · have hanswer (param0 : UInt32) : Fault.Avoids .outOfBounds (if param0 = 0 then do
        let test ← test.onRecvResponse
        return (test, [])
      else return ({ test with ctrlChn := false }.stop, ([] : List Octets))) := by
      split
      · exact (onRecvResponse_inside test).bind fun _ => Fault.avoids_pure _
      · exact Fault.avoids_pure _
    rw [if_pos hresponse, hresponse, imp_iff_right (.inr rfl), Fault.need_bind_avoids_iff_of_next hanswer, Ne,
      IperfControlData.param0At_eq_none_iff, Nat.not_lt]
    rfl
  · rw [if_neg hresponse, handleFileTransferRequest_avoids_iff]
    by_cases hrequest : actionCode bytes = 1
    · rw [hrequest, imp_iff_right (.inl rfl)]
      rfl
    · have hother : actionLength (actionCode bytes) = 13 := by
        unfold actionLength
        split
        · exact absurd ‹_› hresponse
        · exact absurd ‹_› hrequest
        · rfl
      rw [hother]
      exact iff_of_true (fun h => absurd h (not_or.mpr ⟨hrequest, hresponse⟩)) hcode

end IperfFileTransfer

/-! ### The server -/

namespace IIperfTest

def readLength : IIperfTest → Octets → Nat
  | .iperfTest test => test.readLength
  | .iperfFileTransfer test => test.readLength

theorem handleControlMessage_avoids_iff (test : IIperfTest) (bytes : Octets) (answers : MessageAnswers) :
    Fault.Avoids .outOfBounds (test.handleControlMessage bytes answers) ↔ test.readLength bytes ≤ bytes.length := by
  cases test with
  | iperfTest test =>
    rw [handleControlMessage, Fault.Avoids, Ne, Fault.bind_eq_error_iff_of_next fun _ => Fault.avoids_pure _]
    exact test.handleControlMessage_avoids_iff bytes answers.clock answers.streamId
  | iperfFileTransfer test =>
    rw [handleControlMessage, Fault.Avoids, Ne, Fault.bind_eq_error_iff_of_next fun _ => Fault.avoids_pure _]
    exact test.handleControlMessage_avoids_iff bytes answers.available

theorem readLength_ge {test : IIperfTest} {bytes : Octets} (hid : IperfControlData.testIdAt bytes = some test.testId) :
    13 ≤ test.readLength bytes := by
  cases test with
  | iperfTest test =>
    have hid : IperfControlData.testIdAt bytes = some test.testId := hid
    rw [readLength, IperfTest.readLength, if_pos hid]
    exact test.actionLength_ge bytes
  | iperfFileTransfer test =>
    have hid : IperfControlData.testIdAt bytes = some test.testId := hid
    rw [readLength, IperfFileTransfer.readLength, if_pos hid]
    exact IperfFileTransfer.actionLength_ge _

end IIperfTest

namespace IperfBatsApi

variable {Conn : Type}

/-- The length up to which the server reads a message. A test that is created for a request reads the configuration behind the header. -/
def readLength (api : IperfBatsApi Conn) (bytes : Octets) : Nat :=
  match IperfControlData.testIdAt bytes with
  | none => 13
  | some testId =>
    match api.testTbl.find testId with
    | some entry => entry.test.readLength bytes
    | none => if actionCode bytes = 1 ∨ actionCode bytes = 2 then IperfControlData.size + 12 else 13

theorem readLength_ge (api : IperfBatsApi Conn) (bytes : Octets) : 13 ≤ api.readLength bytes := by
  unfold readLength
  split
  · exact le_refl 13
  · rename_i testId hid
    split
    · rename_i entry hfind
      apply IIperfTest.readLength_ge
      rw [hid, ← api.testTbl.keyed hfind]
      rfl
    · split
      · decide
      · exact le_refl 13

theorem receivedTest_none {api : IperfBatsApi Conn} {code : UInt8} {testId : UInt32}
    (htest : api.receivedTest code testId = none) : ¬ (code = 1 ∨ code = 2) := by
  rintro (rfl | rfl)
  · exact absurd htest (by simp [receivedTest])
  · exact absurd htest (by simp [receivedTest])

theorem receivedTest_readLength {api : IperfBatsApi Conn} {bytes : Octets} {testId : UInt32} {test : IIperfTest}
    (hid : IperfControlData.testIdAt bytes = some testId) (htest : api.receivedTest (actionCode bytes) testId = some test) :
    (actionCode bytes = 1 ∨ actionCode bytes = 2) ∧
      ((test.setRole .roleReceiver).setResolution defaultResolution).readLength bytes = IperfControlData.size + 12 := by
  unfold receivedTest at htest
  split at htest
  · rename_i hcode
    obtain rfl := Option.some.inj htest
    refine ⟨.inl hcode, ?_⟩
    change (if IperfControlData.testIdAt bytes = some testId then _ else _) = _
    rw [if_pos hid, hcode]
    rfl
  · rename_i hcode
    obtain rfl := Option.some.inj htest
    refine ⟨.inr hcode, ?_⟩
    change (if IperfControlData.testIdAt bytes = some testId then _ else _) = _
    rw [if_pos hid, IperfTest.actionLength, hcode]
    rfl
  · exact absurd htest (by simp)

variable [DecidableEq Conn]

theorem createTest_avoids_iff (api : IperfBatsApi Conn) (conn : Conn) (test : IIperfTest) (bytes : Octets)
    (answers : MessageAnswers) : api.createTest conn test bytes answers ≠ .error (.inTest .outOfBounds) ↔
      ((test.setRole .roleReceiver).setResolution defaultResolution).readLength bytes ≤ bytes.length := by
  rw [← IIperfTest.handleControlMessage_avoids_iff _ bytes answers, createTest, Fault.Avoids]
  split
  · rename_i fault hfault
    simp [hfault]
  · rename_i hhandled
    split
    · simp [hhandled]
    · simp [hhandled]

/-- The server stays inside a message exactly where it is as long as what is read of it. -/
theorem handleControlMessage_avoids_iff (api : IperfBatsApi Conn) (conn : Conn) (bytes : Octets)
    (answers : MessageAnswers) : api.handleControlMessage conn bytes answers ≠ .error (.inTest .outOfBounds) ↔
      api.readLength bytes ≤ bytes.length := by
  have hneeded := api.readLength_ge bytes
  unfold handleControlMessage
  cases hcode : IperfControlData.actionCodeAt bytes with
  | none =>
    have hshort := IperfControlData.actionCodeAt_eq_none_iff.mp hcode
    exact iff_of_false (by simp) (by omega)
  | some code =>
    have hlong : ¬ bytes.length < 13 := by
      rw [← IperfControlData.actionCodeAt_eq_none_iff, hcode]
      simp
    have hsame : actionCode bytes = code := by rw [actionCode, hcode, Option.getD_some]
    subst hsame
    cases hid : IperfControlData.testIdAt bytes with
    | none =>
      have hshort := IperfControlData.testIdAt_eq_none_iff.mp hid
      omega
    | some testId =>
      simp only [readLength, hid]
      cases hfind : api.testTbl.find testId with
      | some entry =>
        dsimp only
        rw [← IIperfTest.handleControlMessage_avoids_iff _ bytes answers, Fault.Avoids]
        cases hentry : entry.handleControlMessage conn bytes answers with
        | error fault =>
          rw [TableEntry.handleControlMessage_eq_error.mp hentry]
          simp
        | ok result =>
          obtain ⟨_, _, _, _, hhandled, _⟩ := TableEntry.handleControlMessage_inv hentry
          rw [hhandled]
          simp
      | none =>
        dsimp only
        cases htest : api.receivedTest (actionCode bytes) testId with
        | none =>
          refine iff_of_true (by simp) ?_
          rw [if_neg (receivedTest_none htest)]
          omega
        | some test =>
          obtain ⟨hrequest, hreads⟩ := receivedTest_readLength hid htest
          dsimp only
          rw [createTest_avoids_iff, hreads, if_pos hrequest]

/-- Whatever the table, the state of a test and its streams are, the handlers read only what was received exactly where it is as long as the fields that the action code, the state and the streams ask for. -/
theorem control_reads_inside_iff :
    (∀ (test : IIperfTest) (bytes : Octets) (answers : MessageAnswers),
      test.handleControlMessage bytes answers ≠ .error .outOfBounds ↔ test.readLength bytes ≤ bytes.length) ∧
    ∀ (api : IperfBatsApi Conn) (conn : Conn) (bytes : Octets) (answers : MessageAnswers),
      api.handleControlMessage conn bytes answers ≠ .error (.inTest .outOfBounds) ↔
        api.readLength bytes ≤ bytes.length :=
  ⟨IIperfTest.handleControlMessage_avoids_iff, handleControlMessage_avoids_iff⟩

/-- The parameters of a test behind the end of a message that is only a header, and the entry of a summary that counts one. -/
theorem read_beyond_message_counterexample :
    ({ userInputConfig := {} } : IperfBatsApi Unit).handleControlMessage ()
        (IperfControlData.encode { testId := 7, actionCode := 2 }) {} = .error (.inTest .outOfBounds) ∧
      (IIperfTest.iperfTest { testConfig := {}, testId := 7, state := .testStart }).handleControlMessage
        (IperfControlData.encode { testId := 7, actionCode := 3, numOfStreams := 1 }) {} = .error .outOfBounds := by
  constructor
  · have hread := handleControlMessage_avoids_iff ({ userInputConfig := {} } : IperfBatsApi Unit) ()
      (IperfControlData.encode { testId := 7, actionCode := 2 }) {}
    exact not_not.mp (mt hread.mp (by decide +kernel))
  · have hread := IIperfTest.handleControlMessage_avoids_iff
      (.iperfTest { testConfig := {}, testId := 7, state := .testStart })
      (IperfControlData.encode { testId := 7, actionCode := 3, numOfStreams := 1 }) {}
    exact not_not.mp (mt hread.mp (by decide +kernel))

end IperfBatsApi

end BatsIperf
