import BatsIperf.Foundation.Pointwise
import BatsIperf.Test.Handlers
import Mathlib.Data.List.Count

/-!
# The summary exchange

The summary message carries one entry of four words for each stream of the sender. The receiver reads the identifier of an entry once and offers the three other words to each of its streams that has this identifier, and every stream that takes them moves the cursor. An entry without a stream leaves its counters at the cursor, where the next identifier is expected, and an entry with two streams takes words of the next entry.

The body is a sequence of words, so the reading loop is first restated on words. What the exchange delivers is then decided by the identifiers alone.
-/

namespace BatsIperf

open Octets

namespace IperfStream

/-! ### The entry of a stream -/

def entryWords (stream : IperfStream) : List UInt64 :=
  let summary := stream.report.senderReport.summary
  [stream.streamIdentifier, summary.bytes, summary.datagrams, TestReportOfStream.bitrateWord summary.bitrate]

theorem serializeReport_eq (stream : IperfStream) : stream.serializeReport = words stream.entryWords := rfl

/-- What an entry leaves in a stream that takes it. -/
def take (config : TestConfig) (now : UInt64) (bytes datagrams bitrate : UInt64) (stream : IperfStream) : IperfStream :=
  let told := { stream with report := stream.report.setSender bytes datagrams bitrate, isSumReceived := true }
  if isReliableProtocol config.protocol then told else told.finishReport now

/-- The part of a stream the entries decide, with its identifier. -/
def entry (stream : IperfStream) : UInt64 × Bool × UInt64 × UInt64 :=
  (stream.streamIdentifier, stream.isSumReceived, stream.report.senderReport.summary.bytes,
    stream.report.senderReport.summary.datagrams)

/-- Finishing a report computes rates and the receiver summary, nothing an entry carries. -/
theorem finishReport_entry (stream : IperfStream) (now : UInt64) : (stream.finishReport now).entry = stream.entry := by
  unfold finishReport
  split
  · split <;> rfl
  · rfl
  · rfl

theorem take_entry (config : TestConfig) (now bytes datagrams bitrate : UInt64) (stream : IperfStream) :
    (stream.take config now bytes datagrams bitrate).entry = (stream.streamIdentifier, true, bytes, datagrams) := by
  unfold take
  split
  · rfl
  · rw [finishReport_entry]
    rfl

theorem take_streamIdentifier (config : TestConfig) (now bytes datagrams bitrate : UInt64) (stream : IperfStream) :
    (stream.take config now bytes datagrams bitrate).streamIdentifier = stream.streamIdentifier :=
  congrArg Prod.fst (take_entry config now bytes datagrams bitrate stream)

theorem take_bytes (config : TestConfig) (now bytes datagrams bitrate : UInt64) (stream : IperfStream) :
    (stream.take config now bytes datagrams bitrate).report.senderReport.summary.bytes = bytes :=
  congrArg (fun entry => entry.2.2.1) (take_entry config now bytes datagrams bitrate stream)

theorem take_datagrams (config : TestConfig) (now bytes datagrams bitrate : UInt64) (stream : IperfStream) :
    (stream.take config now bytes datagrams bitrate).report.senderReport.summary.datagrams = datagrams :=
  congrArg (fun entry => entry.2.2.2) (take_entry config now bytes datagrams bitrate stream)

end IperfStream

namespace IperfTest

variable (config : TestConfig) (now : UInt64)

/-! ### The reading loop on words -/

def matchWords (streamIdentifier : UInt64) : List IperfStream → List UInt64 → Option (List IperfStream × List UInt64)
  | [], ws => some ([], ws)
  | stream :: rest, ws =>
    if stream.streamIdentifier = streamIdentifier then
      match ws with
      | bytes :: datagrams :: bitrate :: ws =>
        (matchWords streamIdentifier rest ws).map fun read =>
          (stream.take config now bytes datagrams bitrate :: read.1, read.2)
      | _ => none
    else (matchWords streamIdentifier rest ws).map fun read => (stream :: read.1, read.2)

def readWords : Nat → List IperfStream → List UInt64 → Option (List IperfStream)
  | 0, streams, _ => some streams
  | _ + 1, _, [] => none
  | entries + 1, streams, streamIdentifier :: ws =>
    (matchWords config now streamIdentifier streams ws).bind fun read => readWords entries read.1 read.2

theorem matchStreams_words (streamIdentifier : UInt64) (streams : List IperfStream) (ws : List UInt64) {tail : Octets}
    (htail : tail.length < 8) :
    matchStreams config now streamIdentifier streams (words ws ++ tail)
      = (matchWords config now streamIdentifier streams ws).map fun read => (read.1, words read.2 ++ tail) := by
  induction streams generalizing ws with
  | nil => rfl
  | cons stream rest ih =>
    by_cases hid : stream.streamIdentifier = streamIdentifier
    · have hend : nextWord tail = none := nextWord_eq_none htail
      match ws with
      | [] | [_] | [_, _] =>
        simp [matchStreams, matchWords, hid, IperfStream.deserializeReport, TestReportOfStream.deserialize, hend]
      | bytes :: datagrams :: bitrate :: ws =>
        simp only [matchStreams, matchWords, if_pos hid, IperfStream.deserializeReport,
          TestReportOfStream.deserialize_words, Option.bind_eq_bind, Option.bind_some, Option.pure_def, ih]
        cases matchWords config now streamIdentifier rest ws <;> rfl
    · simp only [matchStreams, matchWords, if_neg hid, ih, Option.bind_eq_bind]
      cases matchWords config now streamIdentifier rest ws <;> rfl

theorem readSummary_words (entries : Nat) (streams : List IperfStream) (ws : List UInt64) {tail : Octets}
    (htail : tail.length < 8) :
    readSummary config now entries streams (words ws ++ tail) = readWords config now entries streams ws := by
  induction entries generalizing streams ws with
  | zero => rfl
  | succ entries ih =>
    cases ws with
    | nil => simp [readSummary, readWords, nextWord_eq_none htail]
    | cons streamIdentifier ws =>
      simp only [readSummary, readWords, nextWord_words_cons, matchStreams_words config now _ _ _ htail,
        Option.bind_eq_bind, Option.bind_some]
      cases matchWords config now streamIdentifier streams ws with
      | none => rfl
      | some read => exact ih read.1 read.2

/-! ### What one pass and the whole loop can do -/

/-- What the pass of one entry leaves of a stream: it changes only where the identifier fits, and what was received stays received. -/
structure Passed (streamIdentifier : UInt64) (old new : IperfStream) : Prop where
  sameIdentifier : new.streamIdentifier = old.streamIdentifier
  unmatched : old.streamIdentifier ≠ streamIdentifier → new = old
  matched : old.streamIdentifier = streamIdentifier → new.isSumReceived

theorem Passed.received {streamIdentifier : UInt64} {old new : IperfStream} (h : Passed streamIdentifier old new)
    (hold : old.isSumReceived) : new.isSumReceived := by
  by_cases hid : old.streamIdentifier = streamIdentifier
  · exact h.matched hid
  · rw [h.unmatched hid]
    exact hold

theorem matchWords_passed {streamIdentifier : UInt64} {streams streams' : List IperfStream} {ws ws' : List UInt64}
    (h : matchWords config now streamIdentifier streams ws = some (streams', ws')) :
    List.Forall₂ (Passed streamIdentifier) streams streams' ∧ ws' <:+ ws := by
  induction streams generalizing streams' ws with
  | nil =>
    obtain ⟨rfl, rfl⟩ := Prod.mk.inj (Option.some.inj h)
    exact ⟨.nil, List.suffix_refl _⟩
  | cons stream rest ih =>
    unfold matchWords at h
    split at h
    · rename_i hid
      split at h
      · rename_i bytes datagrams bitrate words
        obtain ⟨read, hread, heq⟩ := Option.map_eq_some_iff.mp h
        obtain ⟨rfl, rfl⟩ := Prod.mk.inj heq
        obtain ⟨hpassed, hsuffix⟩ := ih hread
        have hentry := stream.take_entry config now bytes datagrams bitrate
        refine ⟨.cons ⟨congrArg Prod.fst hentry, fun hne => absurd hid hne, fun _ => ?_⟩ hpassed, ?_⟩
        · exact congrArg (fun entry => entry.2.1) hentry
        · exact hsuffix.trans ((List.suffix_cons _ _).trans ((List.suffix_cons _ _).trans (List.suffix_cons _ _)))
      · exact absurd h (by simp)
    · rename_i hid
      obtain ⟨read, hread, heq⟩ := Option.map_eq_some_iff.mp h
      obtain ⟨rfl, rfl⟩ := Prod.mk.inj heq
      obtain ⟨hpassed, hsuffix⟩ := ih hread
      exact ⟨.cons ⟨rfl, fun _ => rfl, fun heq => absurd heq hid⟩ hpassed, hsuffix⟩

/-- What the whole loop leaves of a stream: it changes only if its identifier is among the words, and what was received stays received. -/
structure Read (ws : List UInt64) (old new : IperfStream) : Prop where
  sameIdentifier : new.streamIdentifier = old.streamIdentifier
  unmatched : old.streamIdentifier ∉ ws → new = old
  received : old.isSumReceived → new.isSumReceived

theorem Read.refl (ws : List UInt64) (stream : IperfStream) : Read ws stream stream := ⟨rfl, fun _ => rfl, id⟩

theorem readWords_read {entries : Nat} {streams streams' : List IperfStream} {ws : List UInt64}
    (h : readWords config now entries streams ws = some streams') : List.Forall₂ (Read ws) streams streams' := by
  induction entries generalizing streams ws with
  | zero =>
    obtain rfl := Option.some.inj h
    exact List.forall₂_same.mpr fun stream _ => .refl ws stream
  | succ entries ih =>
    cases ws with
    | nil => exact absurd h (by simp [readWords])
    | cons streamIdentifier ws =>
      obtain ⟨⟨passed, rest⟩, hmatch, hrest⟩ := Option.bind_eq_some_iff.mp h
      obtain ⟨hpassed, hsuffix⟩ := matchWords_passed config now hmatch
      refine Pointwise.trans (fun hone hnext => ?_) hpassed (ih hrest)
      refine ⟨hnext.sameIdentifier.trans hone.sameIdentifier, fun hnot => ?_, fun hold => hnext.received (hone.received hold)⟩
      rw [List.mem_cons, not_or] at hnot
      obtain ⟨hne, hnotin⟩ := hnot
      have hkept := hone.unmatched hne
      subst hkept
      exact hnext.unmatched fun hmem => hnotin (hsuffix.subset hmem)

/-! ### Entries in step with the cursor -/

theorem matchWords_unmatched {streamIdentifier : UInt64} {streams : List IperfStream}
    (h : streamIdentifier ∉ streams.map IperfStream.streamIdentifier) (ws : List UInt64) :
    matchWords config now streamIdentifier streams ws = some (streams, ws) := by
  induction streams with
  | nil => rfl
  | cons stream rest ih =>
    rw [List.map_cons, List.mem_cons, not_or] at h
    simp only [matchWords, if_neg (Ne.symm h.1), ih h.2, Option.map_some]

/-- What the three words behind an identifier make of a stream they are offered to. -/
def offer (streamIdentifier bytes datagrams bitrate : UInt64) (stream : IperfStream) : IperfStream :=
  if stream.streamIdentifier = streamIdentifier then stream.take config now bytes datagrams bitrate else stream

theorem offer_streamIdentifier (streamIdentifier bytes datagrams bitrate : UInt64) (stream : IperfStream) :
    (offer config now streamIdentifier bytes datagrams bitrate stream).streamIdentifier = stream.streamIdentifier := by
  unfold offer
  split
  · exact stream.take_streamIdentifier config now _ _ _
  · rfl

theorem map_offer_streamIdentifier (streamIdentifier bytes datagrams bitrate : UInt64) (streams : List IperfStream) :
    (streams.map (offer config now streamIdentifier bytes datagrams bitrate)).map IperfStream.streamIdentifier
      = streams.map IperfStream.streamIdentifier := by
  rw [List.map_map]
  exact List.map_congr_left fun stream _ => offer_streamIdentifier config now _ _ _ _ stream

theorem map_offer_unmatched {streamIdentifier : UInt64} {streams : List IperfStream}
    (h : streamIdentifier ∉ streams.map IperfStream.streamIdentifier) (bytes datagrams bitrate : UInt64) :
    streams.map (offer config now streamIdentifier bytes datagrams bitrate) = streams := by
  have hkeep : ∀ stream ∈ streams, offer config now streamIdentifier bytes datagrams bitrate stream = id stream := by
    intro stream hmem
    apply if_neg
    intro heq
    exact h (heq ▸ List.mem_map_of_mem hmem)
  rw [List.map_congr_left hkeep, List.map_id]

/-- An identifier with exactly one stream takes three words, and the cursor is behind them. -/
theorem matchWords_single {streamIdentifier : UInt64} {streams : List IperfStream}
    (h : (streams.map IperfStream.streamIdentifier).count streamIdentifier = 1)
    (bytes datagrams bitrate : UInt64) (ws : List UInt64) :
    matchWords config now streamIdentifier streams (bytes :: datagrams :: bitrate :: ws)
      = some (streams.map (offer config now streamIdentifier bytes datagrams bitrate), ws) := by
  induction streams with
  | nil => exact absurd h (by simp)
  | cons stream rest ih =>
    rw [List.map_cons, List.count_cons] at h
    by_cases hid : stream.streamIdentifier = streamIdentifier
    · rw [hid, beq_self_eq_true, if_pos rfl] at h
      have hrest : streamIdentifier ∉ rest.map IperfStream.streamIdentifier := List.count_eq_zero.mp (by omega)
      simp only [matchWords, if_pos hid, matchWords_unmatched config now hrest, Option.map_some, List.map_cons, offer]
      rw [map_offer_unmatched config now hrest]
    · rw [if_neg (by simpa using hid), Nat.add_zero] at h
      simp only [matchWords, if_neg hid, ih h, Option.map_some, List.map_cons, offer]

/-- What the entry of a sender stream makes of a stream of the receiver. -/
def deliver (sent : IperfStream) : IperfStream → IperfStream :=
  let summary := sent.report.senderReport.summary
  offer config now sent.streamIdentifier summary.bytes summary.datagrams
    (TestReportOfStream.bitrateWord summary.bitrate)

theorem map_deliver_streamIdentifier (sent : IperfStream) (streams : List IperfStream) :
    (streams.map (deliver config now sent)).map IperfStream.streamIdentifier
      = streams.map IperfStream.streamIdentifier := map_offer_streamIdentifier config now _ _ _ _ streams

/-- Entries with exactly one stream each are delivered one after the other. -/
theorem readWords_aligned {sent streams : List IperfStream} (entries : Nat) (ws : List UInt64)
    (h : ∀ s ∈ sent, (streams.map IperfStream.streamIdentifier).count s.streamIdentifier = 1) :
    readWords config now (sent.length + entries) streams (sent.flatMap IperfStream.entryWords ++ ws)
      = readWords config now entries (sent.foldl (fun streams s => streams.map (deliver config now s)) streams) ws := by
  induction sent generalizing streams with
  | nil => rw [List.length_nil, Nat.zero_add, List.flatMap_nil, List.nil_append, List.foldl_nil]
  | cons s sent ih =>
    have hcount := h s List.mem_cons_self
    rw [List.length_cons, Nat.succ_add, List.flatMap_cons, List.append_assoc, List.foldl_cons]
    rw [IperfStream.entryWords, List.cons_append, readWords]
    simp only [List.cons_append, List.nil_append]
    rw [matchWords_single config now hcount, Option.bind_some]
    apply ih
    intro s' hs'
    rw [map_offer_streamIdentifier]
    exact h s' (List.mem_cons_of_mem _ hs')

/-! ### The message -/

/-- `SendTestSummary` at the sender, and the handler of the message at the receiver. -/
def exchangeSummary (sender receiver : IperfTest) (clock : Nat → UInt64) (streamId : Nat) : Except Fault IperfTest := do
  let bytes ← sender.testSummary
  let (told, _) ← receiver.handleControlMessage bytes clock streamId
  return told

/-- The two ends of one test, with the receiver still waiting for the summary. -/
structure Paired (sender receiver : IperfTest) : Prop where
  sameTest : receiver.testId = sender.testId
  hasId : sender.testId ≠ 0
  running : receiver.state ≠ .testDone

def afterSummary (receiver : IperfTest) (streams : List IperfStream) : IperfTest :=
  let told := { receiver with ctrlChn := true, testStreams := streams, state := stateAfterAck receiver.state }
  if isReliableProtocol receiver.testConfig.protocol then told else told.tryPrintSummary

/-- The words behind the header: one entry for each stream, and zeros. Four bytes at the end are no whole word. -/
def bodyWords (streams : List IperfStream) : List UInt64 :=
  streams.flatMap IperfStream.entryWords ++ List.replicate (133 - 4 * streams.length) 0

theorem length_flatMap_entryWords (streams : List IperfStream) :
    (streams.flatMap IperfStream.entryWords).length = 4 * streams.length := by
  induction streams with
  | nil => rfl
  | cons stream rest ih =>
    rw [List.flatMap_cons, List.length_append, ih, List.length_cons]
    change 4 + _ = _
    omega

theorem flatMap_serializeReport (streams : List IperfStream) :
    streams.flatMap IperfStream.serializeReport = words (streams.flatMap IperfStream.entryWords) := by
  induction streams with
  | nil => rfl
  | cons stream rest ih =>
    rw [List.flatMap_cons, List.flatMap_cons, words_append, ih, IperfStream.serializeReport_eq]

def summaryHeader (sender : IperfTest) : IperfControlData :=
  sender.controlHeader 3 (.ofNat sender.testStreams.length)

theorem length_flatMap_serializeReport (streams : List IperfStream) :
    (streams.flatMap IperfStream.serializeReport).length = 32 * streams.length := by
  rw [flatMap_serializeReport, length_words, length_flatMap_entryWords, ← Nat.mul_assoc]

theorem testSummary_eq {sender : IperfTest} (hid : sender.testId ≠ 0) (hfit : sender.testStreams.length ≤ 33) :
    sender.testSummary
      = .ok (sender.summaryHeader.encode ++ (words (bodyWords sender.testStreams) ++ List.replicate 4 0)) := by
  have hlength := length_flatMap_serializeReport sender.testStreams
  have hpad : List.replicate (1100 - (32 + 32 * sender.testStreams.length)) (0 : UInt8)
      = words (List.replicate (133 - 4 * sender.testStreams.length) 0) ++ List.replicate 4 0 := by
    rw [words_zero, ← List.replicate_add]
    congr 1
    omega
  rw [testSummary, message_eq hid (by omega), hlength, hpad, bodyWords, words_append, flatMap_serializeReport,
    List.append_assoc]
  rfl

theorem testSummary_overflow {sender : IperfTest} (hlong : 33 < sender.testStreams.length) (bytes : Octets) :
    sender.testSummary ≠ .ok bytes := by
  apply message_overflow
  rw [length_flatMap_serializeReport]
  omega

theorem exchangeSummary_eq {sender receiver : IperfTest} (hpaired : Paired sender receiver)
    (hfit : sender.testStreams.length ≤ 33) (clock : Nat → UInt64) (streamId : Nat) :
    exchangeSummary sender receiver clock streamId
      = (Fault.need .outOfBounds (readWords receiver.testConfig (clock 0) sender.testStreams.length
          receiver.testStreams (bodyWords sender.testStreams))).map receiver.afterSummary := by
  have hcount : (UInt8.ofNat sender.testStreams.length).toNat = sender.testStreams.length :=
    UInt8.toNat_ofNat_of_lt' (lt_of_le_of_lt hfit (by decide))
  have htail : (List.replicate 4 (0 : UInt8)).length < 8 := by decide
  have hread := readSummary_words receiver.testConfig (clock 0) sender.testStreams.length receiver.testStreams
    (bodyWords sender.testStreams) htail
  have hsame : sender.summaryHeader.testId = receiver.testId := hpaired.sameTest.symm
  have hrunning : ({ receiver with ctrlChn := true } : IperfTest).state ≠ .testDone := hpaired.running
  rw [exchangeSummary, testSummary_eq hpaired.hasId hfit, Fault.ok_bind, handleControlMessage_encode hsame]
  change (handleSummaryMessage { receiver with ctrlChn := true } _ (clock 0) >>= _) = _
  rw [handleSummaryMessage, if_neg hrunning, (IperfControlData.fields_encode _ _).numOfStreams, Fault.need_some,
    Fault.ok_bind, (IperfControlData.fields_encode _ _).body]
  change ((Fault.need .outOfBounds (readSummary receiver.testConfig (clock 0)
    (UInt8.ofNat sender.testStreams.length).toNat receiver.testStreams _) >>= _) >>= _) = _
  rw [hcount, hread]
  cases readWords receiver.testConfig (clock 0) sender.testStreams.length receiver.testStreams
      (bodyWords sender.testStreams) with
  | none => rfl
  | some streams =>
    let told : IperfTest := { receiver with ctrlChn := true, testStreams := streams }
    have hid : told.testId ≠ 0 := hpaired.sameTest ▸ hpaired.hasId
    rw [Fault.need_some, Fault.ok_bind]
    change ((told.sendAck >>= _) >>= _) = _
    rw [sendAck_eq hid rfl, Fault.ok_bind]
    rfl

end IperfTest

end BatsIperf
