import BatsIperf.Test.Summary

/-!
# When every stream gets its own report

The identifiers at the two ends decide whether the summary exchange delivers every report. It does when the message holds the reports and every entry but the last has exactly one stream at the receiver; the words of the last entry are not needed to find another one. Otherwise some values of the counters bring the cursor out of step in a way that leaves a wrong report behind.
-/

namespace BatsIperf

namespace IperfTest

open Octets

/-- What a stream of the receiver must be after the exchange: the report of its own sender stream where there is one, and unchanged elsewhere, up to the flag that the summary was printed. -/
def DeliveredTo (sent : List IperfStream) (before after : IperfStream) : Prop :=
  (∀ s ∈ sent, s.streamIdentifier = before.streamIdentifier →
    after.report.senderReport.summary.bytes = s.report.senderReport.summary.bytes ∧
      after.report.senderReport.summary.datagrams = s.report.senderReport.summary.datagrams) ∧
  ((∀ s ∈ sent, s.streamIdentifier ≠ before.streamIdentifier) →
    { after with isSumPrinted := before.isSumPrinted } = before)

def SummaryDelivered (sent old new : List IperfStream) : Prop := List.Forall₂ (DeliveredTo sent) old new

/-- Every entry but the last has exactly one stream, and the last has at most one. -/
def EntriesAligned (sent received : List UInt64) : Prop :=
  sent.length ≤ 33 ∧ (received = [] ∨
    (∀ id ∈ sent, received.count id ≤ 1) ∧ ∀ id ∈ sent.dropLast, id ∈ received)

instance (sent received : List UInt64) : Decidable (EntriesAligned sent received) :=
  inferInstanceAs (Decidable (_ ∧ _))

variable (config : TestConfig) (now : UInt64)

/-! ### Aligned entries -/

theorem readWords_nil (entries : Nat) {ws : List UInt64} (h : entries ≤ ws.length) :
    readWords config now entries [] ws = some [] := by
  induction entries generalizing ws with
  | zero => rfl
  | succ entries ih =>
    cases ws with
    | nil => exact absurd h (by simp)
    | cons w ws => exact ih (Nat.le_of_succ_le_succ h)

theorem foldl_map_deliver (sent streams : List IperfStream) :
    sent.foldl (fun streams s => streams.map (deliver config now s)) streams
      = streams.map fun stream => sent.foldl (fun stream s => deliver config now s stream) stream := by
  induction sent generalizing streams with
  | nil => exact (List.map_id _).symm
  | cons s sent ih => rw [List.foldl_cons, ih, List.map_map]; rfl

theorem foldl_deliver_streamIdentifier (sent streams : List IperfStream) :
    (sent.foldl (fun streams s => streams.map (deliver config now s)) streams).map IperfStream.streamIdentifier
      = streams.map IperfStream.streamIdentifier := by
  induction sent generalizing streams with
  | nil => rfl
  | cons s sent ih => rw [List.foldl_cons, ih, map_deliver_streamIdentifier]

theorem foldl_deliver_unmatched {sent : List IperfStream} {stream : IperfStream}
    (h : ∀ s ∈ sent, s.streamIdentifier ≠ stream.streamIdentifier) :
    sent.foldl (fun stream s => deliver config now s stream) stream = stream := by
  induction sent with
  | nil => rfl
  | cons s sent ih =>
    rw [List.foldl_cons, deliver, offer, if_neg (Ne.symm (h s List.mem_cons_self))]
    exact ih fun s' hs' => h s' (List.mem_cons_of_mem _ hs')

theorem foldl_deliver_matched {sent : List IperfStream} (hdistinct : (sent.map IperfStream.streamIdentifier).Nodup)
    {stream s : IperfStream} (hs : s ∈ sent) (hid : s.streamIdentifier = stream.streamIdentifier) :
    sent.foldl (fun stream s => deliver config now s stream) stream = deliver config now s stream := by
  induction sent generalizing stream with
  | nil => exact absurd hs (by simp)
  | cons first sent ih =>
    rw [List.map_cons, List.nodup_cons] at hdistinct
    rw [List.foldl_cons]
    rcases List.mem_cons.mp hs with rfl | hrest
    · refine foldl_deliver_unmatched config now fun other hother heq => hdistinct.1 ?_
      rw [deliver, offer_streamIdentifier, ← hid] at heq
      exact heq ▸ List.mem_map_of_mem hother
    · have hne : stream.streamIdentifier ≠ first.streamIdentifier := fun heq =>
        hdistinct.1 (heq ▸ hid ▸ List.mem_map_of_mem hrest)
      rw [deliver, offer, if_neg hne]
      exact ih hdistinct.2 hrest hid

theorem deliver_matched {s stream : IperfStream} (hid : s.streamIdentifier = stream.streamIdentifier) :
    (deliver config now s stream).report.senderReport.summary.bytes = s.report.senderReport.summary.bytes ∧
      (deliver config now s stream).report.senderReport.summary.datagrams
        = s.report.senderReport.summary.datagrams := by
  rw [deliver, offer, if_pos hid.symm]
  exact ⟨stream.take_bytes config now _ _ _, stream.take_datagrams config now _ _ _⟩

/-- One more entry behind the aligned ones is delivered if it has a stream and skipped if not. -/
theorem readWords_last {s : IperfStream} {streams : List IperfStream} (ws : List UInt64)
    (h : (streams.map IperfStream.streamIdentifier).count s.streamIdentifier ≤ 1) :
    readWords config now 1 streams (s.entryWords ++ ws) = some (streams.map (deliver config now s)) := by
  rw [IperfStream.entryWords, List.cons_append, readWords]
  simp only [List.cons_append, List.nil_append]
  by_cases hcount : (streams.map IperfStream.streamIdentifier).count s.streamIdentifier = 1
  · rw [matchWords_single config now hcount]
    rfl
  · have hnot := List.count_eq_zero.mp (show (streams.map IperfStream.streamIdentifier).count s.streamIdentifier = 0 by omega)
    rw [matchWords_unmatched config now hnot, deliver, map_offer_unmatched config now hnot]
    rfl

theorem readWords_of_aligned {sent streams : List IperfStream} (ws : List UInt64)
    (hmost : ∀ id ∈ sent.map IperfStream.streamIdentifier, (streams.map IperfStream.streamIdentifier).count id ≤ 1)
    (hleast : ∀ id ∈ (sent.map IperfStream.streamIdentifier).dropLast, id ∈ streams.map IperfStream.streamIdentifier) :
    readWords config now sent.length streams (sent.flatMap IperfStream.entryWords ++ ws)
      = some (streams.map fun stream => sent.foldl (fun stream s => deliver config now s stream) stream) := by
  rcases sent.eq_nil_or_concat' with rfl | ⟨before, last, rfl⟩
  · exact congrArg some (List.map_id _).symm
  · rw [List.map_append, List.map_singleton, List.dropLast_concat] at hleast
    have hone : ∀ s ∈ before, (streams.map IperfStream.streamIdentifier).count s.streamIdentifier = 1 := by
      intro s hs
      have hle := hmost s.streamIdentifier (List.mem_map_of_mem (List.mem_append_left _ hs))
      have hpos := List.count_pos_iff.mpr (hleast _ (List.mem_map_of_mem hs))
      omega
    rw [List.length_append, List.length_singleton, List.flatMap_append, List.flatMap_singleton, List.append_assoc,
      readWords_aligned config now 1 _ hone, readWords_last, foldl_map_deliver, List.map_map]
    · simp only [List.foldl_append, List.foldl_cons, List.foldl_nil, Function.comp_def]
    · rw [foldl_deliver_streamIdentifier]
      exact hmost _ (List.mem_map_of_mem (List.mem_append_right _ (List.mem_singleton.mpr rfl)))

/-! ### An entry with two streams -/

/-- A stream takes the word at the cursor as its bytes, so it ends with something else where the cursor has something else. -/
theorem matchWords_wrong {id w : UInt64} {streams streams' : List IperfStream} {ws ws' : List UInt64}
    (hcount : 1 ≤ (streams.map IperfStream.streamIdentifier).count id) (hhead : ws.head? ≠ some w)
    (h : matchWords config now id streams ws = some (streams', ws')) :
    ∃ stream ∈ streams', stream.streamIdentifier = id ∧ stream.report.senderReport.summary.bytes ≠ w := by
  induction streams generalizing streams' with
  | nil => exact absurd hcount (by simp)
  | cons stream rest ih =>
    by_cases hid : stream.streamIdentifier = id
    · match ws, hhead with
      | [], _ | [_], _ | [_, _], _ => exact absurd h (by simp [matchWords, hid])
      | bytes :: datagrams :: bitrate :: ws, hhead =>
        simp only [matchWords, if_pos hid] at h
        obtain ⟨read, _, heq⟩ := Option.map_eq_some_iff.mp h
        obtain ⟨rfl, _⟩ := Prod.mk.inj heq
        refine ⟨_, List.mem_cons_self, (stream.take_streamIdentifier config now _ _ _).trans hid, ?_⟩
        rw [IperfStream.take_bytes]
        exact fun hw => hhead (congrArg some hw)
    · rw [List.map_cons, List.count_cons_of_ne hid] at hcount
      simp only [matchWords, if_neg hid] at h
      obtain ⟨read, hread, heq⟩ := Option.map_eq_some_iff.mp h
      obtain ⟨rfl, rfl⟩ := Prod.mk.inj heq
      obtain ⟨wrong, hmem, hwrong⟩ := ih hcount hread
      exact ⟨wrong, List.mem_cons_of_mem _ hmem, hwrong⟩

theorem matchWords_second_wrong {id w : UInt64} {streams streams' : List IperfStream} {first second third : UInt64}
    {ws ws' : List UInt64} (hcount : 2 ≤ (streams.map IperfStream.streamIdentifier).count id) (hhead : ws.head? ≠ some w)
    (h : matchWords config now id streams (first :: second :: third :: ws) = some (streams', ws')) :
    ∃ stream ∈ streams', stream.streamIdentifier = id ∧ stream.report.senderReport.summary.bytes ≠ w := by
  induction streams generalizing streams' with
  | nil => exact absurd hcount (by simp)
  | cons stream rest ih =>
    by_cases hid : stream.streamIdentifier = id
    · rw [List.map_cons, hid, List.count_cons_self] at hcount
      simp only [matchWords, if_pos hid] at h
      obtain ⟨read, hread, heq⟩ := Option.map_eq_some_iff.mp h
      obtain ⟨rfl, rfl⟩ := Prod.mk.inj heq
      obtain ⟨wrong, hmem, hwrong⟩ := matchWords_wrong config now (by omega) hhead hread
      exact ⟨wrong, List.mem_cons_of_mem _ hmem, hwrong⟩
    · rw [List.map_cons, List.count_cons_of_ne hid] at hcount
      simp only [matchWords, if_neg hid] at h
      obtain ⟨read, hread, heq⟩ := Option.map_eq_some_iff.mp h
      obtain ⟨rfl, rfl⟩ := Prod.mk.inj heq
      obtain ⟨wrong, hmem, hwrong⟩ := ih hcount hread
      exact ⟨wrong, List.mem_cons_of_mem _ hmem, hwrong⟩

/-- The identifier occurs once at most, and the word behind its entry is not `w`. -/
def Spoiled (id w : UInt64) (ws : List UInt64) : Prop :=
  id ∉ ws ∨ ∃ before first second third after, ws = before ++ id :: first :: second :: third :: after ∧
    id ∉ before ∧ id ∉ first :: second :: third :: after ∧ after.head? ≠ some w

theorem Spoiled.suffix {id w : UInt64} {ws ws' : List UInt64} (h : Spoiled id w ws) (hsuffix : ws' <:+ ws) :
    Spoiled id w ws' := by
  rcases h with hnot | ⟨before, first, second, third, after, rfl, hbefore, hafter, hhead⟩
  · exact .inl fun hmem => hnot (hsuffix.subset hmem)
  · rcases List.suffix_or_suffix_of_suffix hsuffix (List.suffix_append before _) with hinside | ⟨front, rfl⟩
    · rcases List.suffix_cons_iff.mp hinside with rfl | hinside
      · exact .inr ⟨[], first, second, third, after, rfl, by simp, hafter, hhead⟩
      · exact .inl fun hmem => hafter (hinside.subset hmem)
    · have hfront := List.suffix_append_self_iff.mp hsuffix
      exact .inr ⟨front, first, second, third, after, rfl, fun hmem => hbefore (hfront.subset hmem), hafter, hhead⟩

theorem Passed.unchanged {id : UInt64} {streams streams' : List IperfStream}
    (h : List.Forall₂ (Passed id) streams streams') :
    streams'.map IperfStream.streamIdentifier = streams.map IperfStream.streamIdentifier := by
  induction h with
  | nil => rfl
  | cons hone _ ih => rw [List.map_cons, List.map_cons, hone.sameIdentifier, ih]

/-- Two streams with one identifier cannot both end with the bytes of its entry. -/
theorem readWords_spoiled {id w : UInt64} {entries : Nat} {streams streams' : List IperfStream} {ws : List UInt64}
    (hspoiled : Spoiled id w ws) (hcount : 2 ≤ (streams.map IperfStream.streamIdentifier).count id)
    (hold : ∀ stream ∈ streams, stream.streamIdentifier = id → stream.report.senderReport.summary.bytes ≠ w)
    (h : readWords config now entries streams ws = some streams') :
    ∃ stream ∈ streams', stream.streamIdentifier = id ∧ stream.report.senderReport.summary.bytes ≠ w := by
  induction entries generalizing streams ws with
  | zero =>
    obtain rfl := Option.some.inj h
    have hpos : 0 < (streams.map IperfStream.streamIdentifier).count id := by omega
    obtain ⟨stream, hmem, hid⟩ := List.mem_map.mp (List.count_pos_iff.mp hpos)
    exact ⟨stream, hmem, hid, hold stream hmem hid⟩
  | succ entries ih =>
    cases ws with
    | nil => exact absurd h (by simp [readWords])
    | cons head ws =>
      obtain ⟨⟨passed, rest⟩, hmatch, hrest⟩ := Option.bind_eq_some_iff.mp h
      obtain ⟨hpassed, hsuffix⟩ := matchWords_passed config now hmatch
      by_cases hhead : head = id
      · subst hhead
        rcases hspoiled with hnot | ⟨before, first, second, third, after, heq, hbefore, hafter, hnext⟩
        · exact absurd List.mem_cons_self hnot
        · cases before with
          | cons b before => exact absurd (by rw [(List.cons.inj heq).1]; exact List.mem_cons_self) hbefore
          | nil =>
            obtain ⟨_, rfl⟩ := List.cons.inj heq
            obtain ⟨wrong, hmem, hid, hwrong⟩ := matchWords_second_wrong config now hcount hnext hmatch
            -- the identifier does not come again, so the stream keeps what it took
            obtain ⟨kept, hkept, hread⟩ := Pointwise.exists_right (readWords_read config now hrest) hmem
            have hsame := hread.unmatched fun hin => hafter (hsuffix.subset (hid ▸ hin))
            exact ⟨kept, hkept, hsame ▸ hid, hsame ▸ hwrong⟩
      · refine ih (hspoiled.suffix (hsuffix.trans (List.suffix_cons _ _))) ?_ ?_ hrest
        · rw [Passed.unchanged hpassed]
          exact hcount
        · intro stream hmem hid
          obtain ⟨old, hmemold, hone⟩ := Pointwise.exists_left hpassed hmem
          have hidold : old.streamIdentifier = id := hone.sameIdentifier.symm.trans hid
          have hsame := hone.unmatched fun heq => hhead (heq.symm.trans hidold)
          exact hsame ▸ hold old hmemold hidold

/-! ### An entry without a stream -/

/-- The cursor stands at the bytes of an entry. Every entry has the identifier of a stream as its bytes, so each pass takes the words behind them and the cursor never gets back into step. -/
theorem readWords_out_of_step {id w : UInt64} {entries : Nat} {streams streams' : List IperfStream}
    (later : List UInt64) (pad : List UInt64) (hentries : entries ≤ later.length + 1)
    (hcount : (streams.map IperfStream.streamIdentifier).count id = 1)
    (hold : 0 < entries ∨ ∃ stream ∈ streams, stream.streamIdentifier = id ∧
      stream.report.senderReport.summary.bytes = w)
    (h : readWords config now entries streams
      (id :: w :: w :: (later.flatMap (fun next => [next, id, w, w]) ++ 0 :: pad)) = some streams') :
    ∃ stream ∈ streams', stream.streamIdentifier = id ∧ stream.report.senderReport.summary.bytes = w := by
  induction entries generalizing streams later with
  | zero =>
    obtain rfl := Option.some.inj h
    exact hold.resolve_left (by omega)
  | succ entries ih =>
    have hpos : 0 < (streams.map IperfStream.streamIdentifier).count id := by omega
    obtain ⟨stream, hmem, hid⟩ := List.mem_map.mp (List.count_pos_iff.mp hpos)
    have htaken (bitrate : UInt64) : ∃ stream ∈ streams.map (offer config now id w w bitrate),
        stream.streamIdentifier = id ∧ stream.report.senderReport.summary.bytes = w := by
      refine ⟨_, List.mem_map_of_mem hmem, (offer_streamIdentifier config now _ _ _ _ stream).trans hid, ?_⟩
      rw [offer, if_pos hid, IperfStream.take_bytes]
    cases later with
    | nil =>
      rw [List.length_nil] at hentries
      obtain rfl : entries = 0 := by omega
      rw [List.flatMap_nil, List.nil_append, readWords, matchWords_single config now hcount, Option.bind_some] at h
      obtain rfl := Option.some.inj h
      exact htaken 0
    | cons next later =>
      rw [List.length_cons] at hentries
      rw [List.flatMap_cons, readWords] at h
      simp only [List.cons_append, List.nil_append] at h
      rw [matchWords_single config now hcount, Option.bind_some] at h
      refine ih later (by omega) ?_ (.inr (htaken next)) h
      rw [map_offer_streamIdentifier]
      exact hcount

/-! ### Two ends with given identifiers -/

def reporting (id bytes datagrams bitrate : UInt64) : IperfStream where
  config := { protocol := 1 }
  streamIdentifier := id
  report := { senderReport := { summary := {
    bytes := bytes, datagrams := datagrams, bitrate := (bitrate.toNat : ℚ) / 100 } } }

theorem reporting_entryWords (id bytes datagrams bitrate : UInt64) :
    (reporting id bytes datagrams bitrate).entryWords = [id, bytes, datagrams, bitrate] := by
  have hword : TestReportOfStream.bitrateWord ((bitrate.toNat : ℚ) / 100) = bitrate := by
    have hscale : (bitrate.toNat : ℚ) / 100 * 100 = ((bitrate.toNat : Int) : ℚ) := by
      rw [div_mul_cancel₀ _ (by norm_num)]
      rfl
    rw [TestReportOfStream.bitrateWord, hscale, Rat.floor_intCast, Int.toNat_natCast, UInt64.ofNat_toNat]
  change [id, bytes, datagrams, TestReportOfStream.bitrateWord ((bitrate.toNat : ℚ) / 100)] = _
  rw [hword]

def sendingEnd (streams : List IperfStream) : IperfTest where
  testConfig := { protocol := 1, role := .roleSender }
  testId := 1
  state := .testStart
  testStreams := streams

def receivingEnd (identifiers : List UInt64) : IperfTest where
  testConfig := { protocol := 1, role := .roleReceiver }
  testId := 1
  state := .testStart
  testStreams := identifiers.map fun id => reporting id 0 0 0

theorem paired_ends (streams : List IperfStream) (identifiers : List UInt64) :
    Paired (sendingEnd streams) (receivingEnd identifiers) := 
  ⟨rfl, show (1 : UInt32) ≠ 0 by decide, show TestState.testStart ≠ .testDone by decide⟩

theorem receivingEnd_identifiers (identifiers : List UInt64) :
    (receivingEnd identifiers).testStreams.map IperfStream.streamIdentifier = identifiers := by
  change (identifiers.map fun id => reporting id 0 0 0).map IperfStream.streamIdentifier = identifiers
  rw [List.map_map]
  exact List.map_id identifiers

theorem afterSummary_testStreams (identifiers : List UInt64) (streams : List IperfStream) :
    ((receivingEnd identifiers).afterSummary streams).testStreams = streams := rfl

/-- The exchange succeeds only where the reading loop does, and ends with its streams. -/
theorem exchangeSummary_read {sender receiver told : IperfTest} (hpaired : Paired sender receiver)
    (hfit : sender.testStreams.length ≤ 33) {clock : Nat → UInt64} {streamId : Nat}
    (h : exchangeSummary sender receiver clock streamId = .ok told) :
    ∃ streams, readWords receiver.testConfig (clock 0) sender.testStreams.length receiver.testStreams
      (bodyWords sender.testStreams) = some streams ∧ told = receiver.afterSummary streams := by
  rw [exchangeSummary_eq hpaired hfit] at h
  cases hread : readWords receiver.testConfig (clock 0) sender.testStreams.length receiver.testStreams
      (bodyWords sender.testStreams) with
  | none =>
    rw [hread] at h
    exact absurd h (by simp [Fault.need, Except.map])
  | some streams =>
    rw [hread] at h
    exact ⟨streams, rfl, (Except.ok.inj h).symm⟩

/-! ### Sufficiency -/

theorem afterSummary_printed (receiver : IperfTest) (streams : List IperfStream) :
    List.Forall₂ (fun stream printed : IperfStream => ∃ flag, printed = { stream with isSumPrinted := flag }) streams
      (receiver.afterSummary streams).testStreams := by
  unfold afterSummary tryPrintSummary
  split
  · exact List.forall₂_same.mpr fun stream _ => ⟨stream.isSumPrinted, rfl⟩
  · dsimp only
    split
    · exact Pointwise.map_self (fun stream => ⟨true, rfl⟩) streams
    · exact List.forall₂_same.mpr fun stream _ => ⟨stream.isSumPrinted, rfl⟩

theorem deliveredTo_foldl {sent : List IperfStream} (hdistinct : (sent.map IperfStream.streamIdentifier).Nodup)
    (stream : IperfStream) (flag : Bool) : DeliveredTo sent stream
      { sent.foldl (fun stream s => deliver config now s stream) stream with isSumPrinted := flag } := by
  constructor
  · intro s hs hid
    rw [foldl_deliver_matched config now hdistinct hs hid]
    exact deliver_matched config now hid
  · intro hnone
    rw [foldl_deliver_unmatched config now hnone]

theorem delivered_of_aligned {sender receiver : IperfTest} (hpaired : Paired sender receiver)
    (hdistinct : (sender.testStreams.map IperfStream.streamIdentifier).Nodup)
    (haligned : EntriesAligned (sender.testStreams.map IperfStream.streamIdentifier)
      (receiver.testStreams.map IperfStream.streamIdentifier)) (clock : Nat → UInt64) (streamId : Nat) :
    ∃ told, exchangeSummary sender receiver clock streamId = .ok told ∧
      SummaryDelivered sender.testStreams receiver.testStreams told.testStreams := by
  obtain ⟨hfit, haligned⟩ := haligned
  rw [List.length_map] at hfit
  have hread : readWords receiver.testConfig (clock 0) sender.testStreams.length receiver.testStreams
      (bodyWords sender.testStreams) = some (receiver.testStreams.map fun stream => sender.testStreams.foldl
        (fun stream s => deliver receiver.testConfig (clock 0) s stream) stream) := by
    rcases haligned with hnone | ⟨hmost, hleast⟩
    · rw [List.map_eq_nil_iff.mp hnone]
      apply readWords_nil
      rw [bodyWords, List.length_append, length_flatMap_entryWords]
      omega
    · exact readWords_of_aligned receiver.testConfig (clock 0) _ hmost hleast
  refine ⟨_, by rw [exchangeSummary_eq hpaired hfit, hread]; rfl, ?_⟩
  refine Pointwise.trans ?_ (List.forall₂_map_right_iff.mpr (List.forall₂_same.mpr fun _ _ => rfl))
    (afterSummary_printed receiver _)
  rintro stream _ _ rfl ⟨flag, rfl⟩
  exact deliveredTo_foldl receiver.testConfig (clock 0) hdistinct stream flag

/-! ### Necessity -/

/-- The exchange is right between these two ends whatever the counters are. -/
def AlwaysDelivered (sent received : List UInt64) : Prop :=
  ∀ sender receiver : IperfTest, Paired sender receiver →
    sender.testStreams.map IperfStream.streamIdentifier = sent →
    receiver.testStreams.map IperfStream.streamIdentifier = received →
    ∀ clock streamId, ∃ told, exchangeSummary sender receiver clock streamId = .ok told ∧
      SummaryDelivered sender.testStreams receiver.testStreams told.testStreams

theorem length_le_of_delivered {sent received : List UInt64} (h : AlwaysDelivered sent received) :
    sent.length ≤ 33 := by
  by_contra hlong
  let streams := sent.map fun id => reporting id 0 0 0
  have hids : streams.map IperfStream.streamIdentifier = sent := receivingEnd_identifiers sent
  have hlength : streams.length = sent.length := List.length_map _
  obtain ⟨told, hok, _⟩ := h (sendingEnd streams) (receivingEnd received) (paired_ends streams received) hids
    (receivingEnd_identifiers received) (fun _ => 0) 0
  obtain ⟨bytes, hbytes, _⟩ := Fault.bind_eq_ok.mp hok
  refine testSummary_overflow ?_ bytes hbytes
  change 33 < streams.length
  omega

/-- Every stream of the receiver got what it must have, and the identifiers are where they were. -/
theorem read_of_delivered {received : List UInt64} {streams : List IperfStream}
    (h : AlwaysDelivered (streams.map IperfStream.streamIdentifier) received) :
    ∃ streams', readWords { protocol := 1, role := .roleReceiver } 0 streams.length
        (received.map fun id => reporting id 0 0 0) (bodyWords streams) = some streams' ∧
      ∀ new ∈ streams', ∃ id ∈ received, new.streamIdentifier = id ∧ DeliveredTo streams (reporting id 0 0 0) new := by
  have hfit := length_le_of_delivered h
  rw [List.length_map] at hfit
  obtain ⟨told, hok, hdelivered⟩ := h (sendingEnd streams) (receivingEnd received) (paired_ends streams received) rfl
    (receivingEnd_identifiers received) (fun _ => 0) 0
  obtain ⟨streams', hread, rfl⟩ := exchangeSummary_read (paired_ends streams received) hfit hok
  rw [afterSummary_testStreams] at hdelivered
  refine ⟨streams', hread, fun new hnew => ?_⟩
  have hboth := List.Forall₂.mp (fun _ _ hone hread => And.intro hone hread) hdelivered (readWords_read _ _ hread)
  obtain ⟨old, hold, hdelivered, hkept⟩ := Pointwise.exists_left hboth hnew
  obtain ⟨id, hid, rfl⟩ := List.mem_map.mp hold
  exact ⟨id, hid, hkept.sameIdentifier, hdelivered⟩

theorem exists_fresh (first second third : UInt64) : ∃ w, w ≠ first ∧ w ≠ second ∧ w ≠ third := by
  by_contra hnone
  push Not at hnone
  have hzero := hnone 0
  have hone := hnone 1
  have htwo := hnone 2
  have hthree := hnone 3
  grind

theorem entriesOf (f : UInt64 → UInt64) (w : UInt64) (ids : List UInt64) :
    (ids.map fun id => reporting id (f id) w w).flatMap IperfStream.entryWords
      = ids.flatMap fun id => [id, f id, w, w] := by
  rw [List.flatMap_map]
  exact List.flatMap_congr fun id _ => reporting_entryWords id (f id) w w

/-- With all counters of one unused value, an identifier of two streams is answered wrongly in one of them. -/
theorem count_le_of_delivered {sent received : List UInt64} (hdistinct : sent.Nodup) (hnonzero : 0 ∉ sent)
    (h : AlwaysDelivered sent received) {id : UInt64} (hid : id ∈ sent) : received.count id ≤ 1 := by
  by_contra hcount
  obtain ⟨before, after, rfl⟩ := List.append_of_mem hid
  obtain ⟨hbefore, hafter⟩ : id ∉ before ∧ id ∉ after := by
    rw [List.nodup_append, List.nodup_cons] at hdistinct
    exact ⟨fun hmem => hdistinct.2.2 id hmem id List.mem_cons_self rfl, hdistinct.2.1.1⟩
  have hidne : id ≠ 0 := fun heq => hnonzero (heq ▸ hid)
  obtain ⟨w, hwid, hwzero, hwnext⟩ := exists_fresh id 0 (after.headD 0)
  let streams := (before ++ id :: after).map fun id => reporting id w w w
  have hids : streams.map IperfStream.streamIdentifier = before ++ id :: after := by
    rw [List.map_map]
    exact List.map_id _
  obtain ⟨streams', hread, hdelivered⟩ := read_of_delivered (hids ▸ h)
  let zeros : List UInt64 := List.replicate (133 - 4 * streams.length) 0
  have hwords : bodyWords streams = (before.flatMap fun id => [id, w, w, w])
      ++ id :: w :: w :: w :: ((after.flatMap fun id => [id, w, w, w]) ++ zeros) := by
    rw [bodyWords, entriesOf (fun _ => w), List.flatMap_append, List.flatMap_cons, List.append_assoc]
    rfl
  have hfree {ids : List UInt64} (hnot : id ∉ ids) : id ∉ ids.flatMap fun id => [id, w, w, w] := by
    simp only [List.mem_flatMap, List.mem_cons, List.not_mem_nil, or_false]
    rintro ⟨other, hother, rfl | rfl | rfl | rfl⟩
    · exact hnot hother
    all_goals exact hwid rfl
  have hspoiled : Spoiled id w (bodyWords streams) := by
    refine .inr ⟨_, w, w, w, _, hwords, hfree hbefore, ?_, ?_⟩
    · simp only [List.mem_cons, List.mem_append, not_or]
      exact ⟨hwid.symm, hwid.symm, hwid.symm, hfree hafter, fun hmem => hidne (List.eq_of_mem_replicate hmem)⟩
    · cases after with
      | nil =>
        intro heq
        have hmem : w ∈ zeros := List.mem_of_mem_head? heq
        exact hwzero (List.eq_of_mem_replicate hmem)
      | cons next after => exact fun heq => hwnext (Option.some.inj heq).symm
  have hidentifiers : (received.map fun id => reporting id 0 0 0).map IperfStream.streamIdentifier = received :=
    receivingEnd_identifiers received
  obtain ⟨wrong, hmem, hwrongid, hwrong⟩ := readWords_spoiled _ _ hspoiled (by rw [hidentifiers]; omega)
    (fun stream hstream _ => by
      obtain ⟨other, _, rfl⟩ := List.mem_map.mp hstream
      exact hwzero.symm) hread
  obtain ⟨other, _, hsame, hright, _⟩ := hdelivered wrong hmem
  have hown : reporting id w w w ∈ streams := List.mem_map_of_mem (by simp)
  exact hwrong (hright _ hown (hwrongid.symm.trans hsame)).1

/-- The first entry without a stream, where another entry follows: with the identifier of some stream as the bytes of every entry, that stream reads its report from the next one. -/
theorem readWords_first_unmatched {before after received : List UInt64} {x id w : UInt64}
    (hbefore : ∀ i ∈ before, received.count i = 1) (hx : x ∉ received) {streams : List IperfStream}
    (hstreams : streams.map IperfStream.streamIdentifier = received) (ws : List UInt64) :
    ∃ aligned : List IperfStream, aligned.map IperfStream.streamIdentifier = received ∧
      readWords config now (before ++ x :: after).length streams
        (((before ++ x :: after).flatMap fun i => [i, id, w, w]) ++ ws)
      = readWords config now after.length aligned (id :: w :: w :: ((after.flatMap fun i => [i, id, w, w]) ++ ws)) := by
  let sent := before.map fun i => reporting i id w w
  have hone : ∀ s ∈ sent, (streams.map IperfStream.streamIdentifier).count s.streamIdentifier = 1 := by
    intro s hs
    obtain ⟨i, hi, rfl⟩ := List.mem_map.mp hs
    rw [hstreams]
    exact hbefore i hi
  let aligned := sent.foldl (fun streams s => streams.map (deliver config now s)) streams
  have haligned : aligned.map IperfStream.streamIdentifier = received :=
    (foldl_deliver_streamIdentifier config now sent streams).trans hstreams
  refine ⟨aligned, haligned, ?_⟩
  have hsent : sent.flatMap IperfStream.entryWords = before.flatMap fun i => [i, id, w, w] :=
    entriesOf (fun _ => id) w before
  have hlength : (before ++ x :: after).length = sent.length + (after.length + 1) := by
    rw [List.length_append, List.length_cons, List.length_map]
  rw [hlength, List.flatMap_append, List.append_assoc, ← hsent, readWords_aligned config now _ _ hone,
    List.flatMap_cons]
  change (matchWords config now x aligned (id :: w :: w :: _)).bind _ = _
  rw [matchWords_unmatched config now (haligned ▸ hx)]
  rfl

theorem exists_first_unmatched {sent received : List UInt64} {x : UInt64} (hx : x ∈ sent.dropLast)
    (hnone : x ∉ received) : ∃ before first after, after ≠ [] ∧ sent = before ++ first :: after ∧
      first ∉ received ∧ ∀ i ∈ before, i ∈ received := by
  obtain ⟨first, hfind⟩ : ∃ first, sent.dropLast.find? (fun i => decide (i ∉ received)) = some first :=
    Option.isSome_iff_exists.mp (List.find?_isSome.mpr ⟨x, hx, by simpa using hnone⟩)
  obtain ⟨hfirst, before, rest, hdrop, hbefore⟩ := List.find?_eq_some_iff_append.mp hfind
  have hsent : sent ≠ [] := by
    rintro rfl
    exact absurd hx (by simp)
  refine ⟨before, first, rest ++ [sent.getLast hsent], by simp, ?_, by simpa using hfirst, ?_⟩
  · rw [← List.cons_append, ← List.append_assoc, ← hdrop, List.dropLast_append_getLast]
  · intro i hi
    simpa using hbefore i hi

/-- What the exchange does behind the first entry without a stream when the bytes of every entry are `id`. -/
theorem read_behind_unmatched {before after received : List UInt64} {first : UInt64}
    (hdistinct : (before ++ first :: after).Nodup) (hnonzero : 0 ∉ before ++ first :: after)
    (h : AlwaysDelivered (before ++ first :: after) received) (hfirst : first ∉ received)
    (hbefore : ∀ i ∈ before, i ∈ received) (id w : UInt64) :
    ∃ aligned streams' : List IperfStream, ∃ pad : List UInt64,
      aligned.map IperfStream.streamIdentifier = received ∧
      readWords { protocol := 1, role := .roleReceiver } 0 after.length aligned
        (id :: w :: w :: ((after.flatMap fun i => [i, id, w, w]) ++ 0 :: pad)) = some streams' ∧
      ∀ new ∈ streams', ∃ i ∈ received, new.streamIdentifier = i ∧
        DeliveredTo ((before ++ first :: after).map fun i => reporting i id w w) (reporting i 0 0 0) new := by
  have hcount : ∀ i ∈ before, received.count i = 1 := by
    intro i hi
    have hpos := List.count_pos_iff.mpr (hbefore i hi)
    have hmost := count_le_of_delivered hdistinct hnonzero h (List.mem_append_left _ hi)
    omega
  have hfit := length_le_of_delivered h
  have hpad : List.replicate (133 - 4 * (before ++ first :: after).length) (0 : UInt64)
      = 0 :: List.replicate (132 - 4 * (before ++ first :: after).length) 0 := by
    rw [← List.replicate_succ]
    congr 1
    omega
  let streams := (before ++ first :: after).map fun i => reporting i id w w
  have hids : streams.map IperfStream.streamIdentifier = before ++ first :: after := by
    rw [List.map_map]
    exact List.map_id _
  have hlength : streams.length = (before ++ first :: after).length := List.length_map _
  obtain ⟨streams', hread, hdelivered⟩ := read_of_delivered (hids ▸ h)
  rw [bodyWords, entriesOf (fun _ => id), hlength, hpad] at hread
  obtain ⟨aligned, haligned, heq⟩ := readWords_first_unmatched _ _ hcount hfirst
    (receivingEnd_identifiers received) (0 :: List.replicate (132 - 4 * (before ++ first :: after).length) 0)
  exact ⟨aligned, streams', _, haligned, heq ▸ hread, hdelivered⟩

/-- A word that is read as an identifier reaches a stream that no entry is for. -/
theorem mem_sent_of_delivered {before after received : List UInt64} {first id : UInt64}
    (hdistinct : (before ++ first :: after).Nodup) (hnonzero : 0 ∉ before ++ first :: after)
    (h : AlwaysDelivered (before ++ first :: after) received) (hfirst : first ∉ received) (hafter : after ≠ [])
    (hbefore : ∀ i ∈ before, i ∈ received) (hid : id ∈ received) : id ∈ before ++ first :: after := by
  by_contra hnone
  obtain ⟨aligned, streams', pad, haligned, hread, hdelivered⟩ :=
    read_behind_unmatched hdistinct hnonzero h hfirst hbefore id 0
  obtain ⟨next, later, rfl⟩ := List.exists_cons_of_ne_nil hafter
  obtain ⟨stream, hstream, hstreamid⟩ := List.mem_map.mp (haligned ▸ hid)
  obtain ⟨⟨passed, rest⟩, hmatch, hrest⟩ := Option.bind_eq_some_iff.mp hread
  obtain ⟨taken, htaken, hone⟩ := Pointwise.exists_right (matchWords_passed _ _ hmatch).1 hstream
  obtain ⟨new, hnew, hkept⟩ := Pointwise.exists_right (readWords_read _ _ hrest) htaken
  have hreceived := hkept.received (hone.matched hstreamid)
  have hnewid : new.streamIdentifier = id := (hkept.sameIdentifier.trans hone.sameIdentifier).trans hstreamid
  obtain ⟨i, _, hi, _, huntouched⟩ := hdelivered new hnew
  obtain rfl : i = id := hi.symm.trans hnewid
  have hsame := huntouched fun s hs => by
    obtain ⟨other, hother, rfl⟩ := List.mem_map.mp hs
    intro (heq : other = i)
    exact hnone (heq ▸ hother)
  have hnot : new.isSumReceived = false := congrArg IperfStream.isSumReceived hsame
  rw [hnot] at hreceived
  exact absurd hreceived (by decide)

theorem mem_of_delivered {sent received : List UInt64} (hdistinct : sent.Nodup) (hnonzero : 0 ∉ sent)
    (h : AlwaysDelivered sent received) (hreceived : received ≠ []) {x : UInt64} (hx : x ∈ sent.dropLast) :
    x ∈ received := by
  by_contra hnone
  obtain ⟨before, first, after, hafter, rfl, hfirst, hbefore⟩ := exists_first_unmatched hx hnone
  obtain ⟨id, ids, rfl⟩ := List.exists_cons_of_ne_nil hreceived
  have hsent := mem_sent_of_delivered hdistinct hnonzero h hfirst hafter hbefore List.mem_cons_self
  have hcount : (id :: ids).count id = 1 := by
    have hpos := List.count_pos_iff.mpr (List.mem_cons_self : id ∈ id :: ids)
    have hmost := count_le_of_delivered hdistinct hnonzero h hsent
    omega
  obtain ⟨w, hwid, _⟩ := exists_fresh id 0 0
  obtain ⟨aligned, streams', pad, haligned, hread, hdelivered⟩ :=
    read_behind_unmatched hdistinct hnonzero h hfirst hbefore id w
  obtain ⟨new, hnew, hnewid, hbytes⟩ := readWords_out_of_step _ _ after pad (Nat.le_succ _) (haligned ▸ hcount)
    (.inl (List.length_pos_iff.mpr hafter)) hread
  obtain ⟨i, _, hi, hright, _⟩ := hdelivered new hnew
  obtain rfl : i = id := hi.symm.trans hnewid
  have hown := (hright (reporting i i w w) (List.mem_map_of_mem hsent) rfl).1
  exact hwid (hbytes.symm.trans hown)

/-- The exchange between two ends with the given identifiers is right whatever the counters and the earlier states are, exactly when the entries stay in step with the cursor. -/
theorem summary_delivered_iff {sent received : List UInt64} (hdistinct : sent.Nodup) (hnonzero : 0 ∉ sent) :
    AlwaysDelivered sent received ↔ EntriesAligned sent received := by
  constructor
  · intro h
    refine ⟨length_le_of_delivered h, ?_⟩
    by_cases hreceived : received = []
    · exact .inl hreceived
    · exact .inr ⟨fun id hid => count_le_of_delivered hdistinct hnonzero h hid,
        fun id hid => mem_of_delivered hdistinct hnonzero h hreceived hid⟩
  · rintro haligned sender receiver hpaired rfl rfl clock streamId
    exact delivered_of_aligned hpaired hdistinct haligned clock streamId

theorem summary_delivered_iff_swapped : AlwaysDelivered [11, 12] [12, 11] ↔ EntriesAligned [11, 12] [12, 11] :=
  summary_delivered_iff (by decide) (by decide)

/-- The receiver has learned the second of two identifiers only. The counters of the first entry stay at the cursor, its bytes are taken for the next identifier, and the second report is never read. -/
theorem summary_undelivered_counterexample :
    let sent := [reporting 11 3000 3 100, reporting 12 5000 5 100]
    ∃ told, exchangeSummary (sendingEnd sent) (receivingEnd [12]) (fun _ => 0) 0 = .ok told ∧
      told.testStreams = [reporting 12 0 0 0] ∧ ¬ SummaryDelivered sent (receivingEnd [12]).testStreams told.testStreams := by
  intro sent
  have hread : readWords (receivingEnd [12]).testConfig 0 2 [reporting 12 0 0 0] (bodyWords sent)
      = some [reporting 12 0 0 0] := by
    rw [bodyWords]
    simp only [sent, List.flatMap_cons, List.flatMap_nil, reporting_entryWords, List.cons_append, List.nil_append]
    rfl
  refine ⟨(receivingEnd [12]).afterSummary [reporting 12 0 0 0], ?_, rfl, ?_⟩
  · rw [exchangeSummary_eq (paired_ends sent [12]) (show 2 ≤ 33 by decide)]
    change (Fault.need .outOfBounds (readWords (receivingEnd [12]).testConfig 0 2 [reporting 12 0 0 0]
      (bodyWords sent))).map _ = _
    rw [hread]
    rfl
  · intro hdelivered
    obtain ⟨⟨hright, _⟩, _⟩ := List.forall₂_cons.mp hdelivered
    have hbytes := (hright (reporting 12 5000 5 100) (by simp [sent]) rfl).1
    exact absurd hbytes (show (0 : UInt64) ≠ 5000 by decide)

end IperfTest

end BatsIperf
