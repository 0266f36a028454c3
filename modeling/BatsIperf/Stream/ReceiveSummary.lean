import BatsIperf.Stream.ReceiverReport

/-!
# The losses in the summary of a receiver

`GenReceiveSummary` takes the losses of a test from two counters: the datagrams the sender reports and the datagrams that were received, copies and packets behind the report included. It then overwrites the second counter with the first, so a report that is finished once more finds no losses.
-/

namespace BatsIperf

/-! ### What was sent and what arrived -/

/-- The sequence numbers below `sent` that are missing among the delivered ones. -/
def missing (sent : UInt64) (delivered : List UInt64) : Nat :=
  ((Finset.range sent.toNat).filter fun seq => seq ∉ delivered.map UInt64.toNat).card

/-- The deliveries that add no number below `sent`: copies, and packets from `sent` on. -/
def surplus (sent : UInt64) (delivered : List UInt64) : Nat :=
  delivered.length - ((Finset.range sent.toNat).filter fun seq => seq ∈ delivered.map UInt64.toNat).card

theorem present_le (sent : UInt64) (delivered : List UInt64) :
    ((Finset.range sent.toNat).filter fun seq => seq ∈ delivered.map UInt64.toNat).card ≤ delivered.length := by
  have hsub : ((Finset.range sent.toNat).filter fun seq => seq ∈ delivered.map UInt64.toNat)
      ⊆ (delivered.map UInt64.toNat).toFinset := by
    intro seq hseq
    exact List.mem_toFinset.mpr (Finset.mem_filter.mp hseq).2
  calc ((Finset.range sent.toNat).filter fun seq => seq ∈ delivered.map UInt64.toNat).card
      ≤ (delivered.map UInt64.toNat).toFinset.card := Finset.card_le_card hsub
    _ ≤ (delivered.map UInt64.toNat).length := List.toFinset_card_le _
    _ = delivered.length := List.length_map _

theorem missing_add (sent : UInt64) (delivered : List UInt64) :
    missing sent delivered + delivered.length = sent.toNat + surplus sent delivered := by
  have hsplit := Finset.card_filter_add_card_filter_not (s := Finset.range sent.toNat)
    (fun seq => seq ∈ delivered.map UInt64.toNat)
  rw [Finset.card_range] at hsplit
  have hle := present_le sent delivered
  unfold missing surplus
  omega

/-- Nothing is surplus, or nothing is missing; the counters have 64 bits and their difference a sign. -/
def CountsMissing (sent : UInt64) (delivered : List UInt64) : Prop :=
  if surplus sent delivered % 2 ^ 64 = 0 then missing sent delivered < 2 ^ 63
  else missing sent delivered = 0 ∧ surplus sent delivered % 2 ^ 64 ≤ 2 ^ 63

instance (sent : UInt64) (delivered : List UInt64) : Decidable (CountsMissing sent delivered) := by
  unfold CountsMissing
  infer_instance

theorem lostDatagrams_eq_missing_iff (sent : UInt64) (delivered : List UInt64) :
    lostDatagrams sent (.ofNat delivered.length) = missing sent delivered ↔ CountsMissing sent delivered := by
  have htotal := missing_add sent delivered
  have hsent := sent.toNat_lt
  have hmissing : missing sent delivered ≤ sent.toNat := by
    calc missing sent delivered ≤ (Finset.range sent.toNat).card := Finset.card_filter_le _ _
      _ = sent.toNat := Finset.card_range _
  have hdifference : (sent - .ofNat delivered.length).toNat
      = (2 ^ 64 - delivered.length % 2 ^ 64 + sent.toNat) % 2 ^ 64 := by
    rw [UInt64.toNat_sub, UInt64.toNat_ofNat']
  rw [lostDatagrams, hdifference, Narrowing.signed, Int.bmod_def, CountsMissing]
  split <;> split <;> omega

/-! ### Finishing a report twice -/

/-- The figures of the receiver summary that the end of a report sets. -/
def lossFigures (stream : IperfStream) : UInt64 × Int × ℚ :=
  let summary := stream.report.receiverReport.summary
  (summary.datagrams, summary.lostDatagrams, summary.loss)

/-- The 64-bit difference of the two counters, read with its sign, is not above zero. -/
def NotAhead (sent received : UInt64) : Prop := Narrowing.signed 64 (sent - received).toNat ≤ 0

instance (sent received : UInt64) : Decidable (NotAhead sent received) := inferInstanceAs (Decidable (_ ≤ _))

theorem lostDatagrams_eq_zero_iff {sent received : UInt64} : lostDatagrams sent received = 0 ↔ NotAhead sent received := by
  unfold lostDatagrams NotAhead
  omega

theorem lostDatagrams_self (sent : UInt64) : lostDatagrams sent sent = 0 := by
  rw [lostDatagrams_eq_zero_iff, NotAhead, UInt64.sub_self]
  decide

theorem lossFigures_finishReport {stream : IperfStream} (hrole : stream.config.role = .roleReceiver) (now : UInt64) :
    lossFigures (stream.finishReport now) =
      let sent := stream.report.senderReport.summary.datagrams
      let lost := lostDatagrams sent stream.report.receiverReport.summary.datagrams
      (sent, lost, (lost : ℚ) / (sent.toNat : ℚ)) := by
  unfold IperfStream.finishReport
  rw [hrole]
  dsimp only
  split <;> rfl

theorem finishReport_config (stream : IperfStream) (now : UInt64) : (stream.finishReport now).config = stream.config :=
  (stream.finishReport_same now).config

theorem finishReport_ended (stream : IperfStream) (now : UInt64) :
    (stream.finishReport now).isStopped = stream.isStopped ∧
      (stream.finishReport now).isFinReceived = stream.isFinReceived := by
  unfold IperfStream.finishReport
  split
  · split <;> exact ⟨rfl, rfl⟩
  all_goals exact ⟨rfl, rfl⟩

theorem lossFigures_finishReport_again {stream : IperfStream} (hrole : stream.config.role = .roleReceiver)
    (now later : UInt64) : lossFigures ((stream.finishReport now).finishReport later)
      = (stream.report.senderReport.summary.datagrams, 0, 0) := by
  have hagain : (stream.finishReport now).config.role = .roleReceiver := by
    rw [finishReport_config]
    exact hrole
  have hfirst := lossFigures_finishReport hrole now
  have hreceived : (stream.finishReport now).report.receiverReport.summary.datagrams
      = stream.report.senderReport.summary.datagrams := congrArg Prod.fst hfirst
  have hsent := (LiveStream.finishReport_sender stream now).2.1
  rw [lossFigures_finishReport hagain, hreceived, hsent]
  dsimp only
  rw [lostDatagrams_self, Int.cast_zero, zero_div]

theorem lossFigures_stays_iff {stream : IperfStream} (hrole : stream.config.role = .roleReceiver) (now later : UInt64) :
    lossFigures ((stream.finishReport now).finishReport later) = lossFigures (stream.finishReport now) ↔
      NotAhead stream.report.senderReport.summary.datagrams stream.report.receiverReport.summary.datagrams := by
  rw [lossFigures_finishReport_again hrole, lossFigures_finishReport hrole, ← lostDatagrams_eq_zero_iff]
  dsimp only
  constructor
  · intro h
    exact (Prod.mk.inj (Prod.mk.inj h).2).1.symm
  · intro h
    rw [h, Int.cast_zero, zero_div]

/-- `Stop` finishes the report unless it was called before or a FIN has come. -/
theorem lossFigures_stop (stream : IperfStream) (hrole : stream.config.role = .roleReceiver) (now : UInt64) :
    lossFigures (stream.stop now) = if stream.isStopped = true ∨ stream.isFinReceived = true then lossFigures stream
      else lossFigures (stream.finishReport now) := by
  unfold IperfStream.stop
  by_cases hstopped : stream.isStopped = true
  · rw [if_pos hstopped, if_pos (.inl hstopped)]
  · rw [if_neg hstopped]
    by_cases hfin : stream.isFinReceived = true
    · rw [if_pos (.inr hfin)]
      dsimp only
      rw [if_neg (by simp [hfin])]
      rfl
    · rw [if_neg (not_or.mpr ⟨hstopped, hfin⟩)]
      dsimp only
      rw [if_pos ⟨hrole, hfin⟩]
      have hstopping : ({ stream with isStopped := true } : IperfStream).config.role = .roleReceiver := hrole
      exact (lossFigures_finishReport hstopping now).trans (lossFigures_finishReport hrole now).symm

namespace LiveStream

variable {Recorder : Type} {tools : SeqTools Recorder}

/-- What an entry of a summary leaves of the stream it is read into. -/
structure Told (stream told : IperfStream) (sent : UInt64) : Prop where
  config : told.config = stream.config
  isStopped : told.isStopped = stream.isStopped
  isFinReceived : told.isFinReceived = stream.isFinReceived
  sent : told.report.senderReport.summary.datagrams = sent
  receiverReport : told.report.receiverReport = stream.report.receiverReport

/-- Over an unreliable protocol a summary sets the figures of the sender and finishes the report. -/
theorem onSummary_unreliable {s t : LiveStream Recorder} {cursor : Octets} {now : UInt64}
    (hprotocol : isReliableProtocol s.config.protocol = false) (h : s.onSummary cursor now = .ok t) :
    ∃ stream sent, Told s.toIperfStream stream sent ∧ sentInSummary s.toIperfStream cursor = some sent ∧
      t.toIperfStream = stream.finishReport now := by
  obtain ⟨⟨stream, rest⟩, hread, h⟩ := Fault.bind_eq_ok.mp h
  have hread := Fault.need_eq_ok.mp hread
  obtain ⟨bytes, datagrams, bitrate, hstream⟩ := IperfStream.deserializeReport_eq hread
  have h := Fault.pure_eq_ok.mp h
  have hconfig : stream.config = s.config := by rw [hstream]
  dsimp only at h
  rw [hconfig, if_neg (by simp [hprotocol])] at h
  refine ⟨stream, datagrams, ?_, ?_, ?_⟩
  · subst hstream
    constructor <;> rfl
  · rw [sentInSummary, hread, hstream]
    rfl
  · rw [← h]
    rfl

/-- The losses of a receiver survive a second `FinishReport` exactly where there are none: where the sender's number of datagrams is not ahead of the number received. -/
theorem losses_stay_iff {s : LiveStream Recorder} (hrole : s.config.role = .roleReceiver)
    (hprotocol : isReliableProtocol s.config.protocol = false) (now later : UInt64) :
    (lossFigures ((s.finishReport now).finishReport later).toIperfStream = lossFigures (s.finishReport now).toIperfStream ↔
        NotAhead s.report.senderReport.summary.datagrams s.report.receiverReport.summary.datagrams) ∧
      ∀ (cursor : Octets) (told : LiveStream Recorder), s.onSummary cursor now = .ok told →
        (lossFigures (told.stop later).toIperfStream = lossFigures told.toIperfStream ↔
          s.isStopped = true ∨ s.isFinReceived = true ∨
            ∀ sent ∈ sentInSummary s.toIperfStream cursor, NotAhead sent s.report.receiverReport.summary.datagrams) := by
  refine ⟨lossFigures_stays_iff hrole now later, fun cursor told htold => ?_⟩
  obtain ⟨stream, sent, hread, hsent, htold⟩ := onSummary_unreliable hprotocol htold
  have hstreamRole : stream.config.role = .roleReceiver := by
    rw [hread.config]
    exact hrole
  have hstop : (told.stop later).toIperfStream = told.toIperfStream.stop later := rfl
  obtain ⟨hstopped, hfin⟩ := finishReport_ended stream now
  have hstays := lossFigures_stays_iff hstreamRole now later
  rw [hread.sent, hread.receiverReport] at hstays
  have hsent : (∀ sent ∈ sentInSummary s.toIperfStream cursor, NotAhead sent s.report.receiverReport.summary.datagrams) ↔
      NotAhead sent s.report.receiverReport.summary.datagrams := by
    rw [hsent]
    simp
  rw [hstop, htold, lossFigures_stop _ (by rw [finishReport_config, hstreamRole]), hstopped, hfin, hread.isStopped,
    hread.isFinReceived, hsent, ← or_assoc]
  split
  · rename_i hend
    exact iff_of_true rfl (.inl hend)
  · rename_i hopen
    exact hstays.trans (or_iff_right hopen).symm

/-- The entry of a summary in which the sender reports `sent` datagrams. -/
def summaryEntry (sent : UInt64) : Octets := Octets.words [0, sent, 0]

/-- A receiver over BTP after the data packets with some numbers. -/
def receiverAfter (seqs : List Nat) : Option (LiveStream (List UInt64)) := do
  let stream ← (IperfStream.accepted { role := .roleReceiver, protocol := 0 } 1 1000).toOption
  (machine SeqTools.ofLists).run (fresh stream []) (seqs.map dataAction)

theorem losses_stay_iff_received :
    ∃ s told, receiverAfter [0, 1] = some s ∧ s.onSummary (summaryEntry 2) 1500 = .ok told ∧
      lossFigures (told.stop 1600).toIperfStream = lossFigures told.toIperfStream := by
  obtain ⟨s, hs⟩ : ∃ s, receiverAfter [0, 1] = some s := Option.isSome_iff_exists.mp (by decide +kernel)
  have hfound : (receiverAfter [0, 1]).map (fun s : LiveStream (List UInt64) => (s.config.role, isReliableProtocol s.config.protocol,
      (s.onSummary (summaryEntry 2) 1500).toOption.isSome,
      (sentInSummary s.toIperfStream (summaryEntry 2)).all fun sent =>
        decide (NotAhead sent s.report.receiverReport.summary.datagrams)))
      = some (.roleReceiver, false, true, true) := by
    decide +kernel
  rw [hs, Option.map_some, Option.some.injEq, Prod.mk.injEq, Prod.mk.injEq, Prod.mk.injEq] at hfound
  obtain ⟨hrole, hprotocol, htold, hahead⟩ := hfound
  obtain ⟨told, htold⟩ := Option.isSome_iff_exists.mp htold
  have htold := Fault.toOption_eq_some.mp htold
  refine ⟨s, told, hs, htold, ?_⟩
  have hahead : ∀ sent ∈ sentInSummary s.toIperfStream (summaryEntry 2),
      NotAhead sent s.report.receiverReport.summary.datagrams := by
    intro sent hsent
    exact of_decide_eq_true ((Option.all_eq_true _ _).mp hahead sent hsent)
  exact ((losses_stay_iff hrole hprotocol 1500 1600).2 _ _ htold).mpr (.inr (.inr hahead))

/-- One of two datagrams is lost, and `Stop` finds no loss. -/
theorem losses_forgotten_counterexample :
    ∃ s told, receiverAfter [0] = some s ∧ s.onSummary (summaryEntry 2) 1500 = .ok told ∧
      told.report.receiverReport.summary.lostDatagrams = 1 ∧
      (told.stop 1600).report.receiverReport.summary.lostDatagrams = 0 := by
  have hfound : ((receiverAfter [0]).bind fun s => (s.onSummary (summaryEntry 2) 1500).toOption.map fun told =>
      (told.report.receiverReport.summary.lostDatagrams,
        (told.stop 1600).report.receiverReport.summary.lostDatagrams)) = some (1, 0) := by
    decide +kernel
  obtain ⟨s, hs, hfound⟩ := Option.bind_eq_some_iff.mp hfound
  obtain ⟨told, htold, hfound⟩ := Option.map_eq_some_iff.mp hfound
  obtain ⟨hfirst, hsecond⟩ := Prod.mk.inj hfound
  exact ⟨s, told, hs, Fault.toOption_eq_some.mp htold, hfirst, hsecond⟩

/-! ### The number of the received datagrams -/

def arrival : Action → Option UInt64
  | .received reception => (wordAt reception.data 16).toOption
  | _ => none

/-- The steps of a receiver before the summary: data, of which none is a FIN over an unreliable protocol, events of the connection and polls. -/
def Action.isDelivery : Action → Bool
  | .received reception => !isFin reception.data
  | .event _ | .poll _ => true
  | .startSend _ | .thread _ | .snapshotReport _ | .summary _ _ | .finishReport _ | .stop _ => false

/-- The configuration of a receiver and what it has counted. -/
structure Gathered (config : TestConfig) (delivered : List UInt64) (s : LiveStream Recorder) : Prop where
  config : s.config = config
  datagrams : s.report.receiverReport.summary.datagrams = .ofNat delivered.length

variable {config : TestConfig} {delivered : List UInt64}

theorem Gathered.congr {s t : LiveStream Recorder} (h : Gathered config delivered s) (hconfig : t.config = s.config)
    (hdatagrams : t.report.receiverReport.summary.datagrams = s.report.receiverReport.summary.datagrams) :
    Gathered config delivered t where
  config := hconfig.trans h.config
  datagrams := hdatagrams.trans h.datagrams

theorem gathered_countReceived {s : LiveStream Recorder} (h : Gathered config delivered s) (length : Nat)
    (now seq : UInt64) : Gathered config (delivered ++ [seq]) (s.countReceived length now) where
  config := h.config
  datagrams := by
    have hcount : (s.countReceived length now).report.receiverReport.summary.datagrams
        = s.report.receiverReport.summary.datagrams + 1 := by
      unfold countReceived
      dsimp only
      split <;> rfl
    rw [hcount, h.datagrams, List.length_append, UInt64.ofNat_add]
    rfl

theorem onFlags_gathered {s t : LiveStream Recorder} {flags : TestFlags} {answer : FinAnswer}
    (h : Gathered config delivered s) (hfin : ¬ (flags.last = true ∧ flags.ack = false))
    (hstep : s.onFlags flags answer = .ok t) : Gathered config delivered t := by
  unfold onFlags at hstep
  split at hstep
  · rename_i hlast
    split at hstep
    · obtain rfl := Except.ok.inj hstep
      exact h.congr rfl rfl
    · rename_i hack
      exact absurd ⟨hlast, by simpa using hack⟩ hfin
  · obtain rfl := Except.ok.inj hstep
    exact h

theorem onInterval_gathered {s t : LiveStream Recorder} {flags : TestFlags} {seq : UInt64} {data : Octets}
    {now : UInt64} (h : Gathered config delivered s) (hstep : s.onInterval tools flags seq data now = .ok t) :
    Gathered config delivered t := by
  obtain ⟨found, rfl | ⟨received, actual, escaped, rfl⟩⟩ := onInterval_cases hstep
  · exact h.congr rfl rfl
  · exact h.congr rfl rfl

theorem updateJitter_gathered {s : LiveStream Recorder} (h : Gathered config delivered s) (arrival time : UInt64) :
    Gathered config delivered (s.updateJitter arrival time) := by
  unfold updateJitter
  dsimp only
  split <;> exact h.congr rfl rfl

theorem updateReceived_gathered {s t : LiveStream Recorder} {reception : Reception} (h : Gathered config delivered s)
    (hfin : isFin reception.data = false) (hstep : s.updateReceived tools reception = .ok t) :
    Gathered config (delivered ++ (arrival (.received reception)).toList) t := by
  rcases updateReceived_stages hstep with ⟨hdata, rfl⟩ | ⟨seq, time, flags, identified, flagged, detected, hseq, hflags,
    hidentified, hflagged, hdetected, rfl⟩
  · have hnone : arrival (.received reception) = none := by
      rw [arrival, hdata]
      rfl
    rw [hnone, Option.toList_none, List.append_nil]
    exact h
  · have hsome : arrival (.received reception) = some seq := by
      rw [arrival, hseq]
      rfl
    rw [hsome, Option.toList_some]
    have hcounted := gathered_countReceived h reception.data.length reception.countedAt seq
    obtain ⟨identifier, rfl⟩ := learnIdentifier_eq hidentified
    have hcounted : Gathered config (delivered ++ [seq]) ({ s.countReceived reception.data.length reception.countedAt with
        recvSeqRecorder := tools.record s.recvSeqRecorder seq
        streamIdentifier := identifier } : LiveStream Recorder) := hcounted.congr rfl rfl
    refine updateJitter_gathered (onInterval_gathered (onFlags_gathered hcounted ?_ hflagged) hdetected) _ _
    rintro ⟨hlast, hack⟩
    rw [isFin, hflags] at hfin
    dsimp only at hfin
    rw [hlast, hack] at hfin
    exact absurd hfin (by decide)

theorem step_gathered {s t : LiveStream Recorder} {a : Action} (h : Gathered config delivered s)
    (ha : a.isDelivery = true) (hstep : (machine tools).step s a = some t) :
    Gathered config (delivered ++ (arrival a).toList) t := by
  have hperform := step_eq_some.mp hstep
  cases a with
  | received reception => exact updateReceived_gathered h (by simpa [Action.isDelivery] using ha) hperform
  | event event =>
    obtain ⟨stream, hstream, hperform⟩ := Fault.bind_eq_ok.mp hperform
    obtain rfl := Fault.pure_eq_ok.mp hperform
    show Gathered config (delivered ++ []) _
    rw [List.append_nil]
    refine h.congr (IperfStream.connectionCallback_config hstream).1 ?_
    rw [(connectionCallback_report hstream).1]
  | poll now =>
    obtain rfl := Except.ok.inj hperform
    show Gathered config (delivered ++ []) _
    rw [List.append_nil]
    refine h.congr (s.toIperfStream.isIntervalDataReceivedTimeout_same now).config ?_
    show (s.toIperfStream.isIntervalDataReceivedTimeout now).report.receiverReport.summary.datagrams = _
    unfold IperfStream.isIntervalDataReceivedTimeout
    dsimp only
    split <;> rfl
  | startSend | thread | snapshotReport | summary | finishReport | stop => exact absurd ha Bool.false_ne_true

theorem run_gathered {s t : LiveStream Recorder} {acts : List Action} (h : Gathered config delivered s)
    (hacts : ∀ a ∈ acts, a.isDelivery = true) (hrun : (machine tools).run s acts = some t) :
    Gathered config (delivered ++ acts.filterMap arrival) t := by
  induction acts generalizing s delivered with
  | nil =>
    obtain rfl := Option.some.inj hrun
    rw [List.filterMap_nil, List.append_nil]
    exact h
  | cons a acts ih =>
    obtain ⟨u, hu, hrest⟩ := Machine.run_cons.mp hrun
    have hnext := ih (step_gathered h (hacts a List.mem_cons_self) hu)
      (fun b hb => hacts b (List.mem_cons_of_mem a hb)) hrest
    rw [List.append_assoc] at hnext
    rw [List.filterMap_cons]
    cases harrival : arrival a with
    | none =>
      rw [harrival] at hnext
      exact hnext
    | some seq =>
      rw [harrival] at hnext
      exact hnext

/-- The losses that a receiver finds in a summary are the numbers that were not delivered exactly where no delivery was surplus or none is missing. -/
theorem lost_eq_missing_iff {config : TestConfig} {streamId : Nat} {length : Int} {stream : IperfStream}
    {recorder : Recorder} {s told : LiveStream Recorder} {acts : List Action} {cursor : Octets} {now sent : UInt64}
    (haccepted : IperfStream.accepted config streamId length = .ok stream) (hrole : config.role = .roleReceiver)
    (hprotocol : isReliableProtocol config.protocol = false) (hacts : ∀ a ∈ acts, a.isDelivery = true)
    (hrun : (machine tools).run (fresh stream recorder) acts = some s)
    (hsent : sentInSummary s.toIperfStream cursor = some sent) (htold : s.onSummary cursor now = .ok told) :
    told.report.receiverReport.summary.lostDatagrams = missing sent (acts.filterMap arrival) ↔
      CountsMissing sent (acts.filterMap arrival) := by
  have hfresh : Gathered config [] (fresh stream recorder) := by
    rw [IperfStream.switchDataBlockLength_eq haccepted]
    exact ⟨rfl, rfl⟩
  have hgathered := run_gathered hfresh hacts hrun
  rw [List.nil_append] at hgathered
  obtain ⟨counted, reported, hread, hreported, htold⟩ := onSummary_unreliable (hgathered.config ▸ hprotocol) htold
  obtain rfl := Option.some.inj (hsent.symm.trans hreported)
  have hcountedRole : counted.config.role = .roleReceiver := by
    rw [hread.config, hgathered.config]
    exact hrole
  have hlost : told.report.receiverReport.summary.lostDatagrams
      = lostDatagrams sent (.ofNat (acts.filterMap arrival).length) := by
    have hfigures := congrArg (fun figures => figures.2.1) (lossFigures_finishReport hcountedRole now)
    rw [← hgathered.datagrams, ← hread.receiverReport, ← hread.sent]
    rw [← htold] at hfigures
    exact hfigures
  rw [hlost, lostDatagrams_eq_missing_iff]

theorem lost_eq_missing_iff_received :
    ∃ s told, receiverAfter [0, 2] = some s ∧ s.onSummary (summaryEntry 3) 1500 = .ok told ∧
      told.report.receiverReport.summary.lostDatagrams = missing 3 [0, 2] := by
  obtain ⟨s, hs⟩ : ∃ s, receiverAfter [0, 2] = some s := Option.isSome_iff_exists.mp (by decide +kernel)
  have hfound : (receiverAfter [0, 2]).map (fun s : LiveStream (List UInt64) =>
      (sentInSummary s.toIperfStream (summaryEntry 3), (s.onSummary (summaryEntry 3) 1500).toOption.isSome))
      = some (some 3, true) := by
    decide +kernel
  rw [hs, Option.map_some, Option.some.injEq, Prod.mk.injEq] at hfound
  obtain ⟨hsent, htold⟩ := hfound
  obtain ⟨told, htold⟩ := Option.isSome_iff_exists.mp htold
  have htold := Fault.toOption_eq_some.mp htold
  refine ⟨s, told, hs, htold, ?_⟩
  unfold receiverAfter at hs
  obtain ⟨stream, haccepted, hrun⟩ := Option.bind_eq_some_iff.mp hs
  have hdeliveries : ∀ a ∈ [0, 2].map dataAction, a.isDelivery = true := by decide +kernel
  have harrived : ([0, 2].map dataAction).filterMap arrival = [0, 2] := by decide +kernel
  have hlost := lost_eq_missing_iff (Fault.toOption_eq_some.mp haccepted) rfl rfl hdeliveries hrun hsent htold
  rw [harrived] at hlost
  exact hlost.mpr (by decide)

/-- A packet that arrives twice hides one of two losses. -/
theorem lost_hidden_counterexample :
    ∃ s told, receiverAfter [0, 0] = some s ∧ s.onSummary (summaryEntry 3) 1500 = .ok told ∧
      told.report.receiverReport.summary.lostDatagrams = 1 ∧ missing 3 [0, 0] = 2 := by
  have hfound : ((receiverAfter [0, 0]).bind fun s => (s.onSummary (summaryEntry 3) 1500).toOption.map fun told =>
      told.report.receiverReport.summary.lostDatagrams) = some 1 := by
    decide +kernel
  obtain ⟨s, hs, hfound⟩ := Option.bind_eq_some_iff.mp hfound
  obtain ⟨told, htold, hfound⟩ := Option.map_eq_some_iff.mp hfound
  exact ⟨s, told, hs, Fault.toOption_eq_some.mp htold, hfound, by decide⟩

end LiveStream

end BatsIperf
