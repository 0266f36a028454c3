import BatsIperf.Api
import BatsIperf.Test.Acks
import BatsIperf.Test.Summary

/-!
# The buffer of the summary

`SendTestSummary` writes a header of 32 bytes and 32 bytes for each stream into 1100 bytes, and the number of the streams into one byte. The client opens as many streams as its user asks for, so the buffer decides for which numbers the summary is well formed.
-/

namespace BatsIperf

namespace IperfTest

/-- The summary is written inside its buffer, and the number in its header is that of the reports behind it. -/
def SummaryFits (test : IperfTest) : Prop :=
  ∃ (header : IperfControlData) (rest : Octets),
    test.testSummary = .ok (header.encode ++ (test.testStreams.flatMap IperfStream.serializeReport ++ rest)) ∧
      header.numOfStreams.toNat = test.testStreams.length

theorem summaryFits_iff {test : IperfTest} (hid : test.testId ≠ 0) : SummaryFits test ↔ test.testStreams.length ≤ 33 := by
  constructor
  · rintro ⟨header, rest, hsummary, _⟩
    by_contra hlong
    exact testSummary_overflow (Nat.lt_of_not_le hlong) _ hsummary
  · intro hfit
    have hlength := length_flatMap_serializeReport test.testStreams
    refine ⟨test.summaryHeader, _, message_eq hid (by omega) 3 _, ?_⟩
    exact UInt8.toNat_ofNat_of_lt' (lt_of_le_of_lt hfit (by decide))

end IperfTest

namespace Session

/-- The streams of the sender are opened once, by the first ack, and the interval loop is entered with all of them. -/
structure Opened (config : TestConfig) (s : Session) : Prop where
  replies : ∀ reply ∈ s.toClient, actionCode reply.bytes = 4 ∨ actionCode reply.bytes = 5
  numStreams : s.client.testConfig.numStreams = config.numStreams
  hasId : s.client.ctrlChn = true → s.client.testId ≠ 0
  streams : s.client.testStreams = [] ∨ (s.client.ctrlChn = true ∧ s.client.state ≠ .testExchangeParameters ∧
    s.client.testStreams.length = config.numStreams.toNat)
  ready : s.main ≠ .waitReady → s.client.testStreams.length = config.numStreams

variable {config : TestConfig}

theorem opened_start (config serverConfig : TestConfig) (testId : UInt32) :
    Opened config (start config serverConfig testId) where
  replies _ h := absurd h List.not_mem_nil
  numStreams := rfl
  hasId h := absurd h Bool.false_ne_true
  streams := .inl rfl
  ready h := absurd rfl h

/-- A step that changes the streams one by one and the state to no earlier one. -/
theorem Opened.of_same {s t : Session} (h : Opened config s)
    (hclient : t.toClient = s.toClient) (hconfig : t.client.testConfig = s.client.testConfig)
    (hid : t.client.testId = s.client.testId) (hctrl : t.client.ctrlChn = s.client.ctrlChn)
    (hstate : t.client.state = .testExchangeParameters → s.client.state = .testExchangeParameters)
    (hlength : t.client.testStreams.length = s.client.testStreams.length)
    (hmain : t.main ≠ .waitReady → s.main ≠ .waitReady) : Opened config t where
  replies := hclient ▸ h.replies
  numStreams := hconfig ▸ h.numStreams
  hasId := by
    rw [hctrl, hid]
    exact h.hasId
  streams := by
    rw [← List.length_eq_zero_iff, hlength, List.length_eq_zero_iff, hctrl]
    exact h.streams.imp_right fun ⟨hctrl, hother, hcount⟩ => ⟨hctrl, fun hexchange => hother (hstate hexchange), hcount⟩
  ready hpast := by
    rw [hlength]
    exact h.ready (hmain hpast)

theorem opened_ctrlEstablished {s t : Session} (h : Opened config s) (hstep : s.ctrlEstablished = some t) :
    Opened config t := by
  have hsend := hstep
  unfold ctrlEstablished at hsend
  obtain ⟨hctrl, bytes, _, rfl⟩ := ctrlEstablished_inv hstep
  rw [if_neg (by rw [hctrl]; decide)] at hsend
  obtain ⟨_, hsend, _⟩ := Option.bind_eq_some_iff.mp hsend
  obtain ⟨_, hmessage, _⟩ := Fault.bind_eq_ok.mp (Fault.toOption_eq_some.mp hsend)
  obtain ⟨_, hid, _⟩ := Fault.bind_eq_ok.mp hmessage
  have hnone : s.client.testStreams = [] := h.streams.resolve_right fun hopen =>
    absurd (hctrl.symm.trans hopen.1) Bool.false_ne_true
  exact ⟨h.replies, h.numStreams, fun _ => Fault.require_eq_ok.mp hid, .inl hnone, h.ready⟩

theorem opened_serverReceive {s t : Session} {clock : Nat → UInt64} {streamId : Nat} (h : Opened config s)
    (hstep : s.serverReceive clock streamId = some t) : Opened config t := by
  obtain ⟨bytes, rest, server, sent, hqueue, hhandle, rfl⟩ := serverReceive_inv hstep
  have hanswers := IperfTest.handleControlMessage_answers hhandle
  refine ⟨?_, h.numStreams, h.hasId, h.streams, h.ready⟩
  intro reply hmem
  rcases List.mem_append.mp hmem with hold | hnew
  · exact h.replies reply hold
  · exact .inl (hanswers.isAck _ (mem_replies hnew).2)

theorem opened_accept {s t : Session} {streamId : Nat} {idealBufferLength : Int} (h : Opened config s)
    (hstep : s.accept streamId idealBufferLength = some t) : Opened config t := by
  obtain ⟨server, sent, hlisten, rfl⟩ := accept_inv hstep
  obtain ⟨_, hready, _⟩ := IperfTest.dataListenCallback_inv hlisten
  refine ⟨?_, h.numStreams, h.hasId, h.streams, h.ready⟩
  intro reply hmem
  rcases List.mem_append.mp hmem with hold | hnew
  · exact h.replies reply hold
  · exact .inr (hready _ (mem_replies hnew).2)

/-- Only an ack in the exchange of parameters opens streams, and it finds none. -/
theorem opened_clientReceive {s t : Session} {clock : Nat → UInt64} {streamId : Nat} (h : Opened config s)
    (hstep : s.clientReceive clock streamId = some t) : Opened config t := by
  obtain ⟨reply, rest, client, sent, hqueue, hctrl, hhandle, rfl⟩ := clientReceive_inv hstep
  have hrest : ∀ other ∈ rest, actionCode other.bytes = 4 ∨ actionCode other.bytes = 5 :=
    fun other hmem => h.replies other (hqueue ▸ List.mem_cons_of_mem _ hmem)
  have hdropped : Opened config { s with client := { s.client with ctrlChn := true }, toClient := rest } :=
    ⟨hrest, h.numStreams, fun _ => h.hasId hctrl, h.streams.imp_right fun hopen => ⟨rfl, hopen.2⟩, h.ready⟩
  rcases h.replies reply (hqueue ▸ List.mem_cons_self) with hcode | hcode
  · obtain ⟨rfl, hhandled⟩ := IperfTest.handleControlMessage_ack hcode hhandle
    rw [List.append_nil]
    rcases IperfTest.handleAckMessage_cases hhandled with ⟨hstate, opened, rfl, hopened⟩ | ⟨_, rfl⟩ | ⟨_, _, rfl⟩
    · have hnone : s.client.testStreams = [] := h.streams.resolve_right fun hopen => hopen.2.1 hstate
      have hcount : opened.length = config.numStreams.toNat := by
        rw [← hopened.length_eq, List.length_range]
        exact congrArg Int.toNat h.numStreams
      have hlength : (s.client.testStreams ++ opened).length = config.numStreams.toNat := by
        rw [hnone, List.nil_append, hcount]
      refine ⟨hrest, h.numStreams, fun _ => h.hasId hctrl,
        .inr ⟨rfl, fun (hstart : TestState.testStart = .testExchangeParameters) => absurd hstart (by decide), hlength⟩,
        fun hmain => ?_⟩
      have hready := h.ready hmain
      rw [hnone] at hready
      rw [hlength, ← hready]
      rfl
    · exact hdropped.of_same rfl rfl rfl rfl
        (fun (hdone : TestState.testDone = .testExchangeParameters) => absurd hdone (by decide)) rfl id
    · exact hdropped
  · obtain ⟨rfl, hhandled⟩ := IperfTest.handleControlMessage_ready hcode hhandle
    rw [List.append_nil]
    rcases IperfTest.handleReadyMessage_cases hhandled with ⟨_, streams, rfl, hstarted⟩ | ⟨_, rfl⟩
    · exact hdropped.of_same rfl rfl rfl rfl id hstarted.length_eq.symm id
    · exact hdropped.of_same rfl rfl rfl rfl id rfl id

theorem opened_step {s t : Session} {a : Action} (h : Opened config s) (hstep : machine.step s a = some t) :
    Opened config t := by
  cases a with
  | ctrlEstablished => exact opened_ctrlEstablished h hstep
  | serverReceive => exact opened_serverReceive h hstep
  | clientReceive => exact opened_clientReceive h hstep
  | accept => exact opened_accept h hstep
  | clientEvent | clientThread | clientActivity =>
    obtain ⟨client, hclient, rfl⟩ := Option.map_eq_some_iff.mp hstep
    obtain ⟨stream, changed, _, _, rfl⟩ := onStream_inv hclient
    exact h.of_same rfl rfl rfl rfl id List.length_set id
  | serverEvent | serverActivity | serverTick =>
    obtain ⟨_, _, rfl⟩ := Option.map_eq_some_iff.mp hstep
    exact h.of_same rfl rfl rfl rfl id rfl id
  | pollReady =>
    obtain ⟨hmain, flag, rfl⟩ := pollReady_inv hstep
    refine ⟨h.replies, h.numStreams, h.hasId, h.streams, fun hpast => ?_⟩
    have hready : s.client.isStreamReady.1 = true := by
      by_contra hwait
      exact hpast (if_neg hwait)
    exact (IperfTest.isStreamReady_iff.mp hready).2.symm.trans h.numStreams
  | clientTick =>
    obtain ⟨hmain, done, client, hticked, rfl⟩ := clientTick_inv hstep
    have hpast : s.main ≠ .waitReady := by
      rw [hmain]
      decide
    refine h.of_same rfl ?_ ?_ ?_ ?_ hticked.streams.length_eq.symm fun _ => hpast
    · rw [hticked.rest]
    · rw [hticked.rest]
    · rw [hticked.rest]
    · intro hexchange
      rcases hticked.state with hstate | hstate
      · exact hstate.symm.trans hexchange
      · exact absurd (hstate.symm.trans hexchange) (by decide)
  | finishReports =>
    obtain ⟨hmain, rfl⟩ := finishReports_inv hstep
    refine h.of_same rfl rfl rfl rfl id (List.length_map _) fun _ => ?_
    rw [hmain]
    decide
  | sendSummary =>
    obtain ⟨hmain, ⟨bytes, _, rfl⟩ | ⟨_, rfl⟩⟩ := sendSummary_inv hstep <;>
    · exact ⟨h.replies, h.numStreams, h.hasId, h.streams, fun _ => h.ready (by rw [hmain]; decide)⟩
  | storeState =>
    obtain ⟨hmain, rfl⟩ := storeState_inv hstep
    refine h.of_same rfl rfl rfl rfl
      (fun (hreports : TestState.testExchangeReports = .testExchangeParameters) => absurd hreports (by decide)) rfl
      fun _ => ?_
    rw [hmain]
    decide

/-- Where the main thread sends the summary, it fits its buffer and its number is that of its reports exactly for up to 33 streams. -/
theorem summary_fits_iff {config serverConfig : TestConfig} {testId : UInt32} {acts : List Action} {s : Session}
    (hrun : machine.run (start config serverConfig testId) acts = some s) (hmain : s.main = .reported)
    (hctrl : s.client.ctrlChn = true) : s.client.SummaryFits ↔ config.numStreams ≤ 33 := by
  have hopened : Opened config s :=
    Machine.run_preserves (fun _ _ _ => opened_step) (opened_start config serverConfig testId) hrun
  have hcount := hopened.ready (by rw [hmain]; decide)
  rw [IperfTest.summaryFits_iff (hopened.hasId hctrl), ← hcount]
  omega

/-- A test with a number of streams whose time is up at the second tick. -/
def wideConfig (numStreams : Int) : TestConfig :=
  { time := 0, protocol := 1, numStreams := numStreams, peerHost := "192.0.2.1", role := .roleSender }

/-- Up to the summary: the parameters are acknowledged, the streams come up, and two ticks take the time. -/
def untilReported (numStreams : Nat) : List Action :=
  [.ctrlEstablished, .serverReceive (fun _ => 0) 1, .clientReceive (fun _ => 0) 1]
    ++ (List.range numStreams).map (fun i => .clientEvent i (.established 1000))
    ++ [.pollReady, .clientTick 0, .clientTick 0, .finishReports 0]

theorem summary_fits_iff_wide :
    ∃ s, machine.run (start (wideConfig 33) {} 7) (untilReported 33) = some s ∧ s.client.SummaryFits := by
  have hfound : (machine.run (start (wideConfig 33) {} 7) (untilReported 33)).map (fun s => (s.main, s.client.ctrlChn))
      = some (.reported, true) := by
    decide +kernel
  obtain ⟨s, hrun, hfound⟩ := Option.map_eq_some_iff.mp hfound
  obtain ⟨hmain, hctrl⟩ := Prod.mk.inj hfound
  exact ⟨s, hrun, (summary_fits_iff hrun hmain hctrl).mpr (by decide)⟩

/-- The 34th report is written behind the end of the buffer. -/
theorem summary_overflow_counterexample :
    validateClientConfig (fun _ => true) (wideConfig 34) = true ∧
      ∃ s, machine.run (start (wideConfig 34) {} 7) (untilReported 34) = some s ∧ s.main = .reported ∧
        s.client.ctrlChn = true ∧ s.client.testSummary = .error .outOfBounds ∧ ¬ s.client.SummaryFits := by
  refine ⟨by decide, ?_⟩
  have hfound : (machine.run (start (wideConfig 34) {} 7) (untilReported 34)).map (fun s =>
      (s.main, s.client.ctrlChn, s.client.testSummary)) = some (.reported, true, .error .outOfBounds) := by
    decide +kernel
  obtain ⟨s, hrun, hfound⟩ := Option.map_eq_some_iff.mp hfound
  rw [Prod.mk.injEq, Prod.mk.injEq] at hfound
  obtain ⟨hmain, hctrl, hsummary⟩ := hfound
  refine ⟨s, hrun, hmain, hctrl, hsummary, ?_⟩
  rintro ⟨header, rest, hfits, _⟩
  exact absurd (hsummary.symm.trans hfits) (by simp)

end Session

end BatsIperf
