import BatsIperf.Negotiation
import BatsIperf.Test.Summary
import BatsIperf.Test.Ready

/-!
# Whatever arrives can be handled

No order of the steps of a test brings a control message to an end that cannot handle it. Every message is addressed to the test, the handlers find what they need, and a ready signal finds no thread that was started before, since the receiver announces its streams once and nothing else starts them.

What is left to the runs is the summary. It is read inside the message as long as no two streams of the receiver share an identifier.
-/

namespace BatsIperf

open Octets

namespace IperfTest

/-! ### A summary that has room -/

variable (config : TestConfig) (now : UInt64)

/-- The pass of one entry takes three words for each stream with its identifier. -/
theorem matchWords_some {streamIdentifier : UInt64} {streams : List IperfStream} {ws : List UInt64}
    (hroom : 3 * (streams.map IperfStream.streamIdentifier).count streamIdentifier ≤ ws.length) :
    ∃ read, matchWords config now streamIdentifier streams ws = some read ∧
      read.1.map IperfStream.streamIdentifier = streams.map IperfStream.streamIdentifier ∧
      ws.length = read.2.length + 3 * (streams.map IperfStream.streamIdentifier).count streamIdentifier := by
  induction streams generalizing ws with
  | nil => exact ⟨([], ws), rfl, rfl, rfl⟩
  | cons stream rest ih =>
    rw [List.map_cons, List.count_cons] at hroom ⊢
    by_cases hid : stream.streamIdentifier = streamIdentifier
    · rw [hid, beq_self_eq_true, if_pos rfl] at hroom ⊢
      match ws with
      | [] | [_] | [_, _] =>
        simp only [List.length_cons, List.length_nil] at hroom
        omega
      | bytes :: datagrams :: bitrate :: ws =>
        simp only [List.length_cons] at hroom ⊢
        obtain ⟨read, hread, hidentifiers, hlength⟩ := ih (show _ ≤ ws.length by omega)
        refine ⟨(stream.take config now bytes datagrams bitrate :: read.1, read.2), ?_, ?_, by dsimp only; omega⟩
        · simp only [matchWords, if_pos hid, hread, Option.map_some]
        · simp only [List.map_cons, stream.take_streamIdentifier, hidentifiers, hid]
    · rw [if_neg (by simpa using hid), Nat.add_zero] at hroom ⊢
      obtain ⟨read, hread, hidentifiers, hlength⟩ := ih hroom
      refine ⟨(stream :: read.1, read.2), ?_, ?_, hlength⟩
      · simp only [matchWords, if_neg hid, hread, Option.map_some]
      · simp only [List.map_cons, hidentifiers]

theorem readWords_some {shared entries : Nat} {streams : List IperfStream} {ws : List UInt64}
    (hshared : ∀ identifier, (streams.map IperfStream.streamIdentifier).count identifier ≤ shared)
    (hroom : entries * (1 + 3 * shared) ≤ ws.length) :
    ∃ streams', readWords config now entries streams ws = some streams' := by
  induction entries generalizing streams ws with
  | zero => exact ⟨streams, rfl⟩
  | succ entries ih =>
    rw [Nat.succ_mul] at hroom
    cases ws with
    | nil =>
      rw [List.length_nil] at hroom
      omega
    | cons streamIdentifier ws =>
      rw [List.length_cons] at hroom
      have hcount := hshared streamIdentifier
      have hone : 3 * (streams.map IperfStream.streamIdentifier).count streamIdentifier ≤ ws.length := by omega
      obtain ⟨read, hread, hidentifiers, hlength⟩ := matchWords_some config now hone
      have hrest : ∀ identifier, (read.1.map IperfStream.streamIdentifier).count identifier ≤ shared := by
        rw [hidentifiers]
        exact hshared
      obtain ⟨streams', hstreams'⟩ := ih hrest (show _ ≤ read.2.length by omega)
      exact ⟨streams', by rw [readWords, hread, Option.bind_some, hstreams']⟩

theorem length_bodyWords {streams : List IperfStream} (hfit : streams.length ≤ 33) : (bodyWords streams).length = 133 := by
  rw [bodyWords, List.length_append, length_flatMap_entryWords, List.length_replicate]
  omega

/-! ### Messages that are addressed -/

/-- A message with a complete header that names the test. -/
def Addressed (testId : UInt32) (bytes : Octets) : Prop :=
  ∃ (header : IperfControlData) (rest : Octets), bytes = header.encode ++ rest ∧ header.testId = testId

theorem message_addressed {test : IperfTest} {size : Nat} {code numOfStreams : UInt8} {body bytes : Octets}
    (h : test.message size code numOfStreams body = .ok bytes) : Addressed test.testId bytes := by
  obtain ⟨_, _, h⟩ := Fault.bind_eq_ok.mp h
  have hfill := Fault.need_eq_ok.mp h
  unfold fill at hfill
  split at hfill
  · obtain rfl := Option.some.inj hfill
    exact ⟨_, _, List.append_assoc _ _ _, rfl⟩
  · exact absurd hfill (by simp)

theorem handleControlMessage_addressed {test : IperfTest} {bytes : Octets} (haddressed : Addressed test.testId bytes)
    (clock : Nat → UInt64) (streamId : Nat) : test.handleControlMessage bytes clock streamId =
      { test with ctrlChn := true }.handleAction (actionCode bytes) bytes clock streamId := by
  obtain ⟨header, rest, rfl, hid⟩ := haddressed
  rw [handleControlMessage_encode hid, actionCode_encode]

theorem sendAck_addressed {test next : IperfTest} {sent : List Octets} {testId : UInt32}
    (h : test.sendAck = .ok (next, sent)) (hid : test.testId = testId) : ∀ message ∈ sent, Addressed testId message := by
  obtain ⟨bytes, hbytes, h⟩ := Fault.bind_eq_ok.mp h
  obtain ⟨_, _, h⟩ := Fault.bind_eq_ok.mp h
  obtain ⟨_, rfl⟩ := Prod.mk.inj (Fault.pure_eq_ok.mp h)
  intro message hmem
  rw [List.mem_singleton.mp hmem, ← hid]
  exact message_addressed hbytes

/-- What two states of an end have in common for the messages that are still to come. -/
structure SameEnd (before after : IperfTest) : Prop where
  testConfig : after.testConfig = before.testConfig
  testId : after.testId = before.testId
  dataChnListener : after.dataChnListener = before.dataChnListener
  numOfStreams : before.testStreams.length ≤ after.testStreams.length

theorem SameEnd.refl (test : IperfTest) : SameEnd test test := ⟨rfl, rfl, rfl, le_rfl⟩

theorem Ticked.sameEnd {test next : IperfTest} (h : Ticked test next) : SameEnd test next := by
  rw [h.rest]
  exact ⟨rfl, rfl, rfl, h.streams.length_eq.le⟩

/-! ### Parameters -/

theorem handleControlMessage_parameters {test : IperfTest} {header : IperfControlData} (hid : test.testId ≠ 0)
    (hsame : header.testId = test.testId) (hcode : header.actionCode = 2) (config : TestConfig) (rest : Octets)
    (clock : Nat → UInt64) (streamId : Nat) :
    test.handleControlMessage (header.encode ++ (config.serialize ++ rest)) clock streamId = .ok
      (if test.state = .testDone then ({ test with ctrlChn := true }, [])
      else ({ test with
          ctrlChn := true
          state := stateAfterAck test.state
          testConfig := receiverConfig test.testConfig config.received
          dataChnListener := some (listenConfiguration config.received) }, [test.emptyMessage 4])) := by
  have hbody : IperfControlData.bodyOf (header.encode ++ (config.serialize ++ rest)) = config.serialize ++ rest :=
    (IperfControlData.fields_encode header _).body
  rw [handleControlMessage_encode hsame, hcode]
  change handleTestParameters { test with ctrlChn := true } (IperfControlData.bodyOf _) = _
  rw [hbody]
  by_cases hdone : test.state = .testDone
  · rw [if_pos hdone, handleTestParameters, if_pos hdone]
  · rw [if_neg hdone]
    exact handleTestParameters_eq { test with ctrlChn := true } hid rfl hdone config rest

/-! ### The summary -/

theorem testSummary_fits {sender : IperfTest} {bytes : Octets} (h : sender.testSummary = .ok bytes) :
    sender.testStreams.length ≤ 33 :=
  Nat.le_of_not_lt fun hlong => testSummary_overflow hlong bytes h

theorem handleControlMessage_summary_done {sender receiver : IperfTest} (hsame : receiver.testId = sender.testId)
    {bytes : Octets} (hbytes : sender.testSummary = .ok bytes) (hdone : receiver.state = .testDone)
    (clock : Nat → UInt64) (streamId : Nat) :
    receiver.handleControlMessage bytes clock streamId = .ok ({ receiver with ctrlChn := true }, []) := by
  rw [handleControlMessage_addressed (hsame ▸ message_addressed hbytes), message_actionCode hbytes]
  change handleSummaryMessage { receiver with ctrlChn := true } bytes (clock 0) = _
  rw [handleSummaryMessage, if_pos hdone]

theorem handleControlMessage_summary {sender receiver : IperfTest} (hpaired : Paired sender receiver) {bytes : Octets}
    (hbytes : sender.testSummary = .ok bytes) (clock : Nat → UInt64) (streamId : Nat) :
    (receiver.handleControlMessage bytes clock streamId >>= fun told => pure told.1) =
      (Fault.need .outOfBounds (readWords receiver.testConfig (clock 0) sender.testStreams.length
        receiver.testStreams (bodyWords sender.testStreams))).map receiver.afterSummary := by
  rw [← exchangeSummary_eq hpaired (testSummary_fits hbytes), exchangeSummary, hbytes, Fault.ok_bind]

/-- A receiver whose streams have identifiers of their own finds all it reads in the message. -/
theorem summary_handled {sender receiver : IperfTest} (hid : sender.testId ≠ 0) (hsame : receiver.testId = sender.testId)
    {bytes : Octets} (hbytes : sender.testSummary = .ok bytes)
    (hdistinct : (receiver.testStreams.map IperfStream.streamIdentifier).Nodup) (clock : Nat → UInt64) (streamId : Nat) :
    ∃ told, receiver.handleControlMessage bytes clock streamId = .ok told := by
  by_cases hdone : receiver.state = .testDone
  · exact ⟨_, handleControlMessage_summary_done hsame hbytes hdone clock streamId⟩
  · have hfit := testSummary_fits hbytes
    have hroom : sender.testStreams.length * (1 + 3 * 1) ≤ (bodyWords sender.testStreams).length := by
      rw [length_bodyWords hfit]
      omega
    obtain ⟨streams, hstreams⟩ := readWords_some receiver.testConfig (clock 0)
      (List.nodup_iff_count.mp hdistinct) hroom
    have hread := handleControlMessage_summary ⟨hsame, hid, hdone⟩ hbytes clock streamId
    rw [hstreams] at hread
    obtain ⟨told, htold, _⟩ := Fault.bind_eq_ok.mp hread
    exact ⟨told, htold⟩

theorem summary_sameEnd {sender receiver next : IperfTest} (hid : sender.testId ≠ 0)
    (hsame : receiver.testId = sender.testId) {bytes : Octets} (hbytes : sender.testSummary = .ok bytes)
    {clock : Nat → UInt64} {streamId : Nat} {sent : List Octets}
    (h : receiver.handleControlMessage bytes clock streamId = .ok (next, sent)) : SameEnd receiver next := by
  by_cases hdone : receiver.state = .testDone
  · rw [handleControlMessage_summary_done hsame hbytes hdone] at h
    obtain ⟨rfl, _⟩ := Prod.mk.inj (Except.ok.inj h)
    exact ⟨rfl, rfl, rfl, le_rfl⟩
  · have hread := handleControlMessage_summary ⟨hsame, hid, hdone⟩ hbytes clock streamId
    rw [h, Fault.ok_bind] at hread
    cases hwords : readWords receiver.testConfig (clock 0) sender.testStreams.length receiver.testStreams
        (bodyWords sender.testStreams) with
    | none =>
      rw [hwords] at hread
      exact nomatch hread
    | some streams =>
      rw [hwords] at hread
      have hlength := (readWords_read _ _ hwords).length_eq.le
      obtain rfl : next = receiver.afterSummary streams := Except.ok.inj hread
      unfold afterSummary tryPrintSummary
      dsimp only
      split
      · exact ⟨rfl, rfl, rfl, hlength⟩
      · split
        · exact ⟨rfl, rfl, rfl, hlength.trans (List.length_map _).ge⟩
        · exact ⟨rfl, rfl, rfl, hlength⟩

theorem handleControlMessage_sent {test next : IperfTest} {bytes : Octets} {clock : Nat → UInt64} {streamId : Nat}
    {sent : List Octets} (h : test.handleControlMessage bytes clock streamId = .ok (next, sent)) :
    ∀ message ∈ sent, Addressed test.testId message := by
  have h := handleControlMessage_inv h
  unfold handleAction at h
  split at h
  · obtain ⟨_, _, h⟩ := Fault.bind_eq_ok.mp h
    obtain ⟨_, rfl⟩ := Prod.mk.inj (Fault.pure_eq_ok.mp h)
    exact List.forall_mem_nil _
  · unfold handleSummaryMessage at h
    split at h
    · obtain ⟨_, rfl⟩ := Prod.mk.inj (Except.ok.inj h)
      exact List.forall_mem_nil _
    · obtain ⟨_, _, h⟩ := Fault.bind_eq_ok.mp h
      obtain ⟨_, _, h⟩ := Fault.bind_eq_ok.mp h
      obtain ⟨⟨acked, messages⟩, hack, h⟩ := Fault.bind_eq_ok.mp h
      obtain ⟨_, rfl⟩ := Prod.mk.inj (Fault.pure_eq_ok.mp h)
      exact sendAck_addressed hack rfl
  · unfold handleTestParameters at h
    split at h
    · obtain ⟨_, rfl⟩ := Prod.mk.inj (Except.ok.inj h)
      exact List.forall_mem_nil _
    · obtain ⟨_, _, h⟩ := Fault.bind_eq_ok.mp h
      exact sendAck_addressed h rfl
  · obtain ⟨_, _, h⟩ := Fault.bind_eq_ok.mp h
    obtain ⟨_, rfl⟩ := Prod.mk.inj (Fault.pure_eq_ok.mp h)
    exact List.forall_mem_nil _
  · obtain ⟨_, rfl⟩ := Prod.mk.inj (Except.ok.inj h)
    exact List.forall_mem_nil _

/-! ### Acks and ready signals -/

def Fresh (test : IperfTest) : Prop := ∀ stream ∈ test.testStreams, stream.sendingThread = .notStarted

theorem openStream_ok (config : TestConfig) (clock : Nat → UInt64) (streamId i : Nat) :
    ∃ stream, openStream config clock streamId i = .ok stream := by
  have hconnector : (IperfStream.connecting config (streamId + i) (clock i)).connector.isSome = true := rfl
  rw [openStream, IperfStream.startConnect, Fault.require_of_true hconnector, Fault.ok_bind]
  change ∃ stream, (if config.protocol = 11 then _ else _) = Except.ok stream
  split
  · exact ⟨_, rfl⟩
  · exact ⟨_, rfl⟩

theorem handleAckMessage_ok (test : IperfTest) (clock : Nat → UInt64) (streamId : Nat) :
    ∃ next, test.handleAckMessage clock streamId = .ok next := by
  unfold handleAckMessage
  split
  · obtain ⟨opened, hopened⟩ := Fault.exists_mapM (List.range test.testConfig.numStreams.toNat)
      fun i _ => openStream_ok test.testConfig clock streamId i
    exact ⟨_, by rw [hopened, Fault.ok_bind]; rfl⟩
  all_goals exact ⟨_, rfl⟩

theorem handleReadyMessage_ok {test : IperfTest} (hfresh : Fresh test) (now : UInt64) :
    ∃ next, test.handleReadyMessage now = .ok next := by
  have hstart : ∀ stream ∈ test.testStreams, ∃ started, stream.startSend now = .ok started := by
    intro stream hmem
    unfold IperfStream.startSend
    rw [Fault.require_of_true (hfresh stream hmem), Fault.ok_bind]
    exact ⟨_, rfl⟩
  obtain ⟨started, hstarted⟩ := Fault.exists_mapM test.testStreams hstart
  unfold handleReadyMessage
  dsimp only
  split
  · exact ⟨_, by rw [hstarted, Fault.ok_bind]; rfl⟩
  · exact ⟨_, rfl⟩

/-- What the listener sends: nothing, or one ready signal for the stream that makes the streams complete. -/
theorem dataListenCallback_sent {test next : IperfTest} {streamId : Nat} {idealBufferLength : Int} {sent : List Octets}
    (h : test.dataListenCallback streamId idealBufferLength = .ok (next, sent)) :
    ∃ stream, next = { test with testStreams := test.testStreams ++ [stream] } ∧
      (sent = [] ∨ ∃ message, sent = [message] ∧ Addressed test.testId message) := by
  obtain ⟨stream, _, h⟩ := Fault.bind_eq_ok.mp h
  dsimp only at h
  split at h
  · obtain ⟨ready, hready, h⟩ := Fault.bind_eq_ok.mp h
    obtain ⟨rfl, rfl⟩ := Prod.mk.inj (Fault.pure_eq_ok.mp h)
    refine ⟨stream, rfl, ?_⟩
    unfold sendTestReady at hready
    split at hready
    · obtain ⟨bytes, hbytes, hready⟩ := Fault.bind_eq_ok.mp hready
      exact .inr ⟨bytes, (Fault.pure_eq_ok.mp hready).symm, message_addressed hbytes⟩
    · exact .inl (Except.ok.inj hready).symm
  · obtain ⟨rfl, rfl⟩ := Prod.mk.inj (Fault.pure_eq_ok.mp h)
    exact ⟨stream, rfl, .inl rfl⟩

end IperfTest

namespace Session

open IperfTest

/-! ### What is in flight -/

/-- What may be on its way to the receiver: the parameters of the sender, or a summary that fits its buffer. -/
inductive Request (config : TestConfig) (testId : UInt32) : Octets → Prop
  | parameters {header : IperfControlData} {rest : Octets} (hid : header.testId = testId)
      (hcode : header.actionCode = 2) : Request config testId (header.encode ++ (config.serialize ++ rest))
  | summary {sender : IperfTest} {bytes : Octets} (hid : sender.testId = testId)
      (hsummary : sender.testSummary = .ok bytes) : Request config testId bytes

def readyCount (queue : List Reply) : Nat := queue.countP fun reply => decide (IsReady reply)

theorem readyCount_append (first rest : List Reply) :
    readyCount (first ++ rest) = readyCount first + readyCount rest := List.countP_append

theorem readyCount_cons (reply : Reply) (rest : List Reply) :
    readyCount (reply :: rest) = readyCount rest + if IsReady reply then 1 else 0 := by
  simp only [readyCount, List.countP_cons, decide_eq_true_eq]

theorem readyCount_acks {code : UInt8} {sent : List Octets} (hack : ∀ message ∈ sent, actionCode message = 4)
    (queue : List Reply) : readyCount (queue ++ replies code sent) = readyCount queue := by
  have hzero : readyCount (replies code sent) = 0 := by
    refine List.countP_eq_zero.mpr fun reply hreply hready => ?_
    have hcode := (of_decide_eq_true hready).1
    exact absurd ((hack _ (mem_replies hreply).2).symm.trans hcode) (by decide)
  rw [readyCount_append, hzero, Nat.add_zero]

/-- Whether the receiver has as many streams as it waits for. -/
def Announced (server : IperfTest) : Prop := server.testConfig.numStreams ≤ server.testStreams.length

theorem Announced.of_same {server next : IperfTest} (h : Announced server) (hsame : SameEnd server next) :
    Announced next := by
  have hlength := hsame.numOfStreams
  unfold Announced at h ⊢
  rw [hsame.testConfig]
  omega

/-- How far the ready signal is. The streams of a UDP test send without it. -/
inductive Signal (s : Session) : Prop
  | waiting (hcount : readyCount s.toClient = 0) (hfresh : s.client.testConfig.protocol ≠ 11 → s.client.Fresh)
  | inFlight (hcount : readyCount s.toClient = 1) (hall : Announced s.server)
      (hprotocol : s.client.testConfig.protocol ≠ 11) (hfresh : s.client.Fresh)
  | spent (hcount : readyCount s.toClient = 0) (hall : Announced s.server)

theorem Signal.count_le {s : Session} (h : Signal s) : readyCount s.toClient ≤ 1 := by
  cases h with
  | waiting hcount | inFlight hcount | spent hcount => omega

/-- The messages in flight are addressed and complete, and before the parameters are handled there is no listener and no ready signal. -/
structure Sound (s : Session) : Prop where
  hasId : s.client.testId ≠ 0
  sameTest : s.server.testId = s.client.testId
  requests : ∀ bytes ∈ s.toServer, Request s.client.testConfig s.client.testId bytes
  replies : ∀ reply ∈ s.toClient, Addressed s.client.testId reply.bytes
  closed : (s.client.ctrlChn = false ∨ ∃ bytes ∈ s.toServer, actionCode bytes = 2) → s.server.dataChnListener = none
  silent : s.server.dataChnListener = none → readyCount s.toClient = 0
  protocol : s.server.dataChnListener.isSome → s.client.testConfig.protocol = 11 → s.server.testConfig.protocol = 11
  signal : Signal s

theorem sound_start {testId : UInt32} (hid : testId ≠ 0) (config serverConfig : TestConfig) :
    Sound (start config serverConfig testId) where
  hasId := hid
  sameTest := rfl
  requests := List.forall_mem_nil _
  replies := List.forall_mem_nil _
  closed := fun _ => rfl
  silent := fun _ => rfl
  protocol := fun h => absurd h Bool.false_ne_true
  signal := .waiting rfl fun _ => List.forall_mem_nil _

/-- A step after which nothing new is asked and no signal was sent or handled. -/
theorem Sound.of_same {s t : Session} (h : Sound s) (hclient : SameEnd s.client t.client)
    (hserver : SameEnd s.server t.server) (hctrl : t.client.ctrlChn = s.client.ctrlChn)
    (htoServer : ∀ bytes ∈ t.toServer, bytes ∈ s.toServer)
    (htoClient : ∀ reply ∈ t.toClient, Addressed s.client.testId reply.bytes)
    (hcount : readyCount t.toClient = readyCount s.toClient)
    (hfresh : s.client.testConfig.protocol ≠ 11 → s.client.Fresh → t.client.Fresh) : Sound t where
  hasId := hclient.testId ▸ h.hasId
  sameTest := by rw [hserver.testId, hclient.testId, h.sameTest]
  requests := by
    rw [hclient.testConfig, hclient.testId]
    exact fun bytes hmem => h.requests bytes (htoServer bytes hmem)
  replies := by
    rw [hclient.testId]
    exact htoClient
  closed := by
    rw [hctrl, hserver.dataChnListener]
    exact fun hbefore => h.closed (hbefore.imp_right fun ⟨bytes, hmem, hcode⟩ => ⟨bytes, htoServer bytes hmem, hcode⟩)
  silent := by
    rw [hserver.dataChnListener, hcount]
    exact h.silent
  protocol := by
    rw [hserver.dataChnListener, hclient.testConfig, hserver.testConfig]
    exact h.protocol
  signal := by
    cases h.signal with
    | waiting hzero hclean =>
      refine .waiting (hcount.trans hzero) ?_
      rw [hclient.testConfig]
      exact fun hprotocol => hfresh hprotocol (hclean hprotocol)
    | inFlight hone hall hprotocol hclean =>
      exact .inFlight (hcount.trans hone) (hall.of_same hserver) (hclient.testConfig ▸ hprotocol)
        (hfresh hprotocol hclean)
    | spent hzero hall => exact .spent (hcount.trans hzero) (hall.of_same hserver)

/-! ### Steps of the streams and of the main thread -/

theorem fresh_set {test : IperfTest} {i : Nat} {stream changed : IperfStream} (hi : test.testStreams[i]? = some stream)
    (hkept : stream.sendingThread = .notStarted → changed.sendingThread = .notStarted) (hfresh : test.Fresh) :
    Fresh { test with testStreams := test.testStreams.set i changed } := by
  intro other hmem
  rcases List.mem_or_eq_of_mem_set hmem with hold | rfl
  · exact hfresh other hold
  · exact hkept (hfresh stream (List.mem_of_getElem? hi))

theorem fresh_same {test next : IperfTest}
    (h : List.Forall₂ IperfStream.SameConnection test.testStreams next.testStreams) (hfresh : test.Fresh) :
    next.Fresh := by
  intro stream hmem
  obtain ⟨before, hbefore, hsame⟩ := Pointwise.exists_left h hmem
  exact hsame.sendingThread.trans (hfresh before hbefore)

theorem Sound.of_client {s : Session} {client : IperfTest} {main : MainLoop} (h : Sound s)
    (hclient : SameEnd s.client client) (hctrl : client.ctrlChn = s.client.ctrlChn)
    (hfresh : s.client.Fresh → client.Fresh) : Sound { s with client := client, main := main } :=
  h.of_same hclient (.refl _) hctrl (fun _ hmem => hmem) h.replies rfl fun _ => hfresh

theorem sound_onClient {s t : Session} {i : Nat} {f : IperfStream → Except Fault IperfStream} (hsound : Sound s)
    (hkept : ∀ {stream changed}, f stream = .ok changed → stream.sendingThread = .notStarted →
      changed.sendingThread = .notStarted)
    (h : (onStream s.client i f).map (fun client => { s with client := client }) = some t) : Sound t := by
  obtain ⟨client, hclient, rfl⟩ := Option.map_eq_some_iff.mp h
  obtain ⟨stream, changed, hi, hchanged, rfl⟩ := onStream_inv hclient
  exact hsound.of_client ⟨rfl, rfl, rfl, List.length_set.ge⟩ rfl (fresh_set hi (hkept hchanged))

theorem sound_server {s : Session} {server : IperfTest} (hsound : Sound s) (h : SameEnd s.server server) :
    Sound { s with server := server } :=
  hsound.of_same (.refl _) h rfl (fun _ hmem => hmem) hsound.replies rfl fun _ => id

theorem sound_onServer {s t : Session} {i : Nat} {f : IperfStream → Except Fault IperfStream} (hsound : Sound s)
    (h : (onStream s.server i f).map (fun server => { s with server := server }) = some t) : Sound t := by
  obtain ⟨server, hserver, rfl⟩ := Option.map_eq_some_iff.mp h
  obtain ⟨_, _, _, _, rfl⟩ := onStream_inv hserver
  exact sound_server hsound ⟨rfl, rfl, rfl, List.length_set.ge⟩

theorem sound_sendSummary {s t : Session} (hsound : Sound s) (h : s.sendSummary = some t) : Sound t := by
  unfold sendSummary at h
  split at h
  · split at h
    · obtain ⟨bytes, hbytes, h⟩ := Option.bind_eq_some_iff.mp h
      obtain rfl := Option.some.inj h
      have hsummary := Fault.toOption_eq_some.mp hbytes
      refine ⟨hsound.hasId, hsound.sameTest, ?_, hsound.replies, ?_, hsound.silent, hsound.protocol, ?_⟩
      · intro message hmem
        rcases List.mem_append.mp hmem with hold | hnew
        · exact hsound.requests message hold
        · rw [List.mem_singleton.mp hnew]
          exact .summary rfl hsummary
      · rintro (hctrl | ⟨message, hmem, hcode⟩)
        · exact hsound.closed (.inl hctrl)
        · rcases List.mem_append.mp hmem with hold | hnew
          · exact hsound.closed (.inr ⟨message, hold, hcode⟩)
          · rw [List.mem_singleton.mp hnew, message_actionCode hsummary] at hcode
            exact absurd hcode (by decide)
      · cases hsound.signal with
        | waiting hcount hfresh => exact .waiting hcount hfresh
        | inFlight hcount hall hprotocol hfresh => exact .inFlight hcount hall hprotocol hfresh
        | spent hcount hall => exact .spent hcount hall
    · obtain rfl := Option.some.inj h
      exact hsound.of_client (.refl _) rfl id
  · exact absurd h (by simp)

/-! ### Steps on the control channel -/

theorem sound_ctrlEstablished {s t : Session} (hsound : Sound s) (h : s.ctrlEstablished = some t) : Sound t := by
  unfold ctrlEstablished at h
  split at h
  · exact absurd h (by simp)
  · rename_i hctrl
    have hlistener := hsound.closed (.inl (by simpa using hctrl))
    have hsend : s.client.ctrlChannelEstablished = _ :=
      @sendTestParameters_eq { s.client with ctrlChn := true } hsound.hasId rfl
    rw [hsend] at h
    obtain rfl := Option.some.inj h
    refine ⟨hsound.hasId, hsound.sameTest, ?_, hsound.replies, fun _ => hlistener, hsound.silent, hsound.protocol, ?_⟩
    · intro bytes hmem
      rcases List.mem_append.mp hmem with hold | hnew
      · exact hsound.requests bytes hold
      · rw [List.mem_singleton.mp hnew]
        exact .parameters rfl rfl
    · cases hsound.signal with
      | waiting hcount hfresh => exact .waiting hcount hfresh
      | inFlight hcount hall hprotocol hfresh => exact .inFlight hcount hall hprotocol hfresh
      | spent hcount hall => exact .spent hcount hall

/-- The parameters are handled once, before anything else can have come from the receiver. -/
theorem sound_serverParameters {s : Session} {header : IperfControlData} {tail : Octets} {rest : List Octets}
    {server : IperfTest} {sent : List Octets} {clock : Nat → UInt64} {streamId : Nat} {processed : List Octets}
    (hpaired : Paired s) (hsound : Sound s) (hid : header.testId = s.client.testId) (hcode : header.actionCode = 2)
    (hqueue : s.toServer = (header.encode ++ (s.client.testConfig.serialize ++ tail)) :: rest)
    (hhandle : s.server.handleControlMessage (header.encode ++ (s.client.testConfig.serialize ++ tail)) clock streamId
      = .ok (server, sent)) :
    Sound { s with
      server := server
      toServer := rest
      toClient := s.toClient ++ replies (actionCode (header.encode ++ (s.client.testConfig.serialize ++ tail))) sent
      processed := processed } := by
  have hmem : header.encode ++ (s.client.testConfig.serialize ++ tail) ∈ s.toServer := hqueue ▸ List.mem_cons_self
  have htwo : actionCode (header.encode ++ (s.client.testConfig.serialize ++ tail)) = 2 := by
    rw [actionCode_encode, hcode]
  have hrest : rest = [] := by
    have hsingle := hpaired.single
    rw [hqueue, List.length_cons] at hsingle
    exact List.length_eq_zero_iff.mp (by omega)
  have hopening : Opening s := hpaired.phase.resolve_right fun hrunning =>
    absurd ((hrunning.requests _ hmem).1.symm.trans htwo) (by decide)
  have hctrl : s.client.ctrlChn = true := by
    by_contra hno
    have hempty := (hopening.unconnected (by simpa using hno)).1
    rw [hqueue] at hempty
    exact nomatch hempty
  have hfresh : s.client.Fresh := by
    rw [Fresh, hopening.noStreams]
    exact List.forall_mem_nil _
  have hzero := hsound.silent (hsound.closed (.inr ⟨_, hmem, htwo⟩))
  have hcount : readyCount (s.toClient ++ replies
      (actionCode (header.encode ++ (s.client.testConfig.serialize ++ tail))) sent) = 0 :=
    (readyCount_acks (handleControlMessage_answers hhandle).isAck s.toClient).trans hzero
  have hsent := handleControlMessage_sent hhandle
  have hserverId : s.server.testId ≠ 0 := hsound.sameTest ▸ hsound.hasId
  rw [handleControlMessage_parameters hserverId (hid.trans hsound.sameTest.symm) hcode] at hhandle
  have hreplies : ∀ reply ∈ s.toClient ++ replies
      (actionCode (header.encode ++ (s.client.testConfig.serialize ++ tail))) sent,
      Addressed s.client.testId reply.bytes := by
    intro reply hreply
    rcases List.mem_append.mp hreply with hold | hnew
    · exact hsound.replies reply hold
    · exact hsound.sameTest ▸ hsent _ (mem_replies hnew).2
  subst hrest
  have hsignal : ∀ {server : IperfTest}, Signal { s with
      server := server
      toServer := []
      toClient := s.toClient ++ replies (actionCode (header.encode ++ (s.client.testConfig.serialize ++ tail))) sent
      processed := processed } := .waiting hcount fun _ => hfresh
  have hclosed : ¬ (s.client.ctrlChn = false ∨ ∃ bytes ∈ ([] : List Octets), actionCode bytes = 2) := by
    rw [hctrl]
    simp
  split at hhandle
  · obtain ⟨rfl, rfl⟩ := Prod.mk.inj (Except.ok.inj hhandle)
    exact ⟨hsound.hasId, hsound.sameTest, List.forall_mem_nil _, hreplies, fun h => absurd h hclosed, fun _ => hcount,
      hsound.protocol, hsignal⟩
  · obtain ⟨rfl, rfl⟩ := Prod.mk.inj (Except.ok.inj hhandle)
    refine ⟨hsound.hasId, hsound.sameTest, List.forall_mem_nil _, hreplies, fun h => absurd h hclosed, fun _ => hcount,
      fun _ hprotocol => ?_, hsignal⟩
    change (Narrowing.unsigned 8 s.client.testConfig.protocol : Int) = 11
    rw [hprotocol]
    rfl

theorem sound_serverReceive {s t : Session} {clock : Nat → UInt64} {streamId : Nat} (hpaired : Paired s)
    (hsound : Sound s) (h : s.serverReceive clock streamId = some t) : Sound t := by
  obtain ⟨bytes, rest, server, sent, hqueue, hhandle, rfl⟩ := serverReceive_inv h
  cases hsound.requests bytes (hqueue ▸ List.mem_cons_self) with
  | parameters hid hcode => exact sound_serverParameters hpaired hsound hid hcode hqueue hhandle
  | summary hid hsummary =>
    have hsame := summary_sameEnd (hid ▸ hsound.hasId) (hsound.sameTest.trans hid.symm) hsummary hhandle
    refine hsound.of_same (.refl _) hsame rfl ?_ ?_ (readyCount_acks (handleControlMessage_answers hhandle).isAck _)
      fun _ => id
    · exact fun message hmem => hqueue ▸ List.mem_cons_of_mem _ hmem
    · intro reply hmem
      rcases List.mem_append.mp hmem with hold | hnew
      · exact hsound.replies reply hold
      · exact hsound.sameTest ▸ handleControlMessage_sent hhandle _ (mem_replies hnew).2

theorem sound_clientReceive {s t : Session} {clock : Nat → UInt64} {streamId : Nat} (hpaired : Paired s)
    (hsound : Sound s) (h : s.clientReceive clock streamId = some t) : Sound t := by
  obtain ⟨reply, rest, client, sent, hqueue, hctrl, hhandle, rfl⟩ := clientReceive_inv h
  have hrest : ∀ other ∈ rest, Addressed s.client.testId other.bytes := fun other hmem =>
    hsound.replies other (hqueue ▸ List.mem_cons_of_mem _ hmem)
  have hcounts : readyCount s.toClient = readyCount rest + if IsReady reply then 1 else 0 := by
    rw [hqueue, readyCount_cons]
  rcases hpaired.replies reply (hqueue ▸ List.mem_cons_self) with hack | hready
  · obtain ⟨rfl, hhandled⟩ := handleControlMessage_ack hack hhandle
    rw [if_neg fun hready : IsReady reply => hready.not_isAck hack, Nat.add_zero] at hcounts
    have hsame (hclient : SameEnd s.client client) (hchannel : client.ctrlChn = true)
        (hfresh : s.client.testConfig.protocol ≠ 11 → s.client.Fresh → client.Fresh) :
        Sound { s with client := client, toClient := rest, toServer := s.toServer ++ [] } :=
      hsound.of_same hclient (.refl _) (hchannel.trans hctrl.symm) (fun bytes hmem => by simpa using hmem) hrest
        hcounts.symm hfresh
    rcases handleAckMessage_cases hhandled with ⟨_, opened, rfl, hopened⟩ | ⟨_, rfl⟩ | ⟨_, _, rfl⟩
    · refine hsame ⟨rfl, rfl, rfl, ?_⟩ rfl fun hprotocol hfresh => ?_
      · rw [List.length_append]
        exact Nat.le_add_right _ _
      · intro stream hmem
        rcases List.mem_append.mp hmem with hold | hnew
        · exact hfresh stream hold
        · obtain ⟨_, _, hone⟩ := Pointwise.exists_left hopened hnew
          exact openStream_sendingThread hprotocol hone
    · exact hsame ⟨rfl, rfl, rfl, le_rfl⟩ rfl fun _ => id
    · exact hsame ⟨rfl, rfl, rfl, le_rfl⟩ rfl fun _ => id
  · obtain ⟨rfl, hhandled⟩ := handleControlMessage_ready hready.1 hhandle
    rw [if_pos hready] at hcounts
    -- the only signal is handled, and from here on the receiver sends no other
    have hclient : SameEnd s.client client ∧ client.ctrlChn = true := by
      rcases handleReadyMessage_cases hhandled with ⟨_, streams, rfl, hstarted⟩ | ⟨_, rfl⟩
      · exact ⟨⟨rfl, rfl, rfl, hstarted.length_eq.le⟩, rfl⟩
      · exact ⟨⟨rfl, rfl, rfl, le_rfl⟩, rfl⟩
    obtain ⟨hsame, hchannel⟩ := hclient
    have hover : readyCount rest = 0 ∧ Announced s.server := by
      cases hsound.signal with
      | waiting hcount => omega
      | inFlight hcount hall => exact ⟨by omega, hall⟩
      | spent hcount hall => exact ⟨by omega, hall⟩
    refine ⟨hsame.testId ▸ hsound.hasId, hsound.sameTest.trans hsame.testId.symm, ?_, hsame.testId ▸ hrest, ?_,
      fun _ => hover.1, hsame.testConfig ▸ hsound.protocol, .spent hover.1 hover.2⟩
    · rw [List.append_nil, hsame.testConfig, hsame.testId]
      exact hsound.requests
    · rw [List.append_nil, hchannel, ← hctrl]
      exact hsound.closed

theorem sound_accept {s t : Session} {streamId : Nat} {idealBufferLength : Int} (hsound : Sound s)
    (h : s.accept streamId idealBufferLength = some t) : Sound t := by
  have hlistener : s.server.dataChnListener.isSome = true := by
    unfold accept at h
    split at h
    · assumption
    · exact absurd h (by simp)
  obtain ⟨server, sent, hlisten, rfl⟩ := accept_inv h
  obtain ⟨_, hcode, hannounces⟩ := dataListenCallback_inv hlisten
  obtain ⟨stream, rfl, rfl | ⟨message, rfl, haddressed⟩⟩ := dataListenCallback_sent hlisten
  · have hlength : s.server.testStreams.length ≤ (s.server.testStreams ++ [stream]).length := by
      rw [List.length_append]
      exact Nat.le_add_right _ _
    refine hsound.of_same (.refl _) ⟨rfl, rfl, rfl, hlength⟩ rfl (fun _ hmem => hmem) ?_ ?_ fun _ => id
    · simpa [replies] using hsound.replies
    · simp [replies]
  · obtain ⟨hprotocol, hnumber⟩ := hannounces (List.cons_ne_nil _ _)
    have hunannounced : ¬ Announced s.server := by
      unfold Announced
      omega
    have hready : IsReady { answers := 0, bytes := message } := ⟨hcode message List.mem_cons_self, rfl⟩
    have hcounts : readyCount (s.toClient ++ replies 0 [message]) = readyCount s.toClient + 1 := by
      rw [readyCount_append]
      change _ + readyCount [_] = _
      rw [readyCount_cons, if_pos hready]
      rfl
    have hclientProtocol : s.client.testConfig.protocol ≠ 11 := fun heq => hprotocol (hsound.protocol hlistener heq)
    refine ⟨hsound.hasId, hsound.sameTest, hsound.requests, ?_, hsound.closed, ?_, hsound.protocol, ?_⟩
    · intro reply hmem
      rcases List.mem_append.mp hmem with hold | hnew
      · exact hsound.replies reply hold
      · rw [List.mem_singleton.mp hnew, ← hsound.sameTest]
        exact haddressed
    · intro hnone
      rw [show s.server.dataChnListener = none from hnone] at hlistener
      exact absurd hlistener Bool.false_ne_true
    · cases hsound.signal with
      | waiting hcount hfresh =>
        refine .inFlight (hcounts.trans (by rw [hcount])) ?_ hclientProtocol (hfresh hclientProtocol)
        change s.server.testConfig.numStreams ≤ ((s.server.testStreams ++ [stream]).length : Int)
        rw [hnumber, List.length_append]
        exact le_rfl
      | inFlight _ hall | spent _ hall => exact absurd hall hunannounced

theorem sound_step {s t : Session} {a : Action} (hpaired : Paired s) (hsound : Sound s)
    (h : machine.step s a = some t) : Sound t := by
  cases a with
  | ctrlEstablished => exact sound_ctrlEstablished hsound h
  | serverReceive => exact sound_serverReceive hpaired hsound h
  | clientReceive => exact sound_clientReceive hpaired hsound h
  | clientEvent =>
    exact sound_onClient hsound (fun hchanged hnone =>
      (IperfStream.connectionCallback_connected hchanged).1.trans hnone) h
  | clientThread =>
    refine sound_onClient hsound (fun hchanged hnone => ?_) h
    -- a thread that takes a step was started
    obtain ⟨_, hstarting, _⟩ := Fault.bind_eq_ok.mp hchanged
    exact absurd (hnone.symm.trans (Fault.require_eq_ok.mp hstarting)) (by decide)
  | clientActivity i activity =>
    refine sound_onClient hsound (fun hchanged hnone => ?_) h
    obtain rfl := Except.ok.inj hchanged
    exact hnone
  | accept => exact sound_accept hsound h
  | serverEvent | serverActivity => exact sound_onServer hsound h
  | serverTick =>
    obtain ⟨⟨_, server⟩, htick, rfl⟩ := Option.map_eq_some_iff.mp h
    exact sound_server hsound (testFinishState_ticked (Fault.toOption_eq_some.mp htick)).sameEnd
  | pollReady =>
    obtain ⟨_, flag, rfl⟩ := pollReady_inv h
    exact hsound.of_client ⟨rfl, rfl, rfl, le_rfl⟩ rfl id
  | clientTick =>
    obtain ⟨_, done, client, hticked, rfl⟩ := clientTick_inv h
    exact hsound.of_client hticked.sameEnd (by rw [hticked.rest]) (fresh_same hticked.streams)
  | finishReports now =>
    obtain ⟨_, rfl⟩ := finishReports_inv h
    exact hsound.of_client ⟨rfl, rfl, rfl, (List.length_map _).ge⟩ rfl
      (fresh_same (Pointwise.map_self (fun stream => stream.finishReport_same now) _))
  | sendSummary => exact sound_sendSummary hsound h
  | storeState =>
    obtain ⟨_, rfl⟩ := storeState_inv h
    exact hsound.of_client ⟨rfl, rfl, rfl, le_rfl⟩ rfl id

theorem sound_run {config serverConfig : TestConfig} {testId : UInt32} (hid : testId ≠ 0)
    (hstreams : config.numStreams ≠ 0) {acts : List Action} {s : Session}
    (hrun : machine.run (start config serverConfig testId) acts = some s) : Paired s ∧ Sound s := by
  have hstep (s : Session) (a : Action) (t : Session) (h : Paired s ∧ Sound s) (hstep : machine.step s a = some t) :
      Paired t ∧ Sound t := ⟨paired_step h.1 hstep, sound_step h.1 h.2 hstep⟩
  exact Machine.run_preserves hstep ⟨paired_start hstreams serverConfig testId, sound_start hid config serverConfig⟩ hrun

/-! ### Every message is handled -/

theorem ctrlChn_of_reply {s : Session} (hpaired : Paired s) (hsound : Sound s) (hreply : s.toClient ≠ []) :
    s.client.ctrlChn = true := by
  by_contra hno
  have hctrl : s.client.ctrlChn = false := by simpa using hno
  rcases hpaired.phase with hopening | hrunning
  · obtain ⟨reply, rest, hqueue⟩ := List.exists_cons_of_ne_nil hreply
    have hacks := (hopening.unconnected hctrl).2
    have hreadys := hsound.silent (hsound.closed (.inl hctrl))
    rw [hqueue, ackCount_cons] at hacks
    rw [hqueue, readyCount_cons] at hreadys
    rcases hpaired.replies reply (hqueue ▸ List.mem_cons_self) with hack | hready
    · rw [if_pos hack] at hacks
      omega
    · rw [if_pos hready] at hreadys
      omega
  · exact hno hrunning.ctrlChn

theorem clientReceive_isSome {s : Session} (hpaired : Paired s) (hsound : Sound s) (hreply : s.toClient ≠ [])
    (clock : Nat → UInt64) (streamId : Nat) : (machine.step s (.clientReceive clock streamId)).isSome = true := by
  obtain ⟨reply, rest, hqueue⟩ := List.exists_cons_of_ne_nil hreply
  have hmem : reply ∈ s.toClient := hqueue ▸ List.mem_cons_self
  have hctrl := ctrlChn_of_reply hpaired hsound hreply
  have haddressed := handleControlMessage_addressed (hsound.replies reply hmem) clock streamId
  have hhandled : ∃ next, s.client.handleControlMessage reply.bytes clock streamId = .ok next := by
    rcases hpaired.replies reply hmem with hack | hready
    · obtain ⟨next, hnext⟩ := handleAckMessage_ok { s.client with ctrlChn := true } clock streamId
      exact ⟨(next, []), by rw [haddressed, show actionCode reply.bytes = 4 from hack, handleAction, hnext]; rfl⟩
    · -- the signal is in flight, so no thread was started before
      have hfresh : s.client.Fresh := by
        cases hsound.signal with
        | inFlight _ _ _ hfresh => exact hfresh
        | waiting hcount | spent hcount =>
          rw [hqueue, readyCount_cons, if_pos hready] at hcount
          omega
      obtain ⟨next, hnext⟩ := @handleReadyMessage_ok { s.client with ctrlChn := true } hfresh (clock 0)
      exact ⟨(next, []), by rw [haddressed, hready.1, handleAction, hnext]; rfl⟩
  obtain ⟨⟨next, sent⟩, hnext⟩ := hhandled
  have hstep : machine.step s (.clientReceive clock streamId)
      = some { s with client := next, toClient := rest, toServer := s.toServer ++ sent } := by
    change s.clientReceive clock streamId = _
    simp only [clientReceive, hqueue, if_pos hctrl, hnext]
    rfl
  rw [hstep]
  rfl

theorem serverReceive_isSome {s : Session} (hsound : Sound s) {bytes : Octets} {rest : List Octets}
    (hqueue : s.toServer = bytes :: rest)
    (hdistinct : actionCode bytes = 3 → (s.server.testStreams.map IperfStream.streamIdentifier).Nodup)
    (clock : Nat → UInt64) (streamId : Nat) : (machine.step s (.serverReceive clock streamId)).isSome = true := by
  have hhandled : ∃ next, s.server.handleControlMessage bytes clock streamId = .ok next := by
    cases hsound.requests bytes (hqueue ▸ List.mem_cons_self) with
    | parameters hid hcode =>
      have hserverId : s.server.testId ≠ 0 := hsound.sameTest ▸ hsound.hasId
      exact ⟨_, handleControlMessage_parameters hserverId (hid.trans hsound.sameTest.symm) hcode _ _ clock streamId⟩
    | summary hid hsummary =>
      exact summary_handled (hid ▸ hsound.hasId) (hsound.sameTest.trans hid.symm) hsummary
        (hdistinct (message_actionCode hsummary)) clock streamId
  obtain ⟨⟨next, sent⟩, hnext⟩ := hhandled
  change (s.serverReceive clock streamId).isSome = true
  simp only [serverReceive, hqueue, hnext]
  rfl

/-- In every order of the steps, whatever is in flight can be handled next: no assertion fails, nothing is read outside a message, and no running thread is overwritten. -/
theorem messages_handled {config serverConfig : TestConfig} {testId : UInt32} (hid : testId ≠ 0)
    (hstreams : 1 ≤ config.numStreams) {acts : List Action} {s : Session}
    (hrun : machine.run (start config serverConfig testId) acts = some s) (clock : Nat → UInt64) (streamId : Nat) :
    readyCount s.toClient ≤ 1 ∧
      (s.toClient ≠ [] → (machine.step s (.clientReceive clock streamId)).isSome = true) ∧
      ∀ bytes rest, s.toServer = bytes :: rest →
        (actionCode bytes = 3 → (s.server.testStreams.map IperfStream.streamIdentifier).Nodup) →
        (machine.step s (.serverReceive clock streamId)).isSome = true := by
  obtain ⟨hpaired, hsound⟩ := sound_run hid (by omega) hrun
  exact ⟨hsound.signal.count_le, fun hreply => clientReceive_isSome hpaired hsound hreply clock streamId,
    fun bytes rest hqueue hdistinct => serverReceive_isSome hsound hqueue hdistinct clock streamId⟩

theorem messages_handled_brief :
    ∃ s t, machine.run (start briefConfig {} 7) untilAccepted = some s ∧ s.toClient ≠ [] ∧
      (machine.step s (.clientReceive (fun _ => 0) 1)).isSome = true ∧
      machine.run (start briefConfig {} 7) untilSummarySent = some t ∧ (t.toServer.map actionCode) = [3] ∧
      (machine.step t (.serverReceive (fun _ => 0) 1)).isSome = true := by
  have hready : (machine.run (start briefConfig {} 7) untilAccepted).map (fun s => s.toClient.length) = some 1 := by
    decide +kernel
  have hsummary : (machine.run (start briefConfig {} 7) untilSummarySent).map (fun t =>
      (t.toServer.map actionCode, t.server.testStreams.map IperfStream.streamIdentifier)) = some ([3], [0]) := by
    decide +kernel
  obtain ⟨s, hs, hlength⟩ := Option.map_eq_some_iff.mp hready
  obtain ⟨t, ht, hcodes⟩ := Option.map_eq_some_iff.mp hsummary
  obtain ⟨hcodes, hidentifiers⟩ := Prod.mk.inj hcodes
  have hreply : s.toClient ≠ [] := fun hnil => by simp [hnil] at hlength
  have hrequest : t.toServer ≠ [] := fun hnil => by simp [hnil] at hcodes
  obtain ⟨bytes, rest, hqueue⟩ := List.exists_cons_of_ne_nil hrequest
  refine ⟨s, t, hs, hreply, (messages_handled (by decide) (by decide) hs _ 1).2.1 hreply, ht, hcodes, ?_⟩
  refine (messages_handled (by decide) (by decide) ht _ 1).2.2 bytes rest hqueue fun _ => ?_
  rw [hidentifiers]
  decide

end Session

end BatsIperf
