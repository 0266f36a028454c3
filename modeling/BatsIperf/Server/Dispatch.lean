import BatsIperf.Server.IperfBatsApi

/-!
# Which test a control message reaches

The object that is created for a message and the test that is looked up for it are found independently of each other. A message with an unknown identifier and no request in it goes through a null pointer, and a file transfer that is already in the table asserts what the client may send to it.
-/

namespace BatsIperf

open Octets

/-! ### Assertions that hold -/

namespace IperfTest

theorem avoids_sendAck {test : IperfTest} (hid : test.testId ≠ 0) : Fault.Avoids .failedAssert test.sendAck := by
  have hmessage : Fault.Avoids .failedAssert (test.message 300 4 0 []) :=
    (Fault.avoids_require_of_true hid).bind fun _ => Fault.avoids_need (by decide) _
  exact hmessage.bind fun _ => (Fault.avoids_require (by decide) _).bind fun _ => Fault.avoids_pure _

theorem sendAck_zero {test : IperfTest} (hid : test.testId = 0) : test.sendAck = .error .failedAssert := by
  have hassert : Fault.require .failedAssert (test.testId ≠ 0) = .error .failedAssert :=
    Fault.require_eq_error.mpr (not_not_intro hid)
  rw [sendAck, message, hassert]
  rfl

theorem avoids_startSend (stream : IperfStream) (now : UInt64) : Fault.Avoids .failedAssert (stream.startSend now) :=
  (Fault.avoids_require (by decide) _).bind fun _ => Fault.avoids_pure _

theorem avoids_openStream (config : TestConfig) (clock : Nat → UInt64) (streamId i : Nat) :
    Fault.Avoids .failedAssert (openStream config clock streamId i) := by
  refine ((Fault.avoids_require_of_true rfl).bind fun _ => Fault.avoids_pure _).bind fun stream => ?_
  split
  · exact avoids_startSend stream _
  · exact Fault.avoids_pure _

/-- Whatever a message asks of a test, the test asserts nothing but its identifier. -/
theorem avoids_handleAction {test : IperfTest} (hid : test.testId ≠ 0) (actionCode : UInt8) (bytes : Octets)
    (clock : Nat → UInt64) (streamId : Nat) :
    Fault.Avoids .failedAssert (test.handleAction actionCode bytes clock streamId) := by
  unfold handleAction
  split
  · refine Fault.Avoids.bind ?_ fun _ => Fault.avoids_pure _
    unfold handleAckMessage
    split
    · exact (Fault.avoids_mapM (avoids_openStream _ _ _) _).bind fun _ => Fault.avoids_pure _
    all_goals exact Fault.avoids_ok _
  · unfold handleSummaryMessage
    split
    · exact Fault.avoids_ok _
    · refine (Fault.avoids_need (by decide) _).bind fun _ => (Fault.avoids_need (by decide) _).bind fun streams => ?_
      have hack : Fault.Avoids .failedAssert { test with testStreams := streams }.sendAck := avoids_sendAck hid
      exact hack.bind fun _ => Fault.avoids_pure _
  · unfold handleTestParameters
    split
    · exact Fault.avoids_ok _
    · exact (Fault.avoids_need (by decide) _).bind fun _ => avoids_sendAck hid
  · refine Fault.Avoids.bind ?_ fun _ => Fault.avoids_pure _
    simp only [handleReadyMessage]
    split
    · exact (Fault.avoids_mapM (fun stream => avoids_startSend stream _) _).bind fun _ => Fault.avoids_pure _
    · exact Fault.avoids_ok _
  · exact Fault.avoids_ok _

end IperfTest

namespace IperfFileTransfer

theorem avoids_sendResponse {test : IperfFileTransfer} (hid : test.testId ≠ 0) (denied : Bool) :
    Fault.Avoids .failedAssert (test.sendResponse denied) := by
  have hmessage : Fault.Avoids .failedAssert (test.message (test.responseHeader denied) []) :=
    (Fault.avoids_require_of_true hid).bind fun _ => Fault.avoids_need (by decide) _
  exact hmessage.bind fun _ => (Fault.avoids_require (by decide) _).bind fun _ => Fault.avoids_pure _

theorem sendResponse_zero {test : IperfFileTransfer} (hid : test.testId = 0) (denied : Bool) :
    test.sendResponse denied = .error .failedAssert := by
  have hassert : Fault.require .failedAssert (test.testId ≠ 0) = .error .failedAssert :=
    Fault.require_eq_error.mpr (not_not_intro hid)
  rw [sendResponse, message, hassert]
  rfl

theorem avoids_handleFileTransferRequest {test : IperfFileTransfer} (hid : test.testId ≠ 0) (bytes : Octets)
    (available : Option Nat) : Fault.Avoids .failedAssert (test.handleFileTransferRequest bytes available) := by
  refine (Fault.avoids_need (by decide) _).bind fun received => (Fault.avoids_need (by decide) _).bind fun _ => ?_
  dsimp only
  split
  · exact (avoids_sendResponse hid _).bind fun _ => Fault.avoids_pure _
  · exact (avoids_sendResponse hid _).bind fun _ => Fault.avoids_pure _

theorem avoids_onRecvResponse (test : IperfFileTransfer) : Fault.Avoids .failedAssert test.onRecvResponse :=
  (Fault.avoids_require (by decide) _).bind fun _ => (Fault.avoids_require (by decide) _).bind fun _ =>
    Fault.avoids_pure _

end IperfFileTransfer

/-! ### Dispatch -/

def IIperfTest.isFileTransfer : IIperfTest → Bool
  | .iperfTest _ => false
  | .iperfFileTransfer _ => true

namespace IperfBatsApi

variable {Conn : Type} [DecidableEq Conn]

/-- A new test of the class that a request asks for. -/
structure Requested (header : IperfControlData) (test : IIperfTest) : Prop where
  testId : test.testId = header.testId
  new : test.state = .testNone
  request : test.isFileTransfer = true ∧ header.actionCode = 1 ∨ test.isFileTransfer = false ∧ header.actionCode = 2

/-- A message goes to a test of the table, or to one that is created for a request, handles it and is inserted under its identifier, or it changes no test. -/
def Dispatched (api next : IperfBatsApi Conn) (header : IperfControlData) (conn : Conn) (bytes : Octets)
    (answers : MessageAnswers) : Prop :=
  (∃ entry handled replies, api.testTbl.find header.testId = some entry ∧
    entry.handleControlMessage conn bytes answers = .ok (handled, replies) ∧
    next.testTbl = api.testTbl.insert handled) ∨
  (api.testTbl.find header.testId = none ∧ ∃ test created sent, Requested header test ∧
    test.handleControlMessage bytes answers = .ok (created.test, sent) ∧ created.testId = header.testId ∧
    next.testTbl = api.testTbl.insert created) ∨
  next.testTbl = api.testTbl

/-- A message with the header is handled without a call through a null pointer and without an assertion that fails. -/
structure HandledProperly (api : IperfBatsApi Conn) (header : IperfControlData) (conn : Conn) (bytes : Octets)
    (answers : MessageAnswers) : Prop where
  notNull : api.handleControlMessage conn bytes answers ≠ .error .nullTest
  asserted : api.handleControlMessage conn bytes answers ≠ .error (.inTest .failedAssert)
  dispatched : ∀ next replies, api.handleControlMessage conn bytes answers = .ok (next, replies) →
    Dispatched api next header conn bytes answers

/-- A file transfer of the table is sent a request or a response, and an unknown identifier comes with a request and is not 0. -/
def Expected (api : IperfBatsApi Conn) (header : IperfControlData) : Prop :=
  match api.testTbl.find header.testId with
  | some entry => entry.test.isFileTransfer = true → header.actionCode = 1 ∨ header.actionCode = 4
  | none => (header.actionCode = 1 ∨ header.actionCode = 2) ∧ header.testId ≠ 0

/-! ### Tests of the table -/

theorem handleControlMessage_known {api : IperfBatsApi Conn} {header : IperfControlData} {conn : Conn}
    {bytes body : Octets} {answers : MessageAnswers} {entry : TableEntry Conn}
    (hdecode : IperfControlData.decode bytes = some (header, body)) (hfind : api.testTbl.find header.testId = some entry) :
    api.handleControlMessage conn bytes answers = match entry.handleControlMessage conn bytes answers with
      | .error fault => .error (.inTest fault)
      | .ok (entry, replies) => .ok ({ api with testTbl := api.testTbl.insert entry }, replies) := by
  have hfields := IperfControlData.fields_of_decode hdecode
  cases hanswer : entry.handleControlMessage conn bytes answers with
  | error fault => simp only [handleControlMessage, hfields.actionCode, hfields.testId, hfind, hanswer]
  | ok answered => simp only [handleControlMessage, hfields.actionCode, hfields.testId, hfind, hanswer]

/-- A test of the table asserts nothing about a message for it, unless it is a file transfer. -/
theorem avoids_known {test : IIperfTest} {header : IperfControlData} {bytes body : Octets} {answers : MessageAnswers}
    (hdecode : IperfControlData.decode bytes = some (header, body)) (hsame : test.testId = header.testId)
    (hid : test.testId ≠ 0) (hexpected : test.isFileTransfer = true → header.actionCode = 1 ∨ header.actionCode = 4) :
    Fault.Avoids .failedAssert (test.handleControlMessage bytes answers) := by
  cases test with
  | iperfTest test =>
    refine Fault.Avoids.bind ?_ fun _ => Fault.avoids_pure _
    rw [IperfTest.handleControlMessage_decode hdecode]
    have hid : ({ test with ctrlChn := true } : IperfTest).testId ≠ 0 := hid
    exact (Fault.avoids_require_of_true hsame.symm).bind fun _ => IperfTest.avoids_handleAction hid _ bytes _ _
  | iperfFileTransfer test =>
    refine Fault.Avoids.bind ?_ fun _ => Fault.avoids_pure _
    rw [IperfFileTransfer.handleControlMessage_decode hdecode]
    refine (Fault.avoids_require_of_true hsame.symm).bind fun _ =>
      (Fault.avoids_require_of_true (hexpected rfl)).bind fun _ => ?_
    split
    · split
      · exact (IperfFileTransfer.avoids_onRecvResponse _).bind fun _ => Fault.avoids_pure _
      · exact Fault.avoids_pure _
    · have hid : ({ test with ctrlChn := true } : IperfFileTransfer).testId ≠ 0 := hid
      exact IperfFileTransfer.avoids_handleFileTransferRequest hid bytes _

theorem fileTransfer_asserts {test : IIperfTest} {header : IperfControlData} {bytes body : Octets} {answers : MessageAnswers}
    (hdecode : IperfControlData.decode bytes = some (header, body)) (hsame : test.testId = header.testId)
    (hfile : test.isFileTransfer = true) (hcode : ¬ (header.actionCode = 1 ∨ header.actionCode = 4)) :
    test.handleControlMessage bytes answers = .error .failedAssert := by
  cases test with
  | iperfTest => exact absurd hfile Bool.false_ne_true
  | iperfFileTransfer test =>
    have hassert : Fault.require .failedAssert (header.actionCode = 1 ∨ header.actionCode = 4) = .error .failedAssert :=
      Fault.require_eq_error.mpr hcode
    have hsame : header.testId = test.testId := hsame.symm
    rw [IIperfTest.handleControlMessage, IperfFileTransfer.handleControlMessage_decode hdecode,
      Fault.require_of_true hsame, Fault.ok_bind, hassert]
    rfl

/-! ### Tests that are created -/

theorem handleControlMessage_unknown {api : IperfBatsApi Conn} {header : IperfControlData} {conn : Conn}
    {bytes body : Octets} {answers : MessageAnswers} (hdecode : IperfControlData.decode bytes = some (header, body))
    (hfind : api.testTbl.find header.testId = none) :
    api.handleControlMessage conn bytes answers = match api.receivedTest header.actionCode header.testId with
      | none => .error .nullTest
      | some test => api.createTest conn test bytes answers := by
  have hfields := IperfControlData.fields_of_decode hdecode
  cases hreceived : api.receivedTest header.actionCode header.testId with
  | none => simp only [handleControlMessage, hfields.actionCode, hfields.testId, hfind, hreceived]
  | some test => simp only [handleControlMessage, hfields.actionCode, hfields.testId, hfind, hreceived]

omit [DecidableEq Conn] in
theorem receivedTest_cases (api : IperfBatsApi Conn) (header : IperfControlData) :
    (api.receivedTest header.actionCode header.testId = none ∧ ¬ (header.actionCode = 1 ∨ header.actionCode = 2)) ∨
      ∃ test, api.receivedTest header.actionCode header.testId = some test ∧ Requested header test := by
  unfold receivedTest
  split
  · rename_i hcode
    exact .inr ⟨_, rfl, rfl, rfl, .inl ⟨rfl, hcode⟩⟩
  · rename_i hcode
    exact .inr ⟨_, rfl, rfl, rfl, .inr ⟨rfl, hcode⟩⟩
  · rename_i hone htwo
    exact .inl ⟨rfl, fun hcode => hcode.elim hone htwo⟩

theorem Requested.configure {header : IperfControlData} {test : IIperfTest} (h : Requested header test)
    (f : TestConfig → TestConfig) : Requested header (test.configure f) := by
  obtain ⟨hid, hnew, hrequest⟩ := h
  cases test with
  | iperfTest => exact ⟨hid, hnew, hrequest⟩
  | iperfFileTransfer => exact ⟨hid, hnew, hrequest⟩

theorem Requested.asserts_id {header : IperfControlData} {test : IIperfTest} (h : Requested header test)
    (hzero : header.testId = 0) (sent : TestConfig) (answers : MessageAnswers) :
    test.handleControlMessage (header.encode ++ sent.serialize) answers = .error .failedAssert := by
  have hdecode : IperfControlData.decode (header.encode ++ sent.serialize) = some (header, sent.serialize) :=
    IperfControlData.decode_encode header _
  have hreceived : TestConfig.deserialize {} sent.serialize = some sent.received := by
    rw [← List.append_nil sent.serialize]
    exact TestConfig.deserialize_default sent []
  obtain ⟨hid, hnew, hrequest⟩ := h
  cases test with
  | iperfTest test =>
    obtain ⟨_, hcode⟩ := hrequest.resolve_left fun h => Bool.false_ne_true h.1
    have hid : test.testId = header.testId := hid
    have hrunning : ¬ test.state = .testDone := by
      have hnew : test.state = .testNone := hnew
      rw [hnew]
      decide
    have hack (config : TestConfig) (listener : Option BatsConfiguration) :
        ({ test with ctrlChn := true, testConfig := config, dataChnListener := listener } : IperfTest).sendAck
          = .error .failedAssert := IperfTest.sendAck_zero (hid.trans hzero)
    rw [IIperfTest.handleControlMessage, IperfTest.handleControlMessage_decode hdecode, Fault.require_of_true hid.symm,
      Fault.ok_bind, hcode]
    change (IperfTest.handleTestParameters { test with ctrlChn := true } _ >>= _) = _
    rw [(IperfControlData.fields_of_decode hdecode).body, IperfTest.handleTestParameters, if_neg hrunning, hreceived,
      Fault.need_some, Fault.ok_bind, hack]
    rfl
  | iperfFileTransfer test =>
    obtain ⟨_, hcode⟩ := hrequest.resolve_right fun h => Bool.false_ne_true h.1.symm
    have hid : test.testId = header.testId := hid
    have hanswer (config : TestConfig) (listener : Option BatsConfiguration) (denied : Bool) :
        ({ test with ctrlChn := true, testConfig := config, dataChnListener := listener } : IperfFileTransfer).sendResponse
          denied = .error .failedAssert := by
      apply IperfFileTransfer.sendResponse_zero
      exact hid.trans hzero
    rw [IIperfTest.handleControlMessage, IperfFileTransfer.handleControlMessage_decode hdecode,
      Fault.require_of_true hid.symm, Fault.ok_bind, Fault.require_of_true (.inl hcode), Fault.ok_bind, hcode,
      if_neg (by decide), IperfFileTransfer.handleFileTransferRequest_decode hdecode, hreceived, Fault.need_some,
      Fault.ok_bind]
    dsimp only
    split
    · rw [hanswer test.testConfig test.dataChnListener]
      rfl
    · rw [hanswer]
      rfl

theorem createTest_ne_nullTest (api : IperfBatsApi Conn) (conn : Conn) (test : IIperfTest) (bytes : Octets)
    (answers : MessageAnswers) : api.createTest conn test bytes answers ≠ .error .nullTest := by
  unfold createTest
  split
  · simp
  · split <;> simp

/-- A test that was created for a request with an identifier asserts nothing that does not hold, and is inserted under it. -/
theorem createTest_cases {api : IperfBatsApi Conn} {header : IperfControlData} {conn : Conn} {test : IIperfTest}
    {bytes body : Octets} {answers : MessageAnswers} (hdecode : IperfControlData.decode bytes = some (header, body))
    (htest : Requested header test) (hid : header.testId ≠ 0) :
    api.createTest conn test bytes answers ≠ .error (.inTest .failedAssert) ∧
      ∀ next replies, api.createTest conn test bytes answers = .ok (next, replies) →
        ∃ test created sent, Requested header test ∧ test.handleControlMessage bytes answers = .ok (created.test, sent) ∧
          created.testId = header.testId ∧ next.testTbl = api.testTbl.insert created := by
  have hconfigured : Requested header ((test.setRole .roleReceiver).setResolution defaultResolution) :=
    (htest.configure fun config => { config with role := .roleReceiver }).configure
      fun config => { config with resolution := defaultResolution }
  have hsame := hconfigured.testId
  have hrequest := hconfigured.request
  have havoids : Fault.Avoids .failedAssert
      (((test.setRole .roleReceiver).setResolution defaultResolution).handleControlMessage bytes answers) := by
    apply avoids_known hdecode hsame (hsame ▸ hid)
    intro hfile
    rcases hrequest with ⟨_, hcode⟩ | ⟨hno, _⟩
    · exact .inl hcode
    · exact absurd (hno.symm.trans hfile) Bool.false_ne_true
  unfold createTest
  split
  · rename_i fault hfault
    refine ⟨fun h => havoids ?_, fun _ _ h => absurd h (by simp)⟩
    rw [hfault, ServerFault.inTest.inj (Except.error.inj h)]
  · rename_i handled sent hhandled
    have hkept : handled.testId = header.testId := (IIperfTest.handleControlMessage_testId hhandled).trans hsame
    split
    · rename_i hnonzero
      refine ⟨by simp, fun next replies h => ?_⟩
      obtain ⟨rfl, _⟩ := Prod.mk.inj (Except.ok.inj h)
      exact ⟨_, { test := handled, ctrlConn := conn, owner := conn, hasId := hnonzero }, sent, hconfigured, hhandled, hkept,
        rfl⟩
    · rename_i hzero
      exact absurd (hkept ▸ hid) hzero

/-! ### Every state of the table -/

theorem handledProperly_of_expected {api : IperfBatsApi Conn} {header : IperfControlData} {bytes body : Octets}
    (hexpected : Expected api header) (hdecode : IperfControlData.decode bytes = some (header, body)) (conn : Conn)
    (answers : MessageAnswers) : HandledProperly api header conn bytes answers := by
  unfold Expected at hexpected
  split at hexpected
  · rename_i entry hfind
    have hsame : entry.test.testId = header.testId := api.testTbl.keyed hfind
    have havoids : entry.test.handleControlMessage bytes answers ≠ .error .failedAssert :=
      avoids_known hdecode hsame entry.hasId hexpected
    have houtcome := @handleControlMessage_known _ _ api header conn bytes body answers entry hdecode hfind
    cases hentry : entry.handleControlMessage conn bytes answers with
    | error fault =>
      rw [hentry] at houtcome
      refine ⟨by simp [houtcome], fun hfailed => havoids ?_, fun _ _ hok => absurd (houtcome.symm.trans hok) (by simp)⟩
      rw [houtcome] at hfailed
      obtain rfl := ServerFault.inTest.inj (Except.error.inj hfailed)
      exact TableEntry.handleControlMessage_eq_error.mp hentry
    | ok result =>
      rw [hentry] at houtcome
      refine ⟨by simp [houtcome], by simp [houtcome], fun next replies hok => .inl ?_⟩
      obtain ⟨rfl, rfl⟩ := Prod.mk.inj (Except.ok.inj (houtcome.symm.trans hok))
      exact ⟨entry, result.1, result.2, hfind, hentry, rfl⟩
  · rename_i hfind
    obtain ⟨hcode, hid⟩ := hexpected
    have houtcome := @handleControlMessage_unknown _ _ api header conn bytes body answers hdecode hfind
    rcases receivedTest_cases api header with ⟨_, hno⟩ | ⟨test, htest, hrequested⟩
    · exact absurd hcode hno
    · rw [htest] at houtcome
      have houtcome : api.handleControlMessage conn bytes answers = api.createTest conn test bytes answers := houtcome
      obtain ⟨hasserted, hcreated⟩ := @createTest_cases _ _ api header conn test bytes body answers hdecode hrequested hid
      refine ⟨?_, ?_, fun next replies hok => .inr (.inl ?_)⟩
      · rw [houtcome]
        exact createTest_ne_nullTest api conn test bytes answers
      · rw [houtcome]
        exact hasserted
      · exact ⟨hfind, hcreated next replies (houtcome.symm.trans hok)⟩

/-- Every message with a header is handled properly exactly where the state of the table expects the header. -/
theorem handled_properly_iff (api : IperfBatsApi Conn) (conn : Conn) (header : IperfControlData) :
    (∀ bytes body answers, IperfControlData.decode bytes = some (header, body) →
        HandledProperly api header conn bytes answers) ↔ Expected api header := by
  refine ⟨fun h => ?_, fun hexpected bytes body answers hdecode =>
    handledProperly_of_expected hexpected hdecode conn answers⟩
  have hmessage := h (header.encode ++ ({} : TestConfig).serialize) _ {} (IperfControlData.decode_encode header _)
  have hdecode := IperfControlData.decode_encode header ({} : TestConfig).serialize
  unfold Expected
  split
  · rename_i entry hfind
    intro hfile
    by_contra hcode
    have hsame : entry.test.testId = header.testId := api.testTbl.keyed hfind
    have hfailed : entry.handleControlMessage conn (header.encode ++ ({} : TestConfig).serialize) {} = .error .failedAssert :=
      TableEntry.handleControlMessage_eq_error.mpr (fileTransfer_asserts hdecode hsame hfile hcode)
    apply hmessage.asserted
    rw [handleControlMessage_known hdecode hfind, hfailed]
  · rename_i hfind
    have houtcome := @handleControlMessage_unknown _ _ api header conn _ _ {} hdecode hfind
    rcases receivedTest_cases api header with ⟨hnone, _⟩ | ⟨test, htest, hrequested⟩
    · rw [hnone] at houtcome
      exact absurd houtcome hmessage.notNull
    · rw [htest] at houtcome
      refine ⟨hrequested.request.imp And.right And.right, fun hzero => hmessage.asserted ?_⟩
      have hcreated := (hrequested.configure fun config => { config with role := .roleReceiver }).configure
        fun config => { config with resolution := defaultResolution }
      have hfailed : ((test.setRole .roleReceiver).setResolution defaultResolution).handleControlMessage
          (header.encode ++ ({} : TestConfig).serialize) {} = .error .failedAssert := hcreated.asserts_id hzero {} {}
      rw [houtcome]
      dsimp only
      rw [createTest, hfailed]

/-- A summary whose test has left the table goes through the null pointer, and so would one of a test that never was in it. -/
theorem unknown_summary_counterexample :
    ¬ ∀ (api : IperfBatsApi Unit) (header : IperfControlData) (bytes body : Octets) (answers : MessageAnswers),
      IperfControlData.decode bytes = some (header, body) → HandledProperly api header () bytes answers := by
  intro h
  have hdecode := IperfControlData.decode_encode { testId := 7, actionCode := 3 } []
  have hsummary := h { userInputConfig := {} } { testId := 7, actionCode := 3 } _ [] {} hdecode
  apply hsummary.notNull
  rw [handleControlMessage_unknown hdecode rfl]
  rfl

end IperfBatsApi

end BatsIperf
