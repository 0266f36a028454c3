import BatsIperf.Foundation.Machine
import BatsIperf.Negotiation
import BatsIperf.Server.Dispatch

/-!
# Clients of one server

Each client takes its identifier from the clock of its host, and the server tells the clients apart by nothing else. Two clients stay apart where their identifiers do. Where they do not, the request of the second one goes to the test of the first, which answers the first.
-/

namespace BatsIperf

open Octets

namespace IperfBatsApi

variable {Conn : Type} [DecidableEq Conn]

/-- What happens at a server: a control message, the end of a control connection, the visit of the interval loop to one test, and whatever the data streams and the threads of a test do to it. -/
inductive Action (Conn : Type)
  | message (conn : Conn) (bytes : Octets) (answers : MessageAnswers)
  | closed (conn : Conn) (now : UInt64)
  | poll (id : UInt32) (now : UInt64)
  | dataStreams (id : UInt32) (test : IIperfTest)

/-- A test may be changed in any way, but for its identifier. -/
def dataStreams (api : IperfBatsApi Conn) (id : UInt32) (test : IIperfTest) : Option (IperfBatsApi Conn) :=
  match api.testTbl.find id with
  | none => none
  | some entry =>
    if h : test.testId = entry.test.testId then
      some { api with testTbl := api.testTbl.insert { entry with test := test, hasId := h ▸ entry.hasId } }
    else none

def step (api : IperfBatsApi Conn) : Action Conn → Option (IperfBatsApi Conn)
  | .message conn bytes answers => (api.handleControlMessage conn bytes answers).toOption.map Prod.fst
  | .closed conn now => some (api.ctrlChannelClosed conn now)
  | .poll id now => (api.poll id now).toOption
  | .dataStreams id test => api.dataStreams id test

def machine : Machine (IperfBatsApi Conn) (Action Conn) where
  step := step

def start (config : TestConfig) : IperfBatsApi Conn where
  userInputConfig := config

/-- The identifier of a client that is constructed at a time. -/
def clientId (now : UInt64) : UInt32 := now.toUInt32

/-- The message carries the identifier of the client behind the connection. -/
def SentBy (clock : Conn → UInt64) (conn : Conn) (bytes : Octets) : Prop :=
  ∃ header body, IperfControlData.decode bytes = some (header, body) ∧ header.testId = clientId (clock conn)

def FromClients (clock : Conn → UInt64) : Action Conn → Prop
  | .message conn bytes _ => SentBy clock conn bytes
  | _ => True

/-- A message leaves the tests of other clients alone, and its answers go where it came from. -/
structure KeptApart (api next : IperfBatsApi Conn) (conn : Conn) (replies : List (Conn × Octets)) : Prop where
  others : ∀ id entry, api.testTbl.find id = some entry → entry.owner ≠ conn → next.testTbl.find id = some entry
  replies : ∀ reply ∈ replies, reply.1 = conn

/-- In every run, every message of a client is kept apart from the tests of the others. -/
def Noninterfering (clock : Conn → UInt64) (config : TestConfig) : Prop :=
  ∀ acts api, (∀ a ∈ acts, FromClients clock a) → machine.run (start config) acts = some api →
    ∀ conn bytes answers next replies, SentBy clock conn bytes →
      api.handleControlMessage conn bytes answers = .ok (next, replies) → KeptApart api next conn replies

/-! ### One step -/

/-- A message that is handled changes the one entry with its identifier, or adds it. -/
theorem handleControlMessage_inv {api next : IperfBatsApi Conn} {conn : Conn} {bytes : Octets} {answers : MessageAnswers}
    {header : IperfControlData} {body : Octets} {replies : List (Conn × Octets)}
    (hdecode : IperfControlData.decode bytes = some (header, body))
    (h : api.handleControlMessage conn bytes answers = .ok (next, replies)) :
    ∃ stored, stored.testId = header.testId ∧ next.testTbl = api.testTbl.insert stored ∧
      (∀ reply ∈ replies, reply.1 = stored.ctrlConn) ∧
      ((∃ entry, api.testTbl.find header.testId = some entry ∧ stored.owner = entry.owner ∧
          (stored.ctrlConn = entry.ctrlConn ∨ stored.ctrlConn = conn)) ∨
        (stored.owner = conn ∧ stored.ctrlConn = conn)) := by
  cases hfind : api.testTbl.find header.testId with
  | some entry =>
    rw [handleControlMessage_known hdecode hfind] at h
    split at h
    · exact absurd h (by simp)
    · rename_i stored sent hstored
      obtain ⟨rfl, rfl⟩ := Prod.mk.inj (Except.ok.inj h)
      obtain ⟨hid, howner, hctrl, _, _, rfl⟩ := TableEntry.handleControlMessage_inv hstored
      refine ⟨stored, hid.trans (api.testTbl.keyed hfind), rfl, by simp, .inl ⟨entry, rfl, howner, ?_⟩⟩
      rw [hctrl]
      unfold TableEntry.ctrlConnAfter
      split
      · split
        · exact .inl rfl
        · exact .inr rfl
      · split
        · exact .inr rfl
        · exact .inl rfl
  | none =>
    rw [handleControlMessage_unknown hdecode hfind] at h
    rcases receivedTest_cases api header with ⟨hnone, _⟩ | ⟨test, htest, hrequested⟩
    · rw [hnone] at h
      exact absurd h (by simp)
    · rw [htest] at h
      dsimp only at h
      unfold createTest at h
      split at h
      · exact absurd h (by simp)
      · rename_i handled sent hhandled
        split at h
        · rename_i hid
          obtain ⟨rfl, rfl⟩ := Prod.mk.inj (Except.ok.inj h)
          have hkept : handled.testId = header.testId := by
            rw [IIperfTest.handleControlMessage_testId hhandled]
            exact ((hrequested.configure _).configure _).testId
          exact ⟨{ test := handled, ctrlConn := conn, owner := conn, hasId := hid }, hkept, rfl, by simp, .inr ⟨rfl, rfl⟩⟩
        · exact absurd h (by simp)

/-- Every test has the identifier of the client that created it, and answers this client. -/
def Owned (clock : Conn → UInt64) (api : IperfBatsApi Conn) : Prop :=
  ∀ id entry, api.testTbl.find id = some entry → clientId (clock entry.owner) = id ∧ entry.ctrlConn = entry.owner

/-- Clients with one identifier are one client, or have the identifier 0. -/
def IdsApart (clock : Conn → UInt64) : Prop :=
  ∀ c d, c ≠ d → clientId (clock c) = clientId (clock d) → clientId (clock c) = 0

theorem IdsApart.owner {clock : Conn → UInt64} (hapart : IdsApart clock) {api : IperfBatsApi Conn} (howned : Owned clock api)
    {entry : TableEntry Conn} {conn : Conn} (hfind : api.testTbl.find (clientId (clock conn)) = some entry) :
    entry.owner = conn := by
  by_contra hother
  obtain ⟨hid, _⟩ := howned _ entry hfind
  have hkey : entry.testId = clientId (clock conn) := api.testTbl.keyed hfind
  exact entry.hasId (hkey.trans (hid.symm.trans (hapart entry.owner conn hother hid)))

omit [DecidableEq Conn] in
/-- An entry that is stored under the identifier of its owner, and answers its owner, keeps the table in order. -/
theorem Owned.insert {clock : Conn → UInt64} {api next : IperfBatsApi Conn} (howned : Owned clock api)
    {stored : TableEntry Conn} (htable : next.testTbl = api.testTbl.insert stored)
    (hid : clientId (clock stored.owner) = stored.testId) (hctrl : stored.ctrlConn = stored.owner) : Owned clock next := by
  intro id entry hfind
  have hkey : entry.testId = id := next.testTbl.keyed hfind
  rw [htable] at hfind
  rcases Registry.find_insert_cases hfind with rfl | hfind
  · exact ⟨hid.trans hkey, hctrl⟩
  · exact howned id entry hfind

omit [DecidableEq Conn] in
theorem Owned.change {clock : Conn → UInt64} {api next : IperfBatsApi Conn} (howned : Owned clock api) {id : UInt32}
    {entry changed : TableEntry Conn} (hfind : api.testTbl.find id = some entry)
    (htable : next.testTbl = api.testTbl.insert changed) (hid : changed.testId = entry.testId)
    (howner : changed.owner = entry.owner) (hctrl : changed.ctrlConn = entry.ctrlConn) : Owned clock next := by
  obtain ⟨hentry, hanswers⟩ := howned id entry hfind
  have hkey : entry.testId = id := api.testTbl.keyed hfind
  apply howned.insert htable
  · rw [howner, hid, hentry, hkey]
  · rw [howner, hctrl, hanswers]

theorem owned_message {clock : Conn → UInt64} (hapart : IdsApart clock) {api next : IperfBatsApi Conn}
    (howned : Owned clock api) {conn : Conn} {bytes : Octets} {answers : MessageAnswers} {replies : List (Conn × Octets)}
    (hsent : SentBy clock conn bytes) (h : api.handleControlMessage conn bytes answers = .ok (next, replies)) :
    Owned clock next ∧ KeptApart api next conn replies := by
  obtain ⟨header, body, hdecode, hclient⟩ := hsent
  obtain ⟨stored, hid, htable, hreplies, hstored⟩ := handleControlMessage_inv hdecode h
  have hown : stored.owner = conn ∧ stored.ctrlConn = conn := by
    rcases hstored with ⟨entry, hfind, howner, hctrl⟩ | hnew
    · rw [hclient] at hfind
      have hentry := hapart.owner howned hfind
      obtain ⟨_, hanswers⟩ := howned _ entry hfind
      refine ⟨howner.trans hentry, ?_⟩
      rcases hctrl with hkept | hmoved
      · rw [hkept, hanswers, hentry]
      · exact hmoved
    · exact hnew
  have hstoredId : clientId (clock stored.owner) = stored.testId := by rw [hown.1, hid, hclient]
  refine ⟨howned.insert htable hstoredId (hown.2.trans hown.1.symm), ?_, fun reply hreply => ?_⟩
  · intro id entry hfind hother
    have hne : id ≠ stored.testId := by
      intro heq
      rw [heq, hid, hclient] at hfind
      exact hother (hapart.owner howned hfind)
    rw [htable, Registry.find_insert_of_ne _ hne]
    exact hfind
  · rw [hreplies reply hreply, hown.2]

theorem owned_step {clock : Conn → UInt64} (hapart : IdsApart clock) {api next : IperfBatsApi Conn} {a : Action Conn}
    (howned : Owned clock api) (hclients : FromClients clock a) (hstep : machine.step api a = some next) :
    Owned clock next := by
  cases a with
  | message conn bytes answers =>
    obtain ⟨⟨handled, replies⟩, hhandled, rfl⟩ := Option.map_eq_some_iff.mp hstep
    exact (owned_message hapart howned hclients (Fault.toOption_eq_some.mp hhandled)).1
  | closed conn now =>
    obtain rfl := Option.some.inj hstep
    unfold ctrlChannelClosed
    split
    · split
      · rename_i entry hfind
        exact howned.change hfind rfl (entry.test.closeAndStop_testId now) rfl rfl
      · exact howned
    · exact howned
  | poll id now =>
    have hpoll := Fault.toOption_eq_some.mp hstep
    unfold poll at hpoll
    split at hpoll
    · exact Except.ok.inj hpoll ▸ howned
    · rename_i entry hfind
      split at hpoll
      · exact absurd hpoll (by simp)
      · rename_i test hticked
        split at hpoll
        · obtain rfl := Except.ok.inj hpoll
          exact fun k found hfound => howned k found (Registry.find_of_erase hfound)
        · obtain rfl := Except.ok.inj hpoll
          have hid : test.isStreamDone.2.testId = entry.testId :=
            test.isStreamDone_testId.trans (IIperfTest.testFinishState_testId hticked)
          exact howned.change hfind rfl hid rfl rfl
  | dataStreams id test =>
    have hstep : api.dataStreams id test = some next := hstep
    unfold dataStreams at hstep
    split at hstep
    · exact absurd hstep (by simp)
    · rename_i entry hfind
      split at hstep
      · rename_i hid
        obtain rfl := Option.some.inj hstep
        exact howned.change hfind rfl hid rfl rfl
      · exact absurd hstep (by simp)

/-! ### Two clients with one identifier -/

/-- The parameters as a client of a throughput test sends them. -/
def parameters (id : UInt32) (config : TestConfig) : Octets :=
  ({ testId := id, actionCode := 2 } : IperfControlData).encode ++ (config.serialize ++ List.replicate 256 0)

theorem decode_parameters (id : UInt32) (config : TestConfig) : IperfControlData.decode (parameters id config)
    = some ({ testId := id, actionCode := 2 }, config.serialize ++ List.replicate 256 0) :=
  IperfControlData.decode_encode _ _

/-- A throughput test that has not ended goes on to its next state with every request. -/
theorem handle_parameters {test : IperfTest} (hid : test.testId ≠ 0) (hrunning : test.state ≠ .testDone)
    (config : TestConfig) (answers : MessageAnswers) :
    ∃ next : IperfTest, next.state = IperfTest.stateAfterAck test.state ∧
      (IIperfTest.iperfTest test).handleControlMessage (parameters test.testId config) answers
        = .ok (.iperfTest next, [test.emptyMessage 4]) := by
  have hhandled := IperfTest.handleTestParameters_eq { test with ctrlChn := true } hid rfl hrunning config
    (List.replicate 256 0)
  have hsame : ({ testId := test.testId, actionCode := 2 } : IperfControlData).testId = test.testId := rfl
  refine ⟨{ test with
    ctrlChn := true
    state := IperfTest.stateAfterAck test.state
    testConfig := IperfTest.receiverConfig test.testConfig config.received
    dataChnListener := some (IperfTest.listenConfiguration config.received) }, rfl, ?_⟩
  rw [IIperfTest.handleControlMessage, parameters, IperfTest.handleControlMessage_encode hsame, IperfTest.handleAction]
  dsimp only
  rw [(IperfControlData.fields_encode _ _).body, hhandled]
  rfl

theorem createTest_eq {api : IperfBatsApi Conn} {conn : Conn} {test next : IIperfTest} {bytes : Octets}
    {answers : MessageAnswers} {sent : List Octets}
    (h : ((test.setRole .roleReceiver).setResolution defaultResolution).handleControlMessage bytes answers = .ok (next, sent))
    (hasId : next.testId ≠ 0) : api.createTest conn test bytes answers = .ok ({ api with
      testTbl := api.testTbl.insert { test := next, ctrlConn := conn, owner := conn, hasId := hasId }
      user := Function.update api.user conn next.testId }, sent.map fun message => (conn, message)) := by
  rw [createTest, h]
  exact dif_pos hasId

theorem first_client {clock : Conn → UInt64} {c : Conn} (config : TestConfig) (hid : clientId (clock c) ≠ 0) :
    ∃ api entry test, machine.run (start config) [.message c (parameters (clientId (clock c)) {}) {}] = some api ∧
      api.testTbl.find (clientId (clock c)) = some entry ∧ entry.owner = c ∧ entry.test = .iperfTest test ∧
      test.testId = clientId (clock c) ∧ test.state = .testStart := by
  have hnew : (.testNone : TestState) ≠ .testDone := by decide
  obtain ⟨next, hstate, hhandled⟩ := @handle_parameters {
    testConfig := { config with role := .roleReceiver, resolution := defaultResolution }
    testId := clientId (clock c) } hid hnew {} {}
  have hnext : (IIperfTest.iperfTest next).testId = clientId (clock c) := IIperfTest.handleControlMessage_testId hhandled
  have hcreated := @createTest_eq _ _ (start config) c (.iperfTest { testConfig := config, testId := clientId (clock c) })
    _ _ _ _ hhandled (hnext ▸ hid)
  have hmessage := (@handleControlMessage_unknown _ _ (start config) _ c _ _ {} (decode_parameters (clientId (clock c)) {})
    rfl).trans hcreated
  have hstep : machine.step (start config) (.message c (parameters (clientId (clock c)) {}) {}) = some _ :=
    congrArg (fun outcome => outcome.toOption.map Prod.fst) hmessage
  refine ⟨_, { test := .iperfTest next, ctrlConn := c, owner := c, hasId := hnext ▸ hid }, next,
    Machine.run_cons.mpr ⟨_, hstep, rfl⟩, ?_, rfl, rfl, hnext, hstate⟩
  exact Registry.find_insert _ hnext

theorem second_client {api : IperfBatsApi Conn} {entry : TableEntry Conn} {test : IperfTest} {id : UInt32} (d : Conn)
    (hfind : api.testTbl.find id = some entry) (htest : entry.test = .iperfTest test) (hid : test.testId = id)
    (hstate : test.state = .testStart) :
    ∃ next replies changed, api.handleControlMessage d (parameters id {}) {} = .ok (next, replies) ∧
      next.testTbl.find id = some changed ∧ changed.test.state = .testDone := by
  have hnonzero : test.testId ≠ 0 := by
    have hasId := entry.hasId
    rwa [htest] at hasId
  obtain ⟨moved, hmoved, hhandled⟩ := handle_parameters hnonzero (by rw [hstate]; decide) {} {}
  rw [← htest, hid] at hhandled
  cases hentry : entry.handleControlMessage d (parameters id {}) {} with
  | error fault =>
    rw [TableEntry.handleControlMessage_eq_error.mp hentry] at hhandled
    exact absurd hhandled (by simp)
  | ok result =>
    obtain ⟨changed, replies⟩ := result
    obtain ⟨hkept, _, _, sent, hchanged, _⟩ := TableEntry.handleControlMessage_inv hentry
    obtain ⟨heq, _⟩ := Prod.mk.inj (Except.ok.inj (hchanged.symm.trans hhandled))
    have hkey : changed.testId = id := hkept.trans (api.testTbl.keyed hfind)
    refine ⟨{ api with testTbl := api.testTbl.insert changed }, replies, changed, ?_, ?_, ?_⟩
    · rw [handleControlMessage_known (decode_parameters _ _) hfind, hentry]
    · exact Registry.find_insert _ hkey
    · rw [heq]
      show moved.state = _
      rw [hmoved, hstate]
      rfl

/-- No two clients interfere exactly where no two have one identifier, other than 0. -/
theorem noninterfering_iff (clock : Conn → UInt64) (config : TestConfig) :
    Noninterfering clock config ↔ IdsApart clock := by
  constructor
  · intro h c d hne hsame
    by_contra hid
    obtain ⟨api, entry, test, hrun, hfind, howner, htest, htestId, hstate⟩ := first_client config hid
    obtain ⟨next, replies, changed, hhandled, hchanged, hdone⟩ := second_client d hfind htest htestId hstate
    have hclient (conn : Conn) (id : UInt32) (heq : id = clientId (clock conn)) : SentBy clock conn (parameters id {}) :=
      ⟨_, _, decode_parameters id {}, heq⟩
    have hfirst : FromClients clock (.message c (parameters (clientId (clock c)) {}) {}) := hclient c _ rfl
    have hkept := h _ api (List.forall_mem_singleton.mpr hfirst) hrun d _ {} next replies (hclient d _ hsame) hhandled
    have hsaved := hkept.others _ entry hfind (howner ▸ hne)
    obtain rfl := Option.some.inj (hsaved.symm.trans hchanged)
    rw [htest] at hdone
    exact absurd (hstate.symm.trans hdone) (by decide)
  · intro hapart acts api hclients hrun conn bytes answers next replies hsent hhandled
    have howned : Owned clock api := by
      refine Machine.run_invariant (fun _ _ _ hs ha hstep => owned_step hapart hs ha hstep) ?_
        (Machine.respects_of_mem hclients (start config)) hrun
      exact fun _ _ hfind => absurd hfind (by simp [start, Registry.empty])
    exact (owned_message hapart howned hsent hhandled).2

/-- Two clients that were constructed in one millisecond. The second request ends the test of the first, and is answered to the first. -/
theorem same_id_counterexample :
    ∃ api next replies, machine.run (start {}) [.message false (parameters 7 {}) {}] = some api ∧
      api.handleControlMessage true (parameters 7 {}) {} = .ok (next, replies) ∧
      (api.testTbl.find 7).map (fun entry => (entry.owner, entry.test.state)) = some (false, .testStart) ∧
      (next.testTbl.find 7).map (fun entry => (entry.owner, entry.test.state)) = some (false, .testDone) ∧
      replies.map Prod.fst = [false] ∧ ¬ Noninterfering (fun _ : Bool => 7) {} := by
  have hrun : (machine.run (start {}) [.message false (parameters 7 {}) {}]).bind (fun api =>
      (api.handleControlMessage true (parameters 7 {}) {}).toOption.map fun outcome =>
        ((api.testTbl.find 7).map (fun entry => (entry.owner, entry.test.state)),
          (outcome.1.testTbl.find 7).map (fun entry => (entry.owner, entry.test.state)), outcome.2.map Prod.fst))
      = some (some (false, .testStart), some (false, .testDone), [false]) := by decide +kernel
  obtain ⟨api, hapi, hrun⟩ := Option.bind_eq_some_iff.mp hrun
  obtain ⟨⟨next, replies⟩, hhandled, hrun⟩ := Option.map_eq_some_iff.mp hrun
  obtain ⟨hbefore, hrest⟩ := Prod.mk.inj hrun
  obtain ⟨hafter, hreplies⟩ := Prod.mk.inj hrest
  have hhandled := Fault.toOption_eq_some.mp hhandled
  refine ⟨api, next, replies, hapi, hhandled, hbefore, hafter, hreplies, fun h => ?_⟩
  have hsent (conn : Bool) : SentBy (fun _ : Bool => 7) conn (parameters 7 {}) := ⟨_, _, decode_parameters 7 {}, rfl⟩
  have hfirst : FromClients (fun _ : Bool => 7) (.message false (parameters 7 {}) {}) := hsent false
  have hkept := h _ api (List.forall_mem_singleton.mpr hfirst) hapi true _ {} next replies (hsent true) hhandled
  obtain ⟨reply, hreply, hanswered⟩ := List.mem_map.mp (hreplies ▸ List.mem_singleton_self false)
  exact absurd (hkept.replies reply hreply) (by rw [hanswered]; decide)

end IperfBatsApi

end BatsIperf
