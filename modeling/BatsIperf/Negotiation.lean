import BatsIperf.Api
import BatsIperf.FileTransfer.Handlers
import BatsIperf.Test.Handlers

/-!
# Agreement on the parameters

What the receiver of a test or of a file transfer knows once it has handled the request of the sender, and for which configurations the two ends agree.
-/

namespace BatsIperf

open Octets

/-- What both ends have to agree on: the configurations, and what they give to the connector and the listener of the data channel. -/
structure Agreed (sent received : TestConfig) (connector listener : BatsConfiguration) : Prop where
  numStreams : received.numStreams = sent.numStreams
  port : received.port = sent.port
  isReverseEnabled : received.isReverseEnabled = sent.isReverseEnabled
  reliable : isReliableProtocol received.protocol = isReliableProtocol sent.protocol
  transportMode : listener.transportMode = connector.transportMode
  frameType : listener.frameType = connector.frameType

/-! ### Protocols that fit in a byte where it matters -/

/-- The protocols with a branch of their own keep their value on the wire. -/
def ProtocolKept (protocol : Int) : Prop :=
  protocol % 256 = 10 ∨ protocol % 256 = 11 ∨ protocol % 256 = 12 → 0 ≤ protocol ∧ protocol < 256

theorem unsigned8_eq (protocol : Int) : (Narrowing.unsigned 8 protocol : Int) = protocol % 256 := by
  rw [Narrowing.unsigned]
  omega

theorem batsTransMode_unsigned (protocol : Int) :
    batsTransMode (Narrowing.unsigned 8 protocol) = batsTransMode protocol := by
  rw [batsTransMode, Narrowing.unsigned_of_lt (Narrowing.unsigned_lt 8 protocol), batsTransMode]

theorem isReliable_unsigned {protocol : Int} (hkept : ProtocolKept protocol) :
    isReliableProtocol (Narrowing.unsigned 8 protocol) = isReliableProtocol protocol := by
  have hten : ((Narrowing.unsigned 8 protocol : Int) == 10) = (protocol == 10) := by
    rw [Bool.eq_iff_iff, beq_iff_eq, beq_iff_eq, unsigned8_eq]
    unfold ProtocolKept at hkept
    omega
  rw [isReliableProtocol, batsTransMode_unsigned, hten, isReliableProtocol]

theorem frameType_unsigned {protocol : Int} (hkept : ProtocolKept protocol) :
    IperfTest.listenFrameType (Narrowing.unsigned 8 protocol) = IperfStream.connectFrameType protocol := by
  have hten : (Narrowing.unsigned 8 protocol : Int) = 10 ↔ protocol = 10 := by
    rw [unsigned8_eq]
    unfold ProtocolKept at hkept
    omega
  have hplain : (Narrowing.unsigned 8 protocol : Int) = 11 ∨ (Narrowing.unsigned 8 protocol : Int) = 12 ↔
      protocol = 11 ∨ protocol = 12 := by
    rw [unsigned8_eq]
    unfold ProtocolKept at hkept
    omega
  simp only [IperfTest.listenFrameType, IperfStream.connectFrameType, hten, hplain]

theorem protocolKept_of_frameType {protocol : Int}
    (h : IperfTest.listenFrameType (Narrowing.unsigned 8 protocol) = IperfStream.connectFrameType protocol) :
    ProtocolKept protocol := by
  intro hmode
  rw [IperfTest.listenFrameType, IperfStream.connectFrameType, unsigned8_eq] at h
  by_cases hten : protocol = 10
  · omega
  by_cases hplain : protocol = 11 ∨ protocol = 12
  · omega
  rw [if_neg hten, if_neg hplain] at h
  rcases hmode with hmode | hmode
  · rw [if_pos hmode] at h
    exact absurd h (by decide)
  · rw [if_neg (by omega), if_pos hmode] at h
    exact absurd h (by decide)

theorem port_kept {port : Int} : (Narrowing.unsigned 16 port : Int) = port ↔ 0 ≤ port ∧ port < 65536 :=
  Narrowing.unsigned_eq_iff

/-! ### A throughput test -/

namespace IperfTest

/-- The receiver after it has handled what the sender sends on the established control channel. -/
def exchangeParameters (client server : IperfTest) (clock : Nat → UInt64) (streamId : Nat) : Except Fault IperfTest := do
  let (_, sent) ← client.ctrlChannelEstablished
  sent.foldlM (fun server bytes => do
    let (server, _) ← server.handleControlMessage bytes clock streamId
    return server) server

theorem handleTestParameters_eq (test : IperfTest) (hid : test.testId ≠ 0) (hctrl : test.ctrlChn = true)
    (hrunning : test.state ≠ .testDone) (sent : TestConfig) (rest : Octets) :
    test.handleTestParameters (sent.serialize ++ rest) = .ok ({ test with
      state := stateAfterAck test.state
      testConfig := receiverConfig test.testConfig sent.received
      dataChnListener := some (listenConfiguration sent.received) }, [test.emptyMessage 4]) := by
  rw [handleTestParameters, if_neg hrunning, TestConfig.deserialize_default, Fault.need_some, Fault.ok_bind]
  have hack : ({ test with
      testConfig := receiverConfig test.testConfig sent.received
      dataChnListener := some (listenConfiguration sent.received) } : IperfTest).sendAck = _ :=
    sendAck_eq hid hctrl
  exact hack

theorem exchangeParameters_eq {client server : IperfTest} (hid : client.testId ≠ 0) (hsame : client.testId = server.testId)
    (hrunning : server.state ≠ .testDone) (clock : Nat → UInt64) (streamId : Nat) :
    exchangeParameters client server clock streamId = .ok { server with
      ctrlChn := true
      state := stateAfterAck server.state
      testConfig := receiverConfig server.testConfig client.testConfig.received
      dataChnListener := some (listenConfiguration client.testConfig.received) } := by
  have hsend : ({ client with ctrlChn := true } : IperfTest).sendTestParameters = _ := sendTestParameters_eq hid rfl
  have hserver : server.testId ≠ 0 := hsame ▸ hid
  have hhandle := handleTestParameters_eq { server with ctrlChn := true } hserver rfl hrunning client.testConfig
    (List.replicate 256 0)
  rw [exchangeParameters, ctrlChannelEstablished, hsend, Fault.ok_bind]
  dsimp only
  rw [List.foldlM_cons, handleControlMessage_encode hsame]
  change ((handleTestParameters _ _ >>= _) >>= _) = _
  rw [(IperfControlData.fields_encode _ _).body, hhandle]
  rfl

/-- The two ends agree where there is one stream and the narrowed fields keep their values. -/
theorem agreed_iff {sent config : TestConfig} :
    Agreed sent (receiverConfig config sent.received) (IperfStream.connectConfiguration sent)
        (listenConfiguration sent.received) ↔
      sent.numStreams = 1 ∧ (0 ≤ sent.port ∧ sent.port < 65536) ∧ ProtocolKept sent.protocol := by
  constructor
  · intro h
    exact ⟨h.numStreams.symm, port_kept.mp h.port, protocolKept_of_frameType h.frameType⟩
  · rintro ⟨hstreams, hport, hkept⟩
    exact
      { numStreams := hstreams.symm
        port := port_kept.mpr hport
        isReverseEnabled := rfl
        reliable := isReliable_unsigned hkept
        transportMode := batsTransMode_unsigned sent.protocol
        frameType := frameType_unsigned hkept }

end IperfTest

/-! ### A file transfer -/

namespace IperfFileTransfer

def exchangeParameters (client server : IperfFileTransfer) (available : Option Nat) : Except Fault IperfFileTransfer := do
  let (_, sent) ← client.ctrlChannelEstablished
  sent.foldlM (fun server bytes => do
    let (server, _) ← server.handleControlMessage bytes available
    return server) server

theorem exchangeParameters_eq {client server : IperfFileTransfer} (hid : client.testId ≠ 0)
    (hsame : client.testId = server.testId) (available : Option Nat) :
    exchangeParameters client server available = .ok
      (if lacksSpace available (announcedBytes client.testConfig) then { server with ctrlChn := true }
      else takeOver server client.testConfig client.requestHeader.param0) := by
  have hsend : ({ client with ctrlChn := true } : IperfFileTransfer).sendFileTransferRequest = _ :=
    sendFileTransferRequest_eq hid rfl
  rw [exchangeParameters, ctrlChannelEstablished, hsend, Fault.ok_bind]
  dsimp only
  rw [List.foldlM_cons]
  change ((server.handleControlMessage (client.requestHeader.encode ++ (client.testConfig.serialize ++ _)) available
    >>= _) >>= _) = _
  rw [handleControlMessage_request hid hsame]
  rfl

theorem agreed_iff {sent config : TestConfig} (hprotocol : sent.protocol = 1 ∨ sent.protocol = 2) (param0 : UInt32) :
    Agreed sent (receiverConfig config sent.received param0) (dataConfiguration sent.protocol)
        (dataConfiguration sent.received.protocol) ↔
      sent.numStreams = 1 ∧ 0 ≤ sent.port ∧ sent.port < 65536 := by
  have hkept : ProtocolKept sent.protocol := by
    unfold ProtocolKept
    omega
  constructor
  · intro h
    exact ⟨h.numStreams.symm, port_kept.mp h.port⟩
  · rintro ⟨hstreams, hport⟩
    exact
      { numStreams := hstreams.symm
        port := port_kept.mpr hport
        isReverseEnabled := rfl
        reliable := isReliable_unsigned hkept
        transportMode := batsTransMode_unsigned sent.protocol
        frameType := rfl }

end IperfFileTransfer

/-! ### When the two ends agree -/

/-- The receiver of a test takes the parameters over and listens, in agreement with the sender. -/
def TestAgrees (client server : IperfTest) (clock : Nat → UInt64) (streamId : Nat) : Prop :=
  ∃ received listener, IperfTest.exchangeParameters client server clock streamId = .ok received ∧
    received.dataChnListener = some listener ∧
    Agreed client.testConfig received.testConfig (IperfStream.connectConfiguration client.testConfig) listener

/-- The receiver of files takes the request over and listens, in agreement with the sender. -/
def TransferAgrees (client server : IperfFileTransfer) (available : Option Nat) : Prop :=
  ∃ received listener, IperfFileTransfer.exchangeParameters client server available = .ok received ∧
    received.dataChnListener = some listener ∧
    Agreed client.testConfig received.testConfig (IperfFileTransfer.dataConfiguration client.testConfig.protocol) listener

theorem testAgrees_iff (client server : IperfTest) (hid : client.testId ≠ 0) (hsame : client.testId = server.testId)
    (hrunning : server.state ≠ .testDone) (clock : Nat → UInt64) (streamId : Nat) :
    TestAgrees client server clock streamId ↔ client.testConfig.numStreams = 1 ∧
      (0 ≤ client.testConfig.port ∧ client.testConfig.port < 65536) ∧ ProtocolKept client.testConfig.protocol := by
  rw [TestAgrees, IperfTest.exchangeParameters_eq hid hsame hrunning, ← IperfTest.agreed_iff]
  constructor
  · rintro ⟨received, listener, hreceived, hlistener, hagreed⟩
    obtain rfl := Except.ok.inj hreceived
    obtain rfl := Option.some.inj hlistener
    exact hagreed
  · exact fun hagreed => ⟨_, _, rfl, rfl, hagreed⟩

theorem transferAgrees_iff (client server : IperfFileTransfer) (hid : client.testId ≠ 0)
    (hsame : client.testId = server.testId) (hfresh : server.dataChnListener = none)
    (hprotocol : client.testConfig.protocol = 1 ∨ client.testConfig.protocol = 2) (available : Option Nat) :
    TransferAgrees client server available ↔ client.testConfig.numStreams = 1 ∧
      (0 ≤ client.testConfig.port ∧ client.testConfig.port < 65536) ∧
      ¬ IperfFileTransfer.lacksSpace available (IperfFileTransfer.announcedBytes client.testConfig) := by
  rw [TransferAgrees, IperfFileTransfer.exchangeParameters_eq hid hsame]
  split
  · rename_i hlacks
    constructor
    · rintro ⟨received, listener, hreceived, hlistener, _⟩
      obtain rfl := Except.ok.inj hreceived
      exact absurd (hfresh.symm.trans hlistener) (by simp)
    · exact fun h => absurd hlacks h.2.2
  · rename_i hroom
    constructor
    · rintro ⟨received, listener, hreceived, hlistener, hagreed⟩
      obtain rfl := Except.ok.inj hreceived
      obtain rfl := Option.some.inj hlistener
      obtain ⟨hstreams, hport⟩ := (IperfFileTransfer.agreed_iff hprotocol _).mp hagreed
      exact ⟨hstreams, hport, hroom⟩
    · rintro ⟨hstreams, hport, _⟩
      exact ⟨_, _, rfl, rfl, (IperfFileTransfer.agreed_iff hprotocol _).mpr ⟨hstreams, hport⟩⟩

/-- Two ends of a test agree where there is one stream and port and protocol survive their narrowing; two ends of a file transfer where there is one stream, the port survives and the receiver has the space. -/
theorem parameters_agree_iff {fileExists : Path → Bool} {config : TestConfig}
    (hvalid : validateClientConfig fileExists config = true) {testId : UInt32} (hid : testId ≠ 0) :
    (∀ (client server : IperfTest) (clock : Nat → UInt64) (streamId : Nat), client.testConfig = config →
      client.testId = testId → server.testId = testId → server.state ≠ .testDone →
      (TestAgrees client server clock streamId ↔
        config.numStreams = 1 ∧ (0 ≤ config.port ∧ config.port < 65536) ∧ ProtocolKept config.protocol)) ∧
    (config.role = .roleFileSender → ∀ (disk : Disk) (serverConfig : TestConfig) (available : Option Nat),
      (TransferAgrees (.sender disk config testId) (.receiver serverConfig testId) available ↔
        config.numStreams = 1 ∧ (0 ≤ config.port ∧ config.port < 65536) ∧
          ¬ IperfFileTransfer.lacksSpace available
            (IperfFileTransfer.announcedBytes (IperfFileTransfer.sender disk config testId).testConfig))) := by
  constructor
  · rintro client server clock streamId rfl rfl hsame hrunning
    exact testAgrees_iff _ _ hid hsame.symm hrunning clock streamId
  · intro hrole disk serverConfig available
    have hprotocol : (IperfFileTransfer.sender disk config testId).testConfig.protocol = 1 ∨
        (IperfFileTransfer.sender disk config testId).testConfig.protocol = 2 := fileSender_protocol hrole hvalid
    exact transferAgrees_iff (.sender disk config testId) (.receiver serverConfig testId) hid rfl rfl hprotocol available

/-- Two files for one receiver, over `numStreams` streams. -/
def pairConfig (numStreams : Int) : TestConfig where
  numStreams := numStreams
  protocol := 1
  peerHost := "192.0.2.1"
  files := [ofText "a", ofText "b"]
  role := .roleFileSender

theorem parameters_agree_iff_pair :
    TestAgrees { testConfig := pairConfig 1, testId := 7 } { testConfig := {}, testId := 7 } (fun _ => 0) 0 ∧
      TransferAgrees (.sender (fun _ => some [1]) (pairConfig 1) 7) (.receiver {} 7) (some 3) := by
  have hvalid : validateClientConfig (fun _ => true) (pairConfig 1) = true := by decide
  have hagree := parameters_agree_iff hvalid (show (7 : UInt32) ≠ 0 by decide)
  have hfields : (pairConfig 1).numStreams = 1 ∧ (0 ≤ (pairConfig 1).port ∧ (pairConfig 1).port < 65536) := by decide
  refine ⟨(hagree.1 _ _ _ _ rfl rfl rfl (by decide)).mpr ⟨hfields.1, hfields.2, fun _ => by decide⟩, ?_⟩
  refine (hagree.2 rfl (fun _ => some [1]) {} (some 3)).mpr ⟨hfields.1, hfields.2, ?_⟩
  decide +kernel

/-- No message carries the number of streams to a field the receiver reads, and the receiver keeps the default. -/
theorem numStreams_lost_counterexample :
    validateClientConfig (fun _ => true) (pairConfig 2) = true ∧
      ¬ TestAgrees { testConfig := pairConfig 2, testId := 7 } { testConfig := {}, testId := 7 } (fun _ => 0) 0 ∧
      ¬ TransferAgrees (.sender (fun _ => some [1]) (pairConfig 2) 7) (.receiver {} 7) (some 3) := by
  have hstreams : ¬ (pairConfig 2).numStreams = 1 := by decide
  have htest := testAgrees_iff { testConfig := pairConfig 2, testId := 7 } { testConfig := {}, testId := 7 }
    (by decide) rfl (by decide) (fun _ => 0) 0
  have htransfer := transferAgrees_iff (.sender (fun _ => some [1]) (pairConfig 2) 7) (.receiver {} 7) (by decide) rfl rfl
    (.inl rfl) (some 3)
  exact ⟨by decide, fun h => hstreams (htest.mp h).1, fun h => hstreams (htransfer.mp h).1⟩

end BatsIperf
