import BatsIperf.Test.Acks

/-!
# The ready signal and the connections of the sender

The ready signal travels on the control channel and `ESTABLISHED` on each data channel, and nothing orders them. The receiver sends the signal when it has accepted as many streams as its own configuration says, which is one after the parameters are taken over, whatever the sender asked for.

The signal finds every stream connected where it is sent only after the sender has handled `ESTABLISHED` on all its streams, and no connection is lost before the threads it starts have made their check.
-/

namespace BatsIperf

namespace Session

def ReadyInFlight (s : Session) : Prop := ∃ reply ∈ s.toClient, IsReady reply

/-- Whether one more stream makes the receiver send the ready signal. -/
def announcesNext (server : IperfTest) : Prop :=
  server.testConfig.protocol ≠ 11 ∧ server.testConfig.numStreams = server.testStreams.length + 1

/-- The signal is sent when the sender's streams are connected, and no connection is lost before the signal has started its thread and the thread has checked it. -/
def ReadyInOrder (s : Session) : Action → Prop
  | .accept _ _ => announcesNext s.server → s.client.isStreamReady.1 = true
  | .clientEvent i event => event.isLoss = true → ¬ ReadyInFlight s ∧
      ∀ stream ∈ s.client.testStreams[i]?, stream.sendingThread ≠ .starting
  | _ => True

/-- A signal in flight finds all streams connected, and so does a thread it has started. -/
structure ConnectedWhenReady (s : Session) : Prop where
  inFlight : ReadyInFlight s → s.client.isStreamReady.1 = true
  started : s.client.testConfig.protocol ≠ 11 →
    ∀ stream ∈ s.client.testStreams, stream.sendingThread = .starting → stream.isConnected

/-! ### Steps of the streams -/

/-- A connected stream stays connected, and no thread is started. -/
structure Keeps (before after : IperfStream) : Prop where
  connected : before.isConnected → after.isConnected
  starting : after.sendingThread = .starting → before.sendingThread = .starting

theorem Keeps.refl (stream : IperfStream) : Keeps stream stream := ⟨id, id⟩

theorem Keeps.of_same {before after : IperfStream} (h : IperfStream.SameConnection before after) : Keeps before after :=
  ⟨fun hconn => h.isConnected ▸ hconn, fun hstart => h.sendingThread ▸ hstart⟩

theorem ConnectedWhenReady.of_keeps {s t : Session} (h : ConnectedWhenReady s)
    (hstreams : List.Forall₂ Keeps s.client.testStreams t.client.testStreams)
    (hconfig : t.client.testConfig = s.client.testConfig) (hready : ReadyInFlight t → ReadyInFlight s) :
    ConnectedWhenReady t where
  inFlight := by
    intro hflight
    obtain ⟨hconn, hcount⟩ := IperfTest.isStreamReady_iff.mp (h.inFlight (hready hflight))
    refine IperfTest.isStreamReady_iff.mpr ⟨fun stream hmem => ?_, by rw [hconfig, hcount, hstreams.length_eq]⟩
    obtain ⟨before, hbefore, hkeeps⟩ := Pointwise.exists_left hstreams hmem
    exact hkeeps.connected (hconn before hbefore)
  started := by
    intro hprotocol stream hmem hstart
    obtain ⟨before, hbefore, hkeeps⟩ := Pointwise.exists_left hstreams hmem
    exact hkeeps.connected (h.started (hconfig ▸ hprotocol) before hbefore (hkeeps.starting hstart))

theorem ConnectedWhenReady.of_unchanged {s t : Session} (h : ConnectedWhenReady s)
    (hstreams : t.client.testStreams = s.client.testStreams) (hconfig : t.client.testConfig = s.client.testConfig)
    (hready : ReadyInFlight t → ReadyInFlight s) : ConnectedWhenReady t := by
  refine h.of_keeps ?_ hconfig hready
  rw [hstreams]
  exact List.forall₂_same.mpr fun stream _ => .refl stream

theorem keeps_threadStep {stream checked : IperfStream} {now : UInt64} (h : threadStep now stream = .ok checked) :
    Keeps stream checked := by
  obtain ⟨_, _, h⟩ := Fault.bind_eq_ok.mp h
  obtain rfl := Fault.pure_eq_ok.mp h
  unfold IperfStream.sendingThreadStart
  split
  · exact ⟨id, fun (hstart : SendingThread.sending = .starting) => absurd hstart (by decide)⟩
  · rename_i hconn
    exact ⟨fun h => absurd h hconn, fun (hstart : SendingThread.ended = .starting) => absurd hstart (by decide)⟩

theorem connected_clientEvent {s t : Session} {i : Nat} {event : ConnEvent} (hsafe : ConnectedWhenReady s)
    (hallowed : ReadyInOrder s (.clientEvent i event)) (h : machine.step s (.clientEvent i event) = some t) :
    ConnectedWhenReady t := by
  obtain ⟨client, hclient, rfl⟩ := Option.map_eq_some_iff.mp h
  obtain ⟨stream, changed, hi, hchanged, rfl⟩ := onStream_inv hclient
  obtain ⟨hthread, hconn⟩ := IperfStream.connectionCallback_connected hchanged
  by_cases hloss : event.isLoss = true
  · obtain ⟨hnone, hquiet⟩ := hallowed hloss
    refine ⟨fun hflight => absurd hflight hnone, fun hprotocol after hmem hstart => ?_⟩
    rcases List.mem_or_eq_of_mem_set hmem with hold | rfl
    · exact hsafe.started hprotocol after hold hstart
    · exact absurd (hthread.symm.trans hstart) (hquiet stream hi)
  · exact hsafe.of_keeps (Pointwise.set .refl hi ⟨hconn hloss, fun hstart => hthread ▸ hstart⟩) rfl id

theorem connected_clientAck {s : Session} {reply : Reply} {rest : List Reply} {client : IperfTest}
    {clock : Nat → UInt64} {streamId : Nat} (hpaired : Paired s) (hsafe : ConnectedWhenReady s)
    (hqueue : s.toClient = reply :: rest) (h : { s.client with ctrlChn := true }.handleAckMessage clock streamId = .ok client) :
    ConnectedWhenReady { s with client := client, toClient := rest, toServer := s.toServer ++ [] } := by
  have hrest : ∀ other ∈ rest, other ∈ s.toClient := fun other hmem => hqueue ▸ List.mem_cons_of_mem _ hmem
  have hready : (∃ other ∈ rest, IsReady other) → ReadyInFlight s :=
    fun ⟨other, hmem, hother⟩ => ⟨other, hrest other hmem, hother⟩
  rcases IperfTest.handleAckMessage_cases h with ⟨hstate, opened, rfl, hopened⟩ | ⟨_, rfl⟩ | ⟨_, _, rfl⟩
  · -- the streams are opened now, so no signal can be on its way
    have hnone : s.client.testStreams = [] := by
      rcases hpaired.phase with hopening | hrunning
      · exact hopening.noStreams
      · exact absurd hrunning.started (by rw [show s.client.state = .testExchangeParameters from hstate]; decide)
    refine ⟨fun hflight => ?_, fun hprotocol stream hmem hstart => ?_⟩
    · obtain ⟨_, hcount⟩ := IperfTest.isStreamReady_iff.mp (hsafe.inFlight (hready hflight))
      rw [hnone] at hcount
      exact absurd hcount hpaired.numStreams
    · change stream ∈ s.client.testStreams ++ opened at hmem
      rw [hnone, List.nil_append] at hmem
      obtain ⟨_, _, hone⟩ := Pointwise.exists_left hopened hmem
      exact absurd ((IperfTest.openStream_sendingThread hprotocol hone).symm.trans hstart) (by decide)
  · exact hsafe.of_unchanged rfl rfl hready
  · exact hsafe.of_unchanged rfl rfl hready

theorem connected_clientReady {s : Session} {reply : Reply} {rest : List Reply} {client : IperfTest} {now : UInt64}
    (hsafe : ConnectedWhenReady s) (hqueue : s.toClient = reply :: rest) (hready : IsReady reply)
    (h : { s.client with ctrlChn := true }.handleReadyMessage now = .ok client) :
    ConnectedWhenReady { s with client := client, toClient := rest, toServer := s.toServer ++ [] } := by
  obtain ⟨hconn, hcount⟩ := IperfTest.isStreamReady_iff.mp (hsafe.inFlight ⟨reply, hqueue ▸ List.mem_cons_self, hready⟩)
  rcases IperfTest.handleReadyMessage_cases h with ⟨_, streams, rfl, hstarted⟩ | ⟨_, rfl⟩
  · -- every thread that is started now finds its stream connected
    have hall : ∀ stream ∈ streams, stream.isConnected := by
      intro stream hmem
      obtain ⟨before, hbefore, hstart⟩ := Pointwise.exists_left hstarted hmem
      have hsame := (IperfStream.startSend_eq hstart).1
      have hbeforeConn := hconn before hbefore
      rwa [IperfStream.isConnected, ← hsame] at hbeforeConn
    refine ⟨fun _ => IperfTest.isStreamReady_iff.mpr ⟨hall, ?_⟩, fun _ stream hmem _ => hall stream hmem⟩
    exact hcount.trans (congrArg Nat.cast hstarted.length_eq)
  · exact ⟨fun _ => IperfTest.isStreamReady_iff.mpr ⟨hconn, hcount⟩, hsafe.started⟩

theorem connected_step {s t : Session} {a : Action} (hpaired : Paired s) (hsafe : ConnectedWhenReady s)
    (hallowed : ReadyInOrder s a) (h : machine.step s a = some t) : ConnectedWhenReady t := by
  cases a with
  | ctrlEstablished =>
    obtain ⟨_, _, _, rfl⟩ := ctrlEstablished_inv h
    exact hsafe.of_unchanged rfl rfl id
  | serverReceive =>
    obtain ⟨bytes, rest, server, sent, hqueue, hhandle, rfl⟩ := serverReceive_inv h
    refine ⟨?_, hsafe.started⟩
    rintro ⟨reply, hmem, hready⟩
    rcases List.mem_append.mp hmem with hold | hnew
    · exact hsafe.inFlight ⟨reply, hold, hready⟩
    · have hack := (IperfTest.handleControlMessage_answers hhandle).isAck _ (mem_replies hnew).2
      exact absurd (hack.symm.trans hready.1) (by decide)
  | clientReceive =>
    obtain ⟨reply, rest, client, sent, hqueue, hctrl, hhandle, rfl⟩ := clientReceive_inv h
    rcases hpaired.replies reply (hqueue ▸ List.mem_cons_self) with hack | hready
    · obtain ⟨rfl, hhandled⟩ := IperfTest.handleControlMessage_ack hack hhandle
      exact connected_clientAck hpaired hsafe hqueue hhandled
    · obtain ⟨rfl, hhandled⟩ := IperfTest.handleControlMessage_ready hready.1 hhandle
      exact connected_clientReady hsafe hqueue hready hhandled
  | accept =>
    obtain ⟨server, sent, hlisten, rfl⟩ := accept_inv h
    obtain ⟨_, _, hannounces⟩ := IperfTest.dataListenCallback_inv hlisten
    refine ⟨?_, hsafe.started⟩
    rintro ⟨reply, hmem, hready⟩
    rcases List.mem_append.mp hmem with hold | hnew
    · exact hsafe.inFlight ⟨reply, hold, hready⟩
    · exact hallowed (hannounces (List.ne_nil_of_mem (mem_replies hnew).2))
  | clientEvent => exact connected_clientEvent hsafe hallowed h
  | clientThread =>
    obtain ⟨client, hclient, rfl⟩ := Option.map_eq_some_iff.mp h
    obtain ⟨stream, changed, hi, hchanged, rfl⟩ := onStream_inv hclient
    exact hsafe.of_keeps (Pointwise.set .refl hi (keeps_threadStep hchanged)) rfl id
  | clientActivity i activity =>
    obtain ⟨client, hclient, rfl⟩ := Option.map_eq_some_iff.mp h
    obtain ⟨stream, changed, hi, hchanged, rfl⟩ := onStream_inv hclient
    obtain rfl := Except.ok.inj hchanged
    exact hsafe.of_keeps (Pointwise.set .refl hi (.of_same (stream.act_same activity))) rfl id
  | serverEvent | serverActivity | serverTick =>
    obtain ⟨_, _, rfl⟩ := Option.map_eq_some_iff.mp h
    exact ⟨hsafe.inFlight, hsafe.started⟩
  | pollReady =>
    obtain ⟨_, flag, rfl⟩ := pollReady_inv h
    exact hsafe.of_unchanged rfl rfl id
  | clientTick =>
    obtain ⟨_, done, client, hticked, rfl⟩ := clientTick_inv h
    have hconfig : client.testConfig = s.client.testConfig := by rw [hticked.rest]
    exact hsafe.of_keeps (hticked.streams.imp fun _ _ => .of_same) hconfig id
  | finishReports now =>
    obtain ⟨_, rfl⟩ := finishReports_inv h
    exact hsafe.of_keeps (Pointwise.map_self (fun stream => .of_same (stream.finishReport_same now)) _) rfl id
  | sendSummary =>
    obtain ⟨_, ⟨bytes, _, rfl⟩ | ⟨_, rfl⟩⟩ := sendSummary_inv h
    · exact ⟨hsafe.inFlight, hsafe.started⟩
    · exact ⟨hsafe.inFlight, hsafe.started⟩
  | storeState =>
    obtain ⟨_, rfl⟩ := storeState_inv h
    exact hsafe.of_unchanged rfl rfl id

theorem connected_run {config serverConfig : TestConfig} {testId : UInt32} (hstreams : config.numStreams ≠ 0)
    {acts : List Action} {s : Session} (hallowed : machine.Respects ReadyInOrder (start config serverConfig testId) acts)
    (hrun : machine.run (start config serverConfig testId) acts = some s) : Paired s ∧ ConnectedWhenReady s := by
  have hstep (s : Session) (a : Action) (t : Session) (h : Paired s ∧ ConnectedWhenReady s) (hallowed : ReadyInOrder s a)
      (hstep : machine.step s a = some t) : Paired t ∧ ConnectedWhenReady t :=
    ⟨paired_step h.1 hstep, connected_step h.1 h.2 hallowed hstep⟩
  refine Machine.run_invariant hstep ⟨paired_start hstreams serverConfig testId, ?_, ?_⟩ hallowed hrun
  · rintro ⟨reply, hmem, _⟩
    exact absurd hmem (by simp [start])
  · exact fun _ stream hmem => absurd hmem (by simp [start])

/-- In a run in this order, a ready signal that is handled next finds every stream of the sender connected, and no thread that a signal has started finds its stream unconnected. -/
theorem ready_finds_connected {config serverConfig : TestConfig} {testId : UInt32} (hstreams : 1 ≤ config.numStreams)
    {acts : List Action} {s : Session} (hallowed : machine.Respects ReadyInOrder (start config serverConfig testId) acts)
    (hrun : machine.run (start config serverConfig testId) acts = some s) :
    (∀ reply rest, s.toClient = reply :: rest → actionCode reply.bytes = 5 →
      ∀ stream ∈ s.client.testStreams, stream.connState = .connConnected) ∧
    (s.client.testConfig.protocol ≠ 11 → ∀ stream ∈ s.client.testStreams, stream.sendingThread = .starting →
      stream.connState = .connConnected) := by
  obtain ⟨hpaired, hsafe⟩ := connected_run (by omega) hallowed hrun
  have hconn (stream : IperfStream) (h : stream.isConnected = true) : stream.connState = .connConnected := by
    simpa [IperfStream.isConnected] using h
  constructor
  · intro reply rest hqueue hcode stream hmem
    have hreply : reply ∈ s.toClient := hqueue ▸ List.mem_cons_self
    have hready : IsReady reply := (hpaired.replies reply hreply).resolve_left fun hack =>
      absurd (hack.symm.trans hcode) (by decide)
    exact hconn stream ((IperfTest.isStreamReady_iff.mp (hsafe.inFlight ⟨reply, hreply, hready⟩)).1 stream hmem)
  · exact fun hprotocol stream hmem hstart => hconn stream (hsafe.started hprotocol stream hmem hstart)

/-- Both ends with one stream, up to the acceptance of its connection. -/
def untilAccepted : List Action :=
  [.ctrlEstablished, .serverReceive (fun _ => 0) 1, .clientReceive (fun _ => 0) 1, .accept 1 1000]

instance (reply : Reply) : Decidable (IsReady reply) := inferInstanceAs (Decidable (_ ∧ _))

instance (s : Session) : Decidable (ReadyInFlight s) := inferInstanceAs (Decidable (∃ reply ∈ s.toClient, IsReady reply))

instance (server : IperfTest) : Decidable (announcesNext server) := inferInstanceAs (Decidable (_ ∧ _))

instance (s : Session) (a : Action) : Decidable (ReadyInOrder s a) := by
  cases a <;> unfold ReadyInOrder <;> infer_instance

theorem ready_finds_connected_brief :
    ∃ s, machine.run (start briefConfig {} 7) (untilAccepted.dropLast ++ [.clientEvent 0 (.established 1000), .accept 1 1000])
        = some s ∧
      (∀ reply rest, s.toClient = reply :: rest → actionCode reply.bytes = 5 →
        ∀ stream ∈ s.client.testStreams, stream.connState = .connConnected) ∧
      (s.client.testConfig.protocol ≠ 11 → ∀ stream ∈ s.client.testStreams, stream.sendingThread = .starting →
        stream.connState = .connConnected) := by
  have hsome : (machine.run (start briefConfig {} 7)
      (untilAccepted.dropLast ++ [.clientEvent 0 (.established 1000), .accept 1 1000])).isSome := by decide +kernel
  obtain ⟨s, hrun⟩ := Option.isSome_iff_exists.mp hsome
  exact ⟨s, hrun, ready_finds_connected (by decide) (by decide +kernel) hrun⟩

/-- The only stream is accepted and announced before the sender has handled `ESTABLISHED`. The signal starts its thread, the thread stops the stream, and the connector that would have connected it is gone. -/
theorem ready_before_established_counterexample :
    ∃ s t u, machine.run (start briefConfig {} 7) untilAccepted = some s ∧
      s.toClient.map (fun reply => actionCode reply.bytes) = [5] ∧
      s.client.testStreams.map IperfStream.connState = [.connConnecting] ∧
      machine.step s (.clientReceive (fun _ => 0) 1) = some t ∧ machine.step t (.clientThread 0 0) = some u ∧
      u.client.testStreams.map (fun stream => (stream.isStopped, stream.connState)) = [(true, .connDisconnected)] := by
  have hrun : (machine.run (start briefConfig {} 7) untilAccepted).bind (fun s =>
      (machine.step s (.clientReceive (fun _ => 0) 1)).bind fun t => (machine.step t (.clientThread 0 0)).map fun u =>
        (s.toClient.map (fun reply => actionCode reply.bytes), s.client.testStreams.map IperfStream.connState,
          u.client.testStreams.map fun stream => (stream.isStopped, stream.connState)))
      = some ([5], [.connConnecting], [(true, .connDisconnected)]) := by decide +kernel
  obtain ⟨s, hs, hrun⟩ := Option.bind_eq_some_iff.mp hrun
  obtain ⟨t, ht, hrun⟩ := Option.bind_eq_some_iff.mp hrun
  obtain ⟨u, hu, hrun⟩ := Option.map_eq_some_iff.mp hrun
  simp only [Prod.mk.injEq] at hrun
  exact ⟨s, t, u, hs, hrun.1, hrun.2.1, ht, hu, hrun.2.2⟩

end Session

end BatsIperf
