import BatsIperf.Test.Acks

/-!
# The write of the state behind the summary

`SendTestSummary` sends the message first and writes the state that expects its ack afterwards. The ack is understood where the write comes first, and dropped where the ack is handled between the two steps; the sender then waits for it until its timeout.
-/

namespace BatsIperf

namespace Session

/-- No control message is handled between the two steps of `SendTestSummary`. -/
def StoresFirst (s : Session) : Action → Prop
  | .clientReceive _ _ => s.main ≠ .summarySent
  | _ => True

instance (s : Session) : (a : Action) → Decidable (StoresFirst s a)
  | .clientReceive _ _ => inferInstanceAs (Decidable (s.main ≠ .summarySent))
  | .ctrlEstablished | .serverReceive .. | .clientEvent .. | .clientThread .. | .clientActivity .. | .accept ..
  | .serverEvent .. | .serverActivity .. | .serverTick _ | .pollReady | .clientTick _ | .finishReports _ | .sendSummary
  | .storeState => isTrue trivial

/-- Once the state is stored, a summary or an ack in flight finds it. -/
def Stored (s : Session) : Prop :=
  s.main = .waitDone → s.toServer.length + ackCount s.toClient = 0 ∨ s.client.state = .testExchangeReports

theorem Local.stored {s t : Session} (h : Local s t) (hstored : Stored s) : Stored t := by
  rw [Stored, h.main, h.toServer, h.toClient, h.state]
  exact hstored

theorem stored_serverReceive {s t : Session} {clock : Nat → UInt64} {streamId : Nat} (hstored : Stored s)
    (h : s.serverReceive clock streamId = some t) : Stored t := by
  obtain ⟨bytes, rest, server, sent, hqueue, _, rfl⟩ := serverReceive_inv h
  intro hmain
  refine .inr ((hstored hmain).resolve_left ?_)
  rw [hqueue, List.length_cons]
  omega

theorem stored_clientReceive {s t : Session} {clock : Nat → UInt64} {streamId : Nat} (hpaired : Paired s)
    (hstored : Stored s) (h : s.clientReceive clock streamId = some t) : Stored t := by
  obtain ⟨reply, rest, client, sent, hqueue, hctrl, hhandle, rfl⟩ := clientReceive_inv h
  intro hmain
  have hsingle := hpaired.single
  rw [hqueue, ackCount_cons] at hsingle
  rcases hpaired.replies reply (hqueue ▸ List.mem_cons_self) with hack | hready
  · obtain ⟨rfl, _⟩ := IperfTest.handleControlMessage_ack hack hhandle
    rw [if_pos hack] at hsingle
    left
    change (s.toServer ++ []).length + ackCount rest = 0
    rw [List.append_nil]
    omega
  · obtain ⟨rfl, hhandled⟩ := IperfTest.handleControlMessage_ready hready.1 hhandle
    have hstate : client.state = s.client.state := by
      rcases IperfTest.handleReadyMessage_cases hhandled with ⟨_, _, rfl, _⟩ | ⟨_, rfl⟩ <;> rfl
    have hbefore := hstored hmain
    rw [hqueue, ackCount_cons, if_neg hready.not_isAck] at hbefore
    change (s.toServer ++ []).length + ackCount rest = 0 ∨ client.state = _
    rwa [List.append_nil, hstate]

theorem stored_step {s t : Session} {a : Action} (hpaired : Paired s) (hstored : Stored s)
    (h : machine.step s a = some t) : Stored t := by
  cases a with
  | ctrlEstablished =>
    obtain ⟨hctrl, bytes, _, rfl⟩ := ctrlEstablished_inv h
    intro hmain
    rcases hpaired.phase with hopening | hrunning
    · exact absurd (hopening.main.symm.trans hmain) (by decide)
    · exact absurd (hrunning.ctrlChn.symm.trans hctrl) (by decide)
  | serverReceive => exact stored_serverReceive hstored h
  | clientReceive => exact stored_clientReceive hpaired hstored h
  | accept =>
    obtain ⟨server, sent, hlisten, rfl⟩ := accept_inv h
    obtain ⟨_, hready, _⟩ := IperfTest.dataListenCallback_inv hlisten
    intro hmain
    have hbefore := hstored hmain
    rwa [← ackCount_ready hready] at hbefore
  | pollReady =>
    obtain ⟨_, flag, rfl⟩ := pollReady_inv h
    intro hmain
    dsimp only at hmain
    split at hmain <;> exact absurd hmain (by decide)
  | clientTick =>
    obtain ⟨_, done, client, _, rfl⟩ := clientTick_inv h
    intro hmain
    dsimp only at hmain
    split at hmain <;> exact absurd hmain (by decide)
  | finishReports =>
    obtain ⟨_, rfl⟩ := finishReports_inv h
    exact fun (hmain : MainLoop.reported = .waitDone) => absurd hmain (by decide)
  | sendSummary =>
    obtain ⟨hmain, ⟨bytes, _, rfl⟩ | ⟨hctrl, _⟩⟩ := sendSummary_inv h
    · exact fun (hmain : MainLoop.summarySent = .waitDone) => absurd hmain (by decide)
    · have hrunning := hpaired.running (by rw [hmain]; decide)
      exact absurd (hrunning.ctrlChn.symm.trans hctrl) (by decide)
  | storeState =>
    obtain ⟨_, rfl⟩ := storeState_inv h
    exact fun _ => .inr rfl
  | clientEvent | clientThread | clientActivity | serverEvent | serverActivity | serverTick =>
    exact (step_local h rfl).stored hstored

theorem stored_run {config serverConfig : TestConfig} {testId : UInt32} (hstreams : config.numStreams ≠ 0)
    {acts : List Action} {s : Session} (hrun : machine.run (start config serverConfig testId) acts = some s) :
    Paired s ∧ Stored s := by
  have hstep (s : Session) (a : Action) (t : Session) (h : Paired s ∧ Stored s) (hstep : machine.step s a = some t) :
      Paired t ∧ Stored t := ⟨paired_step h.1 hstep, stored_step h.1 h.2 hstep⟩
  refine Machine.run_preserves hstep ?_ hrun
  exact ⟨paired_start hstreams serverConfig testId, fun (hmain : MainLoop.waitReady = .waitDone) => absurd hmain (by decide)⟩

/-- In a run where no control message is handled between the two steps, the ack of the summary finds the state that expects it and ends the test. -/
theorem summary_ack_understood {config serverConfig : TestConfig} {testId : UInt32} (hstreams : config.numStreams ≠ 0)
    {acts : List Action} {s t : Session} {clock : Nat → UInt64} {streamId : Nat}
    (hallowed : machine.Respects StoresFirst (start config serverConfig testId)
      (acts ++ [.clientReceive clock streamId]))
    (hrun : machine.run (start config serverConfig testId) acts = some s)
    (hstep : machine.step s (.clientReceive clock streamId) = some t) {reply : Reply} {rest : List Reply}
    (hqueue : s.toClient = reply :: rest) (hanswers : reply.answers = 3) :
    s.client.state = .testExchangeReports ∧ t.client.state = .testDone := by
  obtain ⟨hpaired, hstored⟩ := stored_run hstreams hrun
  have hmem : reply ∈ s.toClient := hqueue ▸ List.mem_cons_self
  have hack : IsAck reply := by
    rcases hpaired.replies reply hmem with hack | hready
    · exact hack
    · exact absurd (hanswers.symm.trans hready.2) (by decide)
  have hrunning : Running s := hpaired.phase.resolve_left fun hopening =>
    absurd (hanswers.symm.trans (hopening.answers reply hmem hack)) (by decide)
  have hmain : s.main = .waitDone := by
    have hfirst : s.main ≠ .summarySent := ((Machine.respects_append hallowed).2 s hrun).1
    obtain ⟨_, bytes, _, hsummary⟩ := hrunning.answers reply hmem hack
    by_contra hdone
    have hunsent : MainLoop.hasSent s.main = false := by simp [MainLoop.hasSent, hfirst, hdone]
    exact absurd (hsummary.symm.trans (hrunning.unsent hunsent)) (by simp)
  have hreports : s.client.state = .testExchangeReports := by
    refine (hstored hmain).resolve_left ?_
    rw [hqueue, ackCount_cons, if_pos hack]
    omega
  refine ⟨hreports, ?_⟩
  obtain ⟨reply', rest', client, sent, hqueue', _, hhandle, rfl⟩ := clientReceive_inv hstep
  obtain ⟨rfl, _⟩ := List.cons.inj (hqueue.symm.trans hqueue')
  obtain ⟨_, hhandled⟩ := IperfTest.handleControlMessage_ack hack hhandle
  rcases IperfTest.handleAckMessage_cases hhandled with ⟨hstate, _⟩ | ⟨_, rfl⟩ | ⟨_, hother, _⟩
  · exact absurd (hreports.symm.trans hstate) (by decide)
  · rfl
  · exact absurd hreports hother

theorem summary_ack_understood_brief :
    ∃ s t reply rest, machine.run (start briefConfig {} 7)
        (untilSummarySent ++ [.storeState, .serverReceive (fun _ => 0) 1]) = some s ∧
      machine.step s (.clientReceive (fun _ => 0) 1) = some t ∧ s.toClient = reply :: rest ∧ reply.answers = 3 ∧
      s.client.state = .testExchangeReports ∧ t.client.state = .testDone := by
  have hanswers : (machine.run (start briefConfig {} 7) (untilSummarySent ++ [.storeState, .serverReceive (fun _ => 0) 1])).map
      (fun s => s.toClient.map Reply.answers) = some [3] := by decide +kernel
  obtain ⟨s, t, hrun, hstep, _⟩ := receivedAfter_inv (show receivedAfter
    (untilSummarySent ++ [.storeState, .serverReceive (fun _ => 0) 1]) = some (.testExchangeReports, .testDone) by
      decide +kernel)
  rw [hrun, Option.map_some, Option.some_inj] at hanswers
  obtain ⟨reply, rest, hqueue, hreply, _⟩ := List.map_eq_cons_iff.mp hanswers
  exact ⟨s, t, reply, rest, hrun, hstep, hqueue, hreply,
    summary_ack_understood (by decide) (by decide +kernel) hrun hstep hqueue hreply⟩

/-- The ack overtakes the write: it is ignored in the state before, and the sender is left waiting for an ack that is not on its way any more. -/
theorem summary_ack_dropped_counterexample :
    ∃ s t u, machine.run (start briefConfig {} 7) (untilSummarySent ++ [.serverReceive (fun _ => 0) 1]) = some s ∧
      machine.step s (.clientReceive (fun _ => 0) 1) = some t ∧ machine.step t .storeState = some u ∧
      s.toClient.map Reply.answers = [3] ∧ s.client.state = .testStart ∧ t.client.state = .testStart ∧
      u.client.state = .testExchangeReports ∧ u.toClient = [] ∧ u.toServer = [] := by
  have hrun : (machine.run (start briefConfig {} 7) (untilSummarySent ++ [.serverReceive (fun _ => 0) 1])).bind (fun s =>
      (machine.step s (.clientReceive (fun _ => 0) 1)).bind fun t => (machine.step t .storeState).map fun u =>
        ((s.toClient.map Reply.answers, s.client.state), (t.client.state, u.client.state),
          u.toClient.isEmpty && u.toServer.isEmpty))
      = some (([3], .testStart), (.testStart, .testExchangeReports), true) := by decide +kernel
  obtain ⟨s, hs, hrun⟩ := Option.bind_eq_some_iff.mp hrun
  obtain ⟨t, ht, hrun⟩ := Option.bind_eq_some_iff.mp hrun
  obtain ⟨u, hu, hrun⟩ := Option.map_eq_some_iff.mp hrun
  simp only [Prod.mk.injEq, Bool.and_eq_true, List.isEmpty_iff] at hrun
  obtain ⟨⟨hanswers, hbefore⟩, ⟨hignored, hstored⟩, hclient, hserver⟩ := hrun
  exact ⟨s, t, u, hs, ht, hu, hanswers, hbefore, hignored, hstored, hclient, hserver⟩

end Session

end BatsIperf
