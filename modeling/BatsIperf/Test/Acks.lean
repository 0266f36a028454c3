import BatsIperf.Test.Session

/-!
# Which ack answers what

The ack of the parameters and the ack of the summary are the same message, and the sender tells them apart by its state. Until the first ack is handled the sender has no streams, so the main thread stays before its interval loop and no summary can be on its way; afterwards every ack in flight answers the summary, and the receiver sent it after it had processed the reports.
-/

namespace BatsIperf

namespace Session

def IsAck (reply : Reply) : Prop := actionCode reply.bytes = 4

instance (reply : Reply) : Decidable (IsAck reply) := inferInstanceAs (Decidable (_ = _))

def IsReady (reply : Reply) : Prop := actionCode reply.bytes = 5 ∧ reply.answers = 0

theorem IsReady.not_isAck {reply : Reply} (h : IsReady reply) : ¬ IsAck reply := by
  rw [IsAck, h.1]
  decide

def ackCount (queue : List Reply) : Nat := queue.countP fun reply => decide (IsAck reply)

structure Opening (s : Session) : Prop where
  main : s.main = .waitReady
  noStreams : s.client.testStreams = []
  noSummary : s.summary = none
  requests : ∀ bytes ∈ s.toServer, actionCode bytes = 2
  answers : ∀ reply ∈ s.toClient, IsAck reply → reply.answers = 2
  unconnected : s.client.ctrlChn = false → s.toServer = [] ∧ ackCount s.toClient = 0
  state : s.client.ctrlChn = true → s.client.state = .testExchangeParameters

def Started (state : TestState) : Prop := state = .testStart ∨ state = .testExchangeReports ∨ state = .testDone

instance (state : TestState) : Decidable (Started state) := inferInstanceAs (Decidable (_ ∨ _))

def MainLoop.hasSent (main : MainLoop) : Bool := main == .summarySent || main == .waitDone

structure Running (s : Session) : Prop where
  ctrlChn : s.client.ctrlChn = true
  started : Started s.client.state
  unsent : MainLoop.hasSent s.main = false → s.summary = none
  requests : ∀ bytes ∈ s.toServer, actionCode bytes = 3 ∧ s.summary = some bytes
  answers : ∀ reply ∈ s.toClient, IsAck reply → reply.answers = 3 ∧ ∃ bytes ∈ s.processed, s.summary = some bytes

/-- The messages to the sender are acks and ready signals, at most one request or ack is in flight, and the first ack is still to come or was handled. -/
structure Paired (s : Session) : Prop where
  replies : ∀ reply ∈ s.toClient, IsAck reply ∨ IsReady reply
  numStreams : s.client.testConfig.numStreams ≠ 0
  single : s.toServer.length + ackCount s.toClient ≤ 1
  phase : Opening s ∨ Running s

theorem paired_start {config : TestConfig} (hstreams : config.numStreams ≠ 0) (serverConfig : TestConfig)
    (testId : UInt32) : Paired (start config serverConfig testId) := by
  refine ⟨by simp [start], hstreams, by simp [start, ackCount], .inl ?_⟩
  constructor
  case main => rfl
  case noStreams => rfl
  case noSummary => rfl
  case unconnected => exact fun _ => ⟨rfl, rfl⟩
  case state => exact fun h => absurd h Bool.false_ne_true
  all_goals simp [start]

/-! ### Steps that leave the queues alone -/

theorem Local.opening {s t : Session} (h : Local s t) (hopening : Opening s) : Opening t where
  main := h.main.trans hopening.main
  noStreams := List.length_eq_zero_iff.mp (h.streams.trans (List.length_eq_zero_iff.mpr hopening.noStreams))
  noSummary := h.summary.trans hopening.noSummary
  requests := h.toServer ▸ hopening.requests
  answers := h.toClient ▸ hopening.answers
  unconnected := by
    rw [h.toServer, h.toClient, h.ctrlChn]
    exact hopening.unconnected
  state := by
    rw [h.ctrlChn, h.state]
    exact hopening.state

theorem Running.of_same {s t : Session} (hrunning : Running s) (hserver : t.toServer = s.toServer)
    (hclient : t.toClient = s.toClient) (hsummary : t.summary = s.summary) (hprocessed : t.processed = s.processed)
    (hctrl : t.client.ctrlChn = s.client.ctrlChn) (hstate : Started t.client.state)
    (hsent : MainLoop.hasSent t.main = false → MainLoop.hasSent s.main = false) : Running t where
  ctrlChn := hctrl.trans hrunning.ctrlChn
  started := hstate
  unsent := fun h => hsummary.trans (hrunning.unsent (hsent h))
  requests := by
    rw [hserver, hsummary]
    exact hrunning.requests
  answers := by
    rw [hclient, hsummary, hprocessed]
    exact hrunning.answers

theorem Local.paired {s t : Session} (h : Local s t) (hpaired : Paired s) : Paired t where
  replies := h.toClient ▸ hpaired.replies
  numStreams := h.testConfig ▸ hpaired.numStreams
  single := by
    rw [h.toServer, h.toClient]
    exact hpaired.single
  phase := by
    rcases hpaired.phase with hopening | hrunning
    · exact .inl (h.opening hopening)
    · exact .inr (hrunning.of_same h.toServer h.toClient h.summary h.processed h.ctrlChn (h.state ▸ hrunning.started)
        (h.main ▸ id))

/-! ### Steps on the control channel -/

theorem paired_ctrlEstablished {s t : Session} (hpaired : Paired s) (h : s.ctrlEstablished = some t) : Paired t := by
  obtain ⟨hctrl, bytes, hcode, rfl⟩ := ctrlEstablished_inv h
  rcases hpaired.phase with hopening | hrunning
  · obtain ⟨hempty, hnone⟩ := hopening.unconnected hctrl
    refine ⟨hpaired.replies, hpaired.numStreams, ?_, .inl ?_⟩
    · change (s.toServer ++ [bytes]).length + ackCount s.toClient ≤ 1
      rw [hnone, hempty]
      exact Nat.le_refl 1
    · refine ⟨hopening.main, hopening.noStreams, hopening.noSummary, ?_, hopening.answers,
        fun h => absurd h.symm Bool.false_ne_true, fun _ => rfl⟩
      rw [hempty]
      simpa using hcode
  · rw [hrunning.ctrlChn] at hctrl
    exact absurd hctrl (by decide)

theorem mem_replies {code : UInt8} {sent : List Octets} {reply : Reply} (h : reply ∈ replies code sent) :
    reply.answers = code ∧ reply.bytes ∈ sent := by
  obtain ⟨message, hmessage, rfl⟩ := List.mem_map.mp h
  exact ⟨rfl, hmessage⟩

theorem ackCount_append (first rest : List Reply) : ackCount (first ++ rest) = ackCount first + ackCount rest :=
  List.countP_append

theorem ackCount_cons (reply : Reply) (rest : List Reply) :
    ackCount (reply :: rest) = ackCount rest + if IsAck reply then 1 else 0 := by
  simp only [ackCount, List.countP_cons, decide_eq_true_eq]

theorem ackCount_le (queue : List Reply) : ackCount queue ≤ queue.length := List.countP_le_length

theorem paired_serverReceive {s t : Session} {clock : Nat → UInt64} {streamId : Nat} (hpaired : Paired s)
    (h : s.serverReceive clock streamId = some t) : Paired t := by
  obtain ⟨bytes, rest, server, sent, hqueue, hhandle, rfl⟩ := serverReceive_inv h
  have hmem : bytes ∈ s.toServer := by rw [hqueue]; exact List.mem_cons_self
  have hrest : ∀ message ∈ rest, message ∈ s.toServer := fun message hmessage => by
    rw [hqueue]
    exact List.mem_cons_of_mem _ hmessage
  have hanswers := IperfTest.handleControlMessage_answers hhandle
  have hsingle := hpaired.single
  rw [hqueue, List.length_cons] at hsingle
  refine ⟨?_, hpaired.numStreams, ?_, ?_⟩
  · intro reply hmem
    rcases List.mem_append.mp hmem with hold | hnew
    · exact hpaired.replies reply hold
    · exact .inl (hanswers.isAck _ (mem_replies hnew).2)
  · change rest.length + ackCount (s.toClient ++ replies (actionCode bytes) sent) ≤ 1
    have hlength : (replies (actionCode bytes) sent).length ≤ 1 := by
      rw [replies, List.length_map]
      exact hanswers.atMostOne
    have hcount := ackCount_le (replies (actionCode bytes) sent)
    rw [ackCount_append]
    omega
  · rcases hpaired.phase with hopening | hrunning
    · have htwo := hopening.requests bytes hmem
      refine .inl ⟨hopening.main, hopening.noStreams, hopening.noSummary, ?_, ?_, ?_, hopening.state⟩
      · exact fun message hmessage => hopening.requests message (hrest message hmessage)
      · intro reply hmem hack
        rcases List.mem_append.mp hmem with hold | hnew
        · exact hopening.answers reply hold hack
        · exact (mem_replies hnew).1.trans htwo
      · intro hctrl
        rw [(hopening.unconnected hctrl).1] at hqueue
        exact absurd hqueue (by simp)
    · obtain ⟨hthree, hsummary⟩ := hrunning.requests bytes hmem
      refine .inr ⟨hrunning.ctrlChn, hrunning.started, hrunning.unsent, ?_, ?_⟩
      · exact fun message hmessage => hrunning.requests message (hrest message hmessage)
      · intro reply hmem hack
        rcases List.mem_append.mp hmem with hold | hnew
        · obtain ⟨hanswers, processed, hprocessed, hsame⟩ := hrunning.answers reply hold hack
          refine ⟨hanswers, processed, ?_, hsame⟩
          dsimp only
          split
          · exact List.mem_append_left _ hprocessed
          · exact hprocessed
        · -- an answer was sent, so the receiver was not done and has processed the message
          obtain ⟨hanswer, hsent⟩ := mem_replies hnew
          refine ⟨hanswer.trans hthree, bytes, ?_, hsummary⟩
          dsimp only
          rw [if_pos ⟨hthree, hanswers.running (List.ne_nil_of_mem hsent)⟩]
          exact List.mem_append_right _ List.mem_cons_self

theorem isReady_replies {sent : List Octets} (hready : ∀ message ∈ sent, actionCode message = 5) {reply : Reply}
    (h : reply ∈ replies 0 sent) : IsReady reply :=
  ⟨hready _ (mem_replies h).2, (mem_replies h).1⟩

theorem ackCount_ready {sent : List Octets} {queue : List Reply} (hready : ∀ message ∈ sent, actionCode message = 5) :
    ackCount (queue ++ replies 0 sent) = ackCount queue := by
  have hzero : ackCount (replies 0 sent) = 0 :=
    List.countP_eq_zero.mpr fun reply hreply => by simpa using (isReady_replies hready hreply).not_isAck
  rw [ackCount_append, hzero, Nat.add_zero]

theorem paired_accept {s t : Session} {streamId : Nat} {idealBufferLength : Int} (hpaired : Paired s)
    (h : s.accept streamId idealBufferLength = some t) : Paired t := by
  obtain ⟨server, sent, hlisten, rfl⟩ := accept_inv h
  obtain ⟨_, hready, _⟩ := IperfTest.dataListenCallback_inv hlisten
  have hcount : ackCount (s.toClient ++ replies 0 sent) = ackCount s.toClient := ackCount_ready hready
  have hold {P : Reply → Prop} (h : ∀ reply ∈ s.toClient, IsAck reply → P reply) :
      ∀ reply ∈ s.toClient ++ replies 0 sent, IsAck reply → P reply := by
    intro reply hmem hack
    rcases List.mem_append.mp hmem with hin | hnew
    · exact h reply hin hack
    · exact absurd hack (isReady_replies hready hnew).not_isAck
  refine ⟨?_, hpaired.numStreams, ?_, ?_⟩
  · intro reply hmem
    rcases List.mem_append.mp hmem with hin | hnew
    · exact hpaired.replies reply hin
    · exact .inr (isReady_replies hready hnew)
  · exact hcount ▸ hpaired.single
  · rcases hpaired.phase with hopening | hrunning
    · exact .inl ⟨hopening.main, hopening.noStreams, hopening.noSummary, hopening.requests, hold hopening.answers,
        hcount ▸ hopening.unconnected, hopening.state⟩
    · exact .inr ⟨hrunning.ctrlChn, hrunning.started, hrunning.unsent, hrunning.requests, hold hrunning.answers⟩

theorem paired_clientAck {s : Session} {reply : Reply} {rest : List Reply} {client : IperfTest}
    {clock : Nat → UInt64} {streamId : Nat} (hpaired : Paired s) (hqueue : s.toClient = reply :: rest)
    (hctrl : s.client.ctrlChn = true) (hack : IsAck reply)
    (h : { s.client with ctrlChn := true }.handleAckMessage clock streamId = .ok client) :
    Paired { s with client := client, toClient := rest, toServer := s.toServer ++ [] } := by
  have hcount : ackCount s.toClient = ackCount rest + 1 := by
    rw [hqueue, ackCount_cons, if_pos hack]
  have hsingle := hpaired.single
  have hreplies : ∀ reply ∈ rest, IsAck reply ∨ IsReady reply := by
    intro other hmem
    exact hpaired.replies other (hqueue ▸ List.mem_cons_of_mem _ hmem)
  have hsingle' : (s.toServer ++ []).length + ackCount rest ≤ 1 := by
    rw [List.append_nil]
    omega
  rcases IperfTest.handleAckMessage_cases h with ⟨hstate, opened, rfl, _⟩ | ⟨hstate, rfl⟩ | ⟨hparams, hreports, rfl⟩
  · refine ⟨hreplies, hpaired.numStreams, hsingle', .inr ?_⟩
    rcases hpaired.phase with hopening | hrunning
    · have hempty : s.toServer = [] := List.length_eq_zero_iff.mp (by omega)
      have hnoacks : ackCount rest = 0 := by omega
      refine ⟨rfl, .inl rfl, fun _ => hopening.noSummary, by simp [hempty], ?_⟩
      intro other hmem hother
      exact absurd hother (by simpa using List.countP_eq_zero.mp hnoacks other hmem)
    · exact absurd hrunning.started (by rw [show s.client.state = .testExchangeParameters from hstate]; decide)
  · refine ⟨hreplies, hpaired.numStreams, hsingle', .inr ?_⟩
    rcases hpaired.phase with hopening | hrunning
    · have hopen := hopening.state hctrl
      exact absurd (hopen.symm.trans hstate) (by decide)
    · refine ⟨rfl, .inr (.inr rfl), hrunning.unsent, by simpa using hrunning.requests, ?_⟩
      exact fun other hmem => hrunning.answers other (hqueue ▸ List.mem_cons_of_mem _ hmem)
  · refine ⟨hreplies, hpaired.numStreams, hsingle', .inr ?_⟩
    rcases hpaired.phase with hopening | hrunning
    · exact absurd (hopening.state hctrl) hparams
    · refine ⟨rfl, hrunning.started, hrunning.unsent, by simpa using hrunning.requests, ?_⟩
      exact fun other hmem => hrunning.answers other (hqueue ▸ List.mem_cons_of_mem _ hmem)

theorem paired_clientReady {s : Session} {reply : Reply} {rest : List Reply} {client : IperfTest} {now : UInt64}
    (hpaired : Paired s) (hqueue : s.toClient = reply :: rest) (hctrl : s.client.ctrlChn = true)
    (hready : IsReady reply) (h : { s.client with ctrlChn := true }.handleReadyMessage now = .ok client) :
    Paired { s with client := client, toClient := rest, toServer := s.toServer ++ [] } := by
  have hcount : ackCount s.toClient = ackCount rest := by
    rw [hqueue, ackCount_cons, if_neg hready.not_isAck, Nat.add_zero]
  have hreplies : ∀ reply ∈ rest, IsAck reply ∨ IsReady reply := by
    intro other hmem
    exact hpaired.replies other (hqueue ▸ List.mem_cons_of_mem _ hmem)
  have hsingle : (s.toServer ++ []).length + ackCount rest ≤ 1 := by
    rw [List.append_nil, ← hcount]
    exact hpaired.single
  have hrest : ∀ other ∈ rest, other ∈ s.toClient := fun other hmem => hqueue ▸ List.mem_cons_of_mem _ hmem
  rcases IperfTest.handleReadyMessage_cases h with ⟨hstate, streams, rfl, _⟩ | ⟨hstate, rfl⟩
  · refine ⟨hreplies, hpaired.numStreams, hsingle, .inr ?_⟩
    rcases hpaired.phase with hopening | hrunning
    · have hopen := hopening.state hctrl
      exact absurd (hopen.symm.trans hstate) (by decide)
    · exact ⟨rfl, hrunning.started, hrunning.unsent, by simpa using hrunning.requests,
        fun other hmem => hrunning.answers other (hrest other hmem)⟩
  · refine ⟨hreplies, hpaired.numStreams, hsingle, ?_⟩
    rcases hpaired.phase with hopening | hrunning
    · exact .inl ⟨hopening.main, hopening.noStreams, hopening.noSummary, by simpa using hopening.requests,
        fun other hmem => hopening.answers other (hrest other hmem), fun h => absurd h.symm Bool.false_ne_true,
        fun _ => hopening.state hctrl⟩
    · exact .inr ⟨rfl, hrunning.started, hrunning.unsent, by simpa using hrunning.requests,
        fun other hmem => hrunning.answers other (hrest other hmem)⟩

theorem paired_clientReceive {s t : Session} {clock : Nat → UInt64} {streamId : Nat} (hpaired : Paired s)
    (h : s.clientReceive clock streamId = some t) : Paired t := by
  obtain ⟨reply, rest, client, sent, hqueue, hctrl, hhandle, rfl⟩ := clientReceive_inv h
  rcases hpaired.replies reply (hqueue ▸ List.mem_cons_self) with hack | hready
  · obtain ⟨rfl, hhandled⟩ := IperfTest.handleControlMessage_ack hack hhandle
    exact paired_clientAck hpaired hqueue hctrl hack hhandled
  · obtain ⟨rfl, hhandled⟩ := IperfTest.handleControlMessage_ready hready.1 hhandle
    exact paired_clientReady hpaired hqueue hctrl hready hhandled

/-! ### Steps of the main thread -/

theorem paired_pollReady {s t : Session} (hpaired : Paired s) (h : s.pollReady = some t) : Paired t := by
  obtain ⟨hmain, flag, rfl⟩ := pollReady_inv h
  refine ⟨hpaired.replies, hpaired.numStreams, hpaired.single, ?_⟩
  rcases hpaired.phase with hopening | hrunning
  · -- without streams the loop condition compares the configured number with zero
    have hwait : ¬ s.client.isStreamReady.1 = true := by
      rw [IperfTest.isStreamReady_iff, hopening.noStreams]
      exact fun hready => hpaired.numStreams hready.2
    refine .inl ⟨?_, hopening.noStreams, hopening.noSummary, hopening.requests, hopening.answers,
      hopening.unconnected, hopening.state⟩
    exact if_neg hwait
  · refine .inr (hrunning.of_same rfl rfl rfl rfl rfl hrunning.started fun _ => ?_)
    rw [hmain]
    rfl

theorem Paired.running {s : Session} (hpaired : Paired s) (hmain : s.main ≠ .waitReady) : Running s :=
  hpaired.phase.resolve_left fun hopening => hmain hopening.main

theorem paired_clientTick {s t : Session} {now : UInt64} (hpaired : Paired s) (h : s.clientTick now = some t) :
    Paired t := by
  obtain ⟨hmain, done, client, hticked, rfl⟩ := clientTick_inv h
  have hrunning := hpaired.running (by rw [hmain]; decide)
  have hconfig : client.testConfig = s.client.testConfig := by rw [hticked.rest]
  have hctrl : client.ctrlChn = s.client.ctrlChn := by rw [hticked.rest]
  refine ⟨hpaired.replies, ?_, hpaired.single, .inr (hrunning.of_same rfl rfl rfl rfl hctrl ?_ fun _ => ?_)⟩
  · exact fun heq => hpaired.numStreams (hconfig ▸ heq)
  · rcases hticked.state with hstate | hstate
    · exact hstate ▸ hrunning.started
    · exact .inr (.inr hstate)
  · rw [hmain]
    rfl

theorem paired_finishReports {s t : Session} {now : UInt64} (hpaired : Paired s)
    (h : machine.step s (.finishReports now) = some t) : Paired t := by
  obtain ⟨hmain, rfl⟩ := finishReports_inv h
  have hrunning := hpaired.running (by rw [hmain]; decide)
  refine ⟨hpaired.replies, hpaired.numStreams, hpaired.single, .inr (hrunning.of_same rfl rfl rfl rfl rfl hrunning.started
    fun _ => ?_)⟩
  rw [hmain]
  rfl

theorem Running.quiet {s : Session} (hrunning : Running s) (hnone : s.summary = none) :
    s.toServer = [] ∧ ackCount s.toClient = 0 := by
  constructor
  · refine List.eq_nil_iff_forall_not_mem.mpr fun bytes hmem => ?_
    exact absurd (hrunning.requests bytes hmem).2 (by simp [hnone])
  · refine List.countP_eq_zero.mpr fun reply hmem hack => ?_
    obtain ⟨_, bytes, _, hsummary⟩ := hrunning.answers reply hmem (of_decide_eq_true hack)
    exact absurd hsummary (by simp [hnone])

theorem paired_sendSummary {s t : Session} (hpaired : Paired s) (h : s.sendSummary = some t) : Paired t := by
  obtain ⟨hmain, ⟨bytes, hcode, rfl⟩ | ⟨hctrl, _⟩⟩ := sendSummary_inv h
  · have hrunning := hpaired.running (by rw [hmain]; decide)
    obtain ⟨hempty, hnoacks⟩ := hrunning.quiet (hrunning.unsent (by rw [hmain]; rfl))
    refine ⟨hpaired.replies, hpaired.numStreams, ?_, .inr ?_⟩
    · change (s.toServer ++ [bytes]).length + ackCount s.toClient ≤ 1
      rw [hempty, hnoacks]
      exact Nat.le_refl 1
    · refine ⟨hrunning.ctrlChn, hrunning.started, ?_, ?_, ?_⟩
      · exact fun (hsent : MainLoop.hasSent .summarySent = false) => absurd hsent (by decide)
      · rw [hempty]
        simpa using hcode
      · intro reply hmem hack
        exact absurd hack (by simpa using List.countP_eq_zero.mp hnoacks reply hmem)
  · have hrunning := hpaired.running (by rw [hmain]; decide)
    rw [hrunning.ctrlChn] at hctrl
    exact absurd hctrl (by decide)

theorem paired_storeState {s t : Session} (hpaired : Paired s) (h : machine.step s .storeState = some t) :
    Paired t := by
  obtain ⟨hmain, rfl⟩ := storeState_inv h
  have hrunning := hpaired.running (by rw [hmain]; decide)
  refine ⟨hpaired.replies, hpaired.numStreams, hpaired.single,
    .inr (hrunning.of_same rfl rfl rfl rfl rfl (.inr (.inl rfl)) ?_)⟩
  exact fun (hsent : MainLoop.hasSent .waitDone = false) => absurd hsent (by decide)

theorem paired_step {s t : Session} {a : Action} (hpaired : Paired s) (h : machine.step s a = some t) : Paired t := by
  cases a with
  | ctrlEstablished => exact paired_ctrlEstablished hpaired h
  | serverReceive => exact paired_serverReceive hpaired h
  | clientReceive => exact paired_clientReceive hpaired h
  | accept => exact paired_accept hpaired h
  | pollReady => exact paired_pollReady hpaired h
  | clientTick => exact paired_clientTick hpaired h
  | sendSummary => exact paired_sendSummary hpaired h
  | finishReports => exact paired_finishReports hpaired h
  | storeState => exact paired_storeState hpaired h
  | clientEvent | clientThread | clientActivity | serverEvent | serverActivity | serverTick =>
    exact (step_local h rfl).paired hpaired

theorem paired_run {config serverConfig : TestConfig} {testId : UInt32} (hstreams : config.numStreams ≠ 0)
    {acts : List Action} {s : Session} (hrun : machine.run (start config serverConfig testId) acts = some s) :
    Paired s :=
  Machine.run_preserves (fun _ _ _ => paired_step) (paired_start hstreams serverConfig testId) hrun

/-- A handler changes the state from exchanging reports to done only for an ack. -/
theorem ack_of_done {s t : Session} {clock : Nat → UInt64} {streamId : Nat} (hpaired : Paired s)
    (h : s.clientReceive clock streamId = some t) (hreports : s.client.state = .testExchangeReports)
    (hdone : t.client.state = .testDone) : ∃ reply rest, s.toClient = reply :: rest ∧ IsAck reply := by
  obtain ⟨reply, rest, client, sent, hqueue, hctrl, hhandle, rfl⟩ := clientReceive_inv h
  refine ⟨reply, rest, hqueue, ?_⟩
  rcases hpaired.replies reply (hqueue ▸ List.mem_cons_self) with hack | hready
  · exact hack
  · obtain ⟨_, hhandled⟩ := IperfTest.handleControlMessage_ready hready.1 hhandle
    have hstate : client.state = s.client.state := by
      rcases IperfTest.handleReadyMessage_cases hhandled with ⟨_, _, rfl, _⟩ | ⟨_, rfl⟩ <;> rfl
    exact absurd (hreports.symm.trans (hstate.symm.trans hdone)) (by decide)

/-- The sender takes for the ack of its summary only the message that answers it, and the receiver has processed the reports by then. -/
theorem reports_processed_when_done {config serverConfig : TestConfig} {testId : UInt32}
    (hstreams : 1 ≤ config.numStreams) {acts : List Action} {s t : Session} {clock : Nat → UInt64} {streamId : Nat}
    (hrun : machine.run (start config serverConfig testId) acts = some s)
    (hstep : machine.step s (.clientReceive clock streamId) = some t)
    (hreports : s.client.state = .testExchangeReports) (hdone : t.client.state = .testDone) :
    ∃ reply rest, s.toClient = reply :: rest ∧ IsAck reply ∧ reply.answers = 3 ∧
      ∃ bytes ∈ s.processed, s.summary = some bytes := by
  have hpaired := paired_run (by omega) hrun
  obtain ⟨reply, rest, hqueue, hack⟩ := ack_of_done hpaired hstep hreports hdone
  refine ⟨reply, rest, hqueue, hack, ?_⟩
  rcases hpaired.phase with hopening | hrunning
  · have hctrl : s.client.ctrlChn = true := by
      obtain ⟨_, _, _, _, _, hctrl, _⟩ := clientReceive_inv hstep
      exact hctrl
    exact absurd (hreports.symm.trans (hopening.state hctrl)) (by decide)
  · exact hrunning.answers reply (hqueue ▸ List.mem_cons_self) hack

def briefConfig : TestConfig := { time := 0, protocol := 1 }

def untilSummarySent : List Action :=
  [.ctrlEstablished, .serverReceive (fun _ => 0) 1, .clientReceive (fun _ => 0) 1, .accept 1 1000,
    .clientEvent 0 (.established 1000), .clientReceive (fun _ => 0) 1, .clientThread 0 0, .pollReady, .clientTick 0,
    .clientTick 0, .finishReports 0, .sendSummary]

/-- The states of the sender before and after one more control message. -/
def receivedAfter (acts : List Action) : Option (TestState × TestState) :=
  (machine.run (start briefConfig {} 7) acts).bind fun s =>
    (machine.step s (.clientReceive (fun _ => 0) 1)).map fun t => (s.client.state, t.client.state)

theorem receivedAfter_inv {acts : List Action} {before after : TestState} (h : receivedAfter acts = some (before, after)) :
    ∃ s t, machine.run (start briefConfig {} 7) acts = some s ∧
      machine.step s (.clientReceive (fun _ => 0) 1) = some t ∧ s.client.state = before ∧ t.client.state = after := by
  obtain ⟨s, hrun, h⟩ := Option.bind_eq_some_iff.mp h
  obtain ⟨t, hstep, h⟩ := Option.map_eq_some_iff.mp h
  obtain ⟨hbefore, hafter⟩ := Prod.mk.inj h
  exact ⟨s, t, hrun, hstep, hbefore, hafter⟩

theorem reports_processed_when_done_brief :
    ∃ s t, machine.run (start briefConfig {} 7) (untilSummarySent ++ [.storeState, .serverReceive (fun _ => 0) 1]) = some s ∧
      machine.step s (.clientReceive (fun _ => 0) 1) = some t ∧ s.client.state = .testExchangeReports ∧
      t.client.state = .testDone ∧ ∃ reply rest, s.toClient = reply :: rest ∧ IsAck reply ∧ reply.answers = 3 ∧
        ∃ bytes ∈ s.processed, s.summary = some bytes := by
  obtain ⟨s, t, hrun, hstep, hreports, hdone⟩ := receivedAfter_inv (show receivedAfter
    (untilSummarySent ++ [.storeState, .serverReceive (fun _ => 0) 1]) = some (.testExchangeReports, .testDone) by
      decide +kernel)
  exact ⟨s, t, hrun, hstep, hreports, hdone, reports_processed_when_done (by decide) hrun hstep hreports hdone⟩

end Session

end BatsIperf
