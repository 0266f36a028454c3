import BatsIperf.Test.SnapshotTicks
import BatsIperf.Test.SummaryBuffer

/-!
# The main thread of a client

`RunTest` polls until the streams are ready, `EnterSenderIntervalLoop` until the time is over, and then it waits for the acks. Each pass of a loop is one step of the main thread, `SendTestSummary` and `StopAll` take one for each access to shared data, and between two of them anything may reach the test: control messages, events of its connections, the steps of the sending threads and the signal, whose callback runs `StopAll` as well.
-/

namespace BatsIperf

/-- The places in `StopAll`. -/
inductive StopPoint
  | exchange | storeSignal | stopTests | returned
  deriving DecidableEq

/-- The places of the main thread. A number is a counter of its loop. -/
inductive ClientPoint
  | waitReady (timeoutCnt : Nat)
  | interval | sentFinished | sendTestSummary | serializeReports | sendData | storeState
  | waitDone (maxWaitTime : Nat)
  | stopAll (place : StopPoint)
  | timedOut
  deriving DecidableEq

structure ClientRun where
  test : IperfTest
  point : ClientPoint := .waitReady 0
  signalCallback : StopPoint := .returned
  stopSignalValue : Int := 0
  isStopped : Bool := false

namespace ClientRun

def sigint : Int := 2

def isInterrupted (s : ClientRun) : Bool := s.stopSignalValue == sigint

def maxTimeoutCnt : Nat := 10 * 1000

def maxWaitTime : Nat := 15

inductive Action
  | main (now : UInt64)
  | signal (sig : Int)
  | signalCallback (now : UInt64)
  | other (action : TestRun.Action)

/-- What the callbacks and the sending threads do to the test. -/
def isOutside : TestRun.Action → Bool
  | .controlMessage .. | .ctrlFailed | .ctrlEstablished | .ctrlClosed _ | .accept .. | .streamEvent .. | .streamThread ..
  | .streamActivity .. => true
  | .pollReady | .tick _ | .onSentFinished _ | .storeState | .stop _ => false

def Action.isMain : Action → Bool
  | .main _ => true
  | .signal _ | .signalCallback _ | .other _ => false

def Action.keepsParameters : Action → Bool
  | .other action => action.keepsParameters
  | .main _ | .signal _ | .signalCallback _ => true

/-- `StopAll` does something for the caller that is first to set `is_stopped_`. -/
def stopAll (s : ClientRun) (now : UInt64) : StopPoint → ClientRun × StopPoint
  | .exchange => if s.isStopped then (s, .returned) else ({ s with isStopped := true }, .storeSignal)
  | .storeSignal => ({ s with stopSignalValue := sigint }, .stopTests)
  | .stopTests => ({ s with test := s.test.stop now }, .returned)
  | .returned => (s, .returned)

/-- One pass of the main thread, or one access of `SendTestSummary` or `StopAll`. -/
def mainStep (s : ClientRun) (now : UInt64) : Option ClientRun :=
  match s.point with
  | .waitReady timeoutCnt =>
    let (ready, test) := s.test.isStreamReady
    let s := { s with test := test }
    some (if ready ∨ s.isInterrupted then { s with point := .interval }
      else if maxTimeoutCnt < timeoutCnt + 1 then { s with point := .timedOut }
      else { s with point := .waitReady (timeoutCnt + 1) })
  | .interval =>
    if s.isInterrupted then some { s with point := .waitDone maxWaitTime }
    else do
      let (done, test) ← (s.test.testFinishState now).toOption
      return { s with test := test, point := if done then .sentFinished else .interval }
  | .sentFinished =>
    some (if s.test.testConfig.role = .roleNone then { s with point := .waitDone maxWaitTime }
      else { s with test := s.test.finishReports now, point := .sendTestSummary })
  | .sendTestSummary => some { s with point := if s.test.ctrlChn then .serializeReports else .waitDone maxWaitTime }
  | .serializeReports => do
    let _ ← s.test.testSummary.toOption
    return { s with point := .sendData }
  -- the channel may be gone since it was looked at
  | .sendData => if s.test.ctrlChn then some { s with point := .storeState } else none
  | .storeState => some { s with test := { s.test with state := .testExchangeReports }, point := .waitDone maxWaitTime }
  | .waitDone count =>
    some (if 0 < count ∧ ¬ s.isInterrupted ∧ ¬ (s.test.state = .testDone ∧ s.test.isStreamDone) then
        { s with point := .waitDone (count - 1) }
      else { s with point := .stopAll .exchange })
  | .stopAll place =>
    if place = .returned then none
    else some { (s.stopAll now place).1 with point := .stopAll (s.stopAll now place).2 }
  | .timedOut => none

def step (s : ClientRun) : Action → Option ClientRun
  | .main now => s.mainStep now
  | .signal sig =>
    if s.signalCallback = .returned then some { s with stopSignalValue := sig, signalCallback := .exchange } else none
  | .signalCallback now =>
    if s.signalCallback = .returned then none
    else some { (s.stopAll now s.signalCallback).1 with signalCallback := (s.stopAll now s.signalCallback).2 }
  | .other action => if isOutside action then do
      let run ← TestRun.machine.step { test := s.test } action
      return { s with test := run.test }
    else none

def machine : Machine ClientRun Action where
  step := step

/-- A client before `Start`. -/
def start (config : TestConfig) (testId : UInt32) : ClientRun where
  test := (TestRun.start config testId).test

variable {s t : ClientRun} {now : UInt64}

/-! ### The moves of the main thread -/

/-- What a caller of `StopAll` does next, and where it is afterwards. -/
inductive StopMove (s : ClientRun) (now : UInt64) : StopPoint → ClientRun × StopPoint → Prop
  | late (hstopped : s.isStopped = true) : StopMove s now .exchange (s, .returned)
  | first : StopMove s now .exchange ({ s with isStopped := true }, .storeSignal)
  | signals : StopMove s now .storeSignal ({ s with stopSignalValue := sigint }, .stopTests)
  | stops : StopMove s now .stopTests ({ s with test := s.test.stop now }, .returned)

theorem stopAll_move (s : ClientRun) (now : UInt64) {place : StopPoint} (hbusy : place ≠ .returned) :
    StopMove s now place (s.stopAll now place) := by
  cases place with
  | exchange =>
    rw [stopAll]
    split
    · rename_i hstopped
      exact .late hstopped
    · exact .first
  | storeSignal => exact .signals
  | stopTests => exact .stops
  | returned => exact absurd rfl hbusy

inductive MainMove (s : ClientRun) (now : UInt64) : ClientRun → Prop
  | enters {timeoutCnt : Nat} (hpoint : s.point = .waitReady timeoutCnt)
      (hgoes : s.test.isStreamReady.1 = true ∨ s.isInterrupted = true) :
    MainMove s now { s with test := s.test.isStreamReady.2, point := .interval }
  | waits {timeoutCnt : Nat} (hpoint : s.point = .waitReady timeoutCnt) (hearly : timeoutCnt < maxTimeoutCnt) :
    MainMove s now { s with test := s.test.isStreamReady.2, point := .waitReady (timeoutCnt + 1) }
  | timesOut {timeoutCnt : Nat} (hpoint : s.point = .waitReady timeoutCnt) :
    MainMove s now { s with test := s.test.isStreamReady.2, point := .timedOut }
  | interrupted (hpoint : s.point = .interval) : MainMove s now { s with point := .waitDone maxWaitTime }
  | polls {done : Bool} {test : IperfTest} (hpoint : s.point = .interval) (hpoll : s.test.testFinishState now = .ok (done, test)) :
    MainMove s now { s with test := test, point := if done then .sentFinished else .interval }
  | finishes (hpoint : s.point = .sentFinished) :
    MainMove s now { s with test := s.test.finishReports now, point := .sendTestSummary }
  | sends (hpoint : s.point = .sendTestSummary) : MainMove s now { s with point := .serializeReports }
  | serializes (hpoint : s.point = .serializeReports) : MainMove s now { s with point := .sendData }
  | sent (hpoint : s.point = .sendData) : MainMove s now { s with point := .storeState }
  | stores (hpoint : s.point = .storeState) :
    MainMove s now { s with test := { s.test with state := .testExchangeReports }, point := .waitDone maxWaitTime }
  | skips (hpoint : s.point = .sentFinished ∨ s.point = .sendTestSummary) :
    MainMove s now { s with point := .waitDone maxWaitTime }
  | counts {count : Nat} (hpoint : s.point = .waitDone count) (hleft : 0 < count) :
    MainMove s now { s with point := .waitDone (count - 1) }
  | leaves {count : Nat} (hpoint : s.point = .waitDone count) : MainMove s now { s with point := .stopAll .exchange }
  | stops {place : StopPoint} (hpoint : s.point = .stopAll place) (hbusy : place ≠ .returned) :
    MainMove s now { (s.stopAll now place).1 with point := .stopAll (s.stopAll now place).2 }

theorem mainStep_move (h : s.mainStep now = some t) : MainMove s now t := by
  unfold mainStep at h
  cases hpoint : s.point with
  | waitReady timeoutCnt =>
    rw [hpoint] at h
    obtain rfl := Option.some.inj h
    split
    · rename_i hgoes
      exact .enters hpoint hgoes
    split
    · exact .timesOut hpoint
    · exact .waits hpoint (by omega)
  | interval =>
    rw [hpoint] at h
    dsimp only at h
    split at h
    · obtain rfl := Option.some.inj h
      exact .interrupted hpoint
    · obtain ⟨⟨done, test⟩, hpoll, h⟩ := Option.bind_eq_some_iff.mp h
      obtain rfl := Option.some.inj h
      exact .polls hpoint (Fault.toOption_eq_some.mp hpoll)
  | sentFinished =>
    rw [hpoint] at h
    obtain rfl := Option.some.inj h
    split
    · exact .skips (.inl hpoint)
    · exact .finishes hpoint
  | sendTestSummary =>
    rw [hpoint] at h
    obtain rfl := Option.some.inj h
    split
    · exact .sends hpoint
    · exact .skips (.inr hpoint)
  | serializeReports =>
    rw [hpoint] at h
    obtain ⟨_, _, h⟩ := Option.bind_eq_some_iff.mp h
    obtain rfl := Option.some.inj h
    exact .serializes hpoint
  | sendData =>
    rw [hpoint] at h
    obtain ⟨_, h⟩ := Option.ite_none_right_eq_some.mp h
    obtain rfl := Option.some.inj h
    exact .sent hpoint
  | storeState =>
    rw [hpoint] at h
    obtain rfl := Option.some.inj h
    exact .stores hpoint
  | waitDone count =>
    rw [hpoint] at h
    obtain rfl := Option.some.inj h
    split
    · rename_i hwaits
      exact .counts hpoint hwaits.1
    · exact .leaves hpoint
  | stopAll place =>
    rw [hpoint] at h
    obtain ⟨hbusy, h⟩ := Option.ite_none_left_eq_some.mp h
    obtain rfl := Option.some.inj h
    exact .stops hpoint hbusy
  | timedOut =>
    rw [hpoint] at h
    cases h

/-! ### What the steps do to the test -/

/-- The steps of a client leave the clock and the end of its test alone. -/
structure Goes (test next : IperfTest) : Prop where
  clock : IperfTest.SameClock test next
  isStopped : test.isStopped = true → next.isStopped = true

theorem Goes.refl (test : IperfTest) : Goes test test := ⟨.refl test, id⟩

theorem stop_isStopped (test : IperfTest) (now : UInt64) : (test.stop now).isStopped = true := by
  rw [IperfTest.stop_eq]
  split
  · rename_i hstopped
    exact hstopped
  · rfl

theorem stop_goes (test : IperfTest) (now : UInt64) : Goes test (test.stop now) :=
  ⟨IperfTest.stop_sameClock test now, fun _ => stop_isStopped test now⟩

theorem StopMove.goes {place : StopPoint} {result : ClientRun × StopPoint} (h : StopMove s now place result) :
    Goes s.test result.1.test := by
  cases h with
  | late | first | signals => exact .refl s.test
  | stops => exact stop_goes s.test now

theorem isStreamReady_goes (test : IperfTest) : Goes test test.isStreamReady.2 := by
  obtain ⟨flag, hflag⟩ := test.isStreamReady_rest
  rw [hflag]
  exact ⟨⟨rfl, Int.le_refl _⟩, id⟩

theorem testRun_goes {run next : TestRun} {a : TestRun.Action} (ha : a.keepsParameters = true)
    (h : TestRun.machine.step run a = some next) : Goes run.test next.test := by
  have hclock := TestRun.step_sameClock ha h
  have hmoved := TestRun.step_moved h
  suffices hrest : run.test.isStopped = true → next.test.isStopped = true from ⟨hclock, hrest⟩
  generalize next.test = after at hmoved ⊢
  cases hmoved with
  | message hhandle =>
    cases IperfTest.handleControlMessage_handled hhandle with
    | ack _ hacked =>
      rcases IperfTest.handleAckMessage_cases hacked with ⟨_, _, rfl, _⟩ | ⟨_, rfl⟩ | ⟨_, _, rfl⟩ <;> exact id
    | ready _ hready =>
      rcases IperfTest.handleReadyMessage_cases hready with ⟨_, _, rfl, _⟩ | ⟨_, rfl⟩ <;> exact id
    | parameters | summary | done | ignored => exact id
  | parametersSent | summaryStored | polled | streams => exact id
  | ticked htick =>
    rw [(IperfTest.testFinishState_ticked htick).rest]
    exact id
  | closed now => exact fun _ => stop_isStopped _ now
  | stopped now => exact fun _ => stop_isStopped run.test now

theorem testFinishState_goes {test next : IperfTest} {done : Bool} (h : test.testFinishState now = .ok (done, next)) :
    Goes test next := by
  refine ⟨IperfTest.testFinishState_sameClock h, ?_⟩
  rw [(IperfTest.testFinishState_ticked h).rest]
  exact id

theorem mainStep_goes (h : s.mainStep now = some t) : Goes s.test t.test := by
  cases mainStep_move h with
  | enters | waits | timesOut => exact isStreamReady_goes s.test
  | interrupted | sends | serializes | sent | skips | counts | leaves => exact .refl s.test
  | polls _ hpoll => exact testFinishState_goes hpoll
  | finishes | stores => exact ⟨⟨rfl, Int.le_refl _⟩, id⟩
  | stops _ hbusy => exact (stopAll_move s now hbusy).goes

theorem other_inv {action : TestRun.Action} (h : machine.step s (.other action) = some t) :
    ∃ run, TestRun.machine.step { test := s.test } action = some run ∧ t = { s with test := run.test } := by
  obtain ⟨_, h⟩ := Option.ite_none_right_eq_some.mp h
  obtain ⟨run, hrun, h⟩ := Option.bind_eq_some_iff.mp h
  exact ⟨run, hrun, (Option.some.inj h).symm⟩

theorem step_goes {a : Action} (ha : a.keepsParameters = true) (h : machine.step s a = some t) : Goes s.test t.test := by
  cases a with
  | main now => exact mainStep_goes h
  | signal sig =>
    obtain ⟨_, h⟩ := Option.ite_none_right_eq_some.mp h
    obtain rfl := Option.some.inj h
    exact .refl s.test
  | signalCallback now =>
    obtain ⟨hbusy, h⟩ := Option.ite_none_left_eq_some.mp h
    obtain rfl := Option.some.inj h
    exact (stopAll_move s now hbusy).goes
  | other action =>
    obtain ⟨run, hrun, rfl⟩ := other_inv h
    exact @testRun_goes { test := s.test } _ _ ha hrun

/-! ### How far the main thread is from its end -/

/-- How many ticks come before the poll that finds the time over. -/
def ticksLeft (test : IperfTest) : Nat :=
  ((test.testConfig.time * test.testConfig.resolution).floor + 1 - test.passedTicks).toNat

def StopPoint.stepsLeft : StopPoint → Nat
  | .exchange => 3
  | .storeSignal => 2
  | .stopTests => 1
  | .returned => 0

def stepsLeft (s : ClientRun) : Nat :=
  match s.point with
  | .waitReady timeoutCnt => 26 + ticksLeft s.test + (maxTimeoutCnt - timeoutCnt)
  | .interval => 25 + ticksLeft s.test
  | .sentFinished => 24
  | .sendTestSummary => 23
  | .serializeReports => 22
  | .sendData => 21
  | .storeState => 20
  | .waitDone count => 4 + count
  | .stopAll place => StopPoint.stepsLeft place
  | .timedOut => 0

theorem ticksLeft_sameClock {test next : IperfTest} (h : IperfTest.SameClock test next) :
    ticksLeft next ≤ ticksLeft test := by
  have hticks := h.passedTicks
  rw [ticksLeft, ticksLeft, h.testConfig]
  omega

theorem tick_expired {test : IperfTest} (h : test.IsExpired) :
    test.tick = .ok (true, false, { test with passedTicks := test.passedTicks + 1 }) := by
  unfold IperfTest.tick
  dsimp only
  exact if_pos (decide_eq_true h)

theorem ticksLeft_tick {test next : IperfTest} {now : UInt64} (hrole : test.testConfig.role = .roleSender)
    (h : test.testFinishState now = .ok (false, next)) : ticksLeft next < ticksLeft test := by
  have hrunning : test.state ≠ .testDone := by
    intro hdone
    rw [IperfTest.testFinishState, if_neg (not_not_intro hrole), if_pos hdone] at h
    exact Bool.false_ne_true (Prod.mk.inj (Except.ok.inj h)).1.symm
  have hticks := IperfTest.testFinishState_passedTicks (.inr ⟨hrole, hrunning⟩) h
  have hconfig := (IperfTest.testFinishState_sameClock h).testConfig
  have hearly : ¬ test.IsExpired := by
    intro hexpired
    rw [IperfTest.testFinishState, if_neg (not_not_intro hrole), if_neg hrunning, tick_expired hexpired] at h
    exact Bool.false_ne_true (Prod.mk.inj (Except.ok.inj h)).1.symm
  have hfloor : test.passedTicks ≤ (test.testConfig.time * test.testConfig.resolution).floor :=
    Int.le_floor.mpr (not_lt.mp hearly)
  rw [ticksLeft, ticksLeft, hconfig, hticks]
  omega

theorem StopMove.nearer {place : StopPoint} {result : ClientRun × StopPoint} (h : StopMove s now place result) :
    StopPoint.stepsLeft result.2 < StopPoint.stepsLeft place := by
  cases h <;> exact Nat.le_of_ble_eq_true rfl

/-- The waiting time of the last loop is never more than it started with. -/
def HasTime (s : ClientRun) : Prop := ∀ count, s.point = .waitDone count → count ≤ maxWaitTime

theorem mainStep_nearer (hrole : s.test.testConfig.role = .roleSender) (htime : s.HasTime)
    (h : s.mainStep now = some t) : t.HasTime ∧ t.stepsLeft < s.stepsLeft := by
  have hticks := ticksLeft_sameClock (mainStep_goes h).clock
  have hwaits {u : ClientRun} (hpoint : u.point = .waitDone maxWaitTime) : u.HasTime := by
    intro count hcount
    exact (ClientPoint.waitDone.inj (hpoint.symm.trans hcount)).ge
  have hnone {u : ClientRun} (hpoint : ∀ count, u.point ≠ .waitDone count) : u.HasTime :=
    fun count hcount => absurd hcount (hpoint count)
  cases mainStep_move h with
  | enters hpoint =>
    refine ⟨hnone fun _ => ClientPoint.noConfusion, ?_⟩
    rw [stepsLeft, stepsLeft, hpoint]
    dsimp only at hticks ⊢
    omega
  | waits hpoint =>
    refine ⟨hnone fun _ => ClientPoint.noConfusion, ?_⟩
    rw [stepsLeft, stepsLeft, hpoint]
    dsimp only at hticks ⊢
    omega
  | timesOut hpoint =>
    refine ⟨hnone fun _ => ClientPoint.noConfusion, ?_⟩
    rw [stepsLeft, stepsLeft, hpoint]
    dsimp only
    omega
  | @polls done test hpoint hpoll =>
    refine ⟨hnone fun _ => by cases done <;> exact ClientPoint.noConfusion, ?_⟩
    rw [stepsLeft, stepsLeft, hpoint]
    cases done with
    | true =>
      show 24 < 25 + ticksLeft s.test
      omega
    | false => exact Nat.add_lt_add_left (ticksLeft_tick hrole hpoll) 25
  | interrupted hpoint | stores hpoint =>
    refine ⟨hwaits rfl, ?_⟩
    rw [stepsLeft, stepsLeft, hpoint]
    dsimp only [maxWaitTime]
    omega
  | skips hpoint =>
    refine ⟨hwaits rfl, ?_⟩
    rcases hpoint with hpoint | hpoint <;> rw [stepsLeft, stepsLeft, hpoint] <;> exact Nat.le_of_ble_eq_true rfl
  | finishes hpoint | sends hpoint | serializes hpoint | sent hpoint =>
    refine ⟨hnone fun _ => ClientPoint.noConfusion, ?_⟩
    rw [stepsLeft, stepsLeft, hpoint]
    exact Nat.le_of_ble_eq_true rfl
  | @counts count hpoint hleft =>
    have hcount := htime count hpoint
    constructor
    · intro other hother
      obtain rfl := ClientPoint.waitDone.inj hother
      omega
    · rw [stepsLeft, stepsLeft, hpoint]
      dsimp only
      omega
  | leaves hpoint =>
    refine ⟨hnone fun _ => ClientPoint.noConfusion, ?_⟩
    rw [stepsLeft, stepsLeft, hpoint]
    dsimp only [StopPoint.stepsLeft]
    omega
  | stops hpoint hbusy =>
    refine ⟨hnone fun _ => ClientPoint.noConfusion, ?_⟩
    rw [stepsLeft, stepsLeft, hpoint]
    exact (stopAll_move s now hbusy).nearer

/-- Without a step of the main thread no place changes, and no tick comes back. -/
theorem stepsLeft_of_point (hgoes : Goes s.test t.test) (hpoint : t.point = s.point) : t.stepsLeft ≤ s.stepsLeft := by
  have hticks := ticksLeft_sameClock hgoes.clock
  rw [stepsLeft, stepsLeft, hpoint]
  cases s.point with
  | waitReady timeoutCnt => exact Nat.add_le_add_right (Nat.add_le_add_left hticks 26) _
  | interval => exact Nat.add_le_add_left hticks 25
  | sentFinished | sendTestSummary | serializeReports | sendData | storeState | waitDone | stopAll | timedOut =>
    exact Nat.le_refl _

theorem StopMove.point {place : StopPoint} {result : ClientRun × StopPoint} (h : StopMove s now place result) :
    result.1.point = s.point := by
  cases h <;> rfl

theorem point_step {a : Action} (ha : a.isMain = false) (h : machine.step s a = some t) : t.point = s.point := by
  cases a with
  | main now => exact absurd ha.symm Bool.false_ne_true
  | signal sig =>
    obtain ⟨_, h⟩ := Option.ite_none_right_eq_some.mp h
    obtain rfl := Option.some.inj h
    rfl
  | signalCallback now =>
    obtain ⟨hbusy, h⟩ := Option.ite_none_left_eq_some.mp h
    obtain rfl := Option.some.inj h
    exact (stopAll_move s now hbusy).point
  | other action =>
    obtain ⟨_, _, rfl⟩ := other_inv h
    rfl

/-! ### Who stops the test -/

/-- Between the store of `is_stopped_` and the call of `Stop`. -/
def StopPoint.isStopping : StopPoint → Bool
  | .storeSignal | .stopTests => true
  | .exchange | .returned => false

def mainStops (s : ClientRun) : Bool :=
  match s.point with
  | .stopAll place => StopPoint.isStopping place
  | _ => false

/-- Once `is_stopped_` is set, the test is stopped or one of the callers of `StopAll` is about to stop it. -/
structure Stopping (s : ClientRun) : Prop where
  stopped : s.isStopped = true →
    s.test.isStopped = true ∨ s.mainStops = true ∨ StopPoint.isStopping s.signalCallback = true
  mainStops : s.mainStops = true → s.isStopped = true
  returned : s.point = .stopAll .returned → s.isStopped = true

theorem Stopping.goOn (h : Stopping s) (hgoes : s.test.isStopped = true → t.test.isStopped = true)
    (hstopped : t.isStopped = s.isStopped) (hmain : t.mainStops = s.mainStops)
    (hcallback : StopPoint.isStopping t.signalCallback = StopPoint.isStopping s.signalCallback)
    (hreturned : t.point = .stopAll .returned → s.point = .stopAll .returned) : Stopping t where
  stopped hset := by
    rw [hmain, hcallback]
    exact (h.stopped (hstopped.symm.trans hset)).imp_left hgoes
  mainStops hstops := hstopped.trans (h.mainStops (hmain.symm.trans hstops))
  returned hpoint := hstopped.trans (h.returned (hreturned hpoint))

theorem stopping_main (h : Stopping s) (hstep : s.mainStep now = some t) : Stopping t := by
  have hgoes := (mainStep_goes hstep).isStopped
  cases mainStep_move hstep with
  | enters hpoint | waits hpoint | timesOut hpoint | interrupted hpoint | finishes hpoint | sends hpoint
    | serializes hpoint | sent hpoint | stores hpoint | counts hpoint | leaves hpoint =>
    have hmain : s.mainStops = false := by rw [mainStops, hpoint]
    exact h.goOn hgoes rfl hmain.symm rfl fun hno => by cases hno
  | @polls done _ hpoint =>
    have hmain : s.mainStops = false := by rw [mainStops, hpoint]
    refine h.goOn hgoes rfl ?_ rfl fun hno => ?_
    · rw [hmain]
      cases done <;> rfl
    · cases done <;> cases hno
  | skips hpoint =>
    have hmain : s.mainStops = false := by rcases hpoint with hpoint | hpoint <;> rw [mainStops, hpoint]
    exact h.goOn hgoes rfl hmain.symm rfl fun hno => by cases hno
  | stops hpoint hbusy =>
    have hmove := stopAll_move s now hbusy
    generalize s.stopAll now _ = result at hmove
    cases hmove with
    | late hstopped =>
      have hmain : s.mainStops = false := by rw [mainStops, hpoint]; rfl
      have hothers := h.stopped hstopped
      rw [hmain] at hothers
      exact ⟨fun _ => hothers, fun hno => absurd hno Bool.false_ne_true, fun _ => hstopped⟩
    | first => exact ⟨fun _ => .inr (.inl rfl), fun _ => rfl, fun hno => by cases hno⟩
    | signals =>
      have hmain : s.mainStops = true := by rw [mainStops, hpoint]; rfl
      exact ⟨fun _ => .inr (.inl rfl), fun _ => h.mainStops hmain, fun hno => by cases hno⟩
    | stops =>
      have hmain : s.mainStops = true := by rw [mainStops, hpoint]; rfl
      exact ⟨fun _ => .inl (stop_isStopped s.test now), fun _ => h.mainStops hmain, fun _ => h.mainStops hmain⟩

theorem stopping_step {a : Action} (h : Stopping s) (ha : a.keepsParameters = true) (hstep : machine.step s a = some t) :
    Stopping t := by
  have hgoes := (step_goes ha hstep).isStopped
  cases a with
  | main now => exact stopping_main h hstep
  | signal sig =>
    obtain ⟨hidle, hstep⟩ := Option.ite_none_right_eq_some.mp hstep
    obtain rfl := Option.some.inj hstep
    exact h.goOn hgoes rfl rfl (by rw [hidle]; rfl) id
  | signalCallback now =>
    obtain ⟨hbusy, hstep⟩ := Option.ite_none_left_eq_some.mp hstep
    obtain rfl := Option.some.inj hstep
    have hmove := stopAll_move s now hbusy
    generalize hcallback : s.signalCallback = place at hmove
    generalize s.stopAll now place = result at hmove
    cases hmove with
    | late hstopped =>
      have hothers := h.stopped hstopped
      rw [hcallback] at hothers
      exact ⟨fun _ => hothers, h.mainStops, h.returned⟩
    | first => exact ⟨fun _ => .inr (.inr rfl), fun _ => rfl, fun _ => rfl⟩
    | signals => exact ⟨fun _ => .inr (.inr rfl), h.mainStops, h.returned⟩
    | stops => exact ⟨fun _ => .inl (stop_isStopped s.test now), h.mainStops, h.returned⟩
  | other action =>
    obtain ⟨run, _, rfl⟩ := other_inv hstep
    exact h.goOn hgoes rfl rfl rfl id

/-! ### Every interleaving -/

variable {config : TestConfig} {testId : UInt32}

structure Running (config : TestConfig) (s : ClientRun) : Prop where
  testConfig : s.test.testConfig = { config with role := .roleSender }
  hasTime : s.HasTime
  stopping : Stopping s

theorem step_running {a : Action} (h : Running config s) (ha : a.keepsParameters = true)
    (hstep : machine.step s a = some t) :
    Running config t ∧ t.stepsLeft ≤ s.stepsLeft ∧ (a.isMain = true → t.stepsLeft < s.stepsLeft) := by
  have hgoes := step_goes ha hstep
  have hconfig := hgoes.clock.testConfig.trans h.testConfig
  have hstopping := stopping_step h.stopping ha hstep
  cases hmain : a.isMain with
  | true =>
    cases a with
    | main now =>
      have hrole : s.test.testConfig.role = .roleSender := by rw [h.testConfig]
      obtain ⟨htime, hless⟩ := mainStep_nearer hrole h.hasTime hstep
      exact ⟨⟨hconfig, htime, hstopping⟩, hless.le, fun _ => hless⟩
    | signal | signalCallback | other => exact absurd hmain Bool.false_ne_true
  | false =>
    have hpoint := point_step hmain hstep
    refine ⟨⟨hconfig, fun count hcount => h.hasTime count (hpoint.symm.trans hcount), hstopping⟩,
      stepsLeft_of_point hgoes hpoint, fun hno => absurd hno Bool.false_ne_true⟩

theorem running_start (config : TestConfig) (testId : UInt32) : Running config (start config testId) where
  testConfig := rfl
  hasTime _ hno := by cases hno
  stopping := ⟨fun hno => absurd hno Bool.false_ne_true, fun hno => absurd hno Bool.false_ne_true, fun hno => by cases hno⟩

theorem stepsLeft_start (config : TestConfig) (testId : UInt32) :
    (start config testId).stepsLeft = 10026 + ((config.time * config.resolution).floor + 1).toNat := by
  show 26 + ((config.time * config.resolution).floor + 1 - 0).toNat + (10 * 1000 - 0) = _
  omega

/-- In every interleaving without a parameters message the main thread of a client takes at most 10026 steps and one for each tick of the test, whatever the callbacks, the sending threads and the signal do. When it has left `StopAll`, its test is stopped or the callback of the signal is about to stop it. -/
theorem client_returns {acts : List Action} (hacts : ∀ a ∈ acts, a.keepsParameters = true)
    (hrun : machine.run (start config testId) acts = some s) :
    acts.countP Action.isMain ≤ 10026 + ((config.time * config.resolution).floor + 1).toNat ∧
      (s.point = .stopAll .returned → s.test.isStopped = true ∨ StopPoint.isStopping s.signalCallback = true) := by
  have hallowed : machine.Respects (fun _ a => a.keepsParameters = true) (start config testId) acts :=
    Machine.respects_of_mem hacts (start config testId)
  have hbound : Running config s ∧ acts.countP Action.isMain + stepsLeft s ≤ stepsLeft (start config testId) :=
    Machine.run_rank (fun _ _ _ hs ha hstep => step_running hs ha hstep) (running_start config testId) hallowed hrun
  obtain ⟨hrunning, hsteps⟩ := hbound
  rw [stepsLeft_start] at hsteps
  refine ⟨by omega, fun hreturned => ?_⟩
  have hmain : s.mainStops = false := by rw [mainStops, hreturned]; rfl
  have hstops := hrunning.stopping.stopped (hrunning.stopping.returned hreturned)
  rw [hmain] at hstops
  exact hstops.imp_right fun hcallback => hcallback.resolve_left Bool.false_ne_true

/-- The server is gone right after the stream is connected. -/
def untilGone : List Action :=
  [.other .ctrlEstablished, .main 0, .other (.controlMessage TestRun.ackMessage (fun _ => 0) 1),
    .other (.streamEvent 0 (.established 1000)), .main 0, .main 0, .other (.ctrlClosed 0)] ++ List.replicate 7 (.main 0)

theorem client_returns_gone :
    ∃ s, machine.run (start TestRun.lonelyConfig 7) untilGone = some s ∧ s.point = .stopAll .returned ∧
      s.test.isStopped = true ∧ untilGone.countP Action.isMain ≤ 10026 + 11 := by
  have hrun : (machine.run (start TestRun.lonelyConfig 7) untilGone).map (fun s => (s.point, s.signalCallback))
      = some (.stopAll .returned, .returned) := by decide +kernel
  obtain ⟨s, hs, hfound⟩ := Option.map_eq_some_iff.mp hrun
  obtain ⟨hpoint, hcallback⟩ := Prod.mk.inj hfound
  obtain ⟨hsteps, hstopped⟩ := client_returns (by decide +kernel) hs
  have hticks : ((TestRun.lonelyConfig.time * TestRun.lonelyConfig.resolution).floor + 1).toNat = 11 := by decide +kernel
  rw [hticks] at hsteps
  rw [hcallback] at hstopped
  exact ⟨s, hs, hpoint, (hstopped hpoint).resolve_right Bool.false_ne_true, hsteps⟩

end ClientRun

end BatsIperf
