import BatsIperf.Test.StateOrder
import Mathlib.Tactic.Linarith

/-!
# The ticks of a test

Every poll of a test counts a tick and, until the time is over, divides the number of ticks by that of one interval, which is rounded. A server takes the interval from the parameters it received, in hundredths of a second, and a client from its user, and neither of them asks for its size.
-/

namespace BatsIperf

open Octets

theorem stdRound_eq_zero_iff {x : ℚ} : stdRound x = 0 ↔ |x| < 1 / 2 := by
  unfold stdRound
  split
  · rename_i hpos
    have hfloor : (x + 1 / 2).floor = ⌊x + 1 / 2⌋ := rfl
    rw [hfloor, Int.floor_eq_zero_iff, Set.mem_Ico, abs_of_nonneg hpos]
    constructor
    · rintro ⟨_, hlt⟩
      linarith
    · intro hlt
      exact ⟨by linarith, by linarith⟩
  · rename_i hneg
    have hneg : x < 0 := not_le.mp hneg
    have hfloor : (-x + 1 / 2).floor = ⌊-x + 1 / 2⌋ := rfl
    rw [neg_eq_zero, hfloor, Int.floor_eq_zero_iff, Set.mem_Ico, abs_of_neg hneg]
    constructor
    · rintro ⟨_, hlt⟩
      linarith
    · intro hlt
      exact ⟨by linarith, by linarith⟩

namespace IperfTest

/-- The ticks that were counted are more than the time of the test takes. -/
def IsExpired (test : IperfTest) : Prop := test.testConfig.time * test.testConfig.resolution < test.passedTicks

instance (test : IperfTest) : Decidable (IsExpired test) := inferInstanceAs (Decidable (_ < _))

/-- An interval takes at least half a tick, so the number of its ticks is not rounded to zero. -/
def HasTicks (config : TestConfig) : Prop := 1 / 2 ≤ |config.interval * config.resolution|

theorem tick_avoids_iff {test : IperfTest} :
    Fault.Avoids .terminated test.tick ↔ HasTicks test.testConfig ∨ test.IsExpired := by
  have hdivisor : stdRound (test.testConfig.interval * test.testConfig.resolution) ≠ 0 ↔ HasTicks test.testConfig := by
    rw [ne_eq, stdRound_eq_zero_iff, not_lt, HasTicks]
  have hdecide : decide ((test.passedTicks : ℚ) > test.testConfig.time * test.testConfig.resolution)
      = decide test.IsExpired := rfl
  unfold tick
  dsimp only
  rw [hdecide]
  by_cases hexpired : test.IsExpired
  · rw [if_pos (decide_eq_true hexpired)]
    exact iff_of_true (Fault.avoids_pure _) (.inr hexpired)
  · rw [if_neg (by rw [decide_eq_true_eq]; exact hexpired), Fault.Avoids, ne_eq,
      Fault.bind_eq_error_iff_of_next fun _ => Fault.avoids_pure _, Fault.require_eq_error, not_not, hdivisor]
    exact (or_iff_left hexpired).symm

theorem checkStreamIntervalReceive_avoids_iff {test : IperfTest} (hrole : test.testConfig.role = .roleReceiver)
    (now : UInt64) : Fault.Avoids .terminated (test.checkStreamIntervalReceive now) ↔
      HasTicks test.testConfig ∨ test.IsExpired := by
  rw [← tick_avoids_iff, checkStreamIntervalReceive, if_pos hrole]
  unfold Fault.Avoids
  rw [ne_eq, Fault.bind_eq_error_iff_of_next]
  rintro ⟨expired, isSnapshot, ticked⟩
  exact Fault.avoids_pure _

/-- The poll of a sender goes wrong in its tick only, and a test that is done takes none. -/
theorem testFinishState_avoids_iff {test : IperfTest} (hrole : test.testConfig.role = .roleSender) (now : UInt64) :
    Fault.Avoids .terminated (test.testFinishState now) ↔
      HasTicks test.testConfig ∨ test.IsExpired ∨ test.state = .testDone := by
  rw [← or_assoc, ← tick_avoids_iff, testFinishState, if_neg (not_not_intro hrole)]
  by_cases hdone : test.state = .testDone
  · rw [if_pos hdone]
    exact iff_of_true (Fault.avoids_ok _) (.inr hdone)
  · rw [if_neg hdone, or_iff_left hdone]
    unfold Fault.Avoids
    rw [ne_eq, Fault.bind_eq_error_iff_of_next]
    rintro ⟨expired, isSnapshot, ticked⟩
    dsimp only
    split
    · exact Fault.avoids_pure _
    · split
      · exact Fault.avoids_pure _
      · split <;> exact Fault.avoids_pure _

/-! ### What the polls work with -/

/-- The configuration is the same, and no tick is taken back. -/
structure SameClock (test next : IperfTest) : Prop where
  testConfig : next.testConfig = test.testConfig
  passedTicks : test.passedTicks ≤ next.passedTicks

theorem SameClock.refl (test : IperfTest) : SameClock test test := ⟨rfl, Int.le_refl _⟩

theorem SameClock.trans {test next last : IperfTest} (hfirst : SameClock test next) (hsecond : SameClock next last) :
    SameClock test last :=
  ⟨hsecond.testConfig.trans hfirst.testConfig, hfirst.passedTicks.trans hsecond.passedTicks⟩

theorem SameClock.polls {test next : IperfTest} (h : SameClock test next)
    (hpolls : HasTicks test.testConfig ∨ test.IsExpired) : HasTicks next.testConfig ∨ next.IsExpired := by
  rw [IsExpired, h.testConfig]
  refine hpolls.imp_right fun hexpired => lt_of_lt_of_le hexpired ?_
  exact Int.cast_le.mpr h.passedTicks

/-- Every message but the parameters leaves the configuration and the ticks alone. -/
theorem handleControlMessage_sameClock {test next : IperfTest} {bytes : Octets} {clock : Nat → UInt64} {streamId : Nat}
    {sent : List Octets} (hcode : actionCode bytes ≠ 2)
    (h : test.handleControlMessage bytes clock streamId = .ok (next, sent)) : SameClock test next := by
  cases handleControlMessage_handled h with
  | ack _ hacked =>
    rcases handleAckMessage_cases hacked with ⟨_, _, rfl, _⟩ | ⟨_, rfl⟩ | ⟨_, _, rfl⟩ <;> exact ⟨rfl, Int.le_refl _⟩
  | parameters _ hparameters => exact absurd hparameters hcode
  | ready _ hready =>
    rcases handleReadyMessage_cases hready with ⟨_, _, rfl, _⟩ | ⟨_, rfl⟩ <;> exact ⟨rfl, Int.le_refl _⟩
  | summary | done | ignored => exact ⟨rfl, Int.le_refl _⟩

theorem checkStreamIntervalReceive_sameClock {test next : IperfTest} {now : UInt64}
    (h : test.checkStreamIntervalReceive now = .ok next) : SameClock test next := by
  unfold checkStreamIntervalReceive at h
  split at h
  · obtain ⟨⟨expired, isSnapshot, ticked⟩, htick, h⟩ := Fault.bind_eq_ok.mp h
    obtain rfl := tick_eq htick
    obtain rfl := Fault.pure_eq_ok.mp h
    split <;> exact ⟨rfl, Int.le_add_one (Int.le_refl _)⟩
  · obtain rfl := Except.ok.inj h
    exact .refl test

theorem testFinishState_sameClock {test next : IperfTest} {now : UInt64} {done : Bool}
    (h : test.testFinishState now = .ok (done, next)) : SameClock test next := by
  unfold testFinishState at h
  split at h
  · obtain ⟨checked, hchecked, h⟩ := Fault.bind_eq_ok.mp h
    obtain ⟨_, rfl⟩ := Prod.mk.inj (Fault.pure_eq_ok.mp h)
    exact checkStreamIntervalReceive_sameClock hchecked
  · split at h
    · obtain ⟨_, rfl⟩ := Prod.mk.inj (Except.ok.inj h)
      exact .refl test
    · obtain ⟨⟨expired, isSnapshot, ticked⟩, htick, h⟩ := Fault.bind_eq_ok.mp h
      obtain rfl := tick_eq htick
      have hticked : ∀ (state : TestState) (streams : List IperfStream), SameClock test
          { test with passedTicks := test.passedTicks + 1, state := state, testStreams := streams } :=
        fun _ _ => ⟨rfl, Int.le_add_one (Int.le_refl _)⟩
      dsimp only at h
      split at h
      · obtain ⟨_, rfl⟩ := Prod.mk.inj (Fault.pure_eq_ok.mp h)
        exact hticked _ _
      split at h
      · obtain ⟨_, rfl⟩ := Prod.mk.inj (Fault.pure_eq_ok.mp h)
        exact hticked _ _
      split at h <;>
      · obtain ⟨_, rfl⟩ := Prod.mk.inj (Fault.pure_eq_ok.mp h)
        exact hticked _ _

theorem stop_sameClock (test : IperfTest) (now : UInt64) : SameClock test (test.stop now) := by
  rw [stop_eq]
  split
  · exact .refl test
  · exact ⟨rfl, Int.le_refl _⟩

end IperfTest

namespace TestRun

def Action.keepsParameters : Action → Bool
  | .controlMessage bytes _ _ => actionCode bytes != 2
  | _ => true

theorem step_sameClock {s t : TestRun} {a : Action} (ha : a.keepsParameters = true) (h : machine.step s a = some t) :
    IperfTest.SameClock s.test t.test := by
  have hmoved := step_moved h
  generalize t.test = next at hmoved ⊢
  cases hmoved with
  | message hhandle => exact IperfTest.handleControlMessage_sameClock (by simpa [Action.keepsParameters] using ha) hhandle
  | parametersSent | summaryStored | polled | streams => exact ⟨rfl, Int.le_refl _⟩
  | ticked htick => exact IperfTest.testFinishState_sameClock htick
  | closed now =>
    have hstop := IperfTest.stop_sameClock { s.test with ctrlChn := false } now
    exact ⟨hstop.testConfig, hstop.passedTicks⟩
  | stopped now => exact IperfTest.stop_sameClock s.test now

theorem run_sameClock {s t : TestRun} {acts : List Action} (hacts : ∀ a ∈ acts, a.keepsParameters = true)
    (hrun : machine.run s acts = some t) : IperfTest.SameClock s.test t.test := by
  have hstep (u : TestRun) (a : Action) (v : TestRun) (hu : IperfTest.SameClock s.test u.test)
      (ha : a.keepsParameters = true) (h : machine.step u a = some v) : IperfTest.SameClock s.test v.test :=
    hu.trans (step_sameClock ha h)
  exact Machine.run_invariant hstep (.refl s.test) (Machine.respects_of_mem hacts s) hrun

end TestRun

namespace IperfTest

/-! ### Intervals and times that were received -/

/-- A parameters message with an interval and a time in hundredths of a second. -/
def parametersBody (interval time : UInt32) (rest : Octets) : Octets :=
  leBytes 4 interval.toNat ++ (leBytes 4 time.toNat ++ rest)

theorem deserialize_parametersBody {config received : TestConfig} {interval time : UInt32} {rest : Octets}
    (h : config.deserialize (parametersBody interval time rest) = some received) :
    received.interval = (interval.toNat : ℚ) / 100 ∧ received.time = (time.toNat : ℚ) / 100 := by
  have hinterval : interval.toNat % 256 ^ 4 = interval.toNat := Nat.mod_eq_of_lt interval.toNat_lt
  have htime : time.toNat % 256 ^ 4 = time.toNat := Nat.mod_eq_of_lt time.toNat_lt
  simp only [TestConfig.deserialize, parametersBody, nextLE_leBytes_append, Option.bind_eq_bind, Option.bind_some,
    hinterval, htime] at h
  obtain ⟨_, _, h⟩ := Option.bind_eq_some_iff.mp h
  obtain ⟨_, _, h⟩ := Option.bind_eq_some_iff.mp h
  obtain ⟨_, _, h⟩ := Option.bind_eq_some_iff.mp h
  obtain rfl := Option.some.inj h
  exact ⟨rfl, rfl⟩

/-- What the polls of a receiver work with once the parameters are handled. -/
structure Polled (test next : IperfTest) (interval time : UInt32) : Prop where
  role : next.testConfig.role = .roleReceiver
  interval : next.testConfig.interval = (interval.toNat : ℚ) / 100
  time : next.testConfig.time = (time.toNat : ℚ) / 100
  resolution : next.testConfig.resolution = test.testConfig.resolution
  passedTicks : next.passedTicks = test.passedTicks

theorem handleTestParameters_polled {test next : IperfTest} {interval time : UInt32} {rest : Octets} {sent : List Octets}
    (hrunning : test.state ≠ .testDone)
    (h : test.handleTestParameters (parametersBody interval time rest) = .ok (next, sent)) :
    Polled test next interval time := by
  unfold handleTestParameters at h
  rw [if_neg hrunning] at h
  obtain ⟨received, hreceived, h⟩ := Fault.bind_eq_ok.mp h
  obtain ⟨rfl, _⟩ := sendAck_inv h
  obtain ⟨hinterval, htime⟩ := deserialize_parametersBody (Fault.need_eq_ok.mp hreceived)
  exact ⟨rfl, hinterval, htime, rfl, rfl⟩

theorem Polled.hasTicks_iff {test next : IperfTest} {interval time : UInt32} (h : Polled test next interval time)
    (hresolution : test.testConfig.resolution = 10) : HasTicks next.testConfig ↔ 5 ≤ interval.toNat := by
  have hnonneg : (0 : ℚ) ≤ (interval.toNat : ℚ) / 100 * 10 := by positivity
  have hcast : 5 ≤ interval.toNat ↔ (5 : ℚ) ≤ (interval.toNat : ℚ) := by exact_mod_cast Iff.rfl
  rw [HasTicks, h.interval, h.resolution, hresolution, abs_of_nonneg hnonneg, hcast]
  constructor <;> intro hle <;> linarith

theorem Polled.isExpired_iff {test next : IperfTest} {interval time : UInt32} (h : Polled test next interval time)
    (hresolution : test.testConfig.resolution = 10) : next.IsExpired ↔ (time.toNat : ℚ) / 10 < test.passedTicks := by
  have hticks : (time.toNat : ℚ) / 100 * 10 = (time.toNat : ℚ) / 10 := by ring
  rw [IsExpired, h.time, h.resolution, hresolution, h.passedTicks, hticks]

/-- With ten ticks a second, a server that has handled parameters polls without a remainder by zero exactly where their interval is at least five hundredths of a second or their time is over already, and a client exactly where its interval is at least a twentieth of a second, its time is over or its test is done. -/
theorem polls_avoid_zero_iff {test next : IperfTest} {interval time : UInt32} {rest : Octets} {sent : List Octets}
    (hresolution : test.testConfig.resolution = 10) (hrunning : test.state ≠ .testDone)
    (h : test.handleTestParameters (parametersBody interval time rest) = .ok (next, sent)) :
    ((∀ (acts : List TestRun.Action) (s : TestRun) (now : UInt64), (∀ a ∈ acts, a.keepsParameters = true) →
        TestRun.machine.run { test := next } acts = some s →
        Fault.Avoids .terminated (s.test.checkStreamIntervalReceive now)) ↔
      5 ≤ interval.toNat ∨ (time.toNat : ℚ) / 10 < test.passedTicks) ∧
    ∀ (client : IperfTest) (now : UInt64), client.testConfig.role = .roleSender → client.testConfig.resolution = 10 →
      (Fault.Avoids .terminated (client.testFinishState now) ↔
        1 / 20 ≤ |client.testConfig.interval| ∨ client.testConfig.time * 10 < client.passedTicks ∨
          client.state = .testDone) := by
  have hpolled := handleTestParameters_polled hrunning h
  rw [← hpolled.hasTicks_iff hresolution, ← hpolled.isExpired_iff hresolution]
  refine ⟨⟨fun hall => ?_, fun hpolls acts s now hacts hrun => ?_⟩, fun client now hrole hten => ?_⟩
  · exact (checkStreamIntervalReceive_avoids_iff hpolled.role 0).mp
      (hall [] { test := next } 0 (fun a ha => absurd ha List.not_mem_nil) rfl)
  · have hsame := TestRun.run_sameClock hacts hrun
    have hrole : s.test.testConfig.role = .roleReceiver := by
      rw [hsame.testConfig]
      exact hpolled.role
    exact (checkStreamIntervalReceive_avoids_iff hrole now).mpr (hsame.polls hpolls)
  · have hticks : HasTicks client.testConfig ↔ 1 / 20 ≤ |client.testConfig.interval| := by
      rw [HasTicks, hten, abs_mul, abs_of_pos (by norm_num : (0 : ℚ) < 10)]
      constructor <;> intro hle <;> linarith
    rw [testFinishState_avoids_iff hrole now, hticks, IsExpired, hten]

/-- A receiver of the server before it handles its first message. -/
def polledTest : IperfTest := { testConfig := { resolution := 10 }, testId := 7, ctrlChn := true }

theorem polls_avoid_zero_iff_second :
    ∃ next sent, polledTest.handleTestParameters (parametersBody 100 1000 [1, 0, 81, 20]) = .ok (next, sent) ∧
      (∀ (acts : List TestRun.Action) (s : TestRun) (now : UInt64), (∀ a ∈ acts, a.keepsParameters = true) →
        TestRun.machine.run { test := next } acts = some s →
        Fault.Avoids .terminated (s.test.checkStreamIntervalReceive now)) ∧
      Fault.Avoids .terminated
        (({ testConfig := { resolution := 10, role := .roleSender }, testId := 7 } : IperfTest).testFinishState 0) := by
  obtain ⟨⟨next, sent⟩, h⟩ := Fault.isOk_iff.mp
    (show (polledTest.handleTestParameters (parametersBody 100 1000 [1, 0, 81, 20])).isOk = true by decide +kernel)
  obtain ⟨hserver, hclient⟩ := polls_avoid_zero_iff rfl (by decide) h
  refine ⟨next, sent, h, hserver.mpr (.inl (by decide)), (hclient _ 0 rfl rfl).mpr (.inl ?_)⟩
  norm_num

/-- An interval of four hundredths of a second is rounded to no tick, and the first poll ends the server. -/
theorem poll_by_zero_counterexample :
    ∃ next sent, polledTest.handleTestParameters (parametersBody 4 1000 [1, 0, 81, 20]) = .ok (next, sent) ∧
      next.checkStreamIntervalReceive 0 = .error .terminated := by
  have hpoll : (polledTest.handleTestParameters (parametersBody 4 1000 [1, 0, 81, 20]) >>= fun handled =>
      handled.1.checkStreamIntervalReceive 0 >>= fun _ => pure ()) = .error .terminated := by
    decide +kernel
  obtain ⟨⟨next, sent⟩, h⟩ := Fault.isOk_iff.mp
    (show (polledTest.handleTestParameters (parametersBody 4 1000 [1, 0, 81, 20])).isOk = true by decide +kernel)
  rw [h, Fault.ok_bind, Fault.bind_eq_error_iff_of_next fun _ => Fault.avoids_pure _] at hpoll
  exact ⟨next, sent, h, hpoll⟩

end IperfTest

end BatsIperf
