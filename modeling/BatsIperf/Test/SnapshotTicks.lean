import BatsIperf.Test.Ticks
import Mathlib.Data.Nat.Basic

/-!
# How many ticks bring snapshots

`TestFinishState` of a sender and `CheckStreamIntervalReceive` of a receiver count their calls and look at the streams on every multiple of the interval until the time is over. Since the counter is compared before it is incremented, and with `>`, one tick more than the time has passes the comparison.
-/

namespace BatsIperf

/-- The time of a test takes `T` ticks and its interval `p`. -/
structure Timed (config : TestConfig) (T p : ℕ) : Prop where
  time : config.time * config.resolution = T
  interval : stdRound (config.interval * config.resolution) = p

namespace IperfTest

/-- The next tick is neither too late nor between two snapshots. -/
def passesGate (test : IperfTest) : Bool :=
  match test.tick with
  | .ok (_, isSnapshot, _) => isSnapshot
  | .error _ => false

/-- A poll gets to the loop over the streams. A sender that is done takes no tick. -/
def reachesSnapshot (test : IperfTest) : Bool :=
  (test.testConfig.role = .roleReceiver ∨ test.testConfig.role = .roleSender ∧ test.state ≠ .testDone) && test.passesGate

/-- `TestFinishState` returns true. -/
def returnsTrue (test : IperfTest) (now : UInt64) : Bool :=
  match test.testFinishState now with
  | .ok (done, _) => done
  | .error _ => false

/-- A test that is not stopped, with a stream that is not done. -/
def IsAlive (test : IperfTest) : Prop :=
  test.state ≠ .testDone ∧ ∃ stream ∈ test.testStreams, stream.state ≠ .streamDone

instance (test : IperfTest) : Decidable test.IsAlive := inferInstanceAs (Decidable (_ ∧ _))

/-! ### One tick -/

variable {test next : IperfTest} {T p : ℕ}

theorem tick_timed (h : Timed test.testConfig T p) (hp : 0 < p) {n : ℕ} (hn : test.passedTicks = n) :
    test.tick = .ok (decide (T < n), decide (n ≤ T ∧ p ∣ n + 1), { test with passedTicks := n + 1 }) := by
  have hexpired : ((test.passedTicks : ℚ) > test.testConfig.time * test.testConfig.resolution) ↔ T < n := by
    rw [hn, h.time, Int.cast_natCast, gt_iff_lt, Nat.cast_lt]
  have hdvd : ((n : ℤ) + 1).tmod p = 0 ↔ p ∣ n + 1 := by
    rw [← Int.natCast_dvd_natCast, Nat.cast_add, Nat.cast_one]
    exact Int.dvd_iff_tmod_eq_zero.symm
  unfold tick
  dsimp only
  by_cases hlate : T < n
  · rw [if_pos (by rw [decide_eq_true_eq, hexpired]; exact hlate), hn, decide_eq_true hlate,
      decide_eq_false fun hgate => absurd hgate.1 (Nat.not_le.mpr hlate)]
    rfl
  · have hticks : stdRound (test.testConfig.interval * test.testConfig.resolution) ≠ 0 := by
      rw [h.interval]
      exact Int.natCast_ne_zero.mpr hp.ne'
    rw [if_neg (by rw [decide_eq_true_eq, hexpired]; exact hlate), Fault.require_of_true hticks, Fault.ok_bind, hn,
      h.interval, decide_eq_false hlate]
    simp only [hdvd, Nat.not_lt.mp hlate, true_and]
    rfl

theorem passesGate_timed (h : Timed test.testConfig T p) (hp : 0 < p) {n : ℕ} (hn : test.passedTicks = n) :
    test.passesGate = decide (n ≤ T ∧ p ∣ n + 1) := by
  rw [passesGate, tick_timed h hp hn]

theorem testFinishState_passedTicks {now : UInt64} {done : Bool}
    (hrole : test.testConfig.role = .roleReceiver ∨ test.testConfig.role = .roleSender ∧ test.state ≠ .testDone)
    (h : test.testFinishState now = .ok (done, next)) : next.passedTicks = test.passedTicks + 1 := by
  unfold testFinishState at h
  rcases hrole with hrole | ⟨hrole, hrunning⟩
  · rw [if_pos (by rw [hrole]; decide)] at h
    obtain ⟨checked, hchecked, h⟩ := Fault.bind_eq_ok.mp h
    obtain ⟨_, rfl⟩ := Prod.mk.inj (Fault.pure_eq_ok.mp h)
    rw [checkStreamIntervalReceive, if_pos hrole] at hchecked
    obtain ⟨⟨expired, isSnapshot, ticked⟩, htick, hchecked⟩ := Fault.bind_eq_ok.mp hchecked
    obtain rfl := tick_eq htick
    obtain rfl := Fault.pure_eq_ok.mp hchecked
    split <;> rfl
  · rw [if_neg (not_not_intro hrole), if_neg hrunning] at h
    obtain ⟨⟨expired, isSnapshot, ticked⟩, htick, h⟩ := Fault.bind_eq_ok.mp h
    obtain rfl := tick_eq htick
    dsimp only at h
    split at h
    · obtain ⟨_, rfl⟩ := Prod.mk.inj (Fault.pure_eq_ok.mp h)
      rfl
    split at h
    · obtain ⟨_, rfl⟩ := Prod.mk.inj (Fault.pure_eq_ok.mp h)
      rfl
    split at h <;>
    · obtain ⟨_, rfl⟩ := Prod.mk.inj (Fault.pure_eq_ok.mp h)
      rfl

theorem snapshotReport_state (stream : IperfStream) (now : UInt64) : (stream.snapshotReport now).state = stream.state := by
  unfold IperfStream.snapshotReport
  dsimp only
  split <;> rfl

theorem alive_after_snapshots {streams : List IperfStream} {stream : IperfStream} (hstream : stream ∈ streams)
    (halive : stream.state ≠ .streamDone) (now : UInt64) :
    ¬ (streams.map fun stream => if stream.state = .streamDone then stream else stream.snapshotReport now).all
      (fun stream => stream.state == .streamDone) = true := by
  intro hall
  have hdone := List.all_eq_true.mp hall _ (List.mem_map_of_mem hstream)
  rw [if_neg halive, snapshotReport_state, beq_iff_eq] at hdone
  exact halive hdone

/-- A sender with a stream alive ends its polls when the time is over, and not before. -/
theorem returnsTrue_iff (h : Timed test.testConfig T p) (hp : 0 < p) (hrole : test.testConfig.role = .roleSender)
    (halive : test.IsAlive) {n : ℕ} (hn : test.passedTicks = n) (now : UInt64) : test.returnsTrue now = true ↔ T < n := by
  obtain ⟨hrunning, stream, hstream, hnotDone⟩ := halive
  rw [returnsTrue, testFinishState, if_neg (not_not_intro hrole), if_neg hrunning, tick_timed h hp hn, Fault.ok_bind]
  dsimp only
  by_cases hlate : T < n
  · rw [if_pos (decide_eq_true hlate)]
    exact iff_of_true rfl hlate
  · rw [if_neg (by rw [decide_eq_true_eq]; exact hlate)]
    by_cases hgate : n ≤ T ∧ p ∣ n + 1
    · rw [if_neg (not_not_intro (decide_eq_true hgate)), if_neg (alive_after_snapshots hstream hnotDone now)]
      exact iff_of_false Bool.false_ne_true hlate
    · rw [if_pos (by rw [decide_eq_true_eq]; exact hgate)]
      exact iff_of_false Bool.false_ne_true hlate

/-- The streams of a sender are looked at where its poll gets to the loop over them. -/
theorem testFinishState_streams {now : UInt64} {done : Bool} (hrole : test.testConfig.role = .roleSender)
    (h : test.testFinishState now = .ok (done, next)) :
    next.testStreams = if test.reachesSnapshot then
        test.testStreams.map fun stream => if stream.state = .streamDone then stream else stream.snapshotReport now
      else test.testStreams := by
  unfold testFinishState at h
  rw [if_neg (not_not_intro hrole)] at h
  by_cases hdone : test.state = .testDone
  · rw [if_pos hdone] at h
    obtain ⟨_, rfl⟩ := Prod.mk.inj (Except.ok.inj h)
    rw [reachesSnapshot, if_neg (by simp [hrole, hdone])]
  · rw [if_neg hdone] at h
    obtain ⟨⟨expired, isSnapshot, ticked⟩, htick, h⟩ := Fault.bind_eq_ok.mp h
    have hreaches : test.reachesSnapshot = isSnapshot := by
      rw [reachesSnapshot, passesGate, htick]
      simp [hrole, hdone]
    have hexpired : expired = true → isSnapshot = false := by
      intro hexpired
      unfold tick at htick
      dsimp only at htick
      split at htick
      · obtain ⟨_, htick⟩ := Prod.mk.inj (Fault.pure_eq_ok.mp htick)
        exact (Prod.mk.inj htick).1.symm
      · obtain ⟨_, _, htick⟩ := Fault.bind_eq_ok.mp htick
        obtain ⟨hnot, _⟩ := Prod.mk.inj (Fault.pure_eq_ok.mp htick)
        exact absurd (hnot.trans hexpired) Bool.false_ne_true
    obtain rfl := tick_eq htick
    rw [hreaches]
    dsimp only at h
    split at h
    · rename_i hlate
      obtain ⟨_, rfl⟩ := Prod.mk.inj (Fault.pure_eq_ok.mp h)
      rw [if_neg (by rw [hexpired hlate]; decide)]
    split at h
    · rename_i hbetween
      obtain ⟨_, rfl⟩ := Prod.mk.inj (Fault.pure_eq_ok.mp h)
      rw [if_neg hbetween]
    rename_i hsnapshot
    have hsnapshot : isSnapshot = true := by simpa using hsnapshot
    split at h <;>
    · obtain ⟨_, rfl⟩ := Prod.mk.inj (Fault.pure_eq_ok.mp h)
      rw [if_pos hsnapshot]

theorem checkStreamIntervalReceive_streams {now : UInt64} (hrole : test.testConfig.role = .roleReceiver)
    (h : test.checkStreamIntervalReceive now = .ok next) :
    next.testStreams = if test.reachesSnapshot then
        test.testStreams.map fun stream => stream.isIntervalDataReceivedTimeout now
      else test.testStreams := by
  rw [checkStreamIntervalReceive, if_pos hrole] at h
  obtain ⟨⟨expired, isSnapshot, ticked⟩, htick, h⟩ := Fault.bind_eq_ok.mp h
  have hreaches : test.reachesSnapshot = isSnapshot := by
    rw [reachesSnapshot, passesGate, htick]
    simp [hrole]
  obtain rfl := tick_eq htick
  obtain rfl := Fault.pure_eq_ok.mp h
  rw [hreaches]
  cases isSnapshot <;> rfl

end IperfTest

namespace TestRun

variable {config : TestConfig} {T p : ℕ}

def Action.isTick : Action → Bool
  | .tick _ => true
  | _ => false

/-- The number of polls that got to the loop over the streams. -/
def noteSnapshot (s : TestRun) (a : Action) (count : ℕ) : ℕ :=
  if a.isTick && s.test.reachesSnapshot then count + 1 else count

/-- A sender that is alive at its polls, none of which has returned true. -/
def GoesOn (s : TestRun) : Action → Prop
  | .tick now => s.test.IsAlive ∧ s.test.returnsTrue now = false
  | a => a.keepsParameters = true

instance decidableGoesOn (s : TestRun) (a : Action) : Decidable (s.GoesOn a) := by
  unfold GoesOn
  split <;> infer_instance

/-! ### Every step -/

theorem GoesOn.keepsParameters {s : TestRun} {a : Action} (h : s.GoesOn a) : a.keepsParameters = true := by
  cases a with
  | tick => rfl
  | _ => exact h

theorem step_passedTicks {s t : TestRun} {a : Action} (ha : a.keepsParameters = true) (htick : a.isTick = false)
    (h : machine.step s a = some t) : t.test.passedTicks = s.test.passedTicks := by
  have hmoved := step_moved h
  generalize t.test = next at hmoved ⊢
  cases hmoved with
  | @message bytes clock streamId _ sent hhandle =>
    have hcode : actionCode bytes ≠ 2 := by simpa [Action.keepsParameters] using ha
    cases IperfTest.handleControlMessage_handled hhandle with
    | ack _ hacked =>
      rcases IperfTest.handleAckMessage_cases hacked with ⟨_, _, rfl, _⟩ | ⟨_, rfl⟩ | ⟨_, _, rfl⟩ <;> rfl
    | parameters _ hparameters => exact absurd hparameters hcode
    | ready _ hready =>
      rcases IperfTest.handleReadyMessage_cases hready with ⟨_, _, rfl, _⟩ | ⟨_, rfl⟩ <;> rfl
    | summary | done | ignored => rfl
  | parametersSent | summaryStored | polled | streams => rfl
  | ticked => exact absurd htick (by simp [Action.isTick])
  | closed now =>
    rw [IperfTest.stop_eq]
    split <;> rfl
  | stopped now =>
    rw [IperfTest.stop_eq]
    split <;> rfl

def CountsTicks (config : TestConfig) (s : TestRun) (a : Action) : Prop :=
  a.keepsParameters = true ∧
    (a.isTick = true → config.role = .roleReceiver ∨ config.role = .roleSender ∧ s.test.state ≠ .testDone)

theorem step_counts {s t : TestRun} {a : Action} (ha : CountsTicks s.test.testConfig s a) (h : machine.step s a = some t) :
    t.test.passedTicks = s.test.passedTicks + if a.isTick then 1 else 0 := by
  cases htick : a.isTick with
  | false => exact (step_passedTicks ha.1 htick h).trans (Int.add_zero _).symm
  | true =>
    cases a with
    | tick now =>
      obtain ⟨⟨done, next⟩, hpoll, rfl⟩ := Option.map_eq_some_iff.mp h
      exact IperfTest.testFinishState_passedTicks (ha.2 rfl) (Fault.toOption_eq_some.mp hpoll)
    | _ => exact absurd htick Bool.false_ne_true

/-- The ticks that were counted, and the snapshots among them. -/
structure TicksCounted (config : TestConfig) (T p : ℕ) (s : TestRun) (ticks count : ℕ) : Prop where
  testConfig : s.test.testConfig = config
  passedTicks : s.test.passedTicks = ticks
  snapshots : count = min ticks (T + 1) / p

theorem step_counted {s t : TestRun} {a : Action} {ticks count : ℕ} (htimed : Timed config T p) (hp : 0 < p)
    (h : TicksCounted config T p s ticks count) (ha : CountsTicks config s a) (hstep : machine.step s a = some t) :
    TicksCounted config T p t (if a.isTick then ticks + 1 else ticks) (s.noteSnapshot a count) := by
  have hcounts := step_counts (h.testConfig.symm ▸ ha) hstep
  refine ⟨(step_sameClock ha.1 hstep).testConfig.trans h.testConfig, ?_, ?_⟩
  · rw [hcounts, h.passedTicks]
    split <;> rfl
  · unfold noteSnapshot
    cases htick : a.isTick with
    | false =>
      simp only [Bool.false_and, Bool.false_eq_true, if_false]
      exact h.snapshots
    | true =>
      have hrole := ha.2 htick
      rw [← h.testConfig] at htimed hrole
      have hreaches : s.test.reachesSnapshot = decide (ticks ≤ T ∧ p ∣ ticks + 1) := by
        rw [IperfTest.reachesSnapshot, decide_eq_true hrole, Bool.true_and, IperfTest.passesGate_timed htimed hp h.passedTicks]
      have hcount := h.snapshots
      simp only [Bool.true_and, hreaches, decide_eq_true_eq, if_true]
      by_cases hlate : ticks ≤ T
      · rw [Nat.min_eq_left (by omega)] at hcount ⊢
        rw [Nat.succ_div, hcount]
        simp only [hlate, true_and]
        split <;> rfl
      · rw [if_neg fun hgate => hlate hgate.1, hcount, Nat.min_eq_right (by omega), Nat.min_eq_right (by omega)]

/-! ### Every run -/

theorem run_counted {s₀ s : TestRun} {acts : List Action} {ticks count : ℕ} (htimed : Timed config T p) (hp : 0 < p)
    (h : TicksCounted config T p s₀ ticks count) (hacts : machine.Respects (CountsTicks config) s₀ acts)
    (hrun : machine.run s₀ acts = some s) :
    TicksCounted config T p s (ticks + acts.countP Action.isTick) (machine.record noteSnapshot count s₀ acts) := by
  induction acts generalizing s₀ ticks count with
  | nil => exact Option.some.inj hrun ▸ h
  | cons a rest ih =>
    obtain ⟨u, hu, hrest⟩ := Machine.run_cons.mp hrun
    have hnext := ih (step_counted htimed hp h hacts.1 hu) (hacts.2 u hu) hrest
    rw [List.countP_cons, Machine.record, hu]
    convert hnext using 1
    split <;> omega

theorem TicksCounted.late {s : TestRun} {ticks count : ℕ} (h : TicksCounted config T p s ticks count) (hlate : T < ticks) :
    count = (T + 1) / p := by
  rw [h.snapshots, Nat.min_eq_right hlate]

theorem counted_start {s₀ : TestRun} (h : s₀.test.passedTicks = 0) : TicksCounted s₀.test.testConfig T p s₀ 0 0 :=
  ⟨rfl, h, (Nat.zero_div p).symm⟩

/-- The tick that is one too many is a multiple of the interval only where every tick is. -/
theorem succ_div_eq_iff (hdvd : p ∣ T) : (T + 1) / p = T / p ↔ p ≠ 1 := by
  have hone : p ∣ T + 1 ↔ p = 1 := (Nat.dvd_add_right hdvd).trans Nat.dvd_one
  rw [Nat.succ_div, Ne, ← hone]
  split
  · rename_i htick
    exact iff_of_false (by omega) (not_not_intro htick)
  · rename_i htick
    exact iff_of_true rfl htick

/-- Whose time takes `T` ticks and whose interval `p`, which divides `T`: a sender that stays alive takes its snapshots `T / p` times before its poll returns true, and a receiver that is polled more than `T` times as often, exactly where an interval is not one tick. -/
theorem snapshots_iff (hp : 0 < p) (hdvd : p ∣ T) :
    (∀ (s₀ s : TestRun) (acts : List Action) (now : UInt64), Timed s₀.test.testConfig T p →
        s₀.test.testConfig.role = .roleSender → s₀.test.passedTicks = 0 → machine.Respects GoesOn s₀ acts →
        machine.run s₀ acts = some s → s.test.IsAlive → s.test.returnsTrue now = true →
        (machine.record noteSnapshot 0 s₀ acts = T / p ↔ p ≠ 1)) ∧
      ∀ (s₀ s : TestRun) (acts : List Action), Timed s₀.test.testConfig T p →
        s₀.test.testConfig.role = .roleReceiver → s₀.test.passedTicks = 0 → (∀ a ∈ acts, a.keepsParameters = true) →
        machine.run s₀ acts = some s → T < acts.countP Action.isTick →
        (machine.record noteSnapshot 0 s₀ acts = T / p ↔ p ≠ 1) := by
  constructor
  · intro s₀ s acts now htimed hrole hfirst hgoesOn hrun halive hdone
    have hacts : machine.Respects (CountsTicks s₀.test.testConfig) s₀ acts := by
      refine hgoesOn.imp fun u a ha => ⟨ha.keepsParameters, fun htick => .inr ⟨hrole, ?_⟩⟩
      cases a with
      | tick now => exact ha.1.1
      | _ => exact absurd htick Bool.false_ne_true
    have hcounted := run_counted htimed hp (counted_start hfirst) hacts hrun
    rw [← hcounted.testConfig] at htimed hrole
    have hlate := (IperfTest.returnsTrue_iff htimed hp hrole halive hcounted.passedTicks now).mp hdone
    rw [hcounted.late hlate, succ_div_eq_iff hdvd]
  · intro s₀ s acts htimed hrole hfirst hkeeps hrun hlate
    have hacts : machine.Respects (CountsTicks s₀.test.testConfig) s₀ acts :=
      (Machine.respects_of_mem hkeeps s₀).imp fun u a ha => ⟨ha, fun _ => .inl hrole⟩
    have hcounted := run_counted htimed hp (counted_start hfirst) hacts hrun
    rw [hcounted.late (by omega), succ_div_eq_iff hdvd]

def twoTicks (interval : ℚ) : TestConfig := { protocol := 1, time := 2, interval := interval }

/-- Up to the start of the streams, and three polls. -/
def threePolls : List Action :=
  [.ctrlEstablished, .controlMessage ackMessage (fun _ => 0) 1, .controlMessage readyMessage (fun _ => 0) 1,
    .tick 1000, .tick 2000, .tick 3000]

def polledReceiver (interval : ℚ) : TestRun where
  test := { testConfig := { twoTicks interval with role := .roleReceiver }, testId := 7 }

theorem snapshots_iff_two :
    (∃ s, machine.run (start (twoTicks 2) 7) threePolls = some s ∧ s.test.returnsTrue 4000 = true ∧
        machine.record noteSnapshot 0 (start (twoTicks 2) 7) threePolls = 2 / 2) ∧
      ∃ s, machine.run (polledReceiver 2) [.tick 1000, .tick 2000, .tick 3000] = some s ∧
        machine.record noteSnapshot 0 (polledReceiver 2) [.tick 1000, .tick 2000, .tick 3000] = 2 / 2 := by
  obtain ⟨hsender, hreceiver⟩ := snapshots_iff (show 0 < 2 by decide) (dvd_refl 2)
  constructor
  · have hrun : (machine.run (start (twoTicks 2) 7) threePolls).map (fun s =>
        (decide s.test.IsAlive, s.test.returnsTrue 4000)) = some (true, true) := by decide +kernel
    have htimed : Timed (start (twoTicks 2) 7).test.testConfig 2 2 := ⟨by decide +kernel, by decide +kernel⟩
    have hgoesOn : machine.Respects GoesOn (start (twoTicks 2) 7) threePolls := by decide +kernel
    obtain ⟨s, hs, hend⟩ := Option.map_eq_some_iff.mp hrun
    obtain ⟨halive, hdone⟩ := Prod.mk.inj hend
    refine ⟨s, hs, hdone, ?_⟩
    exact (hsender _ s threePolls 4000 htimed rfl rfl hgoesOn hs (of_decide_eq_true halive) hdone).mpr (by decide)
  · have htimed : Timed (polledReceiver 2).test.testConfig 2 2 := ⟨by decide +kernel, by decide +kernel⟩
    have hruns : (machine.run (polledReceiver 2) [.tick 1000, .tick 2000, .tick 3000]).isSome = true := by decide +kernel
    obtain ⟨s, hs⟩ := Option.isSome_iff_exists.mp hruns
    refine ⟨s, hs, ?_⟩
    exact (hreceiver _ s _ htimed rfl rfl (by decide) hs (by decide)).mpr (by decide)

/-- With an interval of one tick a time of two ticks brings three snapshots at both ends. -/
theorem snapshot_too_many_counterexample :
    Timed (twoTicks 1) 2 1 ∧ machine.Respects GoesOn (start (twoTicks 1) 7) threePolls ∧
      (∃ s, machine.run (start (twoTicks 1) 7) threePolls = some s ∧ s.test.IsAlive ∧ s.test.returnsTrue 4000 = true ∧
        machine.record noteSnapshot 0 (start (twoTicks 1) 7) threePolls = 3) ∧
      machine.record noteSnapshot 0 (polledReceiver 1) [.tick 1000, .tick 2000, .tick 3000] = 3 := by
  have hrun : (machine.run (start (twoTicks 1) 7) threePolls).map (fun s =>
      (decide s.test.IsAlive, s.test.returnsTrue 4000)) = some (true, true) := by decide +kernel
  obtain ⟨s, hs, hend⟩ := Option.map_eq_some_iff.mp hrun
  obtain ⟨halive, hdone⟩ := Prod.mk.inj hend
  refine ⟨⟨by decide +kernel, by decide +kernel⟩, by decide +kernel, ⟨s, hs, of_decide_eq_true halive, hdone, ?_⟩, ?_⟩
  · decide +kernel
  · decide +kernel

end TestRun

end BatsIperf
