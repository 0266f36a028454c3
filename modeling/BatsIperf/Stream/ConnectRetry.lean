import BatsIperf.Foundation.Machine
import BatsIperf.Stream.IperfStream
import Mathlib.Algebra.BigOperators.Intervals

/-!
# Connection attempts

The library may report a failure from inside `StartConnect`, on the thread that calls it. The callback then starts the next attempt inside the one before, and counts it only when the inner call has returned. So the calls that are open are part of the state here: each of them still has events to report, and a retry is counted when its call returns.

An attempt is number `k` when `k` attempts were made before it. Retries that are made inside each other have consecutive numbers, and each but the outermost of them takes one failure that another one has reported. The failures that the last retries report directly are what decides whether there is one attempt too many.
-/

namespace BatsIperf

def ConnEvent.isFailure : ConnEvent → Bool
  | .failed | .timeout => true
  | _ => false

def IperfStream.Retries (stream : IperfStream) (event : ConnEvent) : Prop :=
  event.isFailure ∧ stream.connectRetryCnt < maxConnectRetry

instance (stream : IperfStream) (event : ConnEvent) : Decidable (stream.Retries event) :=
  inferInstanceAs (Decidable (_ ∧ _))

/-- What the library reports from inside each call of `StartConnect`, by the number of the attempt. -/
abbrev DirectEvents := Nat → List ConnEvent

/-- A call of `StartConnect` that has not returned, with the events it has still to report. -/
structure OpenCall where
  pending : List ConnEvent
  isRetry : Bool

structure Connecting where
  stream : IperfStream
  attempts : Nat := 0
  /-- The innermost call is the first. -/
  calls : List OpenCall := []

namespace Connecting

variable (direct : DirectEvents)

/-- `StartConnect` up to the call of the library. -/
def startConnect (s : Connecting) (isRetry : Bool) : Except Fault Connecting := do
  let stream ← s.stream.startConnect
  return {
    stream := stream
    attempts := s.attempts + 1
    calls := { pending := direct s.attempts, isRetry := isRetry } :: s.calls }

/-- The callback, for a retry up to the call of the library. -/
def connectionCallback (s : Connecting) (event : ConnEvent) : Except Fault Connecting :=
  if s.stream.Retries event then do
    -- `StopConnection`
    Fault.require .nullPointer s.stream.connector.isSome
    s.startConnect direct true
  else do
    let stream ← s.stream.connectionCallback event
    return { s with stream := stream }

/-- The innermost call has returned, and the callback counts the retry. -/
def returned (s : Connecting) (call : OpenCall) (calls : List OpenCall) : Connecting :=
  { s with
    stream := if call.isRetry then { s.stream with connectRetryCnt := s.stream.connectRetryCnt + 1 } else s.stream
    calls := calls }

/-- The innermost call reports its next event or returns. -/
def proceed (s : Connecting) : Except Fault Connecting :=
  match s.calls with
  | [] => .ok s
  | call :: calls =>
    match call.pending with
    | [] => .ok (s.returned call calls)
    | event :: pending =>
      { s with calls := { call with pending := pending } :: calls }.connectionCallback direct event

/-- An event comes from the thread of the `IOContext` when this thread is in no call. The other steps are those of the library, of received data and the sending loop, and of whoever starts or stops the stream. -/
inductive Action
  | event (event : ConnEvent)
  | proceed
  | activity (activity : IperfStream.Activity)
  | startSend (now : UInt64)
  | threadStart (now : UInt64)
  | stop (now : UInt64)

def step (s : Connecting) : Action → Option Connecting
  | .event event => if s.calls.isEmpty then (s.connectionCallback direct event).toOption else none
  | .proceed => if s.calls.isEmpty then none else (s.proceed direct).toOption
  | .activity activity => some { s with stream := s.stream.act activity }
  | .startSend now => (s.stream.startSend now).toOption.map fun stream => { s with stream := stream }
  | .threadStart now => some { s with stream := s.stream.sendingThreadStart now }
  | .stop now => some { s with stream := s.stream.stop now }

def machine : Machine Connecting Action where
  step := step direct

/-- A stream that was constructed and has called `StartConnect`. -/
def start (config : TestConfig) (streamId : Nat) (now : UInt64) : Connecting where
  stream := { IperfStream.connecting config streamId now with connState := .connConnecting }
  attempts := 1
  calls := [{ pending := direct 0, isRetry := false }]

theorem startConnect_connecting (config : TestConfig) (streamId : Nat) (now : UInt64) :
    startConnect direct { stream := .connecting config streamId now } false = .ok (start direct config streamId now) := rfl

/-- The open calls go on until they have returned. -/
def finish : Nat → Connecting → Except Fault Connecting
  | 0, s => .ok s
  | n + 1, s => s.proceed direct >>= finish n

/-- The handling ends: every open call returns, where the program goes on. -/
def Returns (s : Connecting) : Prop := ∃ n, ∀ t, finish direct n s = .ok t → t.calls = []

/-- At most one attempt and `max_connect_retry` retries, and no handling that goes on forever. -/
def Bounded (config : TestConfig) : Prop :=
  ∀ streamId now acts s, (machine direct).run (start direct config streamId now) acts = some s →
    s.attempts ≤ IperfStream.maxConnectRetry + 1 ∧ s.Returns direct

/-- How many failures an attempt reports directly. -/
def directFailures (attempt : Nat) : Nat := (direct attempt).countP ConnEvent.isFailure

/-- Of the retries up to number `max_connect_retry`, the last ones together report fewer failures directly than they are. -/
def FewDirectFailures : Prop :=
  ∀ r ∈ Finset.Ico 1 (IperfStream.maxConnectRetry + 1),
    ∑ k ∈ Finset.Ico r (IperfStream.maxConnectRetry + 1), directFailures direct k < IperfStream.maxConnectRetry + 1 - r

instance : Decidable (FewDirectFailures direct) :=
  inferInstanceAs (Decidable (∀ r ∈ Finset.Ico 1 (IperfStream.maxConnectRetry + 1), _))

variable {direct} {s t : Connecting} {event : ConnEvent}

/-! ### What a step does to the attempts -/

/-- The next attempt is made, inside the calls that are open. -/
structure Attempted (direct : DirectEvents) (s t : Connecting) : Prop where
  connectRetryCnt : t.stream.connectRetryCnt = s.stream.connectRetryCnt
  connector : t.stream.connector = s.stream.connector
  config : t.stream.config = s.stream.config
  attempts : t.attempts = s.attempts + 1
  calls : t.calls = { pending := direct s.attempts, isRetry := true } :: s.calls

structure Kept (s t : Connecting) : Prop where
  connectRetryCnt : t.stream.connectRetryCnt = s.stream.connectRetryCnt
  connector : t.stream.connector = s.stream.connector
  config : t.stream.config = s.stream.config
  attempts : t.attempts = s.attempts
  calls : t.calls = s.calls

theorem connectionCallback_attempted (hretries : s.stream.Retries event) (h : s.connectionCallback direct event = .ok t) :
    Attempted direct s t := by
  rw [connectionCallback, if_pos hretries] at h
  obtain ⟨_, _, h⟩ := Fault.bind_eq_ok.mp h
  obtain ⟨stream, hstart, h⟩ := Fault.bind_eq_ok.mp h
  obtain ⟨_, _, hstart⟩ := Fault.bind_eq_ok.mp hstart
  obtain rfl := Fault.pure_eq_ok.mp hstart
  obtain rfl := Fault.pure_eq_ok.mp h
  exact ⟨rfl, rfl, rfl, rfl, rfl⟩

theorem stream_callback_kept {stream next : IperfStream} (hno : ¬ stream.Retries event)
    (h : stream.connectionCallback event = .ok next) :
    next.connectRetryCnt = stream.connectRetryCnt ∧ next.connector = stream.connector := by
  cases event with
  | failed | timeout =>
    have hcount : ¬ stream.connectRetryCnt < IperfStream.maxConnectRetry := fun hless => hno ⟨rfl, hless⟩
    simp only [IperfStream.connectionCallback, if_neg hcount] at h
    obtain rfl := Fault.pure_eq_ok.mp h
    exact ⟨rfl, rfl⟩
  | _ =>
    cases IperfStream.connectionCallback_move h with
    | retried hevent => exact absurd hevent (by simp)
    | _ => exact ⟨rfl, rfl⟩

theorem connectionCallback_kept (hno : ¬ s.stream.Retries event) (h : s.connectionCallback direct event = .ok t) :
    Kept s t := by
  rw [connectionCallback, if_neg hno] at h
  obtain ⟨stream, hstream, h⟩ := Fault.bind_eq_ok.mp h
  obtain rfl := Fault.pure_eq_ok.mp h
  obtain ⟨hcount, hconnector⟩ := stream_callback_kept hno hstream
  exact ⟨hcount, hconnector, (IperfStream.connectionCallback_config hstream).1, rfl, rfl⟩

/-- A failure that nothing is reported of from inside is handled as the callback alone says. -/
theorem connectionCallback_quiet (hretries : s.stream.Retries event) (hquiet : direct s.attempts = []) :
    (s.connectionCallback direct event >>= proceed direct)
      = (s.stream.connectionCallback event).map fun stream => { s with stream := stream, attempts := s.attempts + 1 } := by
  obtain ⟨hfailure, hcount⟩ := id hretries
  rw [connectionCallback, if_pos hretries]
  have hstream : s.stream.connectionCallback event = (do
      Fault.require .nullPointer s.stream.connector.isSome
      let stream ← s.stream.startConnect
      return { stream with connectRetryCnt := stream.connectRetryCnt + 1 }) := by
    cases event with
    | failed | timeout => simp only [IperfStream.connectionCallback, if_pos hcount]
    | _ => exact absurd hfailure Bool.false_ne_true
  rw [hstream]
  by_cases hconnector : s.stream.connector.isSome
  · rw [Fault.require_of_true hconnector, Fault.ok_bind, Fault.ok_bind, startConnect, IperfStream.startConnect,
      Fault.require_of_true hconnector, hquiet]
    rfl
  · rw [Fault.require_eq_error.mpr hconnector]
    rfl

/-- The next step of the innermost call: it returns, or it reports an event, which is an attempt or is not. -/
theorem proceed_cases {call : OpenCall} {calls : List OpenCall} (hcalls : s.calls = call :: calls)
    (h : s.proceed direct = .ok t) :
    (call.pending = [] ∧ t = s.returned call calls) ∨ ∃ event pending, call.pending = event :: pending ∧
      (s.stream.Retries event ∧ Attempted direct { s with calls := { call with pending := pending } :: calls } t ∨
        ¬ s.stream.Retries event ∧ Kept { s with calls := { call with pending := pending } :: calls } t) := by
  unfold proceed at h
  rw [hcalls] at h
  dsimp only at h
  split at h
  · rename_i hpending
    exact .inl ⟨hpending, (Except.ok.inj h).symm⟩
  · rename_i event pending hpending
    refine .inr ⟨event, pending, hpending, ?_⟩
    by_cases hretries : s.stream.Retries event
    · exact .inl ⟨hretries, connectionCallback_attempted hretries h⟩
    · exact .inr ⟨hretries, connectionCallback_kept hretries h⟩

/-! ### Failures that are still to be reported -/

def openRetries (calls : List OpenCall) : Nat := calls.countP OpenCall.isRetry

/-- The failures that open retries have still to report. Those of the first call come when no retry is open. -/
def failuresLeft (calls : List OpenCall) : Nat :=
  (calls.map fun call => if call.isRetry then call.pending.countP ConnEvent.isFailure else 0).sum

theorem failuresLeft_of_none {calls : List OpenCall} (h : openRetries calls = 0) : failuresLeft calls = 0 := by
  rw [failuresLeft, List.sum_eq_zero]
  intro count hcount
  obtain ⟨call, hcall, rfl⟩ := List.mem_map.mp hcount
  exact if_neg (List.countP_eq_zero.mp h call hcall)

theorem openRetries_cons (call : OpenCall) (calls : List OpenCall) :
    openRetries (call :: calls) = openRetries calls + if call.isRetry then 1 else 0 := by
  rw [openRetries, List.countP_cons]
  rfl

theorem failuresLeft_cons (call : OpenCall) (calls : List OpenCall) :
    failuresLeft (call :: calls)
      = (if call.isRetry then call.pending.countP ConnEvent.isFailure else 0) + failuresLeft calls := by
  rw [failuresLeft, List.map_cons, List.sum_cons]
  rfl

def Nested (calls : List OpenCall) : Prop := calls.Pairwise fun inner _ => inner.isRetry = true

/-- The attempts are counted, or open, and as long as there are not too many of them every failure of a retry has become one. -/
structure Counted (direct : DirectEvents) (s : Connecting) : Prop where
  made : s.attempts = 1 + s.stream.connectRetryCnt + openRetries s.calls
  nested : Nested s.calls
  within : s.attempts ≤ IperfStream.maxConnectRetry + 1
  taken : ∀ r, 1 ≤ r → r < s.attempts →
    ∑ k ∈ Finset.Ico r s.attempts, directFailures direct k + r + 1 ≤ failuresLeft s.calls + s.attempts
  outermost : openRetries s.calls ≠ 0 → ∃ r, 1 ≤ r ∧ r < s.attempts ∧
    failuresLeft s.calls + s.attempts ≤ ∑ k ∈ Finset.Ico r s.attempts, directFailures direct k + r + 1

theorem counted_start (config : TestConfig) (streamId : Nat) (now : UInt64) :
    Counted direct (start direct config streamId now) where
  made := rfl
  nested := List.pairwise_singleton _ _
  within := show 1 ≤ IperfStream.maxConnectRetry + 1 by decide
  taken := fun r hr hlt => absurd hlt (Nat.not_lt_of_le hr)
  outermost := fun h => absurd rfl h

theorem Counted.congr (h : Counted direct s) (hattempts : t.attempts = s.attempts)
    (hcount : t.stream.connectRetryCnt + openRetries t.calls = s.stream.connectRetryCnt + openRetries s.calls)
    (hopen : openRetries t.calls ≠ 0 → openRetries s.calls ≠ 0)
    (hleft : failuresLeft t.calls = failuresLeft s.calls) (hnested : Nested t.calls) : Counted direct t where
  made := by
    have hmade := h.made
    omega
  nested := hnested
  within := hattempts ▸ h.within
  taken := by
    rw [hattempts, hleft]
    exact h.taken
  outermost := by
    rw [hattempts, hleft]
    exact fun hretry => h.outermost (hopen hretry)

/-- An attempt takes the failure of an open retry, where there is one, and adds its own. -/
theorem Counted.attempt (h : Counted direct s) (hmore : s.attempts ≤ IperfStream.maxConnectRetry) {calls : List OpenCall}
    (hcount : t.stream.connectRetryCnt = s.stream.connectRetryCnt) (hattempts : t.attempts = s.attempts + 1)
    (hcalls : t.calls = { pending := direct s.attempts, isRetry := true } :: calls)
    (hretries : openRetries calls = openRetries s.calls) (hnested : Nested calls)
    (hleft : failuresLeft s.calls = failuresLeft calls + if openRetries s.calls = 0 then 0 else 1) : Counted direct t := by
  have hopen : openRetries t.calls = openRetries s.calls + 1 := by
    rw [hcalls, openRetries_cons, if_pos rfl, hretries]
  have hfailures : failuresLeft t.calls = directFailures direct s.attempts + failuresLeft calls := by
    rw [hcalls, failuresLeft_cons, if_pos rfl]
    rfl
  have hsum {r : Nat} (hr : r ≤ s.attempts) : ∑ k ∈ Finset.Ico r t.attempts, directFailures direct k
      = ∑ k ∈ Finset.Ico r s.attempts, directFailures direct k + directFailures direct s.attempts := by
    rw [hattempts, Finset.sum_Ico_succ_top hr]
  have hmade := h.made
  constructor
  case made => omega
  case nested =>
    rw [hcalls]
    exact List.pairwise_cons.mpr ⟨fun _ _ => rfl, hnested⟩
  case within => omega
  case taken =>
    intro r hr hlt
    rw [hsum (by omega), hfailures, hattempts]
    by_cases hlast : r = s.attempts
    · subst hlast
      rw [Finset.Ico_self, Finset.sum_empty]
      omega
    · have htaken := h.taken r hr (by omega)
      split at hleft <;> omega
  case outermost =>
    intro _
    by_cases hnone : openRetries s.calls = 0
    · have hempty := failuresLeft_of_none (hretries.trans hnone)
      refine ⟨s.attempts, by omega, by omega, ?_⟩
      rw [hsum (le_refl _), hfailures, hattempts, Finset.Ico_self, Finset.sum_empty]
      omega
    · obtain ⟨r, hr, hlt, houtermost⟩ := h.outermost hnone
      rw [if_neg hnone] at hleft
      refine ⟨r, hr, by omega, ?_⟩
      rw [hsum hlt.le, hfailures, hattempts]
      omega

theorem failuresLeft_returned {call : OpenCall} {calls : List OpenCall} (hcalls : s.calls = call :: calls)
    (hpending : call.pending = []) : failuresLeft s.calls = failuresLeft calls := by
  rw [hcalls, failuresLeft_cons, hpending, List.countP_nil, ite_self, Nat.zero_add]

theorem Counted.returned (h : Counted direct s) {call : OpenCall} {calls : List OpenCall} (hcalls : s.calls = call :: calls)
    (hpending : call.pending = []) : Counted direct (s.returned call calls) := by
  have hretries := openRetries_cons call calls
  have hnested := h.nested
  rw [hcalls, Nested, List.pairwise_cons] at hnested
  apply h.congr
  case hattempts => rfl
  case hcount =>
    rw [hcalls, hretries]
    unfold Connecting.returned
    by_cases hretry : call.isRetry = true
    · rw [if_pos hretry, if_pos hretry]
      dsimp only
      omega
    · rw [if_neg hretry, if_neg hretry]
      rfl
  case hopen =>
    rw [hcalls, hretries]
    intro hopen
    exact Nat.ne_of_gt (Nat.add_pos_left (Nat.pos_of_ne_zero hopen) _)
  case hleft => exact (failuresLeft_returned hcalls hpending).symm
  case hnested => exact hnested.2

section

variable {call : OpenCall} {calls : List OpenCall} {pending : List ConnEvent}

theorem Counted.nested_reported (h : Counted direct s) (hcalls : s.calls = call :: calls) :
    Nested ({ call with pending := pending } :: calls) := by
  have hnested := h.nested
  rw [hcalls] at hnested
  exact List.pairwise_cons.mpr (List.pairwise_cons.mp hnested)

theorem Counted.first_call (h : Counted direct s) (hcalls : s.calls = call :: calls) (hfirst : ¬ call.isRetry = true) :
    openRetries s.calls = 0 := by
  have hnested := h.nested
  rw [hcalls, Nested, List.pairwise_cons] at hnested
  have hlast : calls = [] := List.eq_nil_iff_forall_not_mem.mpr fun behind hbehind => hfirst (hnested.1 behind hbehind)
  rw [hcalls, openRetries_cons, if_neg hfirst, hlast]
  rfl

theorem openRetries_reported (hcalls : s.calls = call :: calls) :
    openRetries ({ call with pending := pending } :: calls) = openRetries s.calls := by
  rw [hcalls, openRetries_cons, openRetries_cons]

theorem Counted.failuresLeft_kept (h : Counted direct s) (hcalls : s.calls = call :: calls)
    (hpending : call.pending = event :: pending) (hretries : ¬ s.stream.Retries event) :
    failuresLeft ({ call with pending := pending } :: calls) = failuresLeft s.calls := by
  have hmade := h.made
  have hwithin := h.within
  rw [hcalls, failuresLeft_cons, failuresLeft_cons, hpending]
  by_cases hretry : call.isRetry = true
  · have hother : ¬ event.isFailure = true := by
      intro hfailure
      have hcount : ¬ s.stream.connectRetryCnt < IperfStream.maxConnectRetry := fun hless => hretries ⟨hfailure, hless⟩
      rw [hcalls, openRetries_cons, if_pos hretry] at hmade
      omega
    rw [if_pos hretry, if_pos hretry, List.countP_cons_of_neg hother]
  · rw [if_neg hretry, if_neg hretry]

theorem Counted.reported_kept (h : Counted direct s) (hcalls : s.calls = call :: calls)
    (hpending : call.pending = event :: pending) (hretries : ¬ s.stream.Retries event)
    (hkept : Kept { s with calls := { call with pending := pending } :: calls } t) : Counted direct t := by
  have hsame : openRetries t.calls = openRetries s.calls := by
    rw [hkept.calls]
    exact openRetries_reported hcalls
  apply h.congr hkept.attempts
  case hcount => rw [hkept.connectRetryCnt, hsame]
  case hopen => exact fun hopen => hsame ▸ hopen
  case hleft =>
    rw [hkept.calls]
    exact h.failuresLeft_kept hcalls hpending hretries
  case hnested =>
    rw [hkept.calls]
    exact h.nested_reported hcalls

/-- Before the last attempt that is allowed, every failure may lead to another one. -/
theorem Counted.reported_attempted (h : Counted direct s) (hcalls : s.calls = call :: calls)
    (hpending : call.pending = event :: pending) (hretries : s.stream.Retries event)
    (hattempted : Attempted direct { s with calls := { call with pending := pending } :: calls } t) :
    Counted direct t ∨ s.attempts = IperfStream.maxConnectRetry + 1 ∧ failuresLeft s.calls ≠ 0 := by
  obtain ⟨hfailure, hcount⟩ := hretries
  have hmade := h.made
  have hwithin := h.within
  have hleft : failuresLeft s.calls
      = failuresLeft ({ call with pending := pending } :: calls) + if call.isRetry then 1 else 0 := by
    rw [hcalls, failuresLeft_cons, failuresLeft_cons, hpending, List.countP_cons_of_pos hfailure]
    dsimp only
    split <;> omega
  by_cases hretry : call.isRetry = true
  · have hopen : openRetries s.calls ≠ 0 := by
      rw [hcalls, openRetries_cons, if_pos hretry]
      exact Nat.succ_ne_zero _
    rw [if_pos hretry] at hleft
    by_cases hfull : s.attempts = IperfStream.maxConnectRetry + 1
    · exact .inr ⟨hfull, hleft ▸ Nat.succ_ne_zero _⟩
    · left
      apply h.attempt (by omega) hattempted.connectRetryCnt hattempted.attempts hattempted.calls
        (openRetries_reported hcalls) (h.nested_reported hcalls)
      rw [if_neg hopen, hleft]
  · left
    have hnone := h.first_call hcalls hretry
    rw [if_neg hretry] at hleft
    apply h.attempt (by omega) hattempted.connectRetryCnt hattempted.attempts hattempted.calls
      (openRetries_reported hcalls) (h.nested_reported hcalls)
    rw [if_pos hnone, hleft]

end

/-- A step of the open calls keeps the count, or it attempts once too often for a failure of an open retry. -/
theorem Counted.proceed (h : Counted direct s) (hproceed : s.proceed direct = .ok t) :
    Counted direct t ∨ s.attempts = IperfStream.maxConnectRetry + 1 ∧ failuresLeft s.calls ≠ 0 := by
  cases hcalls : s.calls with
  | nil =>
    unfold Connecting.proceed at hproceed
    rw [hcalls] at hproceed
    obtain rfl := Except.ok.inj hproceed
    exact .inl h
  | cons call calls =>
    rw [← hcalls]
    rcases proceed_cases hcalls hproceed with ⟨hpending, rfl⟩ | ⟨event, pending, hpending, hreported⟩
    · exact .inl (h.returned hcalls hpending)
    · rcases hreported with ⟨hretries, hattempted⟩ | ⟨hretries, hkept⟩
      · exact h.reported_attempted hcalls hpending hretries hattempted
      · exact .inl (h.reported_kept hcalls hpending hretries hkept)

theorem Counted.outside (h : Counted direct s) (hnone : s.calls = [])
    (hcallback : s.connectionCallback direct event = .ok t) : Counted direct t := by
  have hmade := h.made
  rw [hnone] at hmade
  by_cases hretries : s.stream.Retries event
  · have hattempted := connectionCallback_attempted hretries hcallback
    have hcount := hretries.2
    have hmore : s.attempts ≤ IperfStream.maxConnectRetry := by
      rw [hmade, openRetries, List.countP_nil]
      omega
    apply h.attempt hmore hattempted.connectRetryCnt hattempted.attempts hattempted.calls rfl h.nested
    rw [hnone]
    rfl
  · have hkept := connectionCallback_kept hretries hcallback
    apply h.congr hkept.attempts
    case hcount => rw [hkept.connectRetryCnt, hkept.calls]
    case hopen => exact fun hopen => hkept.calls ▸ hopen
    case hleft => rw [hkept.calls]
    case hnested => exact hkept.calls ▸ h.nested

theorem stop_connectRetryCnt (stream : IperfStream) (now : UInt64) :
    (IperfStream.stop stream now).connectRetryCnt = stream.connectRetryCnt := by
  unfold IperfStream.stop
  split
  · rfl
  · dsimp only
    split
    · exact (IperfStream.finishReport_same { stream with isStopped := true } now).connectRetryCnt
    · rfl

theorem Counted.stream (h : Counted direct s) {stream : IperfStream}
    (hcount : stream.connectRetryCnt = s.stream.connectRetryCnt) : Counted direct { s with stream := stream } :=
  h.congr rfl (congrArg (· + openRetries s.calls) hcount) id rfl h.nested

theorem Counted.step {action : Action} (h : Counted direct s) (hstep : s.step direct action = some t) :
    Counted direct t ∨ s.attempts = IperfStream.maxConnectRetry + 1 ∧ failuresLeft s.calls ≠ 0 := by
  cases action with
  | event event =>
    simp only [Connecting.step] at hstep
    split at hstep
    · rename_i hnone
      exact .inl (h.outside (List.isEmpty_iff.mp hnone) (Fault.toOption_eq_some.mp hstep))
    · exact absurd hstep (by simp)
  | proceed =>
    simp only [Connecting.step] at hstep
    split at hstep
    · exact absurd hstep (by simp)
    · exact h.proceed (Fault.toOption_eq_some.mp hstep)
  | activity activity =>
    obtain rfl := Option.some.inj hstep
    exact .inl (h.stream rfl)
  | startSend now =>
    obtain ⟨stream, hstream, rfl⟩ := Option.map_eq_some_iff.mp hstep
    obtain ⟨_, _, hstream⟩ := Fault.bind_eq_ok.mp (Fault.toOption_eq_some.mp hstream)
    obtain rfl := Fault.pure_eq_ok.mp hstream
    exact .inl (h.stream rfl)
  | threadStart now =>
    obtain rfl := Option.some.inj hstep
    apply Or.inl (h.stream ?_)
    unfold IperfStream.sendingThreadStart
    split
    · rfl
    · exact stop_connectRetryCnt s.stream now
  | stop now =>
    obtain rfl := Option.some.inj hstep
    exact .inl (h.stream (stop_connectRetryCnt s.stream now))

/-! ### Few failures -/

theorem Counted.exhausted (h : Counted direct s) (hfew : FewDirectFailures direct)
    (hfull : s.attempts = IperfStream.maxConnectRetry + 1) : failuresLeft s.calls = 0 := by
  by_cases hnone : openRetries s.calls = 0
  · exact failuresLeft_of_none hnone
  · obtain ⟨r, hr, hlt, houtermost⟩ := h.outermost hnone
    rw [hfull] at hlt houtermost
    have hbelow := hfew r (Finset.mem_Ico.mpr ⟨hr, hlt⟩)
    omega

theorem counted_step (hfew : FewDirectFailures direct) {action : Action} (h : Counted direct s)
    (hstep : (machine direct).step s action = some t) : Counted direct t := by
  rcases h.step hstep with hcounted | ⟨hfull, hleft⟩
  · exact hcounted
  · exact absurd (h.exhausted hfew hfull) hleft

/-- How many reports and returns the open calls have before them. -/
def weight (s : Connecting) : Nat := (s.calls.map fun call => call.pending.length + 1).sum

theorem proceed_weight (hopen : s.calls ≠ []) (h : s.proceed direct = .ok t) :
    t.attempts = s.attempts + 1 ∨ t.attempts = s.attempts ∧ t.weight < s.weight := by
  cases hcalls : s.calls with
  | nil => exact absurd hcalls hopen
  | cons call calls =>
    unfold weight
    rw [hcalls, List.map_cons, List.sum_cons]
    rcases proceed_cases hcalls h with ⟨hpending, rfl⟩ | ⟨event, pending, hpending, hreported⟩
    · refine .inr ⟨rfl, ?_⟩
      dsimp only [returned]
      omega
    · rcases hreported with ⟨_, hattempted⟩ | ⟨_, hkept⟩
      · exact .inl hattempted.attempts
      · refine .inr ⟨hkept.attempts, ?_⟩
        rw [hkept.calls, List.map_cons, List.sum_cons, hpending, List.length_cons]
        dsimp only
        omega

theorem Returns.of_proceed (h : ∀ t, s.proceed direct = .ok t → t.Returns direct) : s.Returns direct := by
  cases hproceed : s.proceed direct with
  | error fault =>
    refine ⟨1, fun t ht => ?_⟩
    rw [finish, hproceed] at ht
    exact absurd ht (by simp [Bind.bind, Except.bind])
  | ok next =>
    obtain ⟨n, hn⟩ := h next hproceed
    refine ⟨n + 1, fun t ht => hn t ?_⟩
    rwa [finish, hproceed] at ht

/-- The attempts that are still allowed and, between two of them, what the open calls have before them bound the handling. -/
theorem Counted.returns (hfew : FewDirectFailures direct) (h : Counted direct s) : s.Returns direct := by
  generalize hallowed : IperfStream.maxConnectRetry + 1 - s.attempts = allowed
  induction allowed using Nat.strong_induction_on generalizing s with
  | _ allowed ihAllowed =>
    generalize hweight : s.weight = weight
    induction weight using Nat.strong_induction_on generalizing s with
    | _ weight ihWeight =>
      by_cases hnone : s.calls = []
      · exact ⟨0, fun t ht => Except.ok.inj ht ▸ hnone⟩
      · apply Returns.of_proceed
        intro t ht
        have hcounted : Counted direct t := by
          rcases h.proceed ht with hcounted | ⟨hfull, hleft⟩
          · exact hcounted
          · exact absurd (h.exhausted hfew hfull) hleft
        have hwithin := hcounted.within
        rcases proceed_weight hnone ht with hattempts | ⟨hattempts, hless⟩
        · exact ihAllowed (IperfStream.maxConnectRetry + 1 - t.attempts) (by omega) hcounted rfl
        · exact ihWeight t.weight (hweight ▸ hless) hcounted (hattempts ▸ hallowed) rfl

theorem bounded_of_few (hfew : FewDirectFailures direct) (config : TestConfig) : Bounded direct config := by
  intro streamId now acts s hrun
  have hcounted : Counted direct s :=
    Machine.run_preserves (fun _ _ _ => counted_step hfew) (counted_start config streamId now) hrun
  exact ⟨hcounted.within, hcounted.returns hfew⟩

/-! ### Too many failures -/

/-- A length that is reported is one the stream takes; any other ends the program. -/
def AcceptedBy (config : TestConfig) (event : ConnEvent) : Prop :=
  ∀ length, event = .established length ∨ event = .idealBufferLength length →
    0 < length ∧ length ≤ IperfStream.dataSize config

theorem switchDataBlockLength_ok {stream : IperfStream} {length : Int} (hpos : 0 < length)
    (hfit : length ≤ IperfStream.dataSize stream.config) : ∃ next, stream.switchDataBlockLength length = .ok next := by
  rw [IperfStream.switchDataBlockLength, Fault.require_of_true hpos, Fault.ok_bind, Fault.require_of_true hfit]
  exact ⟨_, rfl⟩

theorem stream_callback_accepted {stream : IperfStream} (haccepted : AcceptedBy stream.config event)
    (hno : ¬ stream.Retries event) : ∃ next, stream.connectionCallback event = .ok next := by
  cases event with
  | established length =>
    obtain ⟨hpos, hfit⟩ := haccepted length (.inl rfl)
    simp only [IperfStream.connectionCallback]
    split
    · exact switchDataBlockLength_ok hpos hfit
    · exact ⟨stream, rfl⟩
  | idealBufferLength length =>
    obtain ⟨hpos, hfit⟩ := haccepted length (.inr rfl)
    exact switchDataBlockLength_ok hpos hfit
  | failed | timeout =>
    have hcount : ¬ stream.connectRetryCnt < IperfStream.maxConnectRetry := fun hless => hno ⟨rfl, hless⟩
    simp only [IperfStream.connectionCallback, if_neg hcount]
    exact ⟨stream, rfl⟩
  | _ => exact ⟨_, rfl⟩

/-- Nothing that is still to be reported ends the program. -/
structure Ready (config : TestConfig) (s : Connecting) : Prop where
  connector : s.stream.connector.isSome
  sameConfig : s.stream.config = config
  accepted : ∀ call ∈ s.calls, ∀ event ∈ call.pending, AcceptedBy config event

variable {config : TestConfig}

theorem connectionCallback_ok (hready : Ready config s) (haccepted : AcceptedBy config event) :
    ∃ t, s.connectionCallback direct event = .ok t := by
  unfold connectionCallback
  split
  · rw [Fault.require_of_true hready.connector, Fault.ok_bind, startConnect, IperfStream.startConnect,
      Fault.require_of_true hready.connector]
    exact ⟨_, rfl⟩
  · rename_i hretries
    have haccepted : AcceptedBy s.stream.config event := hready.sameConfig ▸ haccepted
    obtain ⟨next, hnext⟩ := stream_callback_accepted haccepted hretries
    rw [hnext]
    exact ⟨_, rfl⟩

theorem ready_start (haccepted : ∀ k, ∀ event ∈ direct k, AcceptedBy config event) (streamId : Nat) (now : UInt64) :
    Ready config (start direct config streamId now) where
  connector := rfl
  sameConfig := rfl
  accepted := by
    intro call hcall event hevent
    obtain rfl := List.mem_singleton.mp hcall
    exact haccepted 0 event hevent

theorem Ready.attempted (hready : Ready config s) (haccepted : ∀ k, ∀ event ∈ direct k, AcceptedBy config event)
    (hattempted : Attempted direct s t) : Ready config t where
  connector := hattempted.connector ▸ hready.connector
  sameConfig := hattempted.config.trans hready.sameConfig
  accepted := by
    rw [hattempted.calls]
    intro call hcall event hevent
    rcases List.mem_cons.mp hcall with rfl | hcall
    · exact haccepted _ event hevent
    · exact hready.accepted call hcall event hevent

theorem Ready.kept (hready : Ready config s) (hkept : Kept s t) : Ready config t where
  connector := hkept.connector ▸ hready.connector
  sameConfig := hkept.config.trans hready.sameConfig
  accepted := hkept.calls ▸ hready.accepted

section

variable {call : OpenCall} {calls : List OpenCall}

theorem Ready.returned (hready : Ready config s) (hcalls : s.calls = call :: calls) :
    Ready config (s.returned call calls) := by
  obtain ⟨hconnector, hconfig, haccepted⟩ := hready
  have hbehind : ∀ behind ∈ calls, ∀ event ∈ behind.pending, AcceptedBy config event := by
    intro behind hmem
    apply haccepted
    rw [hcalls]
    exact List.mem_cons_of_mem call hmem
  unfold Connecting.returned
  split
  · exact ⟨hconnector, hconfig, hbehind⟩
  · exact ⟨hconnector, hconfig, hbehind⟩

theorem Ready.reported {pending : List ConnEvent} (hready : Ready config s) (hcalls : s.calls = call :: calls)
    (hpending : call.pending = event :: pending) :
    AcceptedBy config event ∧ Ready config { s with calls := { call with pending := pending } :: calls } := by
  have haccepted := hready.accepted
  rw [hcalls] at haccepted
  have hcall := haccepted call List.mem_cons_self
  rw [hpending] at hcall
  refine ⟨hcall event List.mem_cons_self, hready.connector, hready.sameConfig, ?_⟩
  intro behind hbehind
  rcases List.mem_cons.mp hbehind with rfl | hbehind
  · exact fun other hother => hcall other (List.mem_cons_of_mem event hother)
  · exact haccepted behind (List.mem_cons_of_mem call hbehind)

end

theorem proceed_ok {call : OpenCall} {calls : List OpenCall} (hready : Ready config s) (hcalls : s.calls = call :: calls) :
    ∃ t, s.proceed direct = .ok t := by
  unfold proceed
  rw [hcalls]
  dsimp only
  split
  · exact ⟨_, rfl⟩
  · rename_i event pending hpending
    obtain ⟨haccepted, hreported⟩ := hready.reported hcalls hpending
    exact connectionCallback_ok hreported haccepted

theorem step_event {event : ConnEvent} (hcalls : s.calls = []) (h : s.connectionCallback direct event = .ok t) :
    (machine direct).step s (.event event) = some t := by
  change (if s.calls.isEmpty then _ else _) = _
  rw [hcalls, List.isEmpty_nil, if_pos rfl, h]
  rfl

theorem step_proceed (hopen : s.calls ≠ []) (h : s.proceed direct = .ok t) :
    (machine direct).step s .proceed = some t := by
  change (if s.calls.isEmpty then _ else _) = _
  rw [if_neg (mt List.isEmpty_iff.mp hopen), h]
  rfl

/-- With no call open, a failure is retried as long as a retry is allowed. -/
theorem Counted.attempt_outside (haccepted : ∀ k, ∀ event ∈ direct k, AcceptedBy config event) (h : Counted direct s)
    (hready : Ready config s) (hcalls : s.calls = []) (hallowed : s.attempts ≤ IperfStream.maxConnectRetry) :
    ∃ t, (machine direct).step s (.event .failed) = some t ∧ t.attempts = s.attempts + 1 ∧ Ready config t ∧
      Counted direct t := by
  have hnofailed : AcceptedBy config .failed := fun _ hlength => absurd hlength (by simp)
  obtain ⟨t, ht⟩ := @connectionCallback_ok direct s .failed config hready hnofailed
  have hretries : s.stream.Retries .failed := by
    have hmade := h.made
    rw [hcalls, openRetries, List.countP_nil] at hmade
    exact ⟨rfl, by omega⟩
  have hattempted := connectionCallback_attempted hretries ht
  exact ⟨t, step_event hcalls ht, hattempted.attempts, hready.attempted haccepted hattempted, h.outside hcalls ht⟩

/-- As long as a retry is allowed or an open one has a failure left, there is a run to the next attempt. -/
theorem Counted.next_attempt (haccepted : ∀ k, ∀ event ∈ direct k, AcceptedBy config event) (h : Counted direct s)
    (hready : Ready config s) (hmore : s.attempts ≤ IperfStream.maxConnectRetry ∨ failuresLeft s.calls ≠ 0) :
    ∃ acts t, (machine direct).run s acts = some t ∧ t.attempts = s.attempts + 1 ∧ Ready config t ∧
      (s.attempts ≤ IperfStream.maxConnectRetry → Counted direct t) := by
  generalize hweight : s.weight = weight
  induction weight using Nat.strong_induction_on generalizing s with
  | _ weight ih =>
    cases hcalls : s.calls with
    | nil =>
      rw [hcalls] at hmore
      have hallowed : s.attempts ≤ IperfStream.maxConnectRetry := hmore.resolve_right fun hleft => hleft rfl
      obtain ⟨t, hstep, hattempts, hready, hcounted⟩ := h.attempt_outside haccepted hready hcalls hallowed
      exact ⟨[.event .failed], t, Machine.run_cons.mpr ⟨t, hstep, rfl⟩, hattempts, hready, fun _ => hcounted⟩
    | cons call calls =>
      have hopen : s.calls ≠ [] := by
        rw [hcalls]
        exact List.cons_ne_nil call calls
      obtain ⟨u, hu⟩ := proceed_ok hready hcalls
      have hstep := step_proceed hopen hu
      -- a step that is no attempt leaves less to do and as many failures
      have hagain (hcounted : Counted direct u) (hattempts : u.attempts = s.attempts) (hu' : Ready config u)
          (hleft : failuresLeft u.calls = failuresLeft s.calls) :
          ∃ acts t, (machine direct).run s acts = some t ∧ t.attempts = s.attempts + 1 ∧ Ready config t ∧
            (s.attempts ≤ IperfStream.maxConnectRetry → Counted direct t) := by
        have hless : u.weight < s.weight := ((proceed_weight hopen hu).resolve_left (by omega)).2
        rw [← hattempts, ← hleft] at hmore
        obtain ⟨acts, t, hrun, hnext⟩ := ih u.weight (hweight ▸ hless) hcounted hu' hmore rfl
        rw [hattempts] at hnext
        exact ⟨.proceed :: acts, t, Machine.run_cons.mpr ⟨u, hstep, hrun⟩, hnext⟩
      rcases proceed_cases hcalls hu with ⟨hpending, rfl⟩ | ⟨event, pending, hpending, hreported⟩
      · exact hagain (h.returned hcalls hpending) rfl (hready.returned hcalls) (failuresLeft_returned hcalls hpending).symm
      · obtain ⟨_, hready⟩ := hready.reported hcalls hpending
        rcases hreported with ⟨hretries, hattempted⟩ | ⟨hretries, hkept⟩
        · refine ⟨[.proceed], u, Machine.run_cons.mpr ⟨u, hstep, rfl⟩, hattempted.attempts,
            hready.attempted haccepted hattempted, fun hallowed => ?_⟩
          rcases h.proceed hu with hcounted | ⟨hfull, _⟩
          · exact hcounted
          · omega
        · apply hagain (h.reported_kept hcalls hpending hretries hkept) hkept.attempts (hready.kept hkept)
          rw [hkept.calls]
          exact h.failuresLeft_kept hcalls hpending hretries

theorem attempts_reached (haccepted : ∀ k, ∀ event ∈ direct k, AcceptedBy config event) (streamId : Nat) (now : UInt64)
    {n : Nat} (hn : n ≤ IperfStream.maxConnectRetry) :
    ∃ acts s, (machine direct).run (start direct config streamId now) acts = some s ∧ s.attempts = n + 1 ∧
      Ready config s ∧ Counted direct s := by
  induction n with
  | zero => exact ⟨[], _, rfl, rfl, ready_start haccepted streamId now, counted_start config streamId now⟩
  | succ n ih =>
    obtain ⟨acts, s, hrun, hattempts, hready, hcounted⟩ := ih (by omega)
    obtain ⟨more, t, hmore, hnext, hready, hkeeps⟩ := hcounted.next_attempt haccepted hready (.inl (by omega))
    exact ⟨acts ++ more, t, Machine.run_append.mpr ⟨s, hrun, hmore⟩, by omega, hready, hkeeps (by omega)⟩

theorem few_of_bounded (haccepted : ∀ k, ∀ event ∈ direct k, AcceptedBy config event) (h : Bounded direct config) :
    FewDirectFailures direct := by
  intro r hr
  obtain ⟨hpos, hlt⟩ := Finset.mem_Ico.mp hr
  obtain ⟨acts, s, hrun, hattempts, hready, hcounted⟩ := attempts_reached haccepted 0 0 (le_refl _)
  by_contra hmany
  have htaken := hcounted.taken r hpos (hattempts ▸ hlt)
  rw [hattempts] at htaken
  have hleft : failuresLeft s.calls ≠ 0 := by omega
  obtain ⟨more, t, hmore, hnext, _⟩ := hcounted.next_attempt haccepted hready (.inr hleft)
  have hwithin := (h 0 0 (acts ++ more) t (Machine.run_append.mpr ⟨s, hrun, hmore⟩)).1
  omega

/-- A stream makes at most `max_connect_retry + 1` attempts, and every failure is handled in finitely many steps, where the last retries report few failures directly, and only there, unless what the library reports ends the program before. -/
theorem attempts_bounded_iff (direct : DirectEvents) (config : TestConfig) :
    (FewDirectFailures direct → Bounded direct config) ∧
      ((∀ k, ∀ event ∈ direct k, AcceptedBy config event) → Bounded direct config → FewDirectFailures direct) :=
  ⟨fun hfew => bounded_of_few hfew config, few_of_bounded⟩

/-- A library whose first call reports a failure directly. -/
def failingOnce : DirectEvents := fun attempt => if attempt = 0 then [.failed] else []

theorem attempts_bounded_failingOnce : Bounded failingOnce {} ∧ FewDirectFailures failingOnce := by
  have hbounded : Bounded failingOnce {} := (attempts_bounded_iff failingOnce {}).1 (by decide)
  refine ⟨hbounded, (attempts_bounded_iff failingOnce {}).2 ?_ hbounded⟩
  intro k event hevent length hlength
  unfold failingOnce at hevent
  split at hevent
  · obtain rfl := List.mem_singleton.mp hevent
    exact absurd hlength (by simp)
  · exact absurd hevent List.not_mem_nil

/-- Where every call reports a failure first, each of them is made inside the one before, and no retry is ever counted. -/
theorem finish_failing (hfirst : ∀ k, ∃ event rest, direct k = event :: rest ∧ event.isFailure)
    (hconnector : s.stream.connector.isSome) (hcount : s.stream.connectRetryCnt < IperfStream.maxConnectRetry)
    {call : OpenCall} {calls : List OpenCall} {pending : List ConnEvent} (hcalls : s.calls = call :: calls)
    (hpending : call.pending = event :: pending) (hfailure : event.isFailure) (n : Nat) :
    ∃ t, finish direct n s = .ok t ∧ t.attempts = s.attempts + n ∧ t.calls ≠ [] := by
  induction n generalizing s call calls event pending with
  | zero => exact ⟨s, rfl, rfl, hcalls ▸ List.cons_ne_nil call calls⟩
  | succ n ih =>
    have hretries : s.stream.Retries event := ⟨hfailure, hcount⟩
    obtain ⟨next, hnext⟩ : ∃ next, s.proceed direct = .ok next := by
      unfold proceed
      rw [hcalls]
      dsimp only
      rw [hpending]
      dsimp only
      rw [connectionCallback, if_pos hretries, Fault.require_of_true hconnector, Fault.ok_bind, startConnect,
        IperfStream.startConnect, Fault.require_of_true hconnector]
      exact ⟨_, rfl⟩
    rcases proceed_cases hcalls hnext with ⟨hempty, _⟩ | ⟨reported, rest, hreported, hstep⟩
    · rw [hpending] at hempty
      exact absurd hempty (List.cons_ne_nil event pending)
    · obtain ⟨rfl, rfl⟩ := List.cons.inj (hpending.symm.trans hreported)
      have hattempted := (hstep.resolve_right fun hkept => hkept.1 hretries).2
      obtain ⟨first, behind, hdirect, hfails⟩ := hfirst s.attempts
      have hinside : next.stream.connector.isSome := hattempted.connector ▸ hconnector
      have huncounted : next.stream.connectRetryCnt < IperfStream.maxConnectRetry := hattempted.connectRetryCnt ▸ hcount
      obtain ⟨t, ht, hattempts, hopen⟩ := ih hinside huncounted hattempted.calls hdirect hfails
      refine ⟨t, ?_, ?_, hopen⟩
      · rw [finish, hnext, Fault.ok_bind, ht]
      · rw [hattempts, hattempted.attempts]
        exact Nat.add_right_comm s.attempts 1 n

/-- With a library that reports a failure from inside every call, the attempts have no bound and the first one does not return. -/
theorem direct_failures_counterexample :
    (∀ n, ∃ t, finish (fun _ => [.failed]) n (start (fun _ => [.failed]) {} 0 0) = .ok t ∧ t.attempts = n + 1) ∧
      ¬ (start (fun _ => [.failed]) {} 0 0).Returns (fun _ => [.failed]) ∧ ¬ Bounded (fun _ => [.failed]) {} := by
  have hfirst (k : Nat) : ∃ event rest, (fun _ => [.failed] : DirectEvents) k = event :: rest ∧ event.isFailure :=
    ⟨.failed, [], rfl, rfl⟩
  have hfinish (n : Nat) := @finish_failing (fun _ => [.failed]) (start (fun _ => [.failed]) {} 0 0) .failed hfirst rfl
    (by decide) _ _ _ rfl rfl rfl n
  have hnever : ¬ (start (fun _ => [.failed]) {} 0 0).Returns (fun _ => [.failed]) := by
    rintro ⟨n, hn⟩
    obtain ⟨t, ht, _, hopen⟩ := hfinish n
    exact hopen (hn t ht)
  refine ⟨fun n => ?_, hnever, fun hbounded => hnever (hbounded 0 0 [] _ rfl).2⟩
  obtain ⟨t, ht, hattempts, _⟩ := hfinish n
  exact ⟨t, ht, hattempts.trans (Nat.add_comm 1 n)⟩

end Connecting

end BatsIperf
