import BatsIperf.Foundation.Machine
import Mathlib.Data.List.Induction
import Mathlib.Tactic.Common

/-!
# Loops that send under flow control

The peer of a loop signals that it is full or that it can be written to, and the loop sends again only between these signals. A loop is seen here as part of a machine: which actions are signals, the flag the loop looks at, and which steps are passes that send again.
-/

namespace FlowControl

inductive Signal
  | full | writable
  deriving DecidableEq

/-- What a pass of a loop that repeats a send does. -/
inductive Pass
  | leaves | resends | waits
  deriving DecidableEq

/-- A pass looks for a reason to leave first, and then at the flag. -/
def pass (leave writable : Bool) : Pass :=
  if leave then .leaves else if writable then .resends else .waits

theorem pass_waits_iff {leave writable : Bool} : pass leave writable = .waits ↔ leave = false ∧ writable = false := by
  cases leave <;> cases writable <;> decide

theorem pass_resends_iff {leave writable : Bool} : pass leave writable = .resends ↔ leave = false ∧ writable = true := by
  cases leave <;> cases writable <;> decide

variable {State Action : Type*}

structure RetryLoop (State Action : Type*) where
  signal : Action → Option Signal
  /-- The flag, for as long as the loop exists. -/
  flag : State → Option Bool
  /-- The step is a pass of the loop that sends again. -/
  Resends : State → Action → Prop

/-- The last signal among some actions, if there is one. -/
def lastSignal (signal : Action → Option Signal) (acts : List Action) : Option Signal :=
  (acts.filterMap signal).getLast?

theorem lastSignal_concat (signal : Action → Option Signal) (acts : List Action) (a : Action) :
    lastSignal signal (acts ++ [a]) = (signal a).or (lastSignal signal acts) := by
  rw [lastSignal, List.filterMap_append]
  cases ha : signal a with
  | none => simp [lastSignal, ha]
  | some sig => simp [ha]

namespace RetryLoop

variable (loop : RetryLoop State Action) (m : Machine State Action)

/-- Behind a signal that the peer is full no step of the run sends again, and a pass without a reason to leave would wait. -/
def Obeys (s : State) (acts : List Action) : Prop :=
  ∀ first rest t, acts = first ++ rest → m.run s first = some t → lastSignal loop.signal first = some .full →
    (∀ a, rest.head? = some a → ¬ loop.Resends t a) ∧ ∀ flag, loop.flag t = some flag → pass false flag = .waits

/-- The flag is what the last signal says, and stays as it is between the signals. -/
def Follows : Prop :=
  ∀ s t a flag, m.step s a = some t → loop.flag t = some flag →
    ∃ before, loop.flag s = some before ∧ flag = (loop.signal a).elim before (· == .writable)

variable {loop m}

theorem Follows.flag_eq (h : loop.Follows m) {s t : State} {acts : List Action} {flag : Bool} {sig : Signal}
    (hrun : m.run s acts = some t) (hflag : loop.flag t = some flag) (hsig : lastSignal loop.signal acts = some sig) :
    flag = (sig == .writable) := by
  induction acts using List.reverseRecOn generalizing t flag with
  | nil => exact absurd hsig (by simp [lastSignal])
  | append_singleton acts a ih =>
    obtain ⟨u, hu, hlast⟩ := Machine.run_append.mp hrun
    obtain ⟨v, hstep, hv⟩ := Machine.run_cons.mp hlast
    obtain rfl := Option.some.inj hv
    obtain ⟨before, hbefore, heq⟩ := h u v a flag hstep hflag
    rw [lastSignal_concat] at hsig
    cases ha : loop.signal a with
    | none =>
      rw [ha, Option.none_or] at hsig
      rw [heq, ha]
      exact ih hu hbefore hsig
    | some found =>
      rw [ha, Option.some_or] at hsig
      rw [heq, ha, Option.some.inj hsig]
      rfl

/-- A loop whose flag follows the signals, and that sends again only where the flag is set, obeys them in every run. -/
theorem Follows.obeys (h : loop.Follows m) (hresends : ∀ s a, loop.Resends s a → loop.flag s = some true)
    (s : State) (acts : List Action) : loop.Obeys m s acts := by
  intro first rest t _ hrun hfull
  have hunset (flag : Bool) (hflag : loop.flag t = some flag) : flag = false := h.flag_eq hrun hflag hfull
  refine ⟨fun a _ hsends => ?_, fun flag hflag => pass_waits_iff.mpr ⟨rfl, hunset flag hflag⟩⟩
  exact absurd (hunset true (hresends t a hsends)) (by decide)

/-- A loop whose flag is set behind every signal obeys in the runs in which the peer is never full, and in no others. -/
theorem obeys_iff_never_full (hset : ∀ s t a, m.step s a = some t → loop.signal a = some .full → loop.flag t = some true)
    {s t : State} {acts : List Action} (hrun : m.run s acts = some t) :
    loop.Obeys m s acts ↔ ∀ a ∈ acts, loop.signal a ≠ some .full := by
  constructor
  · intro hobeys a ha hfull
    obtain ⟨first, rest, rfl⟩ := List.append_of_mem ha
    obtain ⟨u, hu, hrest⟩ := Machine.run_append.mp hrun
    obtain ⟨v, hstep, _⟩ := Machine.run_cons.mp hrest
    have hprefix : m.run s (first ++ [a]) = some v := Machine.run_append.mpr ⟨u, hu, Machine.run_cons.mpr ⟨v, hstep, rfl⟩⟩
    have hlast : lastSignal loop.signal (first ++ [a]) = some .full := by rw [lastSignal_concat, hfull, Option.some_or]
    have hwaits := (hobeys (first ++ [a]) rest v (by simp) hprefix hlast).2 true (hset u v a hstep hfull)
    exact absurd hwaits (by decide)
  · rintro hnever first rest t rfl _ hfull
    obtain ⟨a, ha, hsig⟩ := List.mem_filterMap.mp (List.mem_of_getLast? hfull)
    exact absurd hsig (hnever a (List.mem_append_left rest ha))

end RetryLoop

end FlowControl
