import BatsIperf.Foundation.FlowControl
import BatsIperf.Stream.SendCount

/-!
# The retry loops of a stream

`StartSend` and `SendFIN` repeat a send that was refused. A pass of either loop leaves, sends again or waits, as the library of such loops has it; `ConnectionCallback` sets the flag on both of the events it should tell apart.
-/

namespace BatsIperf

open FlowControl

/-- The events of a connection that say whether it takes data. -/
def connSignal : ConnEvent → Option Signal
  | .bufferFull => some .full
  | .writable => some .writable
  | _ => none

theorem connSignal_full_iff {event : ConnEvent} : connSignal event = some .full ↔ event = .bufferFull := by
  cases event <;> simp [connSignal]

namespace LiveStream

variable {Recorder : Type}

/-- The pass the thread is about to take, where it is in one of the two loops. -/
def retryPass (s : LiveStream Recorder) : Option Pass :=
  match s.point with
  | .retry _ => some (pass (s.state != .streamStart || s.hasErrInSend) s.isWritable)
  | .finRetry => some (pass (s.state == .streamDone || s.hasErrInSend) s.isWritable)
  | _ => none

def signalOf : Action → Option Signal
  | .event event => connSignal event
  | _ => none

theorem signalOf_full_iff {a : Action} : signalOf a = some .full ↔ a = .event .bufferFull := by
  cases a with
  | event event => rw [signalOf, connSignal_full_iff, Action.event.injEq]
  | _ => exact iff_of_false (by simp [signalOf]) (by simp)

def retryLoop : RetryLoop (LiveStream Recorder) Action where
  signal := signalOf
  flag s := some s.isWritable
  Resends s a := (∃ input, a = .thread input) ∧ s.sendingThread = .sending ∧ s.retryPass = some .resends

/-! ### The passes are the steps of the thread -/

theorem retryPass_eq_some {s : LiveStream Recorder} {p : Pass} (h : s.retryPass = some p) :
    (∃ length, s.point = .retry length ∧ p = pass (s.state != .streamStart || s.hasErrInSend) s.isWritable) ∨
      s.point = .finRetry ∧ p = pass (s.state == .streamDone || s.hasErrInSend) s.isWritable := by
  unfold retryPass at h
  split at h
  · rename_i length hpoint
    exact .inl ⟨length, hpoint, (Option.some.inj h).symm⟩
  · rename_i hpoint
    exact .inr ⟨hpoint, (Option.some.inj h).symm⟩
  · exact absurd h (by simp)

theorem loopStep_of_resends {s : LiveStream Recorder} (input : ThreadInput) (h : s.retryPass = some .resends) :
    ∃ length sent unsent, s.loopStep input = s.sendData length input.sendOk sent unsent := by
  rcases retryPass_eq_some h with ⟨length, hpoint, hpass⟩ | ⟨hpoint, hpass⟩
  · obtain ⟨hleave, hwritable⟩ := pass_resends_iff.mp hpass.symm
    have hstay : ¬ (s.state ≠ .streamStart ∨ s.hasErrInSend = true) := by simpa using hleave
    exact ⟨length, .countBytes length, .retry length, by simp only [loopStep, hpoint, if_neg hstay, if_pos hwritable]⟩
  · obtain ⟨hleave, hwritable⟩ := pass_resends_iff.mp hpass.symm
    have hstay : ¬ (s.state = .streamDone ∨ s.hasErrInSend = true) := by simpa using hleave
    exact ⟨s.idealLength, .finCountBytes, .finRetry, by simp only [loopStep, hpoint, if_neg hstay, if_pos hwritable]⟩

theorem loopStep_of_waits {s : LiveStream Recorder} (input : ThreadInput) (h : s.retryPass = some .waits) :
    s.loopStep input = .ok s := by
  rcases retryPass_eq_some h with ⟨length, hpoint, hpass⟩ | ⟨hpoint, hpass⟩
  · obtain ⟨hleave, hwritable⟩ := pass_waits_iff.mp hpass.symm
    have hstay : ¬ (s.state ≠ .streamStart ∨ s.hasErrInSend = true) := by simpa using hleave
    have hfull : ¬ s.isWritable = true := by simpa using hwritable
    simp only [loopStep, hpoint, if_neg hstay, if_neg hfull]
  · obtain ⟨hleave, hwritable⟩ := pass_waits_iff.mp hpass.symm
    have hstay : ¬ (s.state = .streamDone ∨ s.hasErrInSend = true) := by simpa using hleave
    have hfull : ¬ s.isWritable = true := by simpa using hwritable
    simp only [loopStep, hpoint, if_neg hstay, if_neg hfull]

/-! ### What the callback does to the flag -/

variable {tools : SeqTools Recorder}

theorem isWritable_of_full {s t : LiveStream Recorder} (h : (machine tools).step s (.event .bufferFull) = some t) :
    t.isWritable = true := by
  have hstep : s.onEvent .bufferFull = .ok t := step_eq_some.mp h
  obtain ⟨stream, hcallback, hnext⟩ := Fault.bind_eq_ok.mp hstep
  obtain rfl := Except.ok.inj hcallback
  obtain rfl := Fault.pure_eq_ok.mp hnext
  rfl

/-- A stream heeds the events in the runs without `BATS_CONNECTION_BUFFER_FULL`, and in no others. -/
theorem retryLoop_obeys_iff {s t : LiveStream Recorder} {acts : List Action} (hrun : (machine tools).run s acts = some t) :
    retryLoop.Obeys (machine tools) s acts ↔ ∀ a ∈ acts, a ≠ .event .bufferFull := by
  rw [RetryLoop.obeys_iff_never_full (fun s t a hstep hfull => ?_) hrun]
  · exact forall₂_congr fun a _ => signalOf_full_iff.not
  · rw [signalOf_full_iff.mp hfull] at hstep
    exact congrArg some (isWritable_of_full hstep)

end LiveStream

end BatsIperf
