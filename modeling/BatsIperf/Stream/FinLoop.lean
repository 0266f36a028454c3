import BatsIperf.Foundation.Loop
import BatsIperf.Stream.IperfStream

/-!
# The loop in the handling of a FIN

`OnReceivedFIN` repeats a FIN-ACK that was not sent and waits where the stream is not writable. It runs in a callback on the thread of the `IOContext`, which also delivers the events that change the flags of the loop, so for as long as it runs they are what they were when it was entered.
-/

namespace BatsIperf

namespace IperfStream

/-- The retry loop, where nothing else changes the stream. The state is the number of the next call of `SendData`, and a pass that waits makes none. -/
def finAckLoop (stream : IperfStream) (answers : Nat → Bool) : Loop Nat Bool where
  step call :=
    if stream.state = .streamDone then .inr false
    else if stream.hasErrInSend then .inr false
    else if stream.isWritable then
      if answers call then .inr true else .inl (call + 1)
    else .inl call

def passViews (stream : IperfStream) (answers : Nat → Bool) (call n : Nat) : List RetryView :=
  (List.range' call n).map fun k =>
    { state := stream.state, hasErrInSend := stream.hasErrInSend, isWritable := stream.isWritable
      dataConn := stream.dataConn, sendOk := answers k }

variable {stream : IperfStream} {answers : Nat → Bool}

theorem passViews_succ (call n : Nat) : stream.passViews answers call (n + 1) =
    { state := stream.state, hasErrInSend := stream.hasErrInSend, isWritable := stream.isWritable
      dataConn := stream.dataConn, sendOk := answers call } :: stream.passViews answers (call + 1) n := rfl

def IsLeft (stream : IperfStream) : Prop := stream.state = .streamDone ∨ stream.hasErrInSend = true

theorem finAckLoop_left (h : stream.IsLeft) (call : Nat) : (stream.finAckLoop answers).step call = .inr false := by
  unfold finAckLoop
  dsimp only
  split
  · rfl
  · rename_i hrunning
    rw [if_pos (h.resolve_left hrunning)]

theorem finAckLoop_writable (h : ¬ stream.IsLeft) (hwritable : stream.isWritable = true) (call : Nat) :
    (stream.finAckLoop answers).step call = if answers call then .inr true else .inl (call + 1) := by
  obtain ⟨hrunning, hnoError⟩ := not_or.mp h
  unfold finAckLoop
  dsimp only
  rw [if_neg hrunning, if_neg hnoError, if_pos hwritable]

theorem finAckLoop_waits (h : ¬ stream.IsLeft) (hfull : ¬ stream.isWritable = true) (call : Nat) :
    (stream.finAckLoop answers).step call = .inl call := by
  obtain ⟨hrunning, hnoError⟩ := not_or.mp h
  unfold finAckLoop
  dsimp only
  rw [if_neg hrunning, if_neg hnoError, if_neg hfull]

/-- What `retrySend` computes of the views of the passes is what the loop does. No pass finds the connection gone. -/
theorem passes_eq_retrySend (hconn : stream.dataConn = true) (n call : Nat) :
    retrySend (stream.passViews answers call n)
      = Fault.need .noProgress ((stream.finAckLoop answers).passes n call) := by
  by_cases hleft : stream.IsLeft
  · cases n with
    | zero => rfl
    | succ n =>
      rw [Loop.passes_succ_of_left (finAckLoop_left hleft call), passViews_succ, retrySend]
      rcases hleft with hdone | herror
      · rw [if_pos hdone, Fault.need_some]
      · rw [if_pos herror, ite_self, Fault.need_some]
  obtain ⟨hrunning, hnoError⟩ := not_or.mp hleft
  by_cases hwritable : stream.isWritable = true
  · induction n generalizing call with
    | zero => rfl
    | succ n ih =>
      have hstep : (stream.finAckLoop answers).step call = _ := finAckLoop_writable hleft hwritable call
      rw [passViews_succ, retrySend, if_neg hrunning, if_neg hnoError, if_pos hwritable, Fault.require_of_true hconn,
        Fault.ok_bind]
      split
      · rename_i hok
        rw [if_pos hok] at hstep
        rw [Loop.passes_succ_of_left hstep n, Fault.need_some]
      · rename_i hrefused
        rw [if_neg hrefused] at hstep
        rw [Loop.passes_succ_of_next hstep, ih]
  · -- a pass that waits changes nothing, whatever the library would answer
    have hwaits (m first second : Nat) :
        retrySend (stream.passViews answers second m)
          = Fault.need .noProgress ((stream.finAckLoop answers).passes m first) := by
      induction m generalizing second with
      | zero => rfl
      | succ m ih =>
        rw [Loop.passes_succ_of_next (finAckLoop_waits hleft hwritable first), passViews_succ, retrySend,
          if_neg hrunning, if_neg hnoError, if_neg hwritable]
        exact ih (second + 1)
    exact hwaits n call call

/-! ### When the loop is left -/

theorem finAckLoop_ends_of_answer (hwritable : stream.isWritable = true) {call later : Nat} (hlater : call ≤ later)
    (hok : answers later = true) : (stream.finAckLoop answers).Ends call := by
  by_cases hleft : stream.IsLeft
  · exact Loop.ends_of_left (finAckLoop_left hleft call)
  have hnext (k next : Nat) (hk : k ≤ later) (hstep : (stream.finAckLoop answers).step k = .inl next) :
      next ≤ later ∧ later - next < later - k := by
    rw [finAckLoop_writable hleft hwritable] at hstep
    split at hstep
    · exact absurd hstep (by simp)
    · rename_i hrefused
      obtain rfl := Sum.inl.inj hstep
      have hne : k ≠ later := fun heq => hrefused (heq ▸ hok)
      omega
  exact Loop.ends_of_measure (fun k => later - k) hnext hlater

/-- The loop is left where the stream is done or has an error, or where it is writable and some later call of `SendData` succeeds. -/
theorem finAckLoop_ends_iff (call : Nat) : (stream.finAckLoop answers).Ends call ↔
    stream.IsLeft ∨ stream.isWritable = true ∧ ∃ later, call ≤ later ∧ answers later = true := by
  constructor
  · intro hends
    by_contra hstuck
    obtain ⟨hleft, hstuck⟩ := not_or.mp hstuck
    have hgoesOn (k : Nat) (hk : call ≤ k) : ∃ next, (stream.finAckLoop answers).step k = .inl next ∧ call ≤ next := by
      by_cases hwritable : stream.isWritable = true
      · rw [finAckLoop_writable hleft hwritable, if_neg fun hok => hstuck ⟨hwritable, k, hk, hok⟩]
        exact ⟨k + 1, rfl, hk.trans k.le_succ⟩
      · exact ⟨k, finAckLoop_waits hleft hwritable k, hk⟩
    exact Loop.not_ends_of_invariant hgoesOn (Nat.le_refl call) hends
  · rintro (hleft | ⟨hwritable, later, hlater, hok⟩)
    · exact Loop.ends_of_left (finAckLoop_left hleft call)
    · exact finAckLoop_ends_of_answer hwritable hlater hok

/-! ### The handling of a FIN -/

/-- `OnReceivedFIN` gets behind its loop, whatever happens then. The first answer is the one in front of the loop. -/
def HandlesFin (stream : IperfStream) (answers : Nat → Bool) (now : UInt64) : Prop :=
  ∃ n, Fault.Avoids .noProgress (stream.onReceivedFIN (answers 0) (stream.passViews answers 1 n) now)

theorem handlesFin_iff (stream : IperfStream) (answers : Nat → Bool) (now : UInt64) :
    stream.HandlesFin answers now ↔
      (stream.dataConn = true → answers 0 = true ∨ (stream.finAckLoop answers).Ends 1) := by
  have hnull : Fault.nullPointer ≠ .noProgress := by decide
  have havoids (n : Nat) :
      Fault.Avoids .noProgress (stream.onReceivedFIN (answers 0) (stream.passViews answers 1 n) now) ↔
        (stream.dataConn = true → answers 0 = true ∨ ∃ r, (stream.finAckLoop answers).passes n 1 = some r) := by
    rw [onReceivedFIN, Fault.require_bind_avoids_iff hnull]
    refine imp_congr_right fun hconn => ?_
    by_cases hok : answers 0 = true
    · rw [sendFinAck, if_pos hok, Fault.ok_bind]
      exact iff_of_true (Fault.avoids_pure _) (.inl hok)
    · rw [sendFinAck, if_neg hok, passes_eq_retrySend hconn,
        Fault.need_bind_avoids_iff_of_next fun _ => Fault.avoids_pure _, Option.ne_none_iff_exists', or_iff_right hok]
  unfold HandlesFin
  simp only [havoids, Loop.Ends, Loop.Returns]
  by_cases hconn : stream.dataConn = true
  · simp only [hconn, true_imp_iff]
    rw [exists_or, exists_comm]
    simp
  · simp [hconn]

/-- For every state of the stream and every answers of `SendData`, the handling of a FIN gets behind its loop exactly where there is no connection, the first FIN-ACK is taken, the stream is done or has an error, or it is writable and some later FIN-ACK is taken. -/
theorem fin_handling_ends_iff (stream : IperfStream) (answers : Nat → Bool) (now : UInt64) :
    stream.HandlesFin answers now ↔ stream.dataConn = false ∨ answers 0 = true ∨ stream.state = .streamDone ∨
      stream.hasErrInSend = true ∨ stream.isWritable = true ∧ ∃ later, 1 ≤ later ∧ answers later = true := by
  rw [handlesFin_iff, finAckLoop_ends_iff, IsLeft, or_assoc, ← Bool.not_eq_true, imp_iff_not_or]

/-- An accepted stream, as the listener leaves it. -/
theorem fin_handling_endless_counterexample :
    ∃ stream, accepted { role := .roleReceiver } 1 1400 = .ok stream ∧ ¬ stream.HandlesFin (fun _ => false) 1000 := by
  refine ⟨_, rfl, ?_⟩
  rw [handlesFin_iff, finAckLoop_ends_iff]
  simp [IsLeft]

end IperfStream

end BatsIperf
