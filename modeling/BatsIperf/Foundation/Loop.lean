import Mathlib.Order.WellFounded

/-!
# Loops that may not end

A loop takes a state to the next state or leaves with a result. It need not end, so `passes` runs a number of its passes and has a result only if the loop was left in one of them.
-/

structure Loop (State Result : Type*) where
  step : State → State ⊕ Result

namespace Loop

variable {State Result : Type*} (loop : Loop State Result)

/-- The result, if the loop is left within the given number of passes. -/
def passes : Nat → State → Option Result
  | 0, _ => none
  | n + 1, s =>
    match loop.step s with
    | .inl t => passes n t
    | .inr r => some r

/-- Enough passes leave the loop with this result. -/
def Returns (s : State) (r : Result) : Prop := ∃ n, loop.passes n s = some r

def Ends (s : State) : Prop := ∃ r, loop.Returns s r

variable {loop} {s t : State} {r r' : Result}

theorem passes_succ_of_next (h : loop.step s = .inl t) (n : Nat) : loop.passes (n + 1) s = loop.passes n t := by
  rw [passes, h]

theorem passes_succ_of_left (h : loop.step s = .inr r) (n : Nat) : loop.passes (n + 1) s = some r := by
  rw [passes, h]

theorem returns_of_left (h : loop.step s = .inr r) : loop.Returns s r := ⟨1, passes_succ_of_left h 0⟩

theorem ends_of_left (h : loop.step s = .inr r) : loop.Ends s := ⟨r, returns_of_left h⟩

theorem returns_iff_of_next (h : loop.step s = .inl t) : loop.Returns s r ↔ loop.Returns t r := by
  constructor
  · rintro ⟨n, hn⟩
    cases n with
    | zero => exact absurd hn (by simp [passes])
    | succ n => exact ⟨n, (passes_succ_of_next h n).symm.trans hn⟩
  · rintro ⟨n, hn⟩
    exact ⟨n + 1, (passes_succ_of_next h n).trans hn⟩

theorem ends_iff_of_next (h : loop.step s = .inl t) : loop.Ends s ↔ loop.Ends t :=
  exists_congr fun _ => returns_iff_of_next h

/-- A loop that is left once it has been left stays so, whatever the number of passes. -/
theorem passes_mono {n m : Nat} (hle : n ≤ m) (h : loop.passes n s = some r) : loop.passes m s = some r := by
  induction n generalizing s m with
  | zero => exact absurd h (by simp [passes])
  | succ n ih =>
    obtain ⟨m, rfl⟩ := Nat.exists_eq_add_of_le' (Nat.lt_of_lt_of_le n.succ_pos hle)
    cases hstep : loop.step s with
    | inl t =>
      rw [passes_succ_of_next hstep] at h ⊢
      exact ih (Nat.le_of_succ_le_succ hle) h
    | inr result =>
      rw [passes_succ_of_left hstep] at h ⊢
      exact h

theorem Returns.unique (h : loop.Returns s r) (h' : loop.Returns s r') : r = r' := by
  obtain ⟨n, hn⟩ := h
  obtain ⟨m, hm⟩ := h'
  have hmost := passes_mono (Nat.le_max_left n m) hn
  exact Option.some.inj (hmost.symm.trans (passes_mono (Nat.le_max_right n m) hm))

/-- Under an invariant that every pass keeps, the loop is left only with results the invariant allows. -/
theorem Returns.post {Inv : State → Prop} {Post : Result → Prop}
    (hnext : ∀ s t, Inv s → loop.step s = .inl t → Inv t) (hleft : ∀ s r, Inv s → loop.step s = .inr r → Post r)
    (hs : Inv s) (h : loop.Returns s r) : Post r := by
  obtain ⟨n, hn⟩ := h
  induction n generalizing s with
  | zero => exact absurd hn (by simp [passes])
  | succ n ih =>
    cases hstep : loop.step s with
    | inl t => exact ih (hnext s t hs hstep) ((passes_succ_of_next hstep n).symm.trans hn)
    | inr result =>
      obtain rfl := Option.some.inj ((passes_succ_of_left hstep n).symm.trans hn)
      exact hleft s result hs hstep

theorem ends_of_measure {Inv : State → Prop} (measure : State → Nat)
    (hnext : ∀ s t, Inv s → loop.step s = .inl t → Inv t ∧ measure t < measure s) (hs : Inv s) : loop.Ends s := by
  generalize hm : measure s = m
  induction m using Nat.strong_induction_on generalizing s with
  | _ m ih =>
    cases hstep : loop.step s with
    | inl t =>
      obtain ⟨ht, hless⟩ := hnext s t hs hstep
      exact (ends_iff_of_next hstep).mpr (ih (measure t) (hm ▸ hless) ht rfl)
    | inr result => exact ends_of_left hstep

/-- A loop that goes on from every state of an invariant, to another of its states, is never left. -/
theorem not_ends_of_invariant {Inv : State → Prop} (hnext : ∀ s, Inv s → ∃ t, loop.step s = .inl t ∧ Inv t)
    (hs : Inv s) : ¬ loop.Ends s := by
  rintro ⟨r, hreturns⟩
  have hnever (u : State) (result : Result) (hu : Inv u) : loop.step u ≠ .inr result := by
    obtain ⟨v, hv, _⟩ := hnext u hu
    rw [hv]
    exact Sum.inl_ne_inr
  have hkeeps (u v : State) (hu : Inv u) (hv : loop.step u = .inl v) : Inv v := by
    obtain ⟨w, hw, hinv⟩ := hnext u hu
    obtain rfl := Sum.inl.inj (hw.symm.trans hv)
    exact hinv
  exact hreturns.post hkeeps (fun u result hu hleft => hnever u result hu hleft) hs

end Loop
