import Mathlib.Data.List.Induction
import Mathlib.Order.Monotone.Basic

/-!
# Alternate marking

A stream of numbered items is cut into groups by boundaries, and each item carries one bit, the parity of its group. Items are delivered out of order. Who remembers the highest group it has seen recognises the next one by the changed bit and by a number beyond its own boundary: the groups before it have numbers up to that boundary, and the next one starts more than `gap` after it.
-/

namespace Marking

/-- Boundaries that start at zero and are more than `gap` apart. -/
structure Spaced (boundary : Nat → Nat) (gap : Nat) : Prop where
  zero : boundary 0 = 0
  step : ∀ group, boundary group + gap < boundary (group + 1)

theorem spaced_mul {width gap : Nat} (h : gap < width) : Spaced (fun group => width * group) gap where
  zero := Nat.mul_zero width
  step group := by
    rw [Nat.mul_succ]
    omega

/-- An item of a group may also carry the number of the next boundary. -/
def InGroup (boundary : Nat → Nat) (group seq : Nat) : Prop :=
  boundary group ≤ seq ∧ seq ≤ boundary (group + 1)

def colour (group : Nat) : Bool := group % 2 == 1

variable {boundary : Nat → Nat} {gap : Nat}

theorem Spaced.monotone (h : Spaced boundary gap) : Monotone boundary :=
  monotone_nat_of_le_succ fun group => by
    have hstep := h.step group
    omega

theorem colour_succ (group : Nat) : colour (group + 1) = !colour group := by
  rcases Nat.mod_two_eq_zero_or_one group with h | h
  · have hsucc : (group + 1) % 2 = 1 := by omega
    simp [colour, h, hsucc]
  · have hsucc : (group + 1) % 2 = 0 := by omega
    simp [colour, h, hsucc]

/-- After the groups up to `highest`, the bit and the number of an item tell whether it opens the next group. -/
theorem Spaced.opens_iff (h : Spaced boundary gap) {highest group seq : Nat} (hgroup : group ≤ highest + 1)
    (hseq : InGroup boundary group seq) :
    (colour highest ≠ colour group ∧ boundary highest + gap < seq) ↔ group = highest + 1 := by
  constructor
  · rintro ⟨hcolour, hbeyond⟩
    by_contra hne
    rcases Nat.lt_or_ge group highest with hlt | hge
    · -- an item of an earlier group is numbered at most the boundary of the highest one
      have hmono := h.monotone (show group + 1 ≤ highest from hlt)
      have hhigh := hseq.2
      omega
    · have heq : group = highest := by omega
      exact hcolour (heq ▸ rfl)
  · rintro rfl
    have hstep := h.step highest
    have hlow := hseq.1
    refine ⟨?_, by omega⟩
    rw [colour_succ]
    simp

/-- Every group is seen for the first time after all groups before it. -/
def FirstsInOrder (groups : List Nat) : Prop :=
  ∀ (first : List Nat) (group : Nat) (rest : List Nat), groups = first ++ group :: rest → ∀ earlier < group, earlier ∈ first

theorem firstsInOrder_iff {groups : List Nat} :
    FirstsInOrder groups ↔ ∀ (i : Nat) (h : i < groups.length), ∀ earlier < groups[i], earlier ∈ groups.take i := by
  constructor
  · intro horder i hi
    apply horder (groups.take i) groups[i] (groups.drop (i + 1))
    rw [← List.drop_eq_getElem_cons hi, List.take_append_drop]
  · rintro htake first group rest rfl earlier hearlier
    have hat := htake first.length (by simp) earlier
    rw [List.getElem_append_right (le_refl _), List.take_left] at hat
    apply hat
    simpa using hearlier

instance (groups : List Nat) : Decidable (FirstsInOrder groups) := decidable_of_iff _ firstsInOrder_iff.symm

theorem FirstsInOrder.of_append {first rest : List Nat} (h : FirstsInOrder (first ++ rest)) : FirstsInOrder first := by
  intro before group after hsplit
  apply h before group (after ++ rest)
  rw [hsplit, List.append_assoc, List.cons_append]

/-- An item after the first `count` groups belongs to one of them or to the next. -/
theorem FirstsInOrder.le_count {first rest : List Nat} {group count : Nat} (h : FirstsInOrder (first ++ group :: rest))
    (hcount : ∀ other, other ∈ first ↔ other < count) : group ≤ count := by
  by_contra hlt
  exact absurd ((hcount count).mp (h first group rest rfl count (by omega))) (lt_irrefl count)

end Marking
