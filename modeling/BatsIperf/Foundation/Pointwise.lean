import Mathlib.Data.List.Forall2

/-!
# Lists related element by element

How `List.Forall₂` composes, what it says about a single element, and what the update of one element does to it.
-/

namespace Pointwise

variable {α β γ : Type*}

theorem trans {R : α → β → Prop} {S : β → γ → Prop} {T : α → γ → Prop} {xs : List α} {ys : List β} {zs : List γ}
    (h : ∀ {a b c}, R a b → S b c → T a c) (hfirst : List.Forall₂ R xs ys) (hsecond : List.Forall₂ S ys zs) :
    List.Forall₂ T xs zs := by
  induction hfirst generalizing zs with
  | nil =>
    cases hsecond
    exact .nil
  | cons hone _ ih =>
    cases hsecond with
    | cons hnext hrest => exact .cons (h hone hnext) (ih hrest)

theorem exists_right {R : α → β → Prop} {xs : List α} {ys : List β} (h : List.Forall₂ R xs ys) {x : α} (hx : x ∈ xs) :
    ∃ y ∈ ys, R x y := by
  induction h with
  | nil => exact absurd hx (by simp)
  | cons hone _ ih =>
    rcases List.mem_cons.mp hx with rfl | hx
    · exact ⟨_, List.mem_cons_self, hone⟩
    · obtain ⟨y, hy, hR⟩ := ih hx
      exact ⟨y, List.mem_cons_of_mem _ hy, hR⟩

theorem exists_left {R : α → β → Prop} {xs : List α} {ys : List β} (h : List.Forall₂ R xs ys) {y : β} (hy : y ∈ ys) :
    ∃ x ∈ xs, R x y := exists_right h.flip hy

theorem map_self {R : α → α → Prop} {f : α → α} (hf : ∀ x, R x (f x)) (xs : List α) : List.Forall₂ R xs (xs.map f) :=
  List.forall₂_map_right_iff.mpr (List.forall₂_same.mpr fun x _ => hf x)

theorem set {R : α → α → Prop} (hrefl : ∀ x, R x x) {xs : List α} {i : Nat} {x y : α} (hi : xs[i]? = some x)
    (h : R x y) : List.Forall₂ R xs (xs.set i y) := by
  induction xs generalizing i with
  | nil => exact absurd hi (by simp)
  | cons first rest ih =>
    cases i with
    | zero =>
      obtain rfl := Option.some.inj hi
      exact .cons h (List.forall₂_same.mpr fun other _ => hrefl other)
    | succ i => exact .cons (hrefl first) (ih hi)

end Pointwise
