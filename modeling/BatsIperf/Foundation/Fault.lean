import Mathlib.Data.List.Forall2
import Mathlib.Tactic.Common

/-!
# Computations that can fault

The ways a step of a program goes wrong without a result. A computation with a step of this kind has type `Except Fault α`, and its specification says what the result is when there is one.
-/

inductive Fault
  /-- A read or a write outside a buffer. -/
  | outOfBounds
  | failedAssert
  | nullPointer
  /-- The runtime ends the program, for example when a running thread's handle is overwritten. -/
  | terminated
  /-- A loop that never leaves its condition. -/
  | noProgress
  deriving DecidableEq

namespace Fault

variable {α β : Type}

def need (fault : Fault) : Option α → Except Fault α
  | some a => .ok a
  | none => .error fault

def require (fault : Fault) (p : Prop) [Decidable p] : Except Fault Unit :=
  if p then .ok () else .error fault

@[simp] theorem need_some (fault : Fault) (a : α) : need fault (some a) = .ok a := rfl

theorem need_eq_ok {fault : Fault} {value : Option α} {a : α} : need fault value = .ok a ↔ value = some a := by
  cases value <;> simp [need]

theorem need_eq_error {fault : Fault} {value : Option α} : need fault value = .error fault ↔ value = none := by
  cases value <;> simp [need]

theorem need_bind (fault : Fault) (first : Option α) (next : α → Option β) :
    need fault (first.bind next) = need fault first >>= fun a => need fault (next a) := by
  cases first <;> rfl

theorem require_of_true {fault : Fault} {p : Prop} [Decidable p] (h : p) : require fault p = .ok () := if_pos h

theorem require_eq_ok {fault : Fault} {p : Prop} [Decidable p] {u : Unit} : require fault p = .ok u ↔ p := by
  unfold require
  split <;> simp_all

theorem bind_eq_ok {first : Except Fault α} {next : α → Except Fault β} {b : β} :
    (first >>= next) = .ok b ↔ ∃ a, first = .ok a ∧ next a = .ok b := by
  cases first with
  | error fault => simp [Bind.bind, Except.bind]
  | ok a => simp [Bind.bind, Except.bind]

@[simp] theorem ok_bind (a : α) (next : α → Except Fault β) : (Except.ok a >>= next) = next a := rfl

theorem bind_congr_of_ok {first : Except Fault α} {next other : α → Except Fault β} (h : ∀ a, first = .ok a → next a = other a) :
    (first >>= next) = first >>= other := by
  cases first with
  | error fault => rfl
  | ok a => exact h a rfl

theorem pure_eq_ok {a b : α} : (pure a : Except Fault α) = .ok b ↔ a = b := by
  simp [Pure.pure, Except.pure]

theorem mapM_eq_ok {f : α → Except Fault β} {xs : List α} {ys : List β} :
    xs.mapM f = .ok ys ↔ List.Forall₂ (fun x y => f x = .ok y) xs ys := by
  induction xs generalizing ys with
  | nil => simp [Pure.pure, Except.pure, eq_comm]
  | cons x xs ih =>
    rw [List.mapM_cons, bind_eq_ok, List.forall₂_cons_left_iff]
    constructor
    · rintro ⟨y, hy, hrest⟩
      obtain ⟨ys', hys', hpure⟩ := bind_eq_ok.mp hrest
      exact ⟨y, ys', hy, ih.mp hys', (pure_eq_ok.mp hpure).symm⟩
    · rintro ⟨y, ys', hy, hys', rfl⟩
      exact ⟨y, hy, bind_eq_ok.mpr ⟨ys', ih.mpr hys', rfl⟩⟩

theorem exists_mapM {f : α → Except Fault β} (xs : List α) (h : ∀ x ∈ xs, ∃ y, f x = .ok y) :
    ∃ ys, xs.mapM f = .ok ys := by
  induction xs with
  | nil => exact ⟨[], rfl⟩
  | cons x xs ih =>
    obtain ⟨y, hy⟩ := h x List.mem_cons_self
    obtain ⟨ys, hys⟩ := ih fun x hx => h x (List.mem_cons_of_mem _ hx)
    exact ⟨y :: ys, by rw [List.mapM_cons, hy, ok_bind, hys, ok_bind]; rfl⟩

theorem toOption_eq_some {Error : Type} {value : Except Error α} {a : α} : value.toOption = some a ↔ value = .ok a := by
  cases value <;> simp [Except.toOption]

/-! ### Faults that do not happen -/

/-- A computation that never goes wrong in the given way. -/
def Avoids (fault : Fault) (value : Except Fault α) : Prop := value ≠ .error fault

variable {fault other : Fault}

theorem avoids_ok (a : α) : Avoids fault (.ok a) := by
  intro h
  cases h

theorem avoids_pure (a : α) : Avoids fault (pure a) := avoids_ok a

theorem avoids_need (hne : other ≠ fault) (value : Option α) : Avoids fault (need other value) := by
  cases value with
  | none => exact fun h => hne (Except.error.inj h)
  | some a => exact avoids_ok a

theorem avoids_require (hne : other ≠ fault) (p : Prop) [Decidable p] : Avoids fault (require other p) := by
  unfold require
  split
  · exact avoids_ok ()
  · exact fun h => hne (Except.error.inj h)

theorem Avoids.bind {first : Except Fault α} {next : α → Except Fault β} (hfirst : Avoids fault first)
    (hnext : ∀ a, Avoids fault (next a)) : Avoids fault (first >>= next) := by
  cases first with
  | error other => exact fun h => hfirst (congrArg Except.error (Except.error.inj h))
  | ok a => exact hnext a

theorem avoids_mapM {f : α → Except Fault β} (hf : ∀ a, Avoids fault (f a)) (xs : List α) : Avoids fault (xs.mapM f) := by
  induction xs with
  | nil => exact avoids_pure []
  | cons x xs ih =>
    rw [List.mapM_cons]
    exact (hf x).bind fun _ => ih.bind fun _ => avoids_pure _

theorem avoids_require_of_true {p : Prop} [Decidable p] (h : p) : Avoids fault (require other p) := by
  rw [require_of_true h]
  exact avoids_ok ()

/-- A sequence whose first step does not go wrong in a way goes wrong in it after that step. -/
theorem Avoids.bind_eq_error_iff {first : Except Fault α} {next : α → Except Fault β} (hfirst : Avoids fault first) :
    (first >>= next) = .error fault ↔ ∃ a, first = .ok a ∧ next a = .error fault := by
  cases first with
  | error other =>
    constructor
    · exact fun h => absurd (congrArg Except.error (Except.error.inj h)) hfirst
    · rintro ⟨a, ha, _⟩
      cases ha
  | ok a =>
    constructor
    · exact fun h => ⟨a, rfl, h⟩
    · rintro ⟨b, hb, h⟩
      exact Except.ok.inj hb ▸ h

/-- A sequence that does not go wrong in a way after its first step goes wrong in it at that step. -/
theorem bind_eq_error_iff_of_next {first : Except Fault α} {next : α → Except Fault β}
    (hnext : ∀ a, Avoids fault (next a)) : (first >>= next) = .error fault ↔ first = .error fault := by
  cases first with
  | error other => exact ⟨fun h => congrArg Except.error (Except.error.inj h), fun h => congrArg Except.error (Except.error.inj h)⟩
  | ok a => exact iff_of_false (hnext a) (avoids_ok a)

theorem require_eq_error {p : Prop} [Decidable p] : require fault p = .error fault ↔ ¬ p := by
  unfold require
  split
  · rename_i hp
    exact iff_of_false (avoids_ok ()) (not_not_intro hp)
  · rename_i hp
    exact iff_of_true rfl hp

theorem need_bind_avoids_iff {value : Option α} {next : α → Except Fault β} :
    Avoids fault (need fault value >>= next) ↔ ∃ a, value = some a ∧ Avoids fault (next a) := by
  cases value with
  | none => exact iff_of_false (fun h => h rfl) (by simp)
  | some a => simp

theorem need_bind_avoids_iff_of_next {value : Option α} {next : α → Except Fault β}
    (hnext : ∀ a, Avoids fault (next a)) : Avoids fault (need fault value >>= next) ↔ value ≠ none := by
  rw [Avoids, Ne, bind_eq_error_iff_of_next hnext, need_eq_error]

theorem require_bind_avoids_iff {p : Prop} [Decidable p] {next : Unit → Except Fault β} (hne : other ≠ fault) :
    Avoids fault (require other p >>= next) ↔ (p → Avoids fault (next ())) := by
  by_cases hp : p
  · rw [require_of_true hp, ok_bind]
    exact ⟨fun h _ => h, fun h => h hp⟩
  · rw [require_eq_error.mpr hp]
    exact iff_of_true (fun h => hne (Except.error.inj h)) fun h => absurd h hp

theorem isOk_iff {value : Except Fault α} : value.isOk = true ↔ ∃ a, value = .ok a := by
  cases value with
  | error other => exact iff_of_false Bool.false_ne_true fun ⟨a, ha⟩ => by cases ha
  | ok a => exact iff_of_true rfl ⟨a, rfl⟩

end Fault
