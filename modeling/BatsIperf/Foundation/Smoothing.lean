import Mathlib.Data.List.Chain
import Mathlib.Data.List.Induction

/-!
# Smoothed distances

A series of readings is judged by how far neighbouring ones are apart. The distances are smoothed: the first of them is the estimate, and each further one draws the estimate towards itself.

Values may come in groups, each of which is smoothed for itself. The estimate in force is then that of the last group that has one.
-/

namespace Smoothing

variable {α K : Type*}

section Distances

variable {distance : α → α → K}

/-- The distances between neighbours, of the later one from the one before it. -/
def distances (distance : α → α → K) : List α → List K
  | first :: next :: rest => distance next first :: distances distance (next :: rest)
  | _ => []

theorem distances_concat (readings : List α) (last next : α) :
    distances distance (readings ++ [last, next])
      = distances distance (readings ++ [last]) ++ [distance next last] := by
  induction readings with
  | nil => rfl
  | cons first rest ih =>
    cases rest with
    | nil => rfl
    | cons second rest =>
      simp only [List.cons_append, distances] at ih ⊢
      rw [ih]

theorem forall_distances {R : α → α → Prop} {p : K → Prop} (hp : ∀ first next, R first next → p (distance next first))
    {readings : List α} (h : readings.IsChain R) : ∀ value ∈ distances distance readings, p value := by
  induction h with
  | nil | singleton => exact fun value hvalue => absurd hvalue List.not_mem_nil
  | cons_cons hfirst _ ih => exact List.forall_mem_cons.mpr ⟨hp _ _ hfirst, ih⟩

theorem distances_congr {R : α → α → Prop} {other : α → α → K}
    (hsame : ∀ first next, R first next → distance next first = other next first) {readings : List α}
    (h : readings.IsChain R) : distances distance readings = distances other readings := by
  induction h with
  | nil | singleton => rfl
  | cons_cons hfirst _ ih => exact List.cons_eq_cons.mpr ⟨hsame _ _ hfirst, ih⟩

end Distances

variable {draw : K → K → K}

/-- The estimate behind some values, where `draw` takes one more value into an estimate. -/
def smoothed (draw : K → K → K) : List K → Option K
  | [] => none
  | first :: rest => some (rest.foldl draw first)

theorem smoothed_concat_of_none {values : List K} (h : smoothed draw values = none) (value : K) :
    smoothed draw (values ++ [value]) = some value := by
  cases values with
  | nil => rfl
  | cons first rest => cases h

theorem smoothed_concat_of_some {values : List K} {estimate : K} (h : smoothed draw values = some estimate) (value : K) :
    smoothed draw (values ++ [value]) = some (draw estimate value) := by
  cases values with
  | nil => cases h
  | cons first rest =>
    obtain rfl := Option.some.inj h
    exact congrArg some List.foldl_append

/-- The estimate in force after some groups of values. -/
def lastSmoothed (draw : K → K → K) (groups : List (List K)) : Option K := (groups.filterMap (smoothed draw)).getLast?

theorem lastSmoothed_concat_of_some {groups : List (List K)} {values : List K} {estimate : K}
    (h : smoothed draw values = some estimate) : lastSmoothed draw (groups ++ [values]) = some estimate := by
  rw [lastSmoothed, List.filterMap_append]
  simp [h]

theorem lastSmoothed_concat_nil (groups : List (List K)) :
    lastSmoothed draw (groups ++ [[]]) = lastSmoothed draw groups := by
  rw [lastSmoothed, List.filterMap_append]
  exact congrArg List.getLast? (List.append_nil _)

/-! ### What smoothing does not leave -/

section Closed

variable {p : K → Prop} (hdraw : ∀ estimate value, p estimate → p value → p (draw estimate value))

include hdraw

theorem smoothed_of_forall {values : List K} (hvalues : ∀ value ∈ values, p value) {estimate : K}
    (h : smoothed draw values = some estimate) : p estimate := by
  induction values using List.reverseRecOn generalizing estimate with
  | nil => cases h
  | append_singleton values value ih =>
    have hvalue := hvalues value (by simp)
    cases hbefore : smoothed draw values with
    | none =>
      rw [smoothed_concat_of_none hbefore] at h
      exact Option.some.inj h ▸ hvalue
    | some before =>
      rw [smoothed_concat_of_some hbefore] at h
      have hestimate := ih (fun value hmem => hvalues value (List.mem_append_left _ hmem)) hbefore
      exact Option.some.inj h ▸ hdraw before value hestimate hvalue

theorem lastSmoothed_of_forall {groups : List (List K)} (hgroups : ∀ values ∈ groups, ∀ value ∈ values, p value)
    {estimate : K} (h : lastSmoothed draw groups = some estimate) : p estimate := by
  obtain ⟨values, hvalues, hestimate⟩ := List.mem_filterMap.mp (List.mem_of_getLast? h)
  exact smoothed_of_forall hdraw (hgroups values hvalues) hestimate

end Closed

end Smoothing
