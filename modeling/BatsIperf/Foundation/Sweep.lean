import Mathlib.Data.List.Basic
import Mathlib.Tactic.Common

/-!
# Lists that are swept

A list of entries is swept again and again: every entry is followed by its successor where it has one, and is dropped where it has none. A sweep may also be told to drop an entry when it gets to it.

A record of the list keeps all its entries, with the number of their sweeps and whether one of these was told to drop them. What the list holds is what the records have become.
-/

variable {Entry : Type*}

namespace Sweep

/-- What an entry has become after a number of sweeps. -/
def after (next : Entry → Option Entry) : Nat → Entry → Option Entry
  | 0, entry => some entry
  | k + 1, entry => (after next k entry).bind next

/-- One sweep. It keeps no entry it is told to drop. -/
def sweep (next : Entry → Option Entry) : (Nat → Bool) → List Entry → List Entry
  | _, [] => []
  | keeps, entry :: rest => (if keeps 0 then next entry else none).toList ++ sweep next (fun n => keeps (n + 1)) rest

/-- An entry as it came, how often it was swept, and whether one of its own sweeps was told to drop it. -/
structure Swept (Entry : Type*) where
  entry : Entry
  sweeps : Nat := 0
  isCut : Bool := false

namespace Swept

def current (next : Entry → Option Entry) (swept : Swept Entry) : Option Entry :=
  if swept.isCut then none else after next swept.sweeps swept.entry

end Swept

/-- What one sweep makes of the records. Only the entries that are still in the list are asked for. -/
def mark (next : Entry → Option Entry) : (Nat → Bool) → List (Swept Entry) → List (Swept Entry)
  | _, [] => []
  | keeps, swept :: rest =>
    match swept.current next with
    | some _ => { swept with sweeps := swept.sweeps + 1, isCut := !keeps 0 } :: mark next (fun n => keeps (n + 1)) rest
    | none => { swept with sweeps := swept.sweeps + 1 } :: mark next keeps rest

variable {next : Entry → Option Entry}

namespace Swept

theorem current_swept {swept : Swept Entry} {entry : Entry} (h : swept.current next = some entry) (keeps : Bool) :
    current next { swept with sweeps := swept.sweeps + 1, isCut := !keeps } = if keeps then next entry else none := by
  have hage : after next swept.sweeps swept.entry = some entry := (Option.ite_none_left_eq_some.mp h).2
  cases keeps with
  | false => rfl
  | true => exact congrArg (Option.bind · next) hage

theorem current_gone {swept : Swept Entry} (h : swept.current next = none) :
    current next { swept with sweeps := swept.sweeps + 1 } = none := by
  unfold current at h ⊢
  cases hcut : swept.isCut with
  | true => rfl
  | false =>
    rw [hcut, if_neg Bool.false_ne_true] at h
    rw [if_neg Bool.false_ne_true, after, h]
    rfl

end Swept

theorem filterMap_mark (keeps : Nat → Bool) (records : List (Swept Entry)) :
    (mark next keeps records).filterMap (Swept.current next) = sweep next keeps (records.filterMap (Swept.current next)) := by
  induction records generalizing keeps with
  | nil => rfl
  | cons swept rest ih =>
    cases h : swept.current next with
    | none =>
      rw [mark, h, List.filterMap_cons_none h]
      dsimp only
      rw [List.filterMap_cons_none (Swept.current_gone h), ih]
    | some entry =>
      rw [mark, h, List.filterMap_cons_some h, sweep, ← Swept.current_swept h (keeps 0)]
      dsimp only
      cases hcurrent : Swept.current next { swept with sweeps := swept.sweeps + 1, isCut := !keeps 0 } with
      | none => rw [List.filterMap_cons_none hcurrent, ih, Option.toList_none, List.nil_append]
      | some successor => rw [List.filterMap_cons_some hcurrent, ih, Option.toList_some, List.singleton_append]

theorem length_mark (keeps : Nat → Bool) (records : List (Swept Entry)) : (mark next keeps records).length = records.length := by
  induction records generalizing keeps with
  | nil => rfl
  | cons swept rest ih =>
    rw [mark]
    split <;> rw [List.length_cons, List.length_cons, ih]

/-- A sweep counts for every record, and cuts only where it is told to drop. -/
theorem getElem?_mark (next : Entry → Option Entry) (keeps : Nat → Bool) {records : List (Swept Entry)} {n : Nat} {swept : Swept Entry}
    (h : records[n]? = some swept) : ∃ later, (mark next keeps records)[n]? = some later ∧ later.entry = swept.entry ∧
      later.sweeps = swept.sweeps + 1 ∧ (swept.isCut = true → later.isCut = true) ∧
      ((∀ k, keeps k = true) → later.isCut = swept.isCut) := by
  induction records generalizing keeps n with
  | nil => cases h
  | cons first rest ih =>
    cases n with
    | zero =>
      obtain rfl := Option.some.inj h
      rw [mark]
      split
      · rename_i entry hcurrent
        have hkept : first.isCut = false := Bool.eq_false_iff.mpr (Option.ite_none_left_eq_some.mp hcurrent).1
        refine ⟨_, rfl, rfl, rfl, fun hcut => absurd (hkept.symm.trans hcut) Bool.false_ne_true, fun hkeeps => ?_⟩
        rw [hkept]
        exact congrArg not (hkeeps 0)
      · exact ⟨_, rfl, rfl, rfl, id, fun _ => rfl⟩
    | succ n =>
      rw [mark]
      split
      · obtain ⟨later, hlater, hentry, hsweeps, hcut, hkept⟩ := ih (fun k => keeps (k + 1)) h
        exact ⟨later, hlater, hentry, hsweeps, hcut, fun hkeeps => hkept fun k => hkeeps (k + 1)⟩
      · exact ih keeps h

end Sweep
