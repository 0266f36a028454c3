import BatsIperf.Foundation.Fault

/-!
# Computations that note what they do

A computation that can fault and that notes calls of one kind on its way. Where it faults, the calls before the fault are noted. Without its notes it is a computation of type `Except Fault α`, step by step.
-/

structure Traced (Call α : Type) where
  result : Except Fault α
  calls : List Call

namespace Traced

variable {Call α β : Type}

def note (call : Call) : Traced Call Unit := { result := .ok (), calls := [call] }

def quiet (value : Except Fault α) : Traced Call α := { result := value, calls := [] }

instance : Monad (Traced Call) where
  pure a := quiet (.ok a)
  bind first next :=
    match first.result with
    | .error fault => { result := .error fault, calls := first.calls }
    | .ok a => { result := (next a).result, calls := first.calls ++ (next a).calls }

@[simp] theorem result_quiet (value : Except Fault α) : (quiet value : Traced Call α).result = value := rfl

@[simp] theorem result_bind (first : Traced Call α) (next : α → Traced Call β) :
    (first >>= next).result = first.result >>= fun a => (next a).result := by
  change (match first.result with | .error _ => _ | .ok _ => _ : Traced Call β).result = _
  cases first.result with
  | error fault => rfl
  | ok a => rfl

@[simp] theorem calls_note_bind (call : Call) (next : Unit → Traced Call β) :
    (note call >>= next).calls = call :: (next ()).calls := rfl

@[simp] theorem result_note_bind (call : Call) (next : Unit → Traced Call β) :
    (note call >>= next).result = (next ()).result := rfl

@[simp] theorem quiet_ok_bind (a : α) (next : α → Traced Call β) : (quiet (.ok a) >>= next) = next a := rfl

/-- What a step without calls leaves is what the rest of the computation notes. -/
theorem calls_quiet_bind {P : List Call → Prop} {value : Except Fault α} {next : α → Traced Call β} (hnil : P [])
    (hnext : ∀ a, value = .ok a → P (next a).calls) : P (quiet value >>= next).calls := by
  cases value with
  | error fault => exact hnil
  | ok a => exact hnext a rfl

end Traced
