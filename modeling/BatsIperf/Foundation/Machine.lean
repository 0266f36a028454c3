import Mathlib.Data.List.Basic

/-!
# Machines with a partial step

A machine takes one labelled action at a time and is stuck where its step has no result. Concurrent parts of a program become the actions of one machine, so an interleaving is a list of actions and a statement about every interleaving is a statement about every run.

`Respects` restricts the steps of a run by a condition on the action and the state in which it is taken, and `Occurs` says that some step meets one. The rules below carry the inductions over runs.
-/

structure Machine (State Action : Type*) where
  step : State → Action → Option State

namespace Machine

variable {State Action : Type*} (m : Machine State Action)

/-- The state after a list of actions, or nothing if one of them is not enabled. -/
def run : State → List Action → Option State
  | s, [] => some s
  | s, a :: rest => (m.step s a).bind fun t => run t rest

/-- Every step of the run meets the condition in the state in which it is taken. -/
def Respects (allowed : State → Action → Prop) : State → List Action → Prop
  | _, [] => True
  | s, a :: rest => allowed s a ∧ ∀ t, m.step s a = some t → Respects allowed t rest

/-- Some step of the run meets the condition in the state in which it is taken. -/
def Occurs (occurs : State → Action → Prop) : State → List Action → Prop
  | _, [] => False
  | s, a :: rest => occurs s a ∨ ∃ t, m.step s a = some t ∧ Occurs occurs t rest

variable {m}

@[simp] theorem run_nil (s : State) : m.run s [] = some s := rfl

theorem run_cons {s u : State} {a : Action} {rest : List Action} :
    m.run s (a :: rest) = some u ↔ ∃ t, m.step s a = some t ∧ m.run t rest = some u := by
  simp only [run, Option.bind_eq_some_iff]

theorem run_append {s u : State} {first rest : List Action} :
    m.run s (first ++ rest) = some u ↔ ∃ t, m.run s first = some t ∧ m.run t rest = some u := by
  induction first generalizing s with
  | nil => simp
  | cons a first ih =>
    simp only [List.cons_append, run_cons, ih]
    constructor
    · rintro ⟨t, hstep, v, hfirst, hrest⟩
      exact ⟨v, ⟨t, hstep, hfirst⟩, hrest⟩
    · rintro ⟨v, ⟨t, hstep, hfirst⟩, hrest⟩
      exact ⟨t, hstep, v, hfirst, hrest⟩

/-- Where the steps from the images of the states are the images of the steps, so are the runs. -/
theorem run_map {image : State → State} {other : Action → Action} {acts : List Action}
    (hstep : ∀ s, ∀ a ∈ acts, m.step (image s) (other a) = (m.step s a).map image) (s : State) :
    m.run (image s) (acts.map other) = (m.run s acts).map image := by
  induction acts generalizing s with
  | nil => rfl
  | cons a rest ih =>
    rw [List.map_cons, run, run, hstep s a List.mem_cons_self]
    cases m.step s a with
    | none => rfl
    | some t => exact ih (fun s b hb => hstep s b (List.mem_cons_of_mem a hb)) t

/-- The actions before one of a list are an initial part of it, so what holds before each can be checked part by part. -/
theorem take_of_split {acts first rest : List Action} {a : Action} (h : acts = first ++ a :: rest) :
    ∃ k < acts.length, acts.take k = first ∧ acts[k]? = some a := by
  subst h
  refine ⟨first.length, ?_, List.take_left, ?_⟩
  · rw [List.length_append]
    exact Nat.lt_add_of_pos_right (Nat.succ_pos rest.length)
  · rw [List.getElem?_append_right (Nat.le_refl _), Nat.sub_self, List.getElem?_cons_zero]

variable {allowed : State → Action → Prop}

theorem respects_append {s : State} {first rest : List Action} (h : m.Respects allowed s (first ++ rest)) :
    m.Respects allowed s first ∧ ∀ t, m.run s first = some t → m.Respects allowed t rest := by
  induction first generalizing s with
  | nil => exact ⟨trivial, fun t ht => Option.some.inj ht ▸ h⟩
  | cons a first ih =>
    obtain ⟨ha, hnext⟩ := h
    refine ⟨⟨ha, fun t ht => (ih (hnext t ht)).1⟩, fun u hu => ?_⟩
    obtain ⟨t, ht, hrun⟩ := run_cons.mp hu
    exact (ih (hnext t ht)).2 u hrun

theorem respects_of_forall (h : ∀ s a, allowed s a) (s : State) (acts : List Action) :
    m.Respects allowed s acts := by
  induction acts generalizing s with
  | nil => trivial
  | cons a rest ih => exact ⟨h s a, fun t _ => ih t⟩

theorem respects_of_mem {allowed : Action → Prop} {acts : List Action} (h : ∀ a ∈ acts, allowed a) (s : State) :
    m.Respects (fun _ a => allowed a) s acts := by
  induction acts generalizing s with
  | nil => trivial
  | cons a rest ih =>
    exact ⟨h a List.mem_cons_self, fun t _ => ih (fun b hb => h b (List.mem_cons_of_mem a hb)) t⟩

theorem Respects.imp {required : State → Action → Prop} (himp : ∀ s a, allowed s a → required s a) {s : State}
    {acts : List Action} (h : m.Respects allowed s acts) : m.Respects required s acts := by
  induction acts generalizing s with
  | nil => trivial
  | cons a rest ih => exact ⟨himp s a h.1, fun t ht => ih (h.2 t ht)⟩

theorem respects_congr {required : State → Action → Prop} {acts : List Action}
    (hagree : ∀ s, ∀ a ∈ acts, allowed s a ↔ required s a) (s : State) :
    m.Respects allowed s acts ↔ m.Respects required s acts := by
  induction acts generalizing s with
  | nil => rfl
  | cons a rest ih =>
    apply and_congr (hagree s a List.mem_cons_self)
    apply forall_congr'
    intro t
    apply imp_congr_right
    intro _
    exact ih (fun s b hb => hagree s b (List.mem_cons_of_mem a hb)) t

/-- A given run can be checked step by step. -/
instance decidableRespects [∀ s a, Decidable (allowed s a)] : ∀ s acts, Decidable (m.Respects allowed s acts)
  | _, [] => isTrue trivial
  | s, a :: rest =>
    match h : m.step s a with
    | none => decidable_of_iff (allowed s a) ⟨fun ha => ⟨ha, fun t ht => by rw [h] at ht; cases ht⟩, And.left⟩
    | some t =>
      have : Decidable (m.Respects allowed t rest) := decidableRespects t rest
      decidable_of_iff (allowed s a ∧ m.Respects allowed t rest)
        ⟨fun ha => ⟨ha.1, fun u hu => by rw [h] at hu; cases hu; exact ha.2⟩, fun ha => ⟨ha.1, ha.2 t h⟩⟩

variable {Inv : State → Prop}

/-- What every allowed step preserves holds at the end of every run of allowed steps. -/
theorem run_invariant (hstep : ∀ s a t, Inv s → allowed s a → m.step s a = some t → Inv t)
    {s t : State} {acts : List Action} (hs : Inv s) (hallowed : m.Respects allowed s acts)
    (hrun : m.run s acts = some t) : Inv t := by
  induction acts generalizing s with
  | nil => exact Option.some.inj hrun ▸ hs
  | cons a rest ih =>
    obtain ⟨u, hu, hrest⟩ := run_cons.mp hrun
    exact ih (hstep s a u hs hallowed.1 hu) (hallowed.2 u hu) hrest

theorem run_preserves (hstep : ∀ s a t, Inv s → m.step s a = some t → Inv t)
    {s t : State} {acts : List Action} (hs : Inv s) (hrun : m.run s acts = some t) : Inv t := by
  have hall : m.Respects (fun _ _ => True) s acts := respects_of_forall (fun _ _ => trivial) s acts
  exact run_invariant (fun s a t hi _ => hstep s a t hi) hs hall hrun

/-- Where each of its steps lowers a rank that no other step raises, a part of the machine takes no more steps than the rank says. -/
theorem run_rank {rank : State → Nat} {own : Action → Bool}
    (hstep : ∀ s a t, Inv s → allowed s a → m.step s a = some t →
      Inv t ∧ rank t ≤ rank s ∧ (own a = true → rank t < rank s))
    {s t : State} {acts : List Action} (hs : Inv s) (hallowed : m.Respects allowed s acts)
    (hrun : m.run s acts = some t) : Inv t ∧ acts.countP own + rank t ≤ rank s := by
  induction acts generalizing s with
  | nil =>
    obtain rfl := Option.some.inj hrun
    exact ⟨hs, Nat.le_of_eq (Nat.zero_add _)⟩
  | cons a rest ih =>
    obtain ⟨u, hu, hrest⟩ := run_cons.mp hrun
    obtain ⟨hinv, hle, hless⟩ := hstep s a u hs hallowed.1 hu
    obtain ⟨hlast, hsum⟩ := ih hinv (hallowed.2 u hu) hrest
    refine ⟨hlast, ?_⟩
    cases ha : own a with
    | false =>
      rw [List.countP_cons_of_neg (by rw [ha]; exact Bool.false_ne_true)]
      exact Nat.le_trans hsum hle
    | true =>
      have hlower := hless ha
      rw [List.countP_cons_of_pos ha]
      omega

/-- Where the allowed steps are those that keep a property, the steps of a run are allowed exactly when the property holds in every state the run passes. -/
theorem respects_iff_holds {Holds : State → Prop}
    (hstep : ∀ s a t, Inv s → Holds s → m.step s a = some t → Inv t ∧ (Holds t ↔ allowed s a))
    {s t : State} {acts : List Action} (hs : Inv s) (hholds : Holds s) (hrun : m.run s acts = some t) :
    m.Respects allowed s acts ↔ ∀ first rest u, acts = first ++ rest → m.run s first = some u → Holds u := by
  induction acts generalizing s with
  | nil =>
    refine iff_of_true trivial fun first rest u hsplit hu => ?_
    obtain ⟨rfl, _⟩ := List.append_eq_nil_iff.mp hsplit.symm
    exact Option.some.inj hu ▸ hholds
  | cons a acts ih =>
    obtain ⟨next, hnext, hrest⟩ := run_cons.mp hrun
    obtain ⟨hinv, hkeeps⟩ := hstep s a next hs hholds hnext
    constructor
    · rintro ⟨ha, hrespects⟩ first rest u hsplit hu
      have hafter := hkeeps.mpr ha
      cases first with
      | nil => exact Option.some.inj hu ▸ hholds
      | cons b first =>
        obtain ⟨rfl, hacts⟩ := List.cons.inj hsplit
        obtain ⟨v, hv, hu⟩ := run_cons.mp hu
        obtain rfl := Option.some.inj (hnext.symm.trans hv)
        exact (ih hinv hafter hrest).mp (hrespects next hnext) first rest u hacts hu
    · intro hall
      have hafter := hall [a] acts next rfl (run_cons.mpr ⟨next, hnext, rfl⟩)
      refine ⟨hkeeps.mp hafter, fun v hv => ?_⟩
      obtain rfl := Option.some.inj (hnext.symm.trans hv)
      refine (ih hinv hafter hrest).mpr fun first rest u hsplit hu => ?_
      exact hall (a :: first) rest u (congrArg (a :: ·) hsplit) (run_cons.mpr ⟨next, hnext, hu⟩)

/-- A flag that some steps set and no step clears is set at the end of a run when it was set before or one of these steps was taken. The flag may belong to something that a step takes away, but not one that a step adds. -/
theorem run_flag {present flag : State → Prop} {sets : State → Action → Prop}
    (hstep : ∀ s a t, m.step s a = some t → present t → present s ∧ (flag t ↔ flag s ∨ sets s a))
    {s t : State} {acts : List Action} (hrun : m.run s acts = some t) (hpresent : present t) :
    present s ∧ (flag t ↔ flag s ∨ m.Occurs sets s acts) := by
  induction acts generalizing s with
  | nil =>
    obtain rfl := Option.some.inj hrun
    exact ⟨hpresent, (or_iff_left id).symm⟩
  | cons a rest ih =>
    obtain ⟨u, hu, hrest⟩ := run_cons.mp hrun
    obtain ⟨hthere, hflag⟩ := ih hrest
    obtain ⟨hbefore, hset⟩ := hstep s a u hu hthere
    refine ⟨hbefore, hflag.trans ?_⟩
    rw [hset, Occurs, or_assoc]
    simp only [hu, Option.some.injEq, exists_eq_left']

/-! ### Records of a run -/

/-- What has been noted along a run. No step depends on it. -/
def record {Note : Type*} (m : Machine State Action) (note : State → Action → Note → Note) :
    Note → State → List Action → Note
  | n, _, [] => n
  | n, s, a :: rest =>
    match m.step s a with
    | some t => record m note (note s a n) t rest
    | none => n

theorem record_append {Note : Type*} {note : State → Action → Note → Note} {s t : State} {n : Note} {first rest : List Action}
    (hfirst : m.run s first = some t) : m.record note n s (first ++ rest) = m.record note (m.record note n s first) t rest := by
  induction first generalizing s n with
  | nil =>
    obtain rfl := Option.some.inj hfirst
    rfl
  | cons a first ih =>
    obtain ⟨u, hu, hfirst⟩ := run_cons.mp hfirst
    simp only [List.cons_append, record, hu]
    exact ih hfirst

/-- What every allowed step preserves together with its note holds at the end of every run of allowed steps. -/
theorem run_record {Note : Type*} {note : State → Action → Note → Note} {Inv : State → Note → Prop}
    (hstep : ∀ s n a t, Inv s n → allowed s a → m.step s a = some t → Inv t (note s a n))
    {s t : State} {n : Note} {acts : List Action} (hs : Inv s n) (hallowed : m.Respects allowed s acts)
    (hrun : m.run s acts = some t) : Inv t (m.record note n s acts) := by
  induction acts generalizing s n with
  | nil => exact Option.some.inj hrun ▸ hs
  | cons a rest ih =>
    obtain ⟨u, hu, hrest⟩ := run_cons.mp hrun
    simp only [record, hu]
    exact ih (hstep s n a u hs hallowed.1 hu) (hallowed.2 u hu) hrest

/-! ### States with what has occurred before them -/

/-- Of a given run it can be checked whether some step meets a condition. -/
instance decidableOccurs {occurs : State → Action → Prop} [∀ s a, Decidable (occurs s a)] :
    ∀ s acts, Decidable (m.Occurs occurs s acts)
  | _, [] => isFalse id
  | s, a :: rest =>
    match h : m.step s a with
    | none => decidable_of_iff (occurs s a) ⟨.inl, fun hor => hor.resolve_right fun ⟨t, ht, _⟩ => by rw [h] at ht; cases ht⟩
    | some t =>
      have : Decidable (m.Occurs occurs t rest) := decidableOccurs t rest
      decidable_of_iff (occurs s a ∨ m.Occurs occurs t rest)
        ⟨Or.imp_right fun hrest => ⟨t, h, hrest⟩, Or.imp_right fun ⟨u, hu, hrest⟩ => by rw [h] at hu; cases hu; exact hrest⟩

/-- A statement about every state that a run passes and whether a step before it has met a condition, or the condition was met before the run. -/
def Throughout (m : Machine State Action) (occurs : State → Action → Prop) (holds : Prop → State → Prop) (before : Prop)
    (s : State) (acts : List Action) : Prop :=
  ∀ first rest u, acts = first ++ rest → m.run s first = some u → holds (before ∨ m.Occurs occurs s first) u

variable {occurs : State → Action → Prop} {holds : Prop → State → Prop} {before : Prop}

theorem throughout_nil {s : State} : m.Throughout occurs holds before s [] ↔ holds before s := by
  constructor
  · intro h
    have hstart := h [] [] s rfl rfl
    rwa [Occurs, or_false] at hstart
  · intro h first rest u hsplit hu
    obtain ⟨rfl, _⟩ := List.append_eq_nil_iff.mp hsplit.symm
    obtain rfl := Option.some.inj hu
    rwa [Occurs, or_false]

theorem throughout_cons {s : State} {a : Action} {acts : List Action} :
    m.Throughout occurs holds before s (a :: acts) ↔ holds before s ∧
      ∀ t, m.step s a = some t → m.Throughout occurs holds (before ∨ occurs s a) t acts := by
  have hoccurs {t : State} (ht : m.step s a = some t) (first : List Action) :
      (before ∨ m.Occurs occurs s (a :: first)) = ((before ∨ occurs s a) ∨ m.Occurs occurs t first) := by
    simp only [Occurs, ht, Option.some.injEq, exists_eq_left', or_assoc]
  constructor
  · intro h
    constructor
    · have hstart := h [] (a :: acts) s rfl rfl
      rwa [Occurs, or_false] at hstart
    · rintro t ht first rest u rfl hu
      have hafter := h (a :: first) rest u rfl (run_cons.mpr ⟨t, ht, hu⟩)
      rwa [hoccurs ht] at hafter
  · rintro ⟨hstart, hafter⟩ first rest u hsplit hu
    cases first with
    | nil =>
      obtain rfl := Option.some.inj hu
      rwa [Occurs, or_false]
    | cons b first =>
      obtain ⟨rfl, hacts⟩ := List.cons.inj hsplit
      obtain ⟨t, ht, hu⟩ := run_cons.mp hu
      rw [hoccurs ht]
      exact hafter t ht first rest u hacts hu

/-- Two statements agree throughout a run where they agree under an invariant that the first of them keeps. -/
theorem throughout_iff {Inv required : Prop → State → Prop}
    (hagree : ∀ {before s}, Inv before s → (holds before s ↔ required before s))
    (hstep : ∀ {before s a t}, Inv before s → holds before s → m.step s a = some t → Inv (before ∨ occurs s a) t)
    {s : State} {acts : List Action} (hs : Inv before s) :
    m.Throughout occurs holds before s acts ↔ m.Throughout occurs required before s acts := by
  induction acts generalizing before s with
  | nil => rw [throughout_nil, throughout_nil, hagree hs]
  | cons a acts ih =>
    rw [throughout_cons, throughout_cons, ← hagree hs]
    refine and_congr_right fun hholds => forall_congr' fun t => forall_congr' fun ht => ?_
    exact ih (hstep hs hholds ht)

end Machine
