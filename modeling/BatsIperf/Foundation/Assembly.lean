import Mathlib.Algebra.GroupWithZero.Nat
import Mathlib.Data.List.Forall2
import Mathlib.Data.List.Induction
import Mathlib.Tactic.Common

/-!
# Messages that travel in segments

A message is cut into segments of any size. The first segment of a message opens it and carries its key, the last one closes it, and a message of one segment is opened and closed at once. The assembler below accepts the segments of one channel only while they follow this order, so a channel it accepts carries whole messages, one after another, and perhaps a part of one more.

A channel is a list of blocks, with a function that reads the segment in a block.
-/

structure Segment (κ α : Type*) where
  opening : Option κ
  closing : Bool
  payload : List α
  deriving DecidableEq

/-- The messages that were closed, and the one that is open. -/
structure Assembly (κ α : Type*) where
  current : Option (κ × List α) := none
  finished : List (κ × List α) := []
  deriving DecidableEq

namespace Assembly

variable {κ α β : Type*}

def put (a : Assembly κ α) (closing : Bool) (message : κ × List α) : Assembly κ α :=
  if closing then { current := none, finished := a.finished ++ [message] }
  else { current := some message, finished := a.finished }

/-- A message is opened when none is open, and continued when one is. -/
def take (a : Assembly κ α) (segment : Segment κ α) : Option (Assembly κ α) :=
  match segment.opening, a.current with
  | some key, none => some (a.put segment.closing (key, segment.payload))
  | none, some (key, content) => some (a.put segment.closing (key, content ++ segment.payload))
  | some _, some _ | none, none => none

def assemble (view : β → Option (Segment κ α)) (blocks : List β) : Option (Assembly κ α) :=
  blocks.foldlM (fun a block => (view block).bind a.take) {}

/-- All messages that were opened, with what has arrived of them. -/
def messages (a : Assembly κ α) : List (κ × List α) := a.finished ++ a.current.toList

def keys (a : Assembly κ α) : List κ := a.messages.map Prod.fst

variable {view : β → Option (Segment κ α)}

/-! ### One segment -/

theorem take_eq_some {a b : Assembly κ α} {segment : Segment κ α} (h : a.take segment = some b) :
    (∃ key, segment.opening = some key ∧ a.current = none ∧ b = a.put segment.closing (key, segment.payload)) ∨
      ∃ key content, segment.opening = none ∧ a.current = some (key, content) ∧
        b = a.put segment.closing (key, content ++ segment.payload) := by
  unfold take at h
  split at h
  · rename_i key hopening hcurrent
    exact .inl ⟨key, hopening, hcurrent, (Option.some.inj h).symm⟩
  · rename_i key content hopening hcurrent
    exact .inr ⟨key, content, hopening, hcurrent, (Option.some.inj h).symm⟩
  all_goals simp at h

theorem messages_put (a : Assembly κ α) (closing : Bool) (message : κ × List α) :
    (a.put closing message).messages = a.finished ++ [message] := by
  cases closing <;> simp [put, messages]

theorem keys_take {a b : Assembly κ α} {segment : Segment κ α} (h : a.take segment = some b) :
    b.keys = a.keys ++ segment.opening.toList := by
  rcases take_eq_some h with ⟨key, hopening, hcurrent, rfl⟩ | ⟨key, content, hopening, hcurrent, rfl⟩
  · rw [keys, messages_put]
    simp [keys, messages, hopening, hcurrent]
  · rw [keys, messages_put]
    simp [keys, messages, hopening, hcurrent]

theorem finished_take {a b : Assembly κ α} {segment : Segment κ α} (h : a.take segment = some b) :
    b.finished.length = a.finished.length + segment.closing.toNat := by
  rcases take_eq_some h with ⟨key, _, _, rfl⟩ | ⟨key, content, _, _, rfl⟩
  all_goals cases segment.closing <;> simp [put]

/-! ### A channel -/

@[simp] theorem assemble_nil : assemble view [] = some {} := rfl

theorem assemble_append (first rest : List β) :
    assemble view (first ++ rest) =
      (assemble view first).bind fun a => rest.foldlM (fun a block => (view block).bind a.take) a :=
  List.foldlM_append

theorem assemble_concat {blocks : List β} {block : β} {b : Assembly κ α} :
    assemble view (blocks ++ [block]) = some b ↔
      ∃ a segment, assemble view blocks = some a ∧ view block = some segment ∧ a.take segment = some b := by
  simp only [assemble_append, List.foldlM_cons, List.foldlM_nil, Option.bind_eq_some_iff, Option.bind_eq_bind,
    Option.pure_def, Option.some.injEq]
  constructor
  · intro ⟨a, ha, b, ⟨segment, hsegment, htake⟩, hb⟩
    exact ⟨a, segment, ha, hsegment, hb ▸ htake⟩
  · intro ⟨a, segment, ha, hsegment, htake⟩
    exact ⟨a, ha, b, ⟨segment, hsegment, htake⟩, rfl⟩

theorem assemble_of_initial {first blocks : List β} {b : Assembly κ α} (hfirst : first <+: blocks)
    (h : assemble view blocks = some b) : ∃ a, assemble view first = some a := by
  obtain ⟨rest, rfl⟩ := hfirst
  rw [assemble_append] at h
  obtain ⟨a, ha, _⟩ := Option.bind_eq_some_iff.mp h
  exact ⟨a, ha⟩

theorem keys_assemble {blocks : List β} {a : Assembly κ α} (h : assemble view blocks = some a) :
    a.keys = blocks.filterMap fun block => (view block).bind Segment.opening := by
  induction blocks using List.reverseRecOn generalizing a with
  | nil =>
    obtain rfl := Option.some.inj h
    rfl
  | append_singleton blocks block ih =>
    obtain ⟨before, segment, hbefore, hsegment, htake⟩ := assemble_concat.mp h
    rw [keys_take htake, ih hbefore, List.filterMap_append]
    cases hopening : segment.opening <;> simp [hsegment, hopening]

/-- A channel is accepted only where every block has a segment. -/
theorem view_of_assemble {blocks : List β} {a : Assembly κ α} (h : assemble view blocks = some a) :
    ∀ block ∈ blocks, ∃ segment, view block = some segment := by
  induction blocks using List.reverseRecOn generalizing a with
  | nil => simp
  | append_singleton blocks block ih =>
    obtain ⟨before, segment, hbefore, hsegment, _⟩ := assemble_concat.mp h
    intro other hother
    rcases List.mem_append.mp hother with hother | hother
    · exact ih hbefore other hother
    · obtain rfl := List.mem_singleton.mp hother
      exact ⟨segment, hsegment⟩

theorem keys_initial {first blocks : List β} {a b : Assembly κ α} (hfirst : first <+: blocks)
    (ha : assemble view first = some a) (hb : assemble view blocks = some b) : a.keys <+: b.keys := by
  rw [keys_assemble ha, keys_assemble hb]
  exact hfirst.filterMap _

/-! ### A message that is cut into segments -/

/-- The next segment of a message of which `sent` elements have been sent. -/
def nextSegment (key : κ) (content : List α) (sent count : Nat) : Segment κ α where
  opening := if sent = 0 then some key else none
  closing := decide (sent + count = content.length)
  payload := (content.drop sent).take count

/-- The assembly of a channel when `sent` elements of the last message have been sent. -/
def sentTo (finished : List (κ × List α)) (key : κ) (content : List α) (sent : Nat) : Assembly κ α :=
  if sent = content.length then { finished := finished ++ [(key, content)] }
  else if sent = 0 then { finished := finished }
  else { current := some (key, content.take sent), finished := finished }

theorem take_nextSegment {finished : List (κ × List α)} {key : κ} {content : List α} {sent count : Nat}
    (hcount : 0 < count) (hfits : sent + count ≤ content.length) :
    (sentTo finished key content sent).take (nextSegment key content sent count)
      = some (sentTo finished key content (sent + count)) := by
  have hopen : sent ≠ content.length := by omega
  have hsent : sent + count ≠ 0 := by omega
  have hjoined : content.take sent ++ (content.drop sent).take count = content.take (sent + count) := List.take_add.symm
  by_cases hfirst : sent = 0
  · subst hfirst
    by_cases hlast : count = content.length
    · simp [sentTo, nextSegment, take, put, hopen, hlast]
    · have hcount : count ≠ 0 := by omega
      simp [sentTo, nextSegment, take, put, hopen, hlast, hcount]
  · by_cases hlast : sent + count = content.length
    · have hwhole : content.take (sent + count) = content := List.take_of_length_le (by omega)
      rw [hwhole] at hjoined
      simp [sentTo, nextSegment, take, put, hopen, hfirst, hlast, hjoined]
    · simp [sentTo, nextSegment, take, put, hopen, hfirst, hlast, hjoined]

/-! ### Whole messages -/

/-- The blocks carry one message from its beginning: the first block opens it, the others do not, and only the last may close it. -/
def Spans (view : β → Option (Segment κ α)) (closed : Bool) (blocks : List β) (message : κ × List α) : Prop :=
  ∃ (segments : List (Segment κ α)) (count : Nat), blocks.map view = segments.map some ∧
    segments.map Segment.opening = some message.1 :: List.replicate count none ∧
    segments.map Segment.closing = List.replicate count false ++ [closed] ∧
    segments.flatMap Segment.payload = message.2

theorem spans_opening {block : β} {segment : Segment κ α} {key : κ} (hview : view block = some segment)
    (hopening : segment.opening = some key) : Spans view segment.closing [block] (key, segment.payload) :=
  ⟨[segment], 0, by simp [hview], by simp [hopening], by simp, by simp⟩

theorem Spans.continue {blocks : List β} {block : β} {segment : Segment κ α} {key : κ} {content : List α}
    (h : Spans view false blocks (key, content)) (hview : view block = some segment) (hopening : segment.opening = none) :
    Spans view segment.closing (blocks ++ [block]) (key, content ++ segment.payload) := by
  obtain ⟨segments, count, hviews, hopenings, hclosings, hpayload⟩ := h
  refine ⟨segments ++ [segment], count + 1, ?_, ?_, ?_, ?_⟩
  · simp [hviews, hview]
  · simp [hopenings, hopening, List.replicate_succ']
  · simp [hclosings, List.replicate_succ']
  · simp [hpayload]

/-- Any block of a message: the first opens it, and the last closes it where it is closed. -/
theorem Spans.segment_at {closed : Bool} {before after : List β} {block : β} {message : κ × List α}
    (h : Spans view closed (before ++ block :: after) message) : ∃ segment, view block = some segment ∧
      segment.opening = (if before = [] then some message.1 else none) ∧
      segment.closing = (if after = [] then closed else false) := by
  obtain ⟨segments, count, hviews, hopenings, hclosings, _⟩ := h
  rw [List.map_append, List.map_cons, eq_comm] at hviews
  obtain ⟨first, others, rfl, hfirst, hothers⟩ := List.map_eq_append_iff.mp hviews
  obtain ⟨segment, rest, rfl, hsegment, hrest⟩ := List.map_eq_cons_iff.mp hothers
  refine ⟨segment, hsegment.symm, ?_, ?_⟩
  · cases first with
    | nil =>
      have hbefore : before = [] := by simpa using hfirst.symm
      rw [if_pos hbefore]
      exact (List.cons.inj hopenings).1
    | cons head first =>
      have hbefore : before ≠ [] := by
        rintro rfl
        simp at hfirst
      have hmem : segment.opening ∈ List.replicate count (none : Option κ) := by
        rw [← (List.cons.inj hopenings).2]
        simp
      rw [if_neg hbefore, List.eq_of_mem_replicate hmem]
  · rw [List.map_append, List.map_cons] at hclosings
    by_cases hafter : after = []
    · have hnil : rest = [] := by simpa [hafter] using hrest
      rw [if_pos hafter]
      rw [hnil] at hclosings
      exact List.singleton_inj.mp (List.append_inj_right' hclosings rfl)
    · have hsome : rest.map Segment.closing ≠ [] := by
        intro hnil
        rw [List.map_eq_nil_iff] at hnil
        rw [hnil, List.map_nil, eq_comm, List.map_eq_nil_iff] at hrest
        exact hafter hrest
      have hmem : segment.closing ∈ (List.replicate count false ++ [closed]).dropLast := by
        rw [← hclosings, List.dropLast_append_cons, List.dropLast_cons_of_ne_nil hsome]
        simp
      rw [List.dropLast_concat] at hmem
      rw [if_neg hafter, List.eq_of_mem_replicate hmem]

/-- The content of a message is as long as its payloads together. -/
theorem Spans.length_content {closed : Bool} {blocks : List β} {message : κ × List α} (h : Spans view closed blocks message) :
    (blocks.map fun block => ((view block).elim 0 fun segment => segment.payload.length)).sum = message.2.length := by
  obtain ⟨segments, _, hviews, _, _, hpayload⟩ := h
  have hlengths : (blocks.map fun block => ((view block).elim 0 fun segment => segment.payload.length))
      = segments.map fun segment => segment.payload.length := by
    have hmapped := congrArg (List.map fun found => Option.elim found 0 fun segment => segment.payload.length) hviews
    rwa [List.map_map, List.map_map] at hmapped
  rw [hlengths, ← hpayload, List.length_flatMap]

/-- The blocks of an accepted channel are those of the closed messages, in their order, and then those of the open one. -/
theorem assemble_spans {blocks : List β} {a : Assembly κ α} (h : assemble view blocks = some a) :
    ∃ groups tail, blocks = groups.flatten ++ tail ∧ List.Forall₂ (Spans view true) groups a.finished ∧
      (a.current = none → tail = []) ∧ ∀ message, a.current = some message → Spans view false tail message := by
  induction blocks using List.reverseRecOn generalizing a with
  | nil =>
    obtain rfl := Option.some.inj h
    exact ⟨[], [], rfl, .nil, fun _ => rfl, fun _ hcurrent => absurd hcurrent (by simp)⟩
  | append_singleton blocks block ih =>
    obtain ⟨before, segment, hbefore, hview, htake⟩ := assemble_concat.mp h
    obtain ⟨groups, tail, rfl, hgroups, hidle, hopen⟩ := ih hbefore
    have hextended : ∃ message, a = before.put segment.closing message ∧
        Spans view segment.closing (tail ++ [block]) message := by
      rcases take_eq_some htake with ⟨key, hopening, hcurrent, rfl⟩ | ⟨key, content, hopening, hcurrent, rfl⟩
      · rw [hidle hcurrent]
        exact ⟨_, rfl, spans_opening hview hopening⟩
      · exact ⟨_, rfl, (hopen _ hcurrent).continue hview hopening⟩
    obtain ⟨message, rfl, hspans⟩ := hextended
    cases hclosing : segment.closing with
    | true =>
      rw [hclosing] at hspans
      refine ⟨groups ++ [tail ++ [block]], [], by simp, ?_, fun _ => rfl, fun _ hcurrent => absurd hcurrent (by simp [put])⟩
      exact List.rel_append hgroups (.cons hspans .nil)
    | false =>
      rw [hclosing] at hspans
      refine ⟨groups, tail ++ [block], by simp, hgroups, fun hcurrent => absurd hcurrent (by simp [put]), ?_⟩
      intro other hcurrent
      obtain rfl := Option.some.inj hcurrent
      exact hspans

/-! ### Beginnings -/

/-- What an assembly holds of a list of messages: the closed messages are the first ones of the list, and the open one is a proper beginning of the next. -/
structure BeginningOf (a : Assembly κ α) (whole : List (κ × List α)) : Prop where
  finished : a.finished <+: whole
  current : ∀ key content, a.current = some (key, content) → ∃ full rest,
    whole = a.finished ++ (key, full) :: rest ∧ content <+: full ∧ content.length < full.length

theorem beginningOf_finished (finished : List (κ × List α)) :
    ({ finished := finished } : Assembly κ α).BeginningOf finished :=
  ⟨List.prefix_refl _, fun _ _ hcurrent => absurd hcurrent.symm (Option.some_ne_none _)⟩

theorem BeginningOf.append {a : Assembly κ α} {whole : List (κ × List α)} (h : a.BeginningOf whole)
    (more : List (κ × List α)) : a.BeginningOf (whole ++ more) := by
  refine ⟨h.finished.trans (List.prefix_append _ _), fun key content hcurrent => ?_⟩
  obtain ⟨full, rest, rfl, hcontent, hlength⟩ := h.current key content hcurrent
  exact ⟨full, rest ++ more, by simp, hcontent, hlength⟩

theorem beginningOf_sentTo {sent : Nat} {content : List α} (hsent : sent ≤ content.length)
    (finished : List (κ × List α)) (key : κ) :
    (sentTo finished key content sent).BeginningOf (finished ++ [(key, content)]) := by
  unfold sentTo
  split
  · exact beginningOf_finished _
  split
  · exact (beginningOf_finished finished).append _
  · rename_i hopen _
    refine ⟨List.prefix_append _ _, fun other part hcurrent => ?_⟩
    obtain ⟨rfl, rfl⟩ := Prod.mk.inj (Option.some.inj hcurrent)
    exact ⟨content, [], rfl, List.take_prefix _ _, by simp only [List.length_take]; omega⟩

theorem BeginningOf.of_take {a b : Assembly κ α} {segment : Segment κ α} {whole : List (κ × List α)}
    (h : b.BeginningOf whole) (hpayload : segment.payload ≠ []) (htake : a.take segment = some b) :
    a.BeginningOf whole := by
  have hput {message : κ × List α} (hb : b = a.put segment.closing message) : a.finished <+: whole ∧
      ∃ full rest, whole = a.finished ++ (message.1, full) :: rest ∧ message.2 <+: full := by
    cases hclosing : segment.closing with
    | true =>
      have hfinished := h.finished
      rw [hb, hclosing] at hfinished
      obtain ⟨rest, rfl⟩ := hfinished
      simp only [put, if_true, List.append_assoc]
      exact ⟨List.prefix_append _ _, message.2, rest, rfl, List.prefix_refl _⟩
    | false =>
      rw [hclosing] at hb
      obtain ⟨full, rest, hwhole, hcontent, _⟩ := h.current message.1 message.2 (by rw [hb]; rfl)
      have hfinished : b.finished = a.finished := by rw [hb]; rfl
      rw [hfinished] at hwhole
      exact ⟨hwhole ▸ List.prefix_append _ _, full, rest, hwhole, hcontent⟩
  rcases take_eq_some htake with ⟨key, _, hcurrent, hb⟩ | ⟨key, content, _, hcurrent, hb⟩
  · refine ⟨(hput hb).1, fun other part hopen => ?_⟩
    rw [hcurrent] at hopen
    exact absurd hopen.symm (Option.some_ne_none _)
  · refine ⟨(hput hb).1, fun other part hopen => ?_⟩
    rw [hcurrent] at hopen
    obtain ⟨rfl, rfl⟩ := Prod.mk.inj (Option.some.inj hopen)
    obtain ⟨_, full, rest, hwhole, hcontent⟩ := hput hb
    refine ⟨full, rest, hwhole, (List.prefix_append _ _).trans hcontent, ?_⟩
    have hlength := hcontent.length_le
    have hmore := List.length_pos_iff.mpr hpayload
    simp only [List.length_append] at hlength
    omega

theorem BeginningOf.of_initial {first blocks : List β} {a b : Assembly κ α} {whole : List (κ × List α)}
    (h : b.BeginningOf whole) (hpayload : ∀ block segment, view block = some segment → segment.payload ≠ [])
    (hfirst : first <+: blocks) (ha : assemble view first = some a) (hb : assemble view blocks = some b) :
    a.BeginningOf whole := by
  obtain ⟨rest, rfl⟩ := hfirst
  induction rest using List.reverseRecOn generalizing b with
  | nil =>
    rw [List.append_nil] at hb
    obtain rfl := Option.some.inj (ha.symm.trans hb)
    exact h
  | append_singleton rest block ih =>
    rw [← List.append_assoc] at hb
    obtain ⟨before, segment, hbefore, hview, htake⟩ := assemble_concat.mp hb
    exact ih (h.of_take (hpayload block segment hview) htake) hbefore

/-- A message that was opened is one of the list, and what has arrived of it is a beginning of it. -/
theorem BeginningOf.of_mem {a : Assembly κ α} {whole : List (κ × List α)} (h : a.BeginningOf whole) {key : κ}
    {content : List α} (hmem : (key, content) ∈ a.messages) : ∃ full, (key, full) ∈ whole ∧ content <+: full := by
  rcases List.mem_append.mp hmem with hclosed | hopen
  · exact ⟨content, h.finished.subset hclosed, List.prefix_refl _⟩
  · obtain ⟨full, rest, rfl, hcontent, _⟩ := h.current key content (Option.mem_toList.mp hopen)
    exact ⟨full, by simp, hcontent⟩

theorem BeginningOf.keys {a : Assembly κ α} {whole : List (κ × List α)} (h : a.BeginningOf whole) :
    a.keys <+: whole.map Prod.fst := by
  rw [Assembly.keys, messages, List.map_append]
  cases hcurrent : a.current with
  | none =>
    rw [Option.toList_none, List.map_nil, List.append_nil]
    exact h.finished.map _
  | some message =>
    obtain ⟨full, rest, hwhole, _⟩ := h.current message.1 message.2 hcurrent
    rw [hwhole, List.map_append, List.map_cons, Option.toList_some]
    exact ⟨rest.map Prod.fst, by simp⟩

end Assembly
