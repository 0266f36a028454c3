import Mathlib.Algebra.Order.Ring.Nat
import Mathlib.Data.List.Basic
import Mathlib.Data.List.TakeWhile
import Mathlib.Tactic.Ring

/-!
# Little-endian words in a byte sequence

Fixed-width little-endian words are written as lists of bytes and read back through a cursor, which is the rest of the sequence. A read that would leave the sequence has no result, so a definition built from these reads cannot look past the end of its input.
-/

abbrev Octets := List UInt8

namespace Octets

/-- The `k` low bytes of a natural number, least significant first. -/
def leBytes : Nat → Nat → Octets
  | 0, _ => []
  | k + 1, n => UInt8.ofNat n :: leBytes k (n / 256)

/-- The number whose little-endian bytes are given. -/
def leNat : Octets → Nat
  | [] => 0
  | b :: rest => b.toNat + 256 * leNat rest

/-- The next `len` bytes at the cursor and the cursor behind them. -/
def next (len : Nat) (cursor : Octets) : Option (Octets × Octets) :=
  if len ≤ cursor.length then some (cursor.take len, cursor.drop len) else none

/-- The next `k`-byte word at the cursor and the cursor behind it. -/
def nextLE (k : Nat) (cursor : Octets) : Option (Nat × Octets) :=
  (next k cursor).map fun read => (leNat read.1, read.2)

/-- The next 64-bit word at the cursor and the cursor behind it. -/
def nextWord (cursor : Octets) : Option (UInt64 × Octets) :=
  (nextLE 8 cursor).map fun read => (.ofNat read.1, read.2)

/-- The `k`-byte word at an offset, which is read on its own. -/
def leAt (k offset : Nat) (bytes : Octets) : Option Nat := (nextLE k (bytes.drop offset)).map Prod.fst

def words (ws : List UInt64) : Octets := ws.flatMap fun w => leBytes 8 w.toNat

/-- A buffer of `size` zero bytes whose first bytes are overwritten, if they fit. -/
def fill (size : Nat) (bs : Octets) : Option Octets :=
  if bs.length ≤ size then some (bs ++ List.replicate (size - bs.length) 0) else none

@[simp] theorem length_leBytes (k n : Nat) : (leBytes k n).length = k := by
  induction k generalizing n with
  | zero => rfl
  | succ k ih => simp only [leBytes, List.length_cons, ih]

@[simp] theorem leNat_leBytes (k n : Nat) : leNat (leBytes k n) = n % 256 ^ k := by
  induction k generalizing n with
  | zero => simp only [leBytes, leNat, pow_zero, Nat.mod_one]
  | succ k ih =>
    have hlow : (UInt8.ofNat n).toNat = n % 256 := UInt8.toNat_ofNat'
    rw [leBytes, leNat, ih, hlow, pow_succ', Nat.mod_mul]

theorem next_append {word rest : Octets} {len : Nat} (hlen : word.length = len) :
    next len (word ++ rest) = some (word, rest) := by
  subst hlen
  rw [next, if_pos (by rw [List.length_append]; omega), List.take_left, List.drop_left]

@[simp] theorem nextLE_leBytes_append (k n : Nat) (rest : Octets) :
    nextLE k (leBytes k n ++ rest) = some (n % 256 ^ k, rest) := by
  rw [nextLE, next_append (length_leBytes k n), Option.map_some, leNat_leBytes]

/-! ### Words of the fixed-width types -/

@[simp] theorem uint8_word (x : UInt8) : UInt8.ofNat (x.toNat % 256 ^ 1) = x := by
  rw [Nat.mod_eq_of_lt (show x.toNat < 256 ^ 1 from x.toNat_lt), UInt8.ofNat_toNat]

@[simp] theorem uint32_word (x : UInt32) : UInt32.ofNat (x.toNat % 256 ^ 4) = x := by
  rw [Nat.mod_eq_of_lt (show x.toNat < 256 ^ 4 from x.toNat_lt), UInt32.ofNat_toNat]

@[simp] theorem uint64_word (x : UInt64) : UInt64.ofNat (x.toNat % 256 ^ 8) = x := by
  rw [Nat.mod_eq_of_lt (show x.toNat < 256 ^ 8 from x.toNat_lt), UInt64.ofNat_toNat]

/-! ### Sequences of words -/

@[simp] theorem words_nil : words [] = [] := rfl

theorem words_cons (w : UInt64) (ws : List UInt64) : words (w :: ws) = leBytes 8 w.toNat ++ words ws :=
  List.flatMap_cons

theorem words_append (first rest : List UInt64) : words (first ++ rest) = words first ++ words rest :=
  List.flatMap_append

@[simp] theorem length_words (ws : List UInt64) : (words ws).length = 8 * ws.length := by
  induction ws with
  | nil => rfl
  | cons w ws ih =>
    rw [words_cons, List.length_append, length_leBytes, ih, List.length_cons]
    omega

@[simp] theorem nextWord_words_cons (w : UInt64) (ws : List UInt64) (rest : Octets) :
    nextWord (words (w :: ws) ++ rest) = some (w, words ws ++ rest) := by
  rw [nextWord, words_cons, List.append_assoc, nextLE_leBytes_append, Option.map_some, uint64_word]

theorem words_zero (count : Nat) : words (List.replicate count 0) = List.replicate (8 * count) 0 := by
  induction count with
  | zero => rfl
  | succ count ih =>
    rw [List.replicate_succ, words_cons, ih, Nat.mul_succ, Nat.add_comm, List.replicate_add]
    rfl

theorem nextWord_eq_none {cursor : Octets} (h : cursor.length < 8) : nextWord cursor = none := by
  rw [nextWord, nextLE, next, if_neg (by omega), Option.map_none, Option.map_none]

/-! ### Writes in place -/

/-- The sequence with the bytes from an offset on replaced. -/
def putAt (buffer : Octets) (offset : Nat) (bytes : Octets) : Octets :=
  buffer.take offset ++ (bytes ++ buffer.drop (offset + bytes.length))

theorem putAt_append {front old bytes back : Octets} {offset : Nat} (hoffset : front.length = offset)
    (hlength : old.length = bytes.length) : putAt (front ++ (old ++ back)) offset bytes = front ++ (bytes ++ back) := by
  subst hoffset
  have hbehind : (front ++ (old ++ back)).drop (front.length + bytes.length) = back := by
    rw [← hlength, ← List.length_append, ← List.append_assoc, List.drop_left]
  rw [putAt, hbehind, List.take_left]

theorem putAt_putAt (buffer first second : Octets) {offset : Nat} (hoffset : offset ≤ buffer.length) :
    putAt (putAt buffer offset first) (offset + first.length) second = putAt buffer offset (first ++ second) := by
  have hfront : (buffer.take offset ++ first).length = offset + first.length := by
    rw [List.length_append, List.length_take_of_le hoffset]
  have hstart : (buffer.take offset ++ (first ++ buffer.drop (offset + first.length))).take (offset + first.length)
      = buffer.take offset ++ first := by
    rw [← hfront, ← List.append_assoc, List.take_left]
  have hbehind : (buffer.take offset ++ (first ++ buffer.drop (offset + first.length))).drop
      (offset + first.length + second.length) = buffer.drop (offset + (first ++ second).length) := by
    rw [← hfront, ← List.drop_drop, ← List.append_assoc, List.drop_left, List.drop_drop, hfront, List.length_append,
      Nat.add_assoc]
  simp only [putAt] at hstart hbehind ⊢
  rw [hstart, hbehind, List.append_assoc, List.append_assoc]

theorem putAt_words (ws : List UInt64) (back : Octets) {i : Nat} (hi : i < ws.length) (word : UInt64) :
    putAt (words ws ++ back) (8 * i) (leBytes 8 word.toNat) = words (ws.set i word) ++ back := by
  have hsplit : words ws ++ back = words (ws.take i) ++ (leBytes 8 ws[i].toNat ++ (words (ws.drop (i + 1)) ++ back)) := by
    rw [← List.append_assoc (leBytes _ _), ← words_cons, ← List.drop_eq_getElem_cons hi, ← List.append_assoc,
      ← words_append, List.take_append_drop]
  have hfront : (words (ws.take i)).length = 8 * i := by
    rw [length_words, List.length_take_of_le hi.le]
  rw [hsplit, putAt_append hfront (by simp), List.set_eq_take_cons_drop _ hi, words_append, words_cons]
  simp

/-! ### Fixed arrays of characters -/

def ofText (text : String) : Octets := text.toUTF8.data.toList

/-- The `char[size]` field of a structure. -/
structure CharArray (size : Nat) where
  bytes : Octets
  length_bytes : bytes.length = size
  deriving DecidableEq

def untilNul (bs : Octets) : Octets := bs.takeWhile (· ≠ 0)

/-- A zeroed array whose first bytes are overwritten; what does not fit is cut off. -/
def CharArray.overwrite (size : Nat) (bs : Octets) : CharArray size where
  bytes := bs.take size ++ List.replicate (size - bs.length) 0
  length_bytes := by
    rw [List.length_append, List.length_take, List.length_replicate]
    omega

/-- `strncpy` into a zeroed array, with a count the array has room for. -/
def CharArray.strncpy (size : Nat) (bs : Octets) (count : Nat) : CharArray size :=
  .overwrite size ((untilNul bs).take count)

/-- The array at the cursor and the cursor behind it. -/
def nextArray (size : Nat) (cursor : Octets) : Option (CharArray size × Octets) :=
  if h : size ≤ cursor.length then some (⟨cursor.take size, List.length_take_of_le h⟩, cursor.drop size) else none

@[simp] theorem nextArray_append {size : Nat} (array : CharArray size) (rest : Octets) :
    nextArray size (array.bytes ++ rest) = some (array, rest) := by
  obtain ⟨bytes, rfl⟩ := array
  have hfit : bytes.length ≤ (bytes ++ rest).length := by
    rw [List.length_append]
    omega
  simp only [nextArray, dif_pos hfit, List.take_left, List.drop_left]

theorem untilNul_replicate (bs : Octets) (count : Nat) : untilNul (bs ++ List.replicate count 0) = untilNul bs := by
  induction bs with
  | nil => cases count <;> rfl
  | cons b bs ih =>
    by_cases hb : b = 0
    · simp [untilNul, hb]
    · simpa [untilNul, hb] using ih

theorem untilNul_eq {bs : Octets} (h : 0 ∉ bs) : untilNul bs = bs := by
  refine List.takeWhile_eq_self_iff.mpr fun b hb => ?_
  have hne : b ≠ 0 := fun h0 => h (h0 ▸ hb)
  simpa using hne

theorem zero_notMem_untilNul (bs : Octets) : 0 ∉ untilNul bs := by
  intro h
  simpa using List.mem_takeWhile_imp h

theorem untilNul_strncpy {size count : Nat} (bs : Octets) (hcount : count ≤ size) :
    untilNul (CharArray.strncpy size bs count).bytes = (untilNul bs).take count := by
  have hcopied : ((untilNul bs).take count).take size = (untilNul bs).take count := by
    rw [List.take_take, min_eq_right hcount]
  have hnul : 0 ∉ (untilNul bs).take count := fun h => zero_notMem_untilNul bs (List.mem_of_mem_take h)
  simp only [CharArray.strncpy, CharArray.overwrite, hcopied, untilNul_replicate, untilNul_eq hnul]

/-! ### Readers of a fixed size -/

/-- A reader that takes `size` bytes where the cursor has so many, and has no result where it has fewer. -/
structure Reads {α : Type*} (size : Nat) (read : Octets → Option (α × Octets)) : Prop where
  enough : ∀ {cursor : Octets}, size ≤ cursor.length → ∃ value, read cursor = some (value, cursor.drop size)
  short : ∀ {cursor : Octets}, cursor.length < size → read cursor = none

/-- The same of a function that does not say where it has stopped. -/
def Needs {α : Type*} (size : Nat) (read : Octets → Option α) : Prop :=
  ∀ cursor, read cursor = none ↔ cursor.length < size

section

variable {α β : Type*} {size more : Nat} {read : Octets → Option (α × Octets)}

theorem reads_next (size : Nat) : Reads size (next size) where
  enough := fun h => ⟨_, if_pos h⟩
  short := fun h => if_neg (by omega)

theorem Reads.map (h : Reads size read) (f : α → β) :
    Reads size fun cursor => (read cursor).map fun result => (f result.1, result.2) where
  enough := by
    intro cursor henough
    obtain ⟨value, hvalue⟩ := h.enough henough
    exact ⟨f value, by rw [hvalue, Option.map_some]⟩
  short := by
    intro cursor hshort
    rw [h.short hshort, Option.map_none]

theorem reads_nextLE (size : Nat) : Reads size (nextLE size) := (reads_next size).map leNat

theorem reads_nextWord : Reads 8 nextWord := (reads_nextLE 8).map UInt64.ofNat

theorem reads_nextArray (size : Nat) : Reads size (nextArray size) where
  enough := fun h => ⟨_, dif_pos h⟩
  short := fun h => dif_neg (by omega)

theorem reads_pure (value : α) : Reads 0 fun cursor => some (value, cursor) where
  enough := fun _ => ⟨value, rfl⟩
  short := fun h => absurd h (Nat.not_lt_zero _)

theorem Reads.bind {next : α × Octets → Option (β × Octets)} (h : Reads size read)
    (hnext : ∀ a, Reads more fun rest => next (a, rest)) : Reads (more + size) fun cursor => (read cursor).bind next where
  enough := by
    intro cursor henough
    obtain ⟨a, ha⟩ := h.enough (show size ≤ cursor.length by omega)
    obtain ⟨b, hb⟩ := (hnext a).enough (show more ≤ (cursor.drop size).length by
      rw [List.length_drop]
      omega)
    refine ⟨b, ?_⟩
    rw [ha, Option.bind_some, hb, List.drop_drop, Nat.add_comm]
  short := by
    intro cursor hshort
    by_cases hfirst : size ≤ cursor.length
    · obtain ⟨a, ha⟩ := h.enough hfirst
      rw [ha, Option.bind_some]
      apply (hnext a).short
      rw [List.length_drop]
      omega
    · rw [h.short (by omega), Option.bind_none]

theorem Reads.bind_needs {next : α × Octets → Option β} (h : Reads size read)
    (hnext : ∀ a, Needs more fun rest => next (a, rest)) : Needs (more + size) fun cursor => (read cursor).bind next := by
  intro cursor
  dsimp only
  by_cases hfirst : size ≤ cursor.length
  · obtain ⟨a, ha⟩ := h.enough hfirst
    rw [ha, Option.bind_some, hnext a, List.length_drop]
    omega
  · rw [h.short (by omega), Option.bind_none]
    exact iff_of_true rfl (by omega)

theorem needs_some (value : Octets → α) : Needs 0 fun cursor => some (value cursor) := by
  intro cursor
  simp

theorem Reads.eq_none_iff (h : Reads size read) {cursor : Octets} : read cursor = none ↔ cursor.length < size := by
  constructor
  · intro hnone
    by_contra henough
    obtain ⟨value, hvalue⟩ := h.enough (Nat.le_of_not_lt henough)
    rw [hnone] at hvalue
    exact absurd hvalue (by simp)
  · exact h.short

theorem Reads.rest_eq (h : Reads size read) {cursor rest : Octets} {value : α} (hread : read cursor = some (value, rest)) :
    size ≤ cursor.length ∧ rest = cursor.drop size := by
  have henough : size ≤ cursor.length := by
    by_contra hshort
    rw [h.short (Nat.lt_of_not_le hshort)] at hread
    exact absurd hread (by simp)
  obtain ⟨found, hfound⟩ := h.enough henough
  rw [hread] at hfound
  exact ⟨henough, (Prod.mk.inj (Option.some.inj hfound)).2⟩

end

/-! ### Words at an offset -/

theorem leAt_eq_none_iff {k offset : Nat} {bytes : Octets} (hk : 0 < k) :
    leAt k offset bytes = none ↔ bytes.length < offset + k := by
  rw [leAt, Option.map_eq_none_iff, (reads_nextLE k).eq_none_iff, List.length_drop]
  omega

theorem leAt_of_nextLE {k offset n : Nat} {bytes rest : Octets} (h : nextLE k (bytes.drop offset) = some (n, rest)) :
    leAt k offset bytes = some n ∧ rest = bytes.drop (offset + k) := by
  rw [leAt, h, ((reads_nextLE k).rest_eq h).2, List.drop_drop]
  exact ⟨rfl, rfl⟩

theorem fill_eq {size : Nat} {bs : Octets} (h : bs.length ≤ size) :
    fill size bs = some (bs ++ List.replicate (size - bs.length) 0) := if_pos h

theorem fill_eq_none {size : Nat} {bs : Octets} (h : size < bs.length) : fill size bs = none :=
  if_neg (by omega)

end Octets
