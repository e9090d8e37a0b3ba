/-
  A ring buffer of fixed capacity: an array that is filled from its start and
  then overwritten from its oldest entry on.

  `entries` are the entries in the order they were pushed.  `entries_push` says
  what a push does to them; the array is not looked at anywhere else.
-/
import Mathlib.Data.Vector.Defs
import Mathlib.Data.List.TakeDrop

/-- An array filled in a circle. -/
structure RingBuffer (α : Type) (n : ℕ) where
  cells : Vector α n
  count : ℕ
  next : ℕ
  next_lt : next < n
  count_le : count ≤ n
  /-- Nothing is overwritten before the array is full. -/
  filling : count < n → next = count

namespace RingBuffer

variable {α : Type} {n : ℕ}

/-- Nothing pushed yet. -/
def empty (a : α) (hn : 0 < n) : RingBuffer α n where
  cells := Vector.replicate n a
  count := 0
  next := 0
  next_lt := hn
  count_le := Nat.zero_le n
  filling _ := rfl

variable (r : RingBuffer α n)

/-- Push `a` over the oldest. -/
def push (a : α) : RingBuffer α n where
  cells := r.cells.set r.next a r.next_lt
  count := if r.count = n then r.count else r.count + 1
  next := (r.next + 1) % n
  next_lt := Nat.mod_lt _ (Nat.zero_lt_of_lt r.next_lt)
  count_le := by
    have := r.count_le
    split <;> omega
  filling h := by
    have hcount := r.count_le
    split at h
    · omega
    next hne =>
    rw [if_neg hne, r.filling (by omega), Nat.mod_eq_of_lt h]

/-- The next cell to be overwritten; the oldest entry, once the array is full. -/
def oldest : α := r.cells.get ⟨r.next, r.next_lt⟩

/-- The entries, oldest first. -/
def entries : List α :=
  if r.count < n then r.cells.toList.take r.count
  else r.cells.toList.drop r.next ++ r.cells.toList.take r.next

@[simp] theorem entries_empty (a : α) (hn : 0 < n) : (empty a hn).entries = [] := by
  simp [entries, empty]

@[simp] theorem length_entries : r.entries.length = r.count := by
  have hcount := r.count_le
  have hnext := r.next_lt
  rw [entries]
  split
  · simp; omega
  · simp; omega

theorem drop_next : r.cells.toList.drop r.next = r.oldest :: r.cells.toList.drop (r.next + 1) :=
  List.drop_eq_getElem_cons (by simpa using r.next_lt)

theorem entries_eq_oldest_cons {r : RingBuffer α n} (h : r.count = n) :
    r.entries = r.oldest :: r.entries.tail := by
  rw [entries, if_neg (by omega), r.drop_next]
  rfl

theorem take_succ_set {l : List α} {i : ℕ} (h : i < l.length) (a : α) :
    (l.set i a).take (i + 1) = l.take i ++ [a] := by
  rw [List.take_succ_eq_append_getElem (by simpa using h), List.take_set_of_le (Nat.le_refl _)]
  simp

theorem entries_push (a : α) :
    (r.push a).entries = (if r.count < n then r.entries else r.entries.tail) ++ [a] := by
  have hnext : (r.push a).next = (r.next + 1) % n := rfl
  have hlt := r.next_lt
  have hlen : r.cells.toList.length = n := by simp
  have hset : (r.push a).cells.toList = r.cells.toList.set r.next a := by simp [push, Vector.toList]
  have htake := take_succ_set (by omega : r.next < r.cells.toList.length) a
  by_cases hfull : r.count < n
  · have hfill := r.filling hfull
    have hcount : (r.push a).count = r.count + 1 := if_neg (Nat.ne_of_lt hfull)
    rw [if_pos hfull, entries, entries, if_pos hfull, hset, hcount, ← hfill, ← htake]
    split
    · rfl
    next hlast =>
    -- The last free cell is filled: the walk starts over at the first cell.
    have hend : r.next + 1 = n := by omega
    rw [hnext, hend, Nat.mod_self, List.drop_zero, List.take_zero, List.append_nil,
      List.take_of_length_le (by simp)]
  · have hcount : (r.push a).count = n := by
      have := r.count_le
      have heq : r.count = n := by omega
      exact (if_pos heq).trans heq
    rw [if_neg hfull, entries, if_neg (by omega), entries, if_neg hfull, hset, r.drop_next,
      List.cons_append, List.tail_cons, hnext, List.append_assoc, ← htake]
    by_cases hlast : r.next + 1 < n
    · rw [Nat.mod_eq_of_lt hlast, List.drop_set_of_lt (by omega)]
    · have hend : r.next + 1 = n := by omega
      rw [hend, Nat.mod_self, List.drop_zero, List.take_zero, List.append_nil,
        List.drop_of_length_le (by omega), List.nil_append, List.take_of_length_le (by simp)]

end RingBuffer
