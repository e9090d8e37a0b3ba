/-
  Files with holes: a list of cells that reads as `z` where nothing was written.

  A write past the end leaves a hole.  Files are compared by what they read, so
  skipping a run of `z` in fresh ground is as good as writing it.
-/
import Mathlib.Data.List.TakeDrop
import Mathlib.Data.List.GetD

namespace SparseFile

variable {α : Type} (z : α)

/-- The byte at `i`, `z` past the end. -/
def read (file : List α) (i : ℕ) : α := file.getD i z

/-- The file with `data` at `position`. -/
def write (file : List α) (position : ℕ) (data : List α) : List α :=
  file.takeD position z ++ data ++ file.drop (position + data.length)

/-- The file cut or filled up to the length `n`. -/
def truncate (file : List α) (n : ℕ) : List α := file.takeD n z

variable {z}

@[simp] theorem length_truncate (file : List α) (n : ℕ) : (truncate z file n).length = n :=
  List.takeD_length n file z

variable {file : List α}

theorem read_of_length_le {i : ℕ} (h : file.length ≤ i) : read z file i = z :=
  List.getD_eq_default file z h

theorem read_eq_of_lt {i : ℕ} (h : i < file.length) : read z file i = file[i] :=
  List.getD_eq_getElem file z h

theorem read_append (file rest : List α) (i : ℕ) :
    read z (file ++ rest) i = if i < file.length then
      read z file i else read z rest (i - file.length) := by
  split
  next h => exact List.getD_append file rest z i h
  next h => exact List.getD_append_right file rest z i (Nat.not_lt.1 h)

theorem read_drop (file : List α) (n i : ℕ) : read z (file.drop n) i = read z file (n + i) := by
  rw [read, read, List.getD_eq_getElem?_getD, List.getD_eq_getElem?_getD, List.getElem?_drop]

theorem read_take {n i : ℕ} (h : i < n) : read z (file.take n) i = read z file i := by
  rw [read, read, List.getD_eq_getElem?_getD, List.getD_eq_getElem?_getD,
    List.getElem?_take_of_lt h]

theorem read_truncate {n i : ℕ} (h : i < n) : read z (truncate z file n) i = read z file i := by
  induction n generalizing file i with
  | zero => omega
  | succ n ih =>
    cases file with
    | nil =>
      cases i with
      | zero => rfl
      | succ i =>
        show read z (truncate z [] n) i = read z [] i
        exact ih (by omega)
    | cons a file =>
      cases i with
      | zero => rfl
      | succ i =>
        show read z (truncate z file n) i = read z file i
        exact ih (by omega)

theorem read_replicate (n i : ℕ) : read z (List.replicate n z) i = z := by
  by_cases h : i < n
  · rw [read_eq_of_lt (by simpa using h), List.getElem_replicate]
  · exact read_of_length_le (by simpa using h)

theorem read_write (file : List α) (position : ℕ) (data : List α) (i : ℕ) :
    read z (write z file position data) i =
      if position ≤ i ∧ i < position + data.length then
        read z data (i - position) else read z file i := by
  have hlength : (file.takeD position z).length = position := List.takeD_length position file z
  rw [write, read_append, List.length_append, hlength]
  split
  next hi =>
    rw [read_append, hlength]
    split
    next hlow =>
      rw [if_neg (by omega)]
      exact read_truncate hlow
    next hhigh => rw [if_pos (by omega)]
  next hi =>
    rw [if_neg (by omega), read_drop]
    congr 1
    omega

theorem ext_read {file' : List α} (hlength : file.length = file'.length)
    (h : ∀ i, i < file.length → read z file i = read z file' i) : file = file' := by
  refine List.ext_getElem hlength fun i hi hi' => ?_
  have := h i hi
  rwa [read_eq_of_lt hi, read_eq_of_lt hi'] at this

end SparseFile
