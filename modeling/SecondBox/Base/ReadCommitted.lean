/-
  Rows under row locks, as a database at READ COMMITTED keeps them.

  A row has a committed version and, while a transaction has it locked, the
  version of that transaction.  A transaction sees its own versions and else the
  committed ones.  Everything is described by two views of the store:
  `committed`, and `own t`, the rows that transaction `t` has locked.
-/
import SecondBox.Base.Table

namespace ReadCommitted

open Relational

variable {κ ρ : Type}

/-- A row with the version a transaction has not committed yet. -/
structure Version (ρ : Type) where
  committed : Option ρ
  /-- the transaction that has the row locked, and its version -/
  pending : Option (ℕ × ρ)

namespace Version

/-- The version transaction `t` sees of its own. -/
def own (v : Version ρ) (t : ℕ) : Option ρ :=
  match v.pending with
  | some (t', r) => if t' = t then some r else none
  | none => none

/-- `t` commits. -/
def commit (v : Version ρ) (t : ℕ) : Version ρ :=
  match v.own t with
  | some r => ⟨some r, none⟩
  | none => v

/-- `t` rolls back. -/
def rollback (v : Version ρ) (t : ℕ) : Version ρ :=
  match v.own t with
  | some _ => ⟨v.committed, none⟩
  | none => v

theorem own_unique {v : Version ρ} {t t' : ℕ} {r r' : ρ} (h : v.own t = some r)
    (h' : v.own t' = some r') : t = t' := by
  unfold own at h h'
  split at h
  next u x hp =>
    rw [hp] at h'
    dsimp only at h'
    split at h
    · split at h'
      next hu hu' => exact hu.symm.trans hu'
      · cases h'
    · cases h
  · cases h

variable (v : Version ρ)

/-- Whatever is committed then, `t` gives up its lock and leaves those of others alone. -/
theorem own_release (f : ρ → Option ρ) (t t' : ℕ) :
    own (match v.own t with
      | some r => ⟨f r, none⟩
      | none => v) t' = if t' = t then none else v.own t' := by
  split
  next r hr =>
    split
    · rfl
    next hne =>
      cases h' : v.own t' with
      | none => rfl
      | some r' => exact absurd (own_unique h' hr) hne
  next hnone =>
    split
    next heq => rw [heq, hnone]
    · rfl

theorem own_commit (t t' : ℕ) : (v.commit t).own t' = if t' = t then none else v.own t' :=
  own_release v some t t'

theorem own_rollback (t t' : ℕ) : (v.rollback t).own t' = if t' = t then none else v.own t' :=
  own_release v (fun _ => v.committed) t t'

theorem committed_commit (t : ℕ) : (v.commit t).committed = (v.own t).or v.committed := by
  unfold commit
  split
  next r hr => rw [hr]; rfl
  next hnone => rw [hnone]; rfl

theorem committed_rollback (t : ℕ) : (v.rollback t).committed = v.committed := by
  unfold rollback
  split <;> rfl

end Version

/-- The rows by key. -/
abbrev Store (κ ρ : Type) := Table κ (Version ρ)

namespace Store

variable [DecidableEq κ]

/-- The committed row. -/
def committed (s : Store κ ρ) (k : κ) : Option ρ := (s.get k).bind (·.committed)

/-- The version of a row that `t` has locked. -/
def own (s : Store κ ρ) (t : ℕ) (k : κ) : Option ρ := (s.get k).bind (·.own t)

/-- What `t` sees. -/
def visible (s : Store κ ρ) (t : ℕ) (k : κ) : Option ρ := (s.own t k).or (s.committed k)

/-- No other transaction has the row locked. -/
def free (s : Store κ ρ) (t : ℕ) (k : κ) : Bool :=
  match (s.get k).bind (·.pending) with
  | some (t', _) => decide (t' = t)
  | none => true

/-- The rows `t` sees for which `p` holds: the snapshot of a statement. -/
def select (s : Store κ ρ) (t : ℕ) (p : κ → ρ → Bool) : List κ :=
  (s.rows.map Prod.fst).filter fun k => match s.visible t k with
    | some r => p k r
    | none => false

/-- `t` locks the row `k`, which no one else has locked, and gives it the version `r`. -/
def write (s : Store κ ρ) (t : ℕ) (k : κ) (r : ρ) : Store κ ρ :=
  s.put k ⟨s.committed k, some (t, r)⟩

/-- `t` commits all its versions. -/
def commit (s : Store κ ρ) (t : ℕ) : Store κ ρ := s.update fun _ v => v.commit t

/-- `t` drops all its versions. -/
def rollback (s : Store κ ρ) (t : ℕ) : Store κ ρ := s.update fun _ v => v.rollback t

/-! ## The two views -/

variable {s : Store κ ρ} {t t' : ℕ} {k k' : κ} {r r' : ρ}

theorem own_unique (h : s.own t k = some r) (h' : s.own t' k = some r') : t = t' := by
  obtain ⟨v, hv, hr⟩ := Option.bind_eq_some_iff.1 h
  obtain ⟨v', hv', hr'⟩ := Option.bind_eq_some_iff.1 h'
  rw [hv] at hv'
  cases hv'
  exact Version.own_unique hr hr'

theorem own_eq_none_of_free (h : s.free t k = true) (hne : t' ≠ t) : s.own t' k = none := by
  unfold free at h
  unfold own
  cases hv : s.get k with
  | none => rfl
  | some v =>
    rw [hv] at h
    show v.own t' = none
    unfold Version.own
    split
    next u x hp =>
      have h : (match v.pending with | some (t', _) => decide (t' = t) | none => true) = true := h
      rw [hp] at h
      have hu : u = t := of_decide_eq_true h
      rw [if_neg (fun heq => hne (heq.symm.trans hu))]
    · rfl

theorem committed_write : (s.write t k r).committed k' = s.committed k' := by
  rw [committed, write, Table.get_put]
  split
  next heq => rw [heq]; rfl
  · rfl

theorem own_write_self : (s.write t k r).own t k = some r := by
  rw [own, write, Table.get_put_self]
  exact if_pos rfl

theorem own_write_of_ne (hne : k' ≠ k) : (s.write t k r).own t' k' = s.own t' k' := by
  rw [own, write, Table.get_put_of_ne _ _ hne]
  rfl

theorem own_write_other (hfree : s.free t k = true) (hne : t' ≠ t) :
    (s.write t k r).own t' k' = s.own t' k' := by
  by_cases hk : k' = k
  · subst hk
    rw [own_eq_none_of_free hfree hne, own, write, Table.get_put_self]
    exact if_neg (Ne.symm hne)
  · exact own_write_of_ne hk

theorem committed_commit : (s.commit t).committed k = s.visible t k := by
  rw [committed, commit, Table.get_update, visible, own, committed]
  cases s.get k with
  | none => rfl
  | some v => exact v.committed_commit t

theorem own_commit : (s.commit t).own t' k = if t' = t then none else s.own t' k := by
  rw [own, commit, Table.get_update, own]
  cases s.get k with
  | none => split <;> rfl
  | some v => exact v.own_commit t t'

theorem committed_rollback : (s.rollback t).committed k = s.committed k := by
  rw [committed, rollback, Table.get_update, committed]
  cases s.get k with
  | none => rfl
  | some v => exact v.committed_rollback t

theorem own_rollback : (s.rollback t).own t' k = if t' = t then none else s.own t' k := by
  rw [own, rollback, Table.get_update, own]
  cases s.get k with
  | none => split <;> rfl
  | some v => exact v.own_rollback t t'

theorem visible_of_own (h : s.own t k = some r) : s.visible t k = some r := by
  rw [visible, h]
  rfl

theorem visible_of_own_none (h : s.own t k = none) : s.visible t k = s.committed k := by
  rw [visible, h]
  rfl

theorem visible_eq_some (h : s.visible t k = some r) :
    s.own t k = some r ∨ s.own t k = none ∧ s.committed k = some r := by
  cases hown : s.own t k with
  | none =>
    rw [visible_of_own_none hown] at h
    exact .inr ⟨rfl, h⟩
  | some r' =>
    rw [visible_of_own hown] at h
    exact .inl h

theorem mem_select {p : κ → ρ → Bool} : k ∈ s.select t p ↔ ∃ r, s.visible t k = some r ∧
    p k r = true := by
  rw [select, List.mem_filter]
  constructor
  · rintro ⟨-, h⟩
    cases hv : s.visible t k with
    | none =>
      rw [hv] at h
      cases h
    | some r =>
      rw [hv] at h
      exact ⟨r, rfl, h⟩
  · rintro ⟨r, hv, hp⟩
    refine ⟨?_, by rw [hv]; exact hp⟩
    by_contra hnot
    have hnone : s.get k = none := Table.get_eq_none.2 hnot
    rw [visible, own, committed, hnone] at hv
    cases hv

end Store

end ReadCommitted
