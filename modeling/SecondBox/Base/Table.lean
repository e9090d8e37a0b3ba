/-
  Tables with a primary key, as a database keeps them: a list of keyed rows in
  which no key occurs twice.

  A table is read through `get`.  Every change is described by what `get`
  returns afterwards (`get_insertNew`, `get_update`, `get_deleteWhere`), and
  aggregates (`total`, `count`) are compared through `get` as well
  (`total_le_of_get`, `count_le_of_get`), so that no proof has to look at the
  list of rows.
-/
import Mathlib.Algebra.BigOperators.Group.Finset.Basic
import Mathlib.Algebra.Order.BigOperators.Group.Finset

namespace Relational

/-- A table with a primary key. -/
structure Table (κ ρ : Type) where
  rows : List (κ × ρ)
  nodup : (rows.map Prod.fst).Nodup

namespace Table

variable {κ ρ : Type}

/-- No rows. -/
def empty : Table κ ρ := ⟨[], List.nodup_nil⟩

/-- `UPDATE`: rows change, keys do not. -/
def update (t : Table κ ρ) (f : κ → ρ → ρ) : Table κ ρ where
  rows := t.rows.map fun x => (x.1, f x.1 x.2)
  nodup := by simpa [Function.comp_def] using t.nodup

/-- `UPDATE ... WHERE p`. -/
def updateWhere (t : Table κ ρ) (p : κ → ρ → Bool) (f : ρ → ρ) : Table κ ρ :=
  t.update fun k r => if p k r then f r else r

/-- `DELETE ... WHERE p`. -/
def deleteWhere (t : Table κ ρ) (p : κ → ρ → Bool) : Table κ ρ where
  rows := t.rows.filter fun x => !p x.1 x.2
  nodup := t.nodup.sublist (List.filter_sublist.map _)

/-- `SELECT EXISTS ... WHERE p`. -/
def any (t : Table κ ρ) (p : κ → ρ → Bool) : Bool := t.rows.any fun x => p x.1 x.2

/-- `SELECT ... WHERE p` of at most one row. -/
def find? (t : Table κ ρ) (p : κ → ρ → Bool) : Option (κ × ρ) := t.rows.find? fun x => p x.1 x.2

/-- The sum of `w` over the rows. -/
def total {M : Type} [AddCommMonoid M] (t : Table κ ρ) (w : κ → ρ → M) : M :=
  (t.rows.map fun x => w x.1 x.2).sum

/-- The number of rows. -/
def size (t : Table κ ρ) : ℕ := t.rows.length

/-- `SELECT count(*) ... WHERE p`. -/
def count (t : Table κ ρ) (p : κ → ρ → Bool) : ℕ :=
  t.total fun k r => if p k r then 1 else 0

@[simp] theorem size_update (t : Table κ ρ) (f : κ → ρ → ρ) : (t.update f).size = t.size :=
  List.length_map _

theorem size_deleteWhere_le (t : Table κ ρ) (p : κ → ρ → Bool) : (t.deleteWhere p).size ≤ t.size :=
  List.length_filter_le _ _

@[simp] theorem deleteWhere_false (t : Table κ ρ) : t.deleteWhere (fun _ _ => false) = t := by
  simp [deleteWhere]

variable [DecidableEq κ]

/-- The row at a key. -/
def get (t : Table κ ρ) (k : κ) : Option ρ := t.rows.lookup k

/-- `INSERT ... ON CONFLICT DO NOTHING`. -/
def insertNew (t : Table κ ρ) (k : κ) (r : ρ) : Table κ ρ :=
  if h : k ∈ t.rows.map Prod.fst then
    t else ⟨(k, r) :: t.rows, by simpa using ⟨by simpa using h, t.nodup⟩⟩

/-- `UPDATE ... WHERE id = k`. -/
def updateAt (t : Table κ ρ) (k : κ) (f : ρ → ρ) : Table κ ρ :=
  t.updateWhere (fun k' _ => k' == k) f

/-- Assignment to a key of a map: the row is replaced, or added if there is none. -/
def put (t : Table κ ρ) (k : κ) (r : ρ) : Table κ ρ := (t.insertNew k r).updateAt k fun _ => r

/-- Deletion of a key of a map. -/
def delete (t : Table κ ρ) (k : κ) : Table κ ρ := t.deleteWhere fun k' _ => k' == k

/-! ## Rows -/

variable {k : κ} {r : ρ}

theorem lookup_eq_some {l : List (κ × ρ)} (h : (l.map Prod.fst).Nodup) :
    l.lookup k = some r ↔ (k, r) ∈ l := by
  induction l with
  | nil => simp
  | cons x l ih =>
    obtain ⟨k', r'⟩ := x
    rw [List.map_cons, List.nodup_cons] at h
    by_cases hk : k = k'
    · subst hk
      have hnew : ∀ r, (k, r) ∉ l := fun r hr => h.1 (List.mem_map.2 ⟨(k, r), hr, rfl⟩)
      simp [hnew, eq_comm]
    · simp [List.lookup_cons, beq_false_of_ne hk, hk, ih h.2]

variable {t : Table κ ρ}

theorem get_eq_some : t.get k = some r ↔ (k, r) ∈ t.rows :=
  lookup_eq_some t.nodup

theorem get_eq_none : t.get k = none ↔ k ∉ t.rows.map Prod.fst := by
  rw [Option.eq_none_iff_forall_ne_some]
  simp [get_eq_some]

@[simp] theorem get_empty (k : κ) : (empty : Table κ ρ).get k = none := rfl

@[simp] theorem get_update (t : Table κ ρ) (f : κ → ρ → ρ) (k : κ) :
    (t.update f).get k = (t.get k).map (f k) := by
  ext r
  simp only [Option.map_eq_some_iff, get_eq_some, update, List.mem_map, Prod.mk.injEq]
  constructor
  · rintro ⟨⟨k', r'⟩, hmem, rfl, rfl⟩
    exact ⟨r', hmem, rfl⟩
  · rintro ⟨r', hmem, rfl⟩
    exact ⟨(k, r'), hmem, rfl, rfl⟩

@[simp] theorem get_updateWhere (t : Table κ ρ) (p : κ → ρ → Bool) (f : ρ → ρ) (k : κ) :
    (t.updateWhere p f).get k = (t.get k).map fun r => if p k r then f r else r :=
  get_update ..

theorem get_updateAt (t : Table κ ρ) (k k' : κ) (f : ρ → ρ) :
    (t.updateAt k f).get k' = if k' = k then (t.get k').map f else t.get k' := by
  by_cases h : k' = k
  · simp [updateAt, h]
  · simp [updateAt, h]

@[simp] theorem get_updateAt_self (t : Table κ ρ) (k : κ) (f : ρ → ρ) :
    (t.updateAt k f).get k = (t.get k).map f := by
  simp [get_updateAt]

variable {k' : κ}

theorem get_updateAt_of_ne (t : Table κ ρ) (f : ρ → ρ) (h : k' ≠ k) :
    (t.updateAt k f).get k' = t.get k' := by
  simp [get_updateAt, h]

@[simp] theorem get_deleteWhere (t : Table κ ρ) (p : κ → ρ → Bool) (k : κ) :
    (t.deleteWhere p).get k = (t.get k).filter fun r => !p k r := by
  ext r
  simp [get_eq_some, deleteWhere, Option.filter_eq_some_iff]

@[simp] theorem get_delete_self (t : Table κ ρ) (k : κ) : (t.delete k).get k = none := by
  rw [delete, get_deleteWhere]
  cases t.get k <;> simp

theorem get_delete_of_ne (t : Table κ ρ) (h : k' ≠ k) : (t.delete k).get k' = t.get k' := by
  rw [delete, get_deleteWhere]
  cases t.get k' <;> simp [h]

theorem get_insertNew (t : Table κ ρ) (k k' : κ) (r : ρ) :
    (t.insertNew k r).get k' = if k' = k then (t.get k).or (some r) else t.get k' := by
  by_cases hk : k ∈ t.rows.map Prod.fst
  · obtain ⟨r', hr'⟩ := Option.ne_none_iff_exists'.1 (mt get_eq_none.1 (not_not.2 hk))
    rw [insertNew, dif_pos hk]
    split
    · next h => subst h; simp [hr']
    · rfl
  · rw [insertNew, dif_neg hk, get, List.lookup_cons]
    by_cases h : k' = k
    · subst h; simp [get_eq_none.2 hk]
    · simp [h, beq_false_of_ne h, get]

theorem get_insertNew_of_ne (t : Table κ ρ) (r : ρ) (h : k' ≠ k) :
    (t.insertNew k r).get k' = t.get k' := by
  simp [get_insertNew, h]

theorem get_insertNew_self (t : Table κ ρ) (r : ρ) (h : t.get k = none) :
    (t.insertNew k r).get k = some r := by
  simp [get_insertNew, h]

theorem get_insertNew_isSome (t : Table κ ρ) (k : κ) (r : ρ) :
    ((t.insertNew k r).get k).isSome := by
  rw [get_insertNew, if_pos rfl]
  cases t.get k <;> rfl

theorem get_put (t : Table κ ρ) (k k' : κ) (r : ρ) : (t.put k r).get k' = if k' = k then
    some r else t.get k' := by
  rw [put, get_updateAt, get_insertNew]
  split
  · cases t.get k <;> rfl
  · rfl

@[simp] theorem get_put_self (t : Table κ ρ) (k : κ) (r : ρ) : (t.put k r).get k = some r := by
  rw [get_put, if_pos rfl]

theorem get_put_of_ne (t : Table κ ρ) (r : ρ) (h : k' ≠ k) : (t.put k r).get k' = t.get k' := by
  rw [get_put, if_neg h]

variable {t' : Table κ ρ}

theorem put_put (t : Table κ ρ) (k : κ) (r r' : ρ) : (t.put k r).put k r' = t.put k r' := by
  have hmem : ∀ x : ρ, k ∈ (t.put k x).rows.map Prod.fst := fun x => by
    by_contra hk
    have h := get_put_self t k x
    rw [get_eq_none.2 hk] at h
    cases h
  have hrows : (t.put k r).put k r' = (t.put k r).updateAt k fun _ => r' := by
    rw [put, insertNew, dif_pos (hmem r)]
  rw [hrows]
  by_cases hk : k ∈ t.rows.map Prod.fst
  · simp only [put, insertNew, dif_pos hk, updateAt, updateWhere, update, mk.injEq, List.map_map]
    refine List.map_congr_left fun x _ => ?_
    by_cases hx : x.1 = k <;> simp [hx]
  · simp only [put, insertNew, dif_neg hk, updateAt, updateWhere, update, mk.injEq, List.map_cons,
      List.map_map, List.cons.injEq]
    refine ⟨by simp, List.map_congr_left fun x _ => ?_⟩
    by_cases hx : x.1 = k <;> simp [hx]

variable {p : κ → ρ → Bool}

theorem any_eq_true : t.any p = true ↔ ∃ k r, t.get k = some r ∧ p k r = true := by
  simp [any, get_eq_some]

/-! ## Changes row by row -/

/-- Every row is still there, moved as `R` allows, and new rows are as `N` allows. -/
structure Moves (R : κ → ρ → ρ → Prop) (N : κ → ρ → Prop) (t t' : Table κ ρ) : Prop where
  old : ∀ k r, t.get k = some r → ∃ r', t'.get k = some r' ∧ R k r r'
  new : ∀ k r', t.get k = none → t'.get k = some r' → N k r'

section Moves
variable {R : κ → ρ → ρ → Prop} {N : κ → ρ → Prop}

theorem Moves.refl (hR : ∀ k r, R k r r) (t : Table κ ρ) : t.Moves R N t where
  old k r h := ⟨r, h, hR k r⟩
  new k r' h h' := by
    rw [h] at h'
    cases h'

theorem Moves.updateWhere (hR : ∀ k r, R k r r) {f : ρ → ρ}
    (h : ∀ k r, t.get k = some r → p k r = true → R k r (f r)) :
    t.Moves R N (t.updateWhere p f) where
  old k r hr := by
    refine ⟨if p k r then f r else r, by rw [get_updateWhere, hr]; rfl, ?_⟩
    split
    · next hp => exact h k r hr hp
    · exact hR k r
  new k r' hk hr' := by
    rw [get_updateWhere, hk] at hr'
    cases hr'

theorem Moves.updateAt (hR : ∀ k r, R k r r) {f : ρ → ρ}
    (h : ∀ r, t.get k = some r → R k r (f r)) : t.Moves R N (t.updateAt k f) := by
  refine Moves.updateWhere hR fun k' r hr hk => ?_
  cases eq_of_beq hk
  exact h r hr

theorem Moves.insertNew (hR : ∀ k r, R k r r) (t : Table κ ρ) (h : N k r) :
    t.Moves R N (t.insertNew k r) where
  old k' r' hr' := by
    refine ⟨r', ?_, hR k' r'⟩
    rw [get_insertNew]
    split
    · next hk =>
      cases hk
      simp [hr']
    · exact hr'
  new k' r' hk hr' := by
    rw [get_insertNew] at hr'
    split at hr'
    · next hk' =>
      cases hk'
      rw [hk] at hr'
      cases hr'
      exact h
    · rw [hk] at hr'
      cases hr'

theorem Moves.trans {t'' : Table κ ρ} (hR : ∀ k r r' r'', R k r r' → R k r' r'' → R k r r'')
    (hN : ∀ k r r', N k r → R k r r' → N k r') (h : t.Moves R N t') (h' : t'.Moves R N t'') :
    t.Moves R N t'' where
  old k r hr := by
    obtain ⟨r', hr', hmove⟩ := h.old k r hr
    obtain ⟨r'', hr'', hmove'⟩ := h'.old k r' hr'
    exact ⟨r'', hr'', hR k r r' r'' hmove hmove'⟩
  new k r'' hk hr'' := by
    cases hk' : t'.get k with
    | none => exact h'.new k r'' hk' hr''
    | some r' =>
      obtain ⟨r₀, hr₀, hmove⟩ := h'.old k r' hk'
      cases hr''.symm.trans hr₀
      exact hN k r' r'' (h.new k r' hk hk') hmove

end Moves

/-! ## Identities

What of a row never changes.  These are classes so that instance search goes
through the updates of a table. -/

section Keeps
variable {γ : Type} {π : ρ → γ} {N : γ → Prop}

/-- The update leaves the part `π` of a row alone. -/
class UpdateKeeps (π : ρ → γ) (f : ρ → ρ) : Prop where
  keeps : ∀ r, π (f r) = π r

/-- Every row is still there with its part `π`, and that part of a new row is as `N` allows. -/
class Keeps (π : ρ → γ) (N : γ → Prop) (t t' : Table κ ρ) : Prop where
  moves : t.Moves (fun _ r r' => π r' = π r) (fun _ r => N (π r)) t'

instance (t : Table κ ρ) : Keeps π N t t := by
  refine ⟨Moves.refl ?_ t⟩
  exact fun _ _ => rfl

instance (t : Table κ ρ) (p : κ → ρ → Bool) (f : ρ → ρ) [h : UpdateKeeps π f] :
    Keeps π N t (t.updateWhere p f) := by
  refine ⟨Moves.updateWhere ?_ ?_⟩
  · exact fun _ _ => rfl
  · exact fun _ r _ _ => h.keeps r

instance (t : Table κ ρ) (k : κ) (f : ρ → ρ) [h : UpdateKeeps π f] :
    Keeps π N t (t.updateAt k f) := by
  refine ⟨Moves.updateAt ?_ ?_⟩
  · exact fun _ _ => rfl
  · exact fun r _ => h.keeps r

theorem Keeps.insertNew (t : Table κ ρ) (h : N (π r)) : Keeps π N t (t.insertNew k r) := by
  refine ⟨Moves.insertNew ?_ t h⟩
  exact fun _ _ => rfl

instance (t : Table κ ρ) (k : κ) (r : ρ) : Keeps π (fun _ => True) t (t.insertNew k r) :=
  Keeps.insertNew t trivial

theorem Keeps.trans {t'' : Table κ ρ} (h : Keeps π N t t') (h' : Keeps π N t' t'') :
    Keeps π N t t'' := by
  refine ⟨h.moves.trans (fun _ _ _ _ h h' => h'.trans h) (fun _ r r' hN hr => ?_) h'.moves⟩
  rw [hr]
  exact hN

end Keeps

/-! ## Size -/

theorem size_put_of_some (t : Table κ ρ) {r' : ρ} (r : ρ) (h : t.get k = some r') :
    (t.put k r).size = t.size := by
  have hk : k ∈ t.rows.map Prod.fst := by
    by_contra hk
    rw [get_eq_none.2 hk] at h
    cases h
  rw [put, updateAt, updateWhere, size_update, insertNew, dif_pos hk]

theorem size_put_of_none (t : Table κ ρ) (r : ρ) (h : t.get k = none) :
    (t.put k r).size = t.size + 1 := by
  rw [put, updateAt, updateWhere, size_update, insertNew, dif_neg (get_eq_none.1 h)]
  rfl

theorem size_le_of_get (h : ∀ k, t.get k = none → t'.get k = none) : t'.size ≤ t.size := by
  have hsub : t'.rows.map Prod.fst ⊆ t.rows.map Prod.fst := by
    intro k hk
    by_contra hnot
    exact get_eq_none.1 (h k (get_eq_none.2 hnot)) hk
  have hlen := (List.subperm_of_subset t'.nodup hsub).length_le
  rwa [List.length_map, List.length_map] at hlen

/-! ## Aggregates -/

section Aggregates
variable {M : Type} [AddCommMonoid M]

theorem total_eq_sum (t : Table κ ρ) (w : κ → ρ → M) :
    t.total w = ∑ k ∈ (t.rows.map Prod.fst).toFinset, (t.get k).elim 0 (w k) := by
  rw [List.sum_toFinset _ t.nodup, total, List.map_map]
  congr 1
  refine List.map_congr_left fun x hx => ?_
  have hget : t.get x.1 = some x.2 := get_eq_some.2 hx
  simp [hget]

theorem total_insertNew (t : Table κ ρ) (r : ρ) (w : κ → ρ → M) (h : t.get k = none) :
    (t.insertNew k r).total w = w k r + t.total w := by
  rw [insertNew, dif_neg (get_eq_none.1 h)]
  simp [total]

end Aggregates

section Order
variable {M : Type} [AddCommMonoid M] [PartialOrder M] [IsOrderedAddMonoid M]

/-- Totals are monotone in the rows: if every row weighs at most what the row
    under its key weighed before, and no row weighs less than nothing, so does
    the table. -/
theorem total_le_of_get {w w' : κ → ρ → M} (hpos : ∀ k r, 0 ≤ w k r)
    (h : ∀ k r', t'.get k = some r' → w' k r' ≤ (t.get k).elim 0 (w k)) :
    t'.total w' ≤ t.total w := by
  rw [total_eq_sum, total_eq_sum]
  have hnonneg : ∀ k, 0 ≤ (t.get k).elim 0 (w k) := by
    intro k
    cases t.get k with
    | none => exact le_refl _
    | some r => exact hpos k r
  set K := (t.rows.map Prod.fst).toFinset
  set K' := (t'.rows.map Prod.fst).toFinset
  calc ∑ k ∈ K', (t'.get k).elim 0 (w' k)
      ≤ ∑ k ∈ K', (t.get k).elim 0 (w k) := by
        refine Finset.sum_le_sum fun k _ => ?_
        cases hk : t'.get k with
        | none => exact hnonneg k
        | some r' => exact h k r' hk
    _ ≤ ∑ k ∈ K' ∪ K, (t.get k).elim 0 (w k) :=
        Finset.sum_le_sum_of_subset_of_nonneg Finset.subset_union_left fun k _ _ => hnonneg k
    _ = ∑ k ∈ K, (t.get k).elim 0 (w k) := by
        refine (Finset.sum_subset Finset.subset_union_right fun k _ hk => ?_).symm
        rw [List.mem_toFinset] at hk
        rw [get_eq_none.2 hk]
        rfl

end Order

theorem count_insertNew (t : Table κ ρ) (r : ρ) (p : κ → ρ → Bool) (h : t.get k = none) :
    (t.insertNew k r).count p = (if p k r then 1 else 0) + t.count p :=
  total_insertNew t r _ h

/-- No more rows satisfy `p` if every row that does was there and satisfied `p` before. -/
theorem count_le_of_get
    (h : ∀ k r', t'.get k = some r' → p k r' = true → ∃ r, t.get k = some r ∧ p k r = true) :
    t'.count p ≤ t.count p := by
  refine total_le_of_get (fun _ _ => Nat.zero_le _) fun k r' hr' => ?_
  split
  · next hp =>
    obtain ⟨r, hr, hpr⟩ := h k r' hr' hp
    simp [hr, hpr]
  · exact Nat.zero_le _

end Table

end Relational
