/-
  At most one Lease of a scope is active, whatever the interleaving and the clocks.

  While `AcquireLease` has the Sandbox row, no `RenewLease` of the scope can
  commit, and while it has the advisory lock no other `AcquireLease` can; all that
  others can do to the Leases of the scope is to end them.  So what its statements
  have established about the rows it sees (`Progress`) stays true until it commits.
-/
import SecondBox.Leases.Transactions

namespace SecondBox.Leases

open History (after after_append after_invariant)
open Relational (Table)
open ReadCommitted (Store)

/-! ## The invariant -/

variable {input : LeaseInput} {lease : Lease}

/-- Whether a row is due is settled by the request's time alone. -/
theorem due_or_live (hscope : lease.scope = input.scope)
    (hactive : lease.state = .active) : dueIn input lease = true ∨ liveIn input lease = true := by
  by_cases hle : lease.expiresAt ≤ input.now
  · exact .inl (by simp [dueIn, hscope, hactive, hle])
  · exact .inr (by simp [liveIn, hscope, hactive, not_le.1 hle])

theorem dueIn_eq_true (h : dueIn input lease = true) :
    lease.scope = input.scope ∧ lease.state = .active := by
  simp only [dueIn, Bool.and_eq_true, decide_eq_true_eq] at h
  exact h.1

theorem liveIn_eq_true (h : liveIn input lease = true) :
    lease.scope = input.scope ∧ lease.state = .active := by
  simp only [liveIn, Bool.and_eq_true, decide_eq_true_eq] at h
  exact h.1

/-- What the statements of an `AcquireLease` have established about the rows it sees. -/
def Progress (db : Store String Lease) (t : ℕ) (input : LeaseInput) : Stage → Prop
  | .begun | .identified | .guarded => True
  | .expiring todo => ∀ k r, db.visible t k = some r → dueIn input r = true → k ∈ todo
  | .checking | .superseding => ∀ k r, db.visible t k = some r → dueIn input r = false
  | .fencing todo =>
    ∀ k r, db.visible t k = some r → dueIn input r = false ∧ (liveIn input r = true → k ∈ todo)
  | .inserting => ∀ k r, db.visible t k = some r → dueIn input r = false ∧ liveIn input r = false
  | .done => ∀ k r, db.visible t k = some r → k ≠ input.leaseId → dueIn input r = false ∧ liveIn input r = false

/-- A row a transaction has locked: a Lease that exists, which only a renewal leaves active, or the new Lease. -/
def OwnOk (db : Store String Lease) (tx : Tx) (k : String) (r : Lease) : Prop :=
  (∃ c, db.committed k = some c ∧ c.scope = r.scope ∧ (r.state = .active → c.state = .active ∧
    ∃ input, tx.request = .renew input ∧ input.scope = r.scope ∧ tx.stage ≠ .begun)) ∨
  ∃ input, tx.request = .acquire input ∧ tx.stage = .done ∧ k = input.leaseId ∧
    r.scope = input.scope ∧ db.committed k = none

/-- The Leases that are active are alone in their scope. -/
def Exclusive (db : Store String Lease) : Prop :=
  ∀ k k' r r', db.committed k = some r → db.committed k' = some r' → r.state = .active →
    r'.state = .active →
    r.scope = r'.scope → k = k'

/-- No two transactions hold the same lock. -/
def Held {α : Type} (lock : Tx → Option α) (txs : Table ℕ Tx) : Prop :=
  ∀ t t' tx tx' a, txs.get t = some tx → txs.get t' = some tx' → lock tx = some a →
    lock tx' = some a → t = t'

variable {txs : Table ℕ Tx}

theorem Held.put {α : Type} {lock : Tx → Option α} (h : Held lock txs) {t : ℕ} {tx' : Tx}
    (hnew : ∀ a, lock tx' = some a → (∃ tx, txs.get t = some tx ∧ lock tx = some a) ∨
      ∀ u ux, u ≠ t → txs.get u = some ux → lock ux ≠ some a) : Held lock (txs.put t tx') := by
  -- it is enough to compare the new transaction with another one
  have hone : ∀ u ux a, u ≠ t → txs.get u = some ux → lock ux = some a → lock tx' ≠ some a := by
    intro u ux a hne hu ha ha'
    rcases hnew a ha' with ⟨tx, ht, hold⟩ | hfree
    · exact hne (h u t ux tx a hu ht ha hold)
    · exact hfree u ux hne hu ha
  intro u u' ux ux' a hu hu' ha ha'
  rw [Table.get_put] at hu hu'
  split at hu <;> split at hu'
  next heq heq' => exact heq.trans heq'.symm
  next heq hne =>
    cases hu
    exact absurd ha (hone u' ux' a hne hu' ha')
  next hne heq =>
    cases hu'
    exact absurd ha' (hone u ux a hne hu ha)
  next => exact h u u' ux ux' a hu hu' ha ha'

theorem get_of_get_delete {t u : ℕ} {ux : Tx} (h : (txs.delete t).get u = some ux) :
    u ≠ t ∧ txs.get u = some ux := by
  by_cases hut : u = t
  · subst hut
    rw [Table.get_delete_self] at h
    cases h
  · rw [Table.get_delete_of_ne _ hut] at h
    exact ⟨hut, h⟩

theorem Held.delete {α : Type} {lock : Tx → Option α} (h : Held lock txs) (t : ℕ) :
    Held lock (txs.delete t) := by
  intro u u' ux ux' a hu hu' ha ha'
  exact h u u' ux ux' a (get_of_get_delete hu).2 (get_of_get_delete hu').2 ha ha'

variable (hash : String → Int)

/-- The invariant of the runs. -/
structure Inv (s : State) : Prop where
  owned : ∀ t k r, s.db.own t k = some r → ∃ tx, s.txs.get t = some tx ∧ OwnOk s.db tx k r
  progress : ∀ t tx input, s.txs.get t = some tx → tx.request = .acquire input →
    Progress s.db t input tx.stage
  advisory : Held (Tx.advisory hash) s.txs
  sandbox : Held Tx.sandbox s.txs
  exclusive : Exclusive s.db

variable {hash}

section
variable {s : State} {t : ℕ} {tx : Tx}

variable {stage : Stage}

/-- What is settled about the active rows of the scope stays settled when no row becomes one. -/
theorem Progress.mono {db db' : Store String Lease} (h : Progress db t input stage)
    (hrows : ∀ k r, db'.visible t k = some r → r.scope = input.scope → r.state = .active →
    db.visible t k = some r) :
    Progress db' t input stage := by
  have hdue : ∀ k r, db'.visible t k = some r → dueIn input r = true → db.visible t k = some r := by
    intro k r hr hd
    obtain ⟨hscope, hactive⟩ := dueIn_eq_true hd
    exact hrows k r hr hscope hactive
  have hlive : ∀ k r, db'.visible t k = some r → liveIn input r = true →
      db.visible t k = some r := by
    intro k r hr hl
    obtain ⟨hscope, hactive⟩ := liveIn_eq_true hl
    exact hrows k r hr hscope hactive
  have hnotDue : ∀ k r, db'.visible t k = some r →
      (db.visible t k = some r → dueIn input r = false) →
      dueIn input r = false := by
    intro k r hr hold
    cases hd : dueIn input r with
    | false => rfl
    | true => exact hd ▸ hold (hdue k r hr hd)
  have hnotLive : ∀ k r, db'.visible t k = some r →
      (db.visible t k = some r → liveIn input r = false) →
      liveIn input r = false := by
    intro k r hr hold
    cases hl : liveIn input r with
    | false => rfl
    | true => exact hl ▸ hold (hlive k r hr hl)
  cases stage with
  | begun => trivial
  | identified => trivial
  | guarded => trivial
  | expiring todo => exact fun k r hr hd => h k r (hdue k r hr hd) hd
  | checking => exact fun k r hr => hnotDue k r hr (h k r)
  | superseding => exact fun k r hr => hnotDue k r hr (h k r)
  | fencing todo =>
    exact fun k r hr => ⟨hnotDue k r hr fun hold => (h k r hold).1,
      fun hl => (h k r (hlive k r hr hl)).2 hl⟩
  | inserting =>
    exact fun k r hr => ⟨hnotDue k r hr fun hold => (h k r hold).1,
      hnotLive k r hr fun hold => (h k r hold).2⟩
  | done =>
    exact fun k r hr hk =>
      ⟨hnotDue k r hr fun hold => (h k r hold hk).1, hnotLive k r hr fun hold => (h k r hold hk).2⟩

theorem Progress.of_guarded {db : Store String Lease}
    (h : stage = .begun ∨ stage = .identified ∨ stage = .guarded) : Progress db t input stage := by
  rcases h with rfl | rfl | rfl <;> trivial

/-! ## Steps -/

variable (h : Inv hash s) (ht : s.txs.get t = some tx)
include h ht

/-- A transaction moves on, with the locks it has or can get. -/
theorem Inv.setStage (hstage : stage ≠ .begun)
    (hdone : tx.stage ≠ .done)
    (hprogress : ∀ input, tx.request = .acquire input → Progress s.db t input stage)
    (hadvisory : ∀ key, Tx.advisory hash { tx with stage } = some key →
      tx.advisory hash = some key ∨ s.advisoryTaken hash t key = false)
    (hsandbox : ∀ sandboxId, Tx.sandbox { tx with stage } = some sandboxId →
      tx.sandbox = some sandboxId ∨ s.sandboxTaken t sandboxId = false) :
        Inv hash (s.setStage t tx stage) := by
  have hget : ∀ u ux, (s.txs.put t { tx with stage }).get u = some ux →
      u = t ∧ ux = { tx with stage } ∨ u ≠ t ∧ s.txs.get u = some ux := by
    intro u ux hu
    rw [Table.get_put] at hu
    split at hu
    next heq =>
      cases hu
      exact .inl ⟨heq, rfl⟩
    next hne => exact .inr ⟨hne, hu⟩
  refine ⟨?_, ?_, ?_, ?_, h.exclusive⟩
  · intro u k r hown
    obtain ⟨ux, hux, hok⟩ := h.owned u k r hown
    by_cases hut : u = t
    · subst hut
      rw [ht] at hux
      cases hux
      refine ⟨_, Table.get_put_self _ _ _, ?_⟩
      rcases hok with ⟨c, hc, hscope, hactive⟩ | ⟨input, -, hd, -⟩
      · refine .inl ⟨c, hc, hscope, fun ha => ?_⟩
        obtain ⟨hca, input, hr, hs, -⟩ := hactive ha
        exact ⟨hca, input, hr, hs, hstage⟩
      · exact absurd hd hdone
    · exact ⟨ux, (Table.get_put_of_ne _ _ hut).trans hux, hok⟩
  · intro u ux input hux hrequest
    rcases hget u ux hux with ⟨rfl, rfl⟩ | ⟨-, hux⟩
    · exact hprogress input hrequest
    · exact h.progress u ux input hux hrequest
  · refine h.advisory.put fun key hkey => ?_
    rcases hadvisory key hkey with hold | hfree
    · exact .inl ⟨tx, ht, hold⟩
    · refine .inr fun u ux hne hux hlock => ?_
      rw [State.advisoryTaken, ← Bool.not_eq_true, Table.any_eq_true] at hfree
      exact hfree ⟨u, ux, hux, by simp [hne, hlock]⟩
  · refine h.sandbox.put fun sandboxId hid => ?_
    rcases hsandbox sandboxId hid with hold | hfree
    · exact .inl ⟨tx, ht, hold⟩
    · refine .inr fun u ux hne hux hlock => ?_
      rw [State.sandboxTaken, ← Bool.not_eq_true, Table.any_eq_true] at hfree
      exact hfree ⟨u, ux, hux, by simp [hne, hlock]⟩

variable {k : String} {r : Lease}

theorem Inv.write (hfree : s.db.free t k = true) (hown : OwnOk s.db tx k r)
    (hprogress : ∀ input, tx.request = .acquire input → Progress (s.db.write t k r) t input tx.stage) :
    Inv hash { s with db := s.db.write t k r } := by
  have hok : ∀ ux k' r', OwnOk s.db ux k' r' → OwnOk (s.db.write t k r) ux k' r' := by
    rintro ux k' r' (⟨c, hc, hrest⟩ | ⟨input, hr, hd, hk, hs, hnone⟩)
    · exact .inl ⟨c, Store.committed_write.trans hc, hrest⟩
    · exact .inr ⟨input, hr, hd, hk, hs, Store.committed_write.trans hnone⟩
  refine ⟨?_, ?_, h.advisory, h.sandbox, ?_⟩
  · intro u k' r' hu
    by_cases hut : u = t
    · subst hut
      by_cases hk : k' = k
      · subst hk
        have hu : (s.db.write u k' r).own u k' = some r' := hu
        rw [Store.own_write_self] at hu
        cases hu
        exact ⟨tx, ht, hok _ _ _ hown⟩
      · obtain ⟨ux, hux, hold⟩ := h.owned u k' r' ((Store.own_write_of_ne hk).symm.trans hu)
        exact ⟨ux, hux, hok _ _ _ hold⟩
    · obtain ⟨ux, hux, hold⟩ := h.owned u k' r' ((Store.own_write_other hfree hut).symm.trans hu)
      exact ⟨ux, hux, hok _ _ _ hold⟩
  · intro u ux input hux hrequest
    by_cases hut : u = t
    · subst hut
      rw [ht] at hux
      cases hux
      exact hprogress input hrequest
    · refine (h.progress u ux input hux hrequest).mono fun k' r' hr' _ _ => ?_
      have hr' : (s.db.write t k r).visible u k' = some r' := hr'
      rw [Store.visible, Store.own_write_other hfree hut, Store.committed_write] at hr'
      exact hr'
  · intro k₁ k₂ r₁ r₂ h₁ h₂
    exact h.exclusive k₁ k₂ r₁ r₂ (Store.committed_write.symm.trans h₁)
      (Store.committed_write.symm.trans h₂)

/-- A row that a commit leaves active was active before, with the row of its Sandbox or the advisory lock held. -/
theorem Inv.active_own (hown : s.db.own t k = some r) (hactive : r.state = .active) :
    (∃ c, s.db.committed k = some c ∧ c.scope = r.scope ∧ c.state = .active ∧ tx.sandbox = some r.scope.sandboxId) ∨
    ∃ input, tx.request = .acquire input ∧ tx.stage = .done ∧ k = input.leaseId ∧
      r.scope = input.scope ∧ tx.advisory hash = some (hash (lockKey r.scope)) := by
  obtain ⟨tx', ht', hok⟩ := h.owned t k r hown
  rw [ht] at ht'
  cases ht'
  rcases hok with ⟨c, hc, hscope, hrest⟩ | ⟨input, hrequest, hdone, hk, hscope, -⟩
  · obtain ⟨hca, input, hrequest, hs, hstage⟩ := hrest hactive
    refine .inl ⟨c, hc, hscope, hca, ?_⟩
    rw [Tx.sandbox, hrequest, ← hs]
    exact if_neg hstage
  · refine .inr ⟨input, hrequest, hdone, hk, hscope, ?_⟩
    rw [Tx.advisory, hrequest, hscope, hdone]
    rfl

omit ht in
theorem Inv.end_tx {db' : Store String Lease}
    (hown : ∀ u k, db'.own u k = if u = t then none else s.db.own u k)
    (hcommitted : ∀ u k r, u ≠ t → s.db.own u k = some r → db'.committed k = s.db.committed k)
    (hprogress : ∀ u ux input, u ≠ t → s.txs.get u = some ux → ux.request = .acquire input →
      Progress db' u input ux.stage) (hexclusive : Exclusive db') :
        Inv hash ⟨db', s.txs.delete t⟩ := by
  refine ⟨?_, ?_, h.advisory.delete t, h.sandbox.delete t, hexclusive⟩
  · intro u k r hu
    have hu : db'.own u k = some r := hu
    rw [hown] at hu
    split at hu
    · cases hu
    next hne =>
    obtain ⟨ux, hux, hok⟩ := h.owned u k r hu
    refine ⟨ux, (Table.get_delete_of_ne _ hne).trans hux, ?_⟩
    have hsame := hcommitted u k r hne hu
    rcases hok with ⟨c, hc, hrest⟩ | ⟨input, hrequest, hdone, hk, hscope, hnone⟩
    · exact .inl ⟨c, hsame.trans hc, hrest⟩
    · exact .inr ⟨input, hrequest, hdone, hk, hscope, hsame.trans hnone⟩
  · intro u ux input hux hrequest
    obtain ⟨hne, hux⟩ := get_of_get_delete hux
    exact hprogress u ux input hne hux hrequest

omit ht in
theorem Inv.rollback (t : ℕ) : Inv hash (s.rollback t) := by
  refine h.end_tx (fun u k => Store.own_rollback) (fun _ _ _ _ _ => Store.committed_rollback) ?_ ?_
  · intro u ux input hne hux hrequest
    refine (h.progress u ux input hux hrequest).mono fun k r hr _ _ => ?_
    rw [Store.visible, Store.own_rollback, if_neg hne, Store.committed_rollback] at hr
    exact hr
  · intro k k' r r' hk hk'
    rw [Store.committed_rollback] at hk hk'
    exact h.exclusive k k' r r' hk hk'

/-- What another `AcquireLease` sees of a commit: no new active row of its scope. -/
theorem Inv.visible_after_commit {u : ℕ} {ux : Tx}
    (hne : u ≠ t) (hux : s.txs.get u = some ux) (hrequest : ux.request = .acquire input)
    (hstage : ux.stage ≠ .begun ∧ ux.stage ≠ .identified)
    (hr : (s.db.commit t).visible u k = some r) (hscope : r.scope = input.scope)
    (hactive : r.state = .active) :
    s.db.visible u k = some r := by
  rw [Store.visible, Store.own_commit, if_neg hne, Store.committed_commit] at hr
  rw [Store.visible]
  cases hown : s.db.own u k with
  | some r' =>
    rw [hown] at hr
    exact hr
  | none =>
    rw [hown] at hr
    rcases Store.visible_eq_some hr with hmine | ⟨-, hc⟩
    · exfalso
      rcases h.active_own ht hmine hactive with ⟨-, -, -, -, hsandbox⟩ | ⟨-, -, -, -, -, hadvisory⟩
      · refine hne (h.sandbox u t ux tx _ hux ht ?_ hsandbox)
        rw [Tx.sandbox, hrequest, hscope]
        exact if_neg (by rintro (hb | hi); exacts [hstage.1 hb, hstage.2 hi])
      · refine hne (h.advisory u t ux tx _ hux ht ?_ hadvisory)
        rw [Tx.advisory, hrequest, hscope]
        exact if_neg hstage.1
    · exact hc

theorem Inv.commit : Inv hash (s.commit t) := by
  refine h.end_tx (fun u k => Store.own_commit) ?_ ?_ ?_
  · intro u k r hne hu
    have hnone : s.db.own t k = none := by
      cases hmine : s.db.own t k with
      | none => rfl
      | some r' => exact absurd (Store.own_unique hu hmine) hne
    rw [Store.committed_commit, Store.visible_of_own_none hnone]
  · intro u ux input hne hux hrequest
    by_cases hstage : ux.stage ≠ .begun ∧ ux.stage ≠ .identified
    · exact (h.progress u ux input hux hrequest).mono fun k r hr hscope hactive =>
        h.visible_after_commit ht hne hux hrequest hstage hr hscope hactive
    · refine Progress.of_guarded ?_
      by_cases hb : ux.stage = .begun
      · exact .inl hb
      · exact .inr (.inl (by by_contra hi; exact hstage ⟨hb, hi⟩))
  · intro k k' r r' hk hk' hr hr' hscope
    rw [Store.committed_commit] at hk hk'
    -- an active row that is seen was committed, or is the new Lease
    have hold : ∀ k r, s.db.visible t k = some r → r.state = .active →
        (∃ c, s.db.committed k = some c ∧ c.scope = r.scope ∧ c.state = .active) ∨
        ∃ input, tx.request = .acquire input ∧ tx.stage = .done ∧ k = input.leaseId ∧
          r.scope = input.scope := by
      intro k r hv ha
      rcases Store.visible_eq_some hv with hmine | ⟨-, hc⟩
      · rcases h.active_own ht hmine ha with ⟨c, hc, hs, hca, -⟩ | ⟨input, hrequest,
          hdone, hk, hs, -⟩
        · exact .inl ⟨c, hc, hs, hca⟩
        · exact .inr ⟨input, hrequest, hdone, hk, hs⟩
      · exact .inl ⟨r, hc, rfl, ha⟩
    -- beside a new Lease no active row of the scope is seen
    have halone : ∀ input, tx.request = .acquire input → tx.stage = .done →
        ∀ k r, s.db.visible t k = some r →
        r.state = .active → r.scope = input.scope → k = input.leaseId := by
      intro input hrequest hdone k r hv ha hs
      have hprogress := h.progress t tx input ht hrequest
      rw [hdone] at hprogress
      by_contra hne
      obtain ⟨hdue, hlive⟩ := hprogress k r hv hne
      rcases due_or_live hs ha with hd | hl
      · rw [hdue] at hd
        cases hd
      · rw [hlive] at hl
        cases hl
    rcases hold k r hk hr with ⟨c, hc, hcs, hca⟩ | ⟨input, hrequest, hdone, hkid, hs⟩
    · rcases hold k' r' hk' hr' with ⟨c', hc', hcs', hca'⟩ | ⟨input, hrequest, hdone, hkid', hs'⟩
      · exact h.exclusive k k' c c' hc hc' hca hca' (by rw [hcs, hcs', hscope])
      · rw [hkid', halone input hrequest hdone k r hk hr (hscope.trans hs')]
    · rw [hkid, halone input hrequest hdone k' r' hk' hr' (hscope.symm.trans hs)]

/-! ## Transactions -/

/-- Before its end, a transaction sees no Lease that is not committed. -/
theorem Inv.committed_of_visible (hdone : ∀ input, tx.request = .acquire input → tx.stage ≠ .done)
    (hr : s.db.visible t k = some r) :
    ∃ c, s.db.committed k = some c ∧ c.scope = r.scope ∧
      (r.state = .active → c.state = .active) := by
  rcases Store.visible_eq_some hr with hmine | ⟨-, hc⟩
  · obtain ⟨tx', ht', hok⟩ := h.owned t k r hmine
    rw [ht] at ht'
    cases ht'
    rcases hok with ⟨c, hc, hscope, hactive⟩ | ⟨input, hrequest, hd, -⟩
    · exact ⟨c, hc, hscope, fun ha => (hactive ha).1⟩
    · exact absurd hd (hdone input hrequest)
  · exact ⟨r, hc, rfl, id⟩

theorem Inv.write_ended
    (hdone : ∀ input, tx.request = .acquire input → tx.stage ≠ .done) (hfree : s.db.free t k = true)
    {r' : Lease} (hr : s.db.visible t k = some r) (hscope : r'.scope = r.scope)
    (hended : r'.state ≠ .active) : Inv hash { s with db := s.db.write t k r' } := by
  obtain ⟨c, hc, hcs, -⟩ := h.committed_of_visible ht hdone hr
  refine h.write ht hfree (.inl ⟨c, hc, hcs.trans hscope.symm, fun ha => absurd ha hended⟩)
    fun input hrequest => ?_
  refine (h.progress t tx input ht hrequest).mono fun k' r'' hv _ hactive => ?_
  by_cases hk : k' = k
  · subst hk
    rw [Store.visible_of_own Store.own_write_self] at hv
    cases hv
    exact absurd hactive hended
  · rw [Store.visible, Store.own_write_of_ne hk, Store.committed_write] at hv
    exact hv

omit h ht in
theorem leave_state_ne {state : LeaseState} {now : Int} (h : state ≠ .active) :
    (r.leave state now).state ≠ .active := h

/-- A row of an `UPDATE` that ends Leases; afterwards it does not meet the condition. -/
theorem Inv.updateRow
    (hdone : ∀ input, tx.request = .acquire input → tx.stage ≠ .done) (hfree : s.db.free t k = true)
    (p : Lease → Bool) (state : LeaseState) (hstate : state ≠ .active) (now : Int) :
    Inv hash (s.updateRow t k p (·.leave state now)) ∧
      ∀ k' r, (s.updateRow t k p (·.leave state now)).db.visible t k' = some r → r.state = .active →
        s.db.visible t k' = some r ∧ (k' = k → p r = false) := by
  rw [State.updateRow]
  split
  next lease hlease =>
    split
    next hp =>
      refine ⟨h.write_ended ht hdone hfree hlease rfl (leave_state_ne hstate),
        fun k' r hv hactive => ?_⟩
      by_cases hk : k' = k
      · subst hk
        have hv : (s.db.write t k' (lease.leave state now)).visible t k' = some r := hv
        rw [Store.visible_of_own Store.own_write_self] at hv
        cases hv
        exact absurd hactive hstate
      · have hv : (s.db.write t k (lease.leave state now)).visible t k' = some r := hv
        rw [Store.visible, Store.own_write_of_ne hk, Store.committed_write] at hv
        exact ⟨hv, fun heq => absurd heq hk⟩
    next hp =>
      refine ⟨h, fun k' r hv _ => ⟨hv, ?_⟩⟩
      rintro rfl
      rw [hlease] at hv
      cases hv
      exact Bool.not_eq_true _ ▸ hp
  next hnone =>
    refine ⟨h, fun k' r hv _ => ⟨hv, ?_⟩⟩
    rintro rfl
    rw [hnone] at hv
    cases hv

omit h ht in
theorem updateRow_txs {p : Lease → Bool} {f : Lease → Lease} :
    (s.updateRow t k p f).txs = s.txs := by
  rw [State.updateRow]
  split
  · split <;> rfl
  · rfl

theorem Inv.advance (hrequest : tx.request = .acquire input) {before : Stage}
    (hbefore : tx.stage = before) (hprogress : Progress s.db t input stage)
    (hstage : stage ≠ .begun := by simp)
    (hworking : before ≠ .begun ∧ before ≠ .identified ∧ before ≠ .done := by simp) :
    Inv hash (s.setStage t tx stage) := by
  subst hbefore
  refine h.setStage ht hstage hworking.2.2 ?_ ?_ ?_
  · intro input' hrequest'
    rw [hrequest] at hrequest'
    cases hrequest'
    exact hprogress
  · intro key hkey
    left
    rw [Tx.advisory, hrequest] at hkey ⊢
    dsimp only at hkey ⊢
    rw [if_neg hstage] at hkey
    rw [if_neg hworking.1, hkey]
  · intro sandboxId hid
    left
    rw [Tx.sandbox, hrequest] at hid ⊢
    dsimp only at hid ⊢
    split at hid
    · cases hid
    · rw [if_neg (by rintro (hb | hi); exacts [hworking.1 hb, hworking.2.1 hi]), hid]

theorem Inv.acquireLease (hrequest : tx.request = .acquire input) (row : String) (ok : Bool) :
    Inv hash (acquireLease hash s t tx input row ok) := by
  have hprogress := h.progress t tx input ht hrequest
  rw [Leases.acquireLease.eq_def]
  split
  next hstage =>
    split
    · exact h
    next hfree =>
    refine h.setStage ht (by simp) (by simp [hstage]) (fun _ _ => trivial) ?_ ?_
    · intro key hkey
      right
      rw [Tx.advisory, hrequest] at hkey
      cases hkey
      exact Bool.not_eq_true _ ▸ hfree
    · intro sandboxId hid
      rw [Tx.sandbox, hrequest] at hid
      cases hid
  next hstage =>
    split
    · exact h.commit ht
    split
    · exact h
    next hfree =>
    refine h.setStage ht (by simp) (by simp [hstage]) (fun _ _ => trivial) ?_ ?_
    · intro key hkey
      left
      rw [Tx.advisory, hrequest] at hkey ⊢
      rw [hstage]
      exact hkey
    · intro sandboxId hid
      right
      rw [Tx.sandbox, hrequest] at hid
      cases hid
      exact Bool.not_eq_true _ ▸ hfree
  next hstage =>
    split
    · exact h.rollback t
    · refine h.advance ht hrequest hstage fun k r hr hd => ?_
      exact Store.mem_select.2 ⟨r, hr, hd⟩
  next todo hstage =>
    rw [hstage] at hprogress
    split
    next hnil =>
      refine h.advance ht hrequest hstage fun k r hr => ?_
      cases hd : dueIn input r with
      | false => rfl
      | true =>
        have := hprogress k r hr hd
        rw [hnil] at this
        cases this
    split
    next hrow =>
      obtain ⟨hinv, hseen⟩ :=
        h.updateRow ht (by simp [hstage]) hrow.2 (dueIn input) .expired (by simp) input.now
      refine hinv.advance ((congrArg (·.get t) updateRow_txs).trans ht) hrequest hstage
        fun k r hr hd => ?_
      obtain ⟨hold, hnot⟩ := hseen k r hr (dueIn_eq_true hd).2
      refine (List.mem_erase_of_ne fun heq => ?_).2 (hprogress k r hold hd)
      rw [hnot heq] at hd
      cases hd
    · exact h
  next hstage =>
    rw [hstage] at hprogress
    split
    next hnil =>
      refine h.advance ht hrequest hstage fun k r hr => ⟨hprogress k r hr, ?_⟩
      cases hl : liveIn input r with
      | false => rfl
      | true =>
        have hmem : k ∈ s.db.select t fun _ => liveIn input := Store.mem_select.2 ⟨r, hr, hl⟩
        rw [hnil] at hmem
        cases hmem
    split
    · exact h.advance ht hrequest hstage hprogress
    · exact h.rollback t
  next hstage =>
    rw [hstage] at hprogress
    refine h.advance ht hrequest hstage fun k r hr => ⟨hprogress k r hr, ?_⟩
    exact fun hl => Store.mem_select.2 ⟨r, hr, hl⟩
  next todo hstage =>
    rw [hstage] at hprogress
    split
    next hnil =>
      refine h.advance ht hrequest hstage fun k r hr => ?_
      obtain ⟨hdue, hlive⟩ := hprogress k r hr
      refine ⟨hdue, ?_⟩
      cases hl : liveIn input r with
      | false => rfl
      | true =>
        have := hlive hl
        rw [hnil] at this
        cases this
    split
    next hrow =>
      obtain ⟨hinv, hseen⟩ :=
        h.updateRow ht (by simp [hstage]) hrow.2 (liveIn input) .fenced (by simp) input.now
      refine hinv.advance ((congrArg (·.get t) updateRow_txs).trans ht) hrequest hstage
        fun k r hr => ?_
      constructor
      · cases hd : dueIn input r with
        | false => rfl
        | true =>
          obtain ⟨hold, -⟩ := hseen k r hr (dueIn_eq_true hd).2
          exact hd ▸ (hprogress k r hold).1
      · intro hl
        obtain ⟨hold, hnot⟩ := hseen k r hr (liveIn_eq_true hl).2
        refine (List.mem_erase_of_ne fun heq => ?_).2 ((hprogress k r hold).2 hl)
        rw [hnot heq] at hl
        cases hl
    · exact h
  next hstage =>
    rw [hstage] at hprogress
    split
    · exact h
    next hfree =>
    split
    · exact h.rollback t
    next hnew =>
    -- with the stage set first, the new row is one a finished transaction may have
    have hinv : Inv hash (s.setStage t tx .done) :=
      h.advance ht hrequest hstage fun k r hr _ => hprogress k r hr
    have hfree : s.db.free t input.leaseId = true := by simpa using hfree
    have hnone : s.db.visible t input.leaseId = none := Option.not_isSome_iff_eq_none.1 hnew
    refine hinv.write (Table.get_put_self _ _ _) hfree ?_ fun input' hrequest' => ?_
    · refine .inr ⟨input, hrequest, rfl, rfl, rfl, ?_⟩
      rw [Store.visible, Option.or_eq_none_iff] at hnone
      exact hnone.2
    · have hsame : input' = input := by
        have hrequest' : tx.request = .acquire input' := hrequest'
        rw [hrequest] at hrequest'
        cases hrequest'
        rfl
      subst hsame
      intro k r hr hk
      rw [Store.visible, Store.own_write_of_ne hk, Store.committed_write] at hr
      exact hprogress k r hr
  next hstage => exact h.commit ht

theorem Inv.renewLease (hrequest : tx.request = .renew input) (ok : Bool) :
    Inv hash (renewLease s t tx input ok) := by
  have hnotAcquire : ∀ input', tx.request ≠ .acquire input' := by
    intro input' hacquire
    rw [hrequest] at hacquire
    cases hacquire
  have hadvisory : ∀ (stage : Stage) key, Tx.advisory hash { tx with stage } ≠ some key := by
    intro stage key hkey
    rw [Tx.advisory, hrequest] at hkey
    cases hkey
  rw [Leases.renewLease.eq_def]
  split
  next hstage =>
    split
    · exact h.commit ht
    split
    · exact h
    next hfree =>
    refine h.setStage ht (by simp) (by simp [hstage])
      (fun input' ha => absurd ha (hnotAcquire input'))
      (fun key hkey => absurd hkey (hadvisory _ key)) ?_
    intro sandboxId hid
    right
    rw [Tx.sandbox, hrequest] at hid
    cases hid
    exact Bool.not_eq_true _ ▸ hfree
  next hstage =>
    split
    · exact h.rollback t
    split
    · exact h
    next hfree =>
    split
    · exact h.rollback t
    next lease hlease =>
    split
    next hcurrent =>
      have hfree : s.db.free t input.leaseId = true := by simpa using hfree
      obtain ⟨c, hc, hscope, hactive⟩ := h.committed_of_visible ht (by simp [hstage]) hlease
      have hwrite := h.write ht hfree (r := { lease with
          expiresAt := input.expiresAt, updatedAt := input.now, revision := lease.revision + 1 })
        (.inl ⟨c, hc, hscope, fun ha => ⟨hactive ha, input, hrequest, hcurrent.1.symm, by simp [hstage]⟩⟩)
        fun input' ha => absurd ha (hnotAcquire input')
      refine hwrite.setStage ht (by simp) (by simp [hstage])
        (fun input' ha => absurd ha (hnotAcquire input'))
        (fun key hkey => absurd hkey (hadvisory _ key)) ?_
      intro sandboxId hid
      left
      rw [Tx.sandbox, hrequest] at hid ⊢
      rw [hstage]
      exact hid
    · exact h.rollback t
  · exact h.commit ht

theorem Inv.releaseLease
    (hrequest : tx.request = .release input) (ok : Bool) :
    Inv hash (releaseLease s t tx input ok) := by
  have hmove : ∀ {s' : State}, Inv hash s' → s'.txs.get t = some tx → tx.stage ≠ .done →
      Inv hash (s'.setStage t tx .done) := by
    intro s' h' ht' hdone
    refine h'.setStage ht' (by simp) hdone ?_ ?_ ?_
    · intro input' hacquire
      rw [hrequest] at hacquire
      cases hacquire
    · intro key hkey
      rw [Tx.advisory, hrequest] at hkey
      cases hkey
    · intro sandboxId hid
      rw [Tx.sandbox, hrequest] at hid
      cases hid
  rw [Leases.releaseLease.eq_def]
  split
  next hstage =>
    split
    · exact h.commit ht
    split
    · exact h
    next hfree =>
    split
    · exact h.rollback t
    next lease hlease =>
    split
    · split
      · have hfree : s.db.free t input.leaseId = true := by simpa using hfree
        exact hmove (h.write_ended ht (by simp [hstage]) hfree hlease rfl (leave_state_ne (by simp))) ht
          (by simp [hstage])
      · exact hmove h ht (by simp [hstage])
    · exact h.rollback t
  · exact h.commit ht

theorem Inv.expireLeases {now : Int} (hrequest : tx.request = .expire now)
    (row : String) (ok : Bool) : Inv hash (expireLeases s t now row ok) := by
  have hdone : ∀ input, tx.request = .acquire input → tx.stage ≠ .done := by
    intro input hacquire
    rw [hrequest] at hacquire
    cases hacquire
  rw [Leases.expireLeases]
  split
  · exact h.commit ht
  split
  next hfree => exact (h.updateRow ht hdone hfree _ .expired (by simp) now).1
  · exact h

omit ht in
theorem Inv.start (hnone : s.txs.get t = none) (request : Request) :
    Inv hash { s with txs := s.txs.put t { request } } := by
  have hget : ∀ u ux, (s.txs.put t { request }).get u = some ux → ux = { request } ∨
      s.txs.get u = some ux := by
    intro u ux hu
    rw [Table.get_put] at hu
    split at hu
    · cases hu
      exact .inl rfl
    · exact .inr hu
  refine ⟨?_, ?_, ?_, ?_, h.exclusive⟩
  · intro u k r hu
    obtain ⟨ux, hux, hok⟩ := h.owned u k r hu
    have hne : u ≠ t := by
      rintro rfl
      rw [hnone] at hux
      cases hux
    exact ⟨ux, (Table.get_put_of_ne _ _ hne).trans hux, hok⟩
  · intro u ux input hux hrequest
    rcases hget u ux hux with rfl | hux
    · trivial
    · exact h.progress u ux input hux hrequest
  · refine h.advisory.put fun key hkey => ?_
    cases request <;> cases hkey
  · refine h.sandbox.put fun sandboxId hid => ?_
    cases request <;> cases hid

omit h ht in
theorem inv_empty : Inv hash {} := by
  refine ⟨?_, ?_, ?_, ?_, ?_⟩
  · intro t k r h
    cases h
  · intro t tx input h
    cases h
  · intro t t' tx tx' a h
    cases h
  · intro t t' tx tx' a h
    cases h
  · intro k k' r r' h
    cases h

omit ht in
theorem Inv.step (action : Action) : Inv hash (next hash s action) := by
  cases action with
  | start t request =>
    rw [next]
    split
    · exact h
    next hnone => exact h.start hnone request
  | run t row ok =>
    rw [next]
    split
    · exact h
    next tx ht =>
    split
    next input hrequest => exact h.acquireLease ht hrequest row ok
    next input hrequest => exact h.renewLease ht hrequest ok
    next input hrequest => exact h.releaseLease ht hrequest ok
    next now hrequest => exact h.expireLeases ht hrequest row ok
  | abort t => exact h.rollback t

/-! ## What becomes of a Lease -/

omit h ht in
theorem updateRow_committed {k' : String} {p : Lease → Bool} {f : Lease → Lease} :
    (s.updateRow t k p f).db.committed k' = s.db.committed k' := by
  rw [State.updateRow]
  split
  · split
    · exact Store.committed_write
    · rfl
  · rfl

omit h ht in
theorem acquireLease_committed (input : LeaseInput) (row : String) (ok : Bool) (k : String) :
    (acquireLease hash s t tx input row ok).db.committed k = s.db.committed k ∨
      (acquireLease hash s t tx input row ok).db.committed k = s.db.visible t k := by
  rw [acquireLease.eq_def]
  split <;> (repeat' split)
  all_goals first
    | exact .inl rfl
    | exact .inl updateRow_committed
    | exact .inl Store.committed_write
    | exact .inl Store.committed_rollback
    | exact .inr Store.committed_commit

omit h ht in
theorem renewLease_committed (input : LeaseInput) (ok : Bool) (k : String) :
    (renewLease s t tx input ok).db.committed k = s.db.committed k ∨
      (renewLease s t tx input ok).db.committed k = s.db.visible t k := by
  rw [renewLease.eq_def]
  split <;> (repeat' split)
  all_goals first
    | exact .inl rfl
    | exact .inl Store.committed_write
    | exact .inl Store.committed_rollback
    | exact .inr Store.committed_commit

omit h ht in
theorem releaseLease_committed (input : LeaseInput) (ok : Bool) (k : String) :
    (releaseLease s t tx input ok).db.committed k = s.db.committed k ∨
      (releaseLease s t tx input ok).db.committed k = s.db.visible t k := by
  rw [releaseLease.eq_def]
  split <;> (repeat' split)
  all_goals first
    | exact .inl rfl
    | exact .inl Store.committed_write
    | exact .inl Store.committed_rollback
    | exact .inr Store.committed_commit

omit h ht in
/-- Only a commit changes what is committed, to what its transaction sees. -/
theorem next_committed (action : Action) (k : String) :
    (next hash s action).db.committed k = s.db.committed k ∨
      ∃ t tx, s.txs.get t = some tx ∧ (next hash s action).db.committed k = s.db.visible t k := by
  cases action with
  | start t request =>
    rw [next]
    split <;> exact .inl rfl
  | run t row ok =>
    rw [next]
    split
    · exact .inl rfl
    next tx ht =>
    split
    · exact (acquireLease_committed _ row ok k).imp_right fun h => ⟨t, tx, ht, h⟩
    · exact (renewLease_committed _ ok k).imp_right fun h => ⟨t, tx, ht, h⟩
    · exact (releaseLease_committed _ ok k).imp_right fun h => ⟨t, tx, ht, h⟩
    · rw [expireLeases]
      split
      · exact .inr ⟨t, tx, ht, Store.committed_commit⟩
      split
      · exact .inl updateRow_committed
      · exact .inl rfl
  | abort t => exact .inl Store.committed_rollback

/-- A Lease that has ended. -/
def Ended (db : Store String Lease) (leaseId : String) : Prop :=
  ∃ lease, db.committed leaseId = some lease ∧ lease.state ≠ .active

omit ht in
theorem Inv.ended_step {leaseId : String} (hended : Ended s.db leaseId) (action : Action) :
    Ended (next hash s action).db leaseId := by
  obtain ⟨lease, hlease, hstate⟩ := hended
  rcases next_committed action leaseId with hsame | ⟨t, tx, ht, hseen⟩
  · exact ⟨lease, hsame.trans hlease, hstate⟩
  rw [Ended, hseen]
  cases hown : s.db.own t leaseId with
  | none => exact ⟨lease, (Store.visible_of_own_none hown).trans hlease, hstate⟩
  | some row =>
    refine ⟨row, Store.visible_of_own hown, fun hactive => ?_⟩
    obtain ⟨tx', -, hok⟩ := h.owned t leaseId row hown
    rcases hok with ⟨c, hc, -, hrenewed⟩ | ⟨-, -, -, -, -, hnone⟩
    · rw [hlease] at hc
      cases hc
      exact hstate (hrenewed hactive).1
    · rw [hlease] at hnone
      cases hnone

end

/-- Whatever the interleaving of the transactions and whatever the clocks of the replicas, at most one Lease of a
    tenant, a Subject and a Sandbox is active, and a Lease that has ended stays so. -/
theorem lease_exclusive (hash : String → Int) (actions : List Action) :
    (∀ leaseId leaseId' lease lease',
      (after (next hash) {} actions).db.committed leaseId = some lease →
      (after (next hash) {} actions).db.committed leaseId' = some lease' →
      lease.state = .active → lease'.state = .active → lease.scope = lease'.scope →
        leaseId = leaseId') ∧
    ∀ leaseId lease, (after (next hash) {} actions).db.committed leaseId = some lease →
      lease.state ≠ .active →
      ∀ later, ∃ lease', (after (next hash) {} (actions ++ later)).db.committed leaseId =
        some lease' ∧ lease'.state ≠ .active := by
  have hinv : Inv hash (after (next hash) {} actions) :=
    after_invariant (I := Inv hash) (fun s action h => h.step action) inv_empty actions
  refine ⟨hinv.exclusive, fun leaseId lease hlease hstate later => ?_⟩
  rw [after_append]
  refine (after_invariant (I := fun s => Inv hash s ∧ Ended s.db leaseId) ?_ ⟨hinv, lease, hlease,
    hstate⟩ later).2
  exact fun s action h => ⟨h.1.step action, h.1.ended_step h.2 action⟩

/-- A Lease is acquired, and a replica whose clock is behind takes it over. -/
def takeover : List Action :=
  .start 0 (.acquire ⟨⟨"tenant", "subject", "sandbox"⟩, "first", 1, 10, 20, false⟩) ::
    List.replicate 7 (.run 0 "first" true) ++
  .start 1 (.acquire ⟨⟨"tenant", "subject", "sandbox"⟩, "second", 1, 5, 15, true⟩) ::
    List.replicate 10 (.run 1 "first" true)

theorem takeover_exclusive :
    (after (next fun _ => 0) {} takeover).db.committed "second" =
      some ⟨⟨"tenant", "subject", "sandbox"⟩, 1, .active, 15, 1, 5, 5⟩ ∧
    (after (next fun _ => 0) {} takeover).db.committed "first" =
      some ⟨⟨"tenant", "subject", "sandbox"⟩, 1, .fenced, 20, 2, 10, 5⟩ ∧
    ∀ later, ∃ lease, (after (next fun _ => 0) {} (takeover ++ later)).db.committed "first" =
      some lease ∧ lease.state ≠ .active := by
  have hfirst : (after (next fun _ => 0) {} takeover).db.committed "first" =
      some ⟨⟨"tenant", "subject", "sandbox"⟩, 1, .fenced, 20, 2, 10, 5⟩ := by decide +kernel
  exact ⟨by decide +kernel, hfirst, (lease_exclusive (fun _ => 0) takeover).2 "first" _ hfirst (by decide)⟩

end SecondBox.Leases
