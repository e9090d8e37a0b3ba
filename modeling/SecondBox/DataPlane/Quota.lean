/-
  Concurrent operations and their limits.

  The usage of a Subject and of a Tenant counts active sessions of every kind
  and image preparations; that of a Sandbox counts its active sessions.  Only
  three transactions add to it.  `PrepareImage` checks the whole usage;
  `AdmitDataPlane` checks sessions and leaves image preparations out;
  `AdmitPortSession` checks none of these limits.  With constant limits the
  usage therefore stays within them in exactly the histories whose admissions
  find room (`within_along_iff`).
-/
import SecondBox.DataPlane.Closed
import SecondBox.DataPlane.Lifecycle

namespace SecondBox.DataPlane

open Relational Relational.Tx History

variable {t : Transaction} {d d' : DB} {c : Config}

/-! ## Limits and usage -/

/-- Limits that do not change: one for each Sandbox, Subject and Tenant. -/
structure Limits where
  sandbox : ID → Int
  subject : ID → ID → PolicyLimit
  tenant : ID → PolicyLimit

/-- The limits the database holds are those of `l`. -/
structure DB.HasLimits (d : DB) (l : Limits) : Prop where
  sandbox : ∀ x n, d.sandboxLimit x = some n → n = l.sandbox x
  subject : ∀ tenantRef subjectRef n, d.subjectLimit tenantRef subjectRef = some n →
    n = l.subject tenantRef subjectRef
  tenant : ∀ tenantRef n, d.tenantLimit tenantRef = some n → n = l.tenant tenantRef

/-- No usage exceeds its limit. -/
structure DB.Within (d : DB) (l : Limits) : Prop where
  sandbox : ∀ x, (d.sandboxSessions x : Int) ≤ l.sandbox x
  subject : ∀ tenantRef subjectRef,
    (l.subject tenantRef subjectRef).allows (d.subjectOperations tenantRef subjectRef) = true
  tenant : ∀ tenantRef, (l.tenant tenantRef).allows (d.tenantOperations tenantRef) = true

/-- Other components keep the limits. -/
def Held (l : Limits) : Transaction → Prop
  | .authority a => ({ auth := a } : DB).HasLimits l
  | _ => True

/-- The Subject and the Tenant have room for one more operation. -/
def DB.HasRoom (d : DB) (l : Limits) (tenantRef subjectRef : ID) : Prop :=
  (l.subject tenantRef subjectRef).allows (d.subjectOperations tenantRef subjectRef + 1) = true ∧
    (l.tenant tenantRef).allows (d.tenantOperations tenantRef + 1) = true

/-- An admission that is no replay finds room: an Exec, File or Terminal session
    at its Subject and Tenant, a PortSession at its Sandbox as well. -/
def Roomy (c : Config) (l : Limits) (d : DB) : Transaction → Prop
  | .admitDataPlane i => (∃ s, (admitDataPlane c i).answer d = .ok (s, false)) →
    d.HasRoom l i.tenantRef i.subjectRef
  | .admitPortSession i => (∃ id, (admitPortSession c i).answer d = .ok (id, false)) →
    d.HasRoom l i.tenantRef i.subjectRef ∧ (d.sandboxSessions i.sandboxID : Int) + 1 ≤
    l.sandbox i.sandboxID
  | _ => True

theorem PolicyLimit.allows_of_le {l : PolicyLimit} {m n : Int} (h : l.allows n = true)
    (hmn : m ≤ n) :
    l.allows m = true := by
  cases l with
  | unlimited => rfl
  | atMost b =>
    simp only [PolicyLimit.allows, decide_eq_true_eq] at h ⊢
    omega

/-! ## Sessions -/

/-- The active sessions whose owner satisfies `p`. -/
def DB.sessionsOf (d : DB) (p : Owner → Bool) : ℕ :=
  d.sessions.count fun _ s => p s.owner && s.state.active

/-- The image preparations under way that satisfy `p`. -/
def DB.preparationsOf (d : DB) (p : Operation → Bool) : ℕ :=
  d.operations.count fun _ o => p o && o.preparing

/-- Owned by the Tenant. -/
def Owner.ofTenant (tenantRef : ID) (o : Owner) : Bool := o.tenantRef == tenantRef

/-- Owned by the Subject. -/
def Owner.ofSubject (tenantRef subjectRef : ID) (o : Owner) : Bool :=
  o.tenantRef == tenantRef && o.subjectRef == subjectRef

/-- On the Sandbox. -/
def Owner.ofSandbox (sandboxID : ID) (o : Owner) : Bool := o.sandboxID == sandboxID

theorem sandboxSessions_eq (sandboxID : ID) :
    d.sandboxSessions sandboxID = d.sessionsOf (Owner.ofSandbox sandboxID) :=
  rfl

theorem tenantOperations_eq (tenantRef : ID) : d.tenantOperations tenantRef =
    d.sessionsOf (Owner.ofTenant tenantRef) + d.tenantPreparations tenantRef := rfl

theorem subjectOperations_eq (tenantRef subjectRef : ID) :
    d.subjectOperations tenantRef subjectRef =
    d.sessionsOf (Owner.ofSubject tenantRef subjectRef) + d.subjectPreparations tenantRef
      subjectRef := rfl

theorem step_sessionsOf_le (c : Config) (hd : d.Wf) (hf : Fresh d t) (hm : t.mints = none)
    (p : Owner → Bool) :
    (d.step c t).sessionsOf p ≤ d.sessionsOf p := by
  refine Table.count_le_of_get fun k s' hs' hp => ?_
  simp only [Bool.and_eq_true] at hp
  obtain ⟨s, hs, howner, ha⟩ :=
    (step_moves c hd hf k).active (hd k) (by simp [hm]) (view_session hs') hp.2
  simp only [DB.view, Option.map_eq_some_iff] at hs
  obtain ⟨s, hs, rfl⟩ := hs
  refine ⟨s, hs, ?_⟩
  have howner : s.owner = s'.owner := howner
  simp [howner, hp.1, show s.state.active = true from ha]

variable {id : ID} {s : Session}

theorem Admits.sessionsOf (h : Admits d id s d') (p : Owner → Bool) :
    d'.sessionsOf p = d.sessionsOf p + if p s.owner then 1 else 0 := by
  rw [DB.sessionsOf, h.sessions, Table.count_insertNew _ _ _ h.unused, Nat.add_comm]
  simp [h.pending, SessionState.active, DB.sessionsOf]

/-! ## What is left alone -/

/-- Operations, and the rows the limits come from. -/
def DB.budget (d : DB) : Table ID Operation × Table ID Sandbox × Table ID ProfileRevision ×
    Table ID QuotaLimits × Table (ID × ID) QuotaLimits :=
  (d.operations, d.auth.sandboxes, d.auth.revisions, d.auth.tenantQuotas, d.auth.subjectQuotas)

instance (b : Table ID Operation × Table ID Sandbox × Table ID ProfileRevision ×
    Table ID QuotaLimits × Table (ID × ID) QuotaLimits) : Closed fun d => d.budget = b where
  setSession _ _ _ h := h
  enqueueCancellation _ _ _ _ _ _ h := h
  completeCancelledSession _ _ _ h := h
  startPending _ h := h
  setPort _ _ h := h
  insertSession _ _ _ h := h
  insertCommand _ _ h := h
  insertPort _ _ h := h
  idempotency _ h := h
  sweep _ _ h := h
  connections _ h := h
  failDisconnected _ _ h := h
  fenceGeneration _ _ _ h := h
  releaseResources _ _ _ h := h

theorem step_budget (c : Config) (ht : t.ownTables = true) : (d.step c t).budget = d.budget :=
  Closed.step (P := fun d' => d'.budget = d.budget) c ht rfl

theorem operations_of_budget (h : d'.budget = d.budget) : d'.operations = d.operations :=
  congrArg Prod.fst h

variable {l : Limits}

theorem HasLimits.of_budget (h : d'.budget = d.budget) (hl : d.HasLimits l) : d'.HasLimits l := by
  have hsandboxes : d'.auth.sandboxes = d.auth.sandboxes := congrArg (·.2.1) h
  have hrevisions : d'.auth.revisions = d.auth.revisions := congrArg (·.2.2.1) h
  have htenants : d'.auth.tenantQuotas = d.auth.tenantQuotas := congrArg (·.2.2.2.1) h
  have hsubjects : d'.auth.subjectQuotas = d.auth.subjectQuotas := congrArg (·.2.2.2.2) h
  constructor
  · intro x n hx
    exact hl.sandbox x n (by rw [← hx]; simp only [DB.sandboxLimit, hsandboxes, hrevisions])
  · intro tenantRef subjectRef n hx
    exact hl.subject tenantRef subjectRef n (by rw [← hx]; simp only [DB.subjectLimit, hsubjects])
  · intro tenantRef n hx
    exact hl.tenant tenantRef n (by rw [← hx]; simp only [DB.tenantLimit, htenants])

/-! ## Steps -/

/-- Fewer sessions and no more preparations keep the usage within its limits. -/
theorem DB.Within.of_le (h : d.Within l) (hs : ∀ p, d'.sessionsOf p ≤ d.sessionsOf p)
    (ho : ∀ p, (∀ o st, p { o with state := st } = p o) →
    d'.preparationsOf p ≤ d.preparationsOf p) : d'.Within l := by
  have htenant : ∀ tenantRef, d'.tenantPreparations tenantRef ≤ d.tenantPreparations tenantRef :=
    fun tenantRef => ho (fun o => o.tenantRef == tenantRef) fun _ _ => rfl
  have hsubject : ∀ tenantRef subjectRef,
      d'.subjectPreparations tenantRef subjectRef ≤ d.subjectPreparations tenantRef subjectRef :=
    fun tenantRef subjectRef => ho (fun o => o.tenantRef == tenantRef && o.subjectRef == subjectRef)
      fun _ _ => rfl
  refine ⟨fun x => ?_, fun tenantRef subjectRef => ?_, fun tenantRef => ?_⟩
  · have hle := hs (Owner.ofSandbox x)
    have hin := h.sandbox x
    rw [sandboxSessions_eq] at hin ⊢
    omega
  · refine PolicyLimit.allows_of_le (h.subject tenantRef subjectRef) ?_
    have hle := hs (Owner.ofSubject tenantRef subjectRef)
    have hprep := hsubject tenantRef subjectRef
    rw [subjectOperations_eq, subjectOperations_eq]
    omega
  · refine PolicyLimit.allows_of_le (h.tenant tenantRef) ?_
    have hle := hs (Owner.ofTenant tenantRef)
    have hprep := htenant tenantRef
    rw [tenantOperations_eq, tenantOperations_eq]
    omega

/-- An Operation that leaves its state does not start preparing. -/
theorem preparationsOf_updateWhere_le {p : Operation → Bool}
    (hp : ∀ o st, p { o with state := st } = p o) (q : ID → Operation → Bool) (st : OperationState)
    (h : ∀ k o, d.operations.get k = some o → q k o = true → o.preparing = true ∨ st ≠ .pending ∧
    st ≠ .running) :
    DB.preparationsOf { d with operations := d.operations.updateWhere q fun o => { o with state := st } } p ≤
      d.preparationsOf p := by
  refine Table.count_le_of_get fun k o' ho' hcount => ?_
  rw [Table.get_updateWhere, Option.map_eq_some_iff] at ho'
  obtain ⟨o, ho, rfl⟩ := ho'
  refine ⟨o, ho, ?_⟩
  split at hcount
  · next hq =>
    rw [hp, Bool.and_eq_true] at hcount
    rcases h k o ho hq with hprep | ⟨hne, hne'⟩
    · rw [hcount.1, hprep]; rfl
    · simp [Operation.preparing, hne, hne'] at hcount
  · exact hcount

/-- The usage after an admission: one more session of its owner. -/
theorem within_admits (hw : d.Within l) (h : Admits d id s d') (ho : d'.operations = d.operations) :
    d'.Within l ↔ d.HasRoom l s.owner.tenantRef s.owner.subjectRef ∧
      (d.sandboxSessions s.owner.sandboxID : Int) + 1 ≤ l.sandbox s.owner.sandboxID := by
  have hsandbox : ∀ x, d'.sandboxSessions x =
      d.sandboxSessions x + if Owner.ofSandbox x s.owner then 1 else 0 :=
    fun x => h.sessionsOf (Owner.ofSandbox x)
  have htenant : ∀ tenantRef, d'.tenantOperations tenantRef =
      d.tenantOperations tenantRef + if Owner.ofTenant tenantRef s.owner then 1 else 0 := by
    intro tenantRef
    rw [tenantOperations_eq, tenantOperations_eq, h.sessionsOf, Nat.add_right_comm]
    simp only [DB.tenantPreparations, ho]
  have hsubject : ∀ tenantRef subjectRef, d'.subjectOperations tenantRef subjectRef =
      d.subjectOperations tenantRef subjectRef + if Owner.ofSubject tenantRef subjectRef
      s.owner then 1 else 0 := by
    intro tenantRef subjectRef
    rw [subjectOperations_eq, subjectOperations_eq, h.sessionsOf, Nat.add_right_comm]
    simp only [DB.subjectPreparations, ho]
  constructor
  · intro hw'
    have hx := hw'.sandbox s.owner.sandboxID
    have ht := hw'.tenant s.owner.tenantRef
    have hs := hw'.subject s.owner.tenantRef s.owner.subjectRef
    rw [hsandbox] at hx
    rw [htenant] at ht
    rw [hsubject] at hs
    simp only [Owner.ofSandbox, Owner.ofTenant, Owner.ofSubject, beq_self_eq_true, Bool.and_self,
      if_true] at hx ht hs
    exact ⟨⟨hs, ht⟩, hx⟩
  · rintro ⟨⟨hs, ht⟩, hx⟩
    refine ⟨fun x => ?_, fun tenantRef subjectRef => ?_, fun tenantRef => ?_⟩
    · rw [hsandbox]
      by_cases hown : Owner.ofSandbox x s.owner = true
      · obtain rfl : s.owner.sandboxID = x := by simpa [Owner.ofSandbox] using hown
        simpa [hown] using hx
      · simpa [hown] using hw.sandbox x
    · rw [hsubject]
      by_cases hown : Owner.ofSubject tenantRef subjectRef s.owner = true
      · obtain ⟨rfl, rfl⟩ : s.owner.tenantRef = tenantRef ∧ s.owner.subjectRef = subjectRef := by
          simpa [Owner.ofSubject] using hown
        simpa [hown] using hs
      · simpa [hown] using hw.subject tenantRef subjectRef
    · rw [htenant]
      by_cases hown : Owner.ofTenant tenantRef s.owner = true
      · obtain rfl : s.owner.tenantRef = tenantRef := by simpa [Owner.ofTenant] using hown
        simpa [hown] using ht
      · simpa [hown] using hw.tenant tenantRef

theorem within_insertPreparation (hw : d.Within l) (hl : d.HasLimits l) {i : ImagePreparation}
    {tenant subject : QuotaLimits} (h : i.Admitted d tenant subject) :
    (d.insertPreparation i).Within l := by
  have hcount : ∀ p, (d.insertPreparation i).preparationsOf p =
      d.preparationsOf p + if p ⟨i.tenantRef, i.subjectRef, .prepareImage, .pending⟩ then
      1 else 0 := by
    intro p
    rw [DB.preparationsOf, DB.insertPreparation, Table.count_insertNew _ _ _ h.unused, Nat.add_comm]
    simp [Operation.preparing, DB.preparationsOf]
  have htenant : ∀ tenantRef, (d.insertPreparation i).tenantOperations tenantRef =
      d.tenantOperations tenantRef + if i.tenantRef == tenantRef then 1 else 0 :=
    fun tenantRef =>
      (congrArg (d.tenantSessions tenantRef + ·) (hcount fun o => o.tenantRef == tenantRef)).trans
      (Nat.add_assoc ..).symm
  have hsubject : ∀ tenantRef subjectRef, (d.insertPreparation i).subjectOperations tenantRef
      subjectRef = d.subjectOperations tenantRef subjectRef +
        if i.tenantRef == tenantRef && i.subjectRef == subjectRef then 1 else 0 :=
    fun tenantRef subjectRef => (congrArg (d.subjectSessions tenantRef subjectRef + ·)
      (hcount fun o => o.tenantRef == tenantRef && o.subjectRef == subjectRef)).trans
      (Nat.add_assoc ..).symm
  refine ⟨hw.sandbox, fun tenantRef subjectRef => ?_, fun tenantRef => ?_⟩
  · rw [hsubject]
    by_cases hown : (i.tenantRef == tenantRef && i.subjectRef == subjectRef) = true
    · obtain ⟨rfl, rfl⟩ : i.tenantRef = tenantRef ∧ i.subjectRef = subjectRef := by simpa using hown
      rw [← hl.subject i.tenantRef i.subjectRef _ (by rw [DB.subjectLimit, h.subjectQuota,
        Option.map_some]), if_pos hown]
      exact h.subjectRoom
    · rw [if_neg hown]
      exact hw.subject tenantRef subjectRef
  · rw [htenant]
    by_cases hown : (i.tenantRef == tenantRef) = true
    · obtain rfl : i.tenantRef = tenantRef := by simpa using hown
      rw [← hl.tenant i.tenantRef _ (by rw [DB.tenantLimit, h.tenantQuota, Option.map_some]),
        if_pos hown]
      exact h.tenantRoom
    · rw [if_neg hown]
      exact hw.tenant tenantRef

/-- The room an Exec, File or Terminal admission sees at its Sandbox is there. -/
theorem Admission.Admitted.sandboxRoom (hl : d.HasLimits l) {i : Admission} {r : Capacity}
    (h : i.Admitted d s r d') :
    (d.sandboxSessions i.sandboxID : Int) + 1 ≤ l.sandbox i.sandboxID := by
  have hfits := h.fits
  simp only [Capacity.exhausted, Bool.or_eq_false_iff, decide_eq_false_iff_not, ge_iff_le,
    not_le] at hfits
  rw [← hl.sandbox i.sandboxID _ h.observed.sandboxMaximum, ← h.observed.sandboxActive]
  omega

theorem step_within_of_mints_none (c : Config) (hd : d.Wf) (hw : d.Within l) (hl : d.HasLimits l)
    (hf : Fresh d t) (hm : t.mints = none) : (d.step c t).Within l := by
  cases ht : t.ownTables with
  | true =>
    have hops := operations_of_budget (step_budget (d := d) c ht)
    exact hw.of_le (step_sessionsOf_le c hd hf hm) fun p _ => by
      simp only [DB.preparationsOf, hops, le_refl]
  | false =>
    have hcommit : (t.tx c).Ensures d (fun _ d' => DB.Within d' l) → (d.step c t).Within l :=
      fun h => commit_of_ensures (P := (DB.Within · l)) h hw
    cases t with
    | prepareImage i =>
      refine hcommit ((ensures_discard _).2 ((ensures_prepareImage i).mono fun _ d' h => ?_))
      rcases h with rfl | ⟨rfl, tenant, subject, h⟩
      · exact hw
      · exact within_insertPreparation hw hl h
    | reconcileImagePreparation id decided =>
      refine hcommit ?_
      simp only [Transaction.tx, reconcileImagePreparation, ensures_bind, ensures_get,
        ensures_expect, ensures_ite, ensures_modify, ensures_pure]
      intro o ho
      refine ⟨fun hprep => hw.of_le (fun p => le_refl _) fun p hp => ?_, fun _ => hw⟩
      refine preparationsOf_updateWhere_le hp (fun k _ => k == id) decided fun k o' ho' hk =>
        .inl ?_
      rw [beq_iff_eq.1 hk, ho, Option.some_inj] at ho'
      rw [← ho']
      exact hprep
    | cancelOperations tenantRef subjectRef cleanupID =>
      refine hcommit ?_
      simp only [Transaction.tx, cancelOperations, ensures_bind]
      refine ensures_quotaLedgers fun _ => hw.of_le (fun p => le_refl _) fun p hp => ?_
      exact preparationsOf_updateWhere_le hp _ .cancelled fun _ _ _ _ => .inr ⟨by decide, by decide⟩
    | authority a => exact ⟨hw.sandbox, hw.subject, hw.tenant⟩
    | _ => cases ht

/-- An admission is new, or a replay or an error that changes nothing. -/
theorem new_or_same {α : Type} {m : Tx (α × Bool)} {R : DB → Prop}
    (h : m.Ensures d fun a d' => a.2 = true ∧ d' = d ∨ a.2 = false ∧ R d') :
    (∃ a, m.answer d = .ok (a, false)) ∧ R (m.commit d) ∨ (¬∃ a, m.answer d = .ok (a, false)) ∧
      m.commit d = d := by
  by_cases hc : m.Commits d
  · obtain ⟨⟨a, replay⟩, ha⟩ := hc.answer
    rcases h.answer ha with ⟨hreplay, hsame⟩ | ⟨hreplay, hnew⟩
    · refine .inr ⟨?_, hsame⟩
      rintro ⟨a', ha'⟩
      rw [ha] at ha'
      cases hreplay
      cases ha'
    · cases hreplay
      exact .inl ⟨⟨a, ha⟩, hnew⟩
  · refine .inr ⟨?_, commit_of_not_commits hc⟩
    rintro ⟨a, ha⟩
    simp only [Tx.answer] at ha
    cases hr : m.run d with
    | ok r => exact hc ⟨r.1, r.2, hr⟩
    | error e => rw [hr] at ha; cases ha

/-- The usage stays within its limits exactly if admissions find room. -/
theorem step_within_iff (c : Config) (hd : d.Wf) (hw : d.Within l) (hl : d.HasLimits l)
    (hf : Fresh d t) :
    (d.step c t).Within l ↔ Roomy c l d t := by
  cases t with
  | admitDataPlane i =>
    have hops := operations_of_budget (step_budget (d := d) c (t := .admitDataPlane i) rfl)
    rw [DB.step, Transaction.tx, commit_discard] at hops ⊢
    rcases new_or_same (ensures_admitDataPlane c i) with ⟨hnew, s, r, h⟩ | ⟨hold, hsame⟩
    · rw [within_admits hw h.toAdmits hops, h.owner]
      exact ⟨fun hroom _ => hroom.1, fun hroom => ⟨hroom hnew, h.sandboxRoom hl⟩⟩
    · rw [hsame]
      exact iff_of_true hw fun hnew => absurd hnew hold
  | admitPortSession i =>
    have hops := operations_of_budget (step_budget (d := d) c (t := .admitPortSession i) rfl)
    rw [DB.step, Transaction.tx, commit_discard] at hops ⊢
    rcases new_or_same (ensures_admitPortSession c i) with ⟨hnew, s, p, h⟩ | ⟨hold, hsame⟩
    · rw [within_admits hw h.toAdmits hops, h.owner]
      exact ⟨fun hroom _ => hroom, fun hroom => hroom hnew⟩
    · rw [hsame]
      exact iff_of_true hw fun hnew => absurd hnew hold
  | _ => exact iff_of_true (step_within_of_mints_none c hd hw hl hf rfl) trivial

theorem step_hasLimits (c : Config) (hl : d.HasLimits l) (hh : Held l t) :
    (d.step c t).HasLimits l := by
  cases ht : t.ownTables with
  | true => exact HasLimits.of_budget (step_budget c ht) hl
  | false =>
    have hcommit : (t.tx c).Ensures d (fun _ d' => DB.HasLimits d' l) → (d.step c t).HasLimits l :=
      fun h => commit_of_ensures (P := (DB.HasLimits · l)) h hl
    have hsame : ∀ d' : DB, d'.auth = d.auth → d'.HasLimits l := by
      intro d' ha
      refine ⟨fun x n hx => hl.sandbox x n ?_, fun x y n hx => hl.subject x y n ?_,
        fun x n hx => hl.tenant x n ?_⟩
      · simpa only [DB.sandboxLimit, ha] using hx
      · simpa only [DB.subjectLimit, ha] using hx
      · simpa only [DB.tenantLimit, ha] using hx
    cases t with
    | prepareImage i =>
      refine hcommit ((ensures_discard _).2 ((ensures_prepareImage i).mono fun _ d' h => ?_))
      rcases h with rfl | ⟨rfl, -⟩
      · exact hl
      · exact hsame _ rfl
    | reconcileImagePreparation id decided =>
      refine hcommit ?_
      simp only [Transaction.tx, reconcileImagePreparation, ensures_bind, ensures_get,
        ensures_expect, ensures_ite, ensures_modify, ensures_pure]
      exact fun _ _ => ⟨fun _ => hsame _ rfl, fun _ => hl⟩
    | cancelOperations tenantRef subjectRef cleanupID =>
      refine hcommit ?_
      simp only [Transaction.tx, cancelOperations, ensures_bind]
      exact ensures_quotaLedgers fun _ => hsame _ rfl
    | authority a => exact ⟨hh.sandbox, hh.subject, hh.tenant⟩
    | _ => cases ht

/-! ## Histories -/

/-- **With constant limits, no usage ever exceeds its limit in exactly the
    histories whose every admission finds room.** -/
theorem within_along_iff (c : Config) {l : Limits} {d₀ : DB} (h₀ : d₀.Blank) (hw : d₀.Within l)
    (hl : d₀.HasLimits l) (ts : List Transaction)
    (hf : Along (DB.step c) (fun d t => Fresh d t ∧ Held l t) d₀ ts) :
    Along (DB.step c) (fun d t => (d.step c t).Within l) d₀ ts ↔
      Along (DB.step c) (Roomy c l) d₀ ts := by
  refine along_iff (I := fun d => d.Wf ∧ d.Within l ∧ d.HasLimits l) ?_ ?_ ⟨h₀.wf, hw, hl⟩ hf
  · rintro d t ⟨hd, hw, hl⟩ ⟨hf, -⟩
    exact step_within_iff c hd hw hl hf
  · rintro d t ⟨hd, -, hl⟩ ⟨hf, hh⟩ hw'
    exact ⟨step_wf c hd hf, hw', step_hasLimits c hl hh⟩

/-! ## Room for one operation -/

theorem DB.Wf.unused (hd : d.Wf) (hs : d.sessions.get id = none) (hp : d.ports.get id = none)
    (hc : d.commands.get (.cancel id) = none) (hpc : d.commands.get (.portCancel id) = none) :
    d.Unused id := by
  refine ⟨hs, hp, fun k p hk hid => ?_, hc, hpc⟩
  rw [hd.portKey hk] at hid
  rw [hid, hp] at hk
  cases hk

open Demo

namespace Demo

/-- One operation for each Sandbox, Subject and Tenant. -/
def one : Limits := ⟨fun _ => 1, fun _ _ => .atMost 1, fun _ => .atMost 1⟩

theorem start_within : start.Within one := ⟨fun _ => Int.one_nonneg, fun _ _ => rfl, fun _ => rfl⟩

theorem rows_one {κ ρ : Type} [DecidableEq κ] {k k' : κ} {r r' : ρ}
    (h : (rows [(k, r)]).get k' = some r') : r' = r := by
  have hmem : (k', r') ∈ [(k, r)] := Table.get_eq_some.1 h
  rw [List.mem_singleton, Prod.mk.injEq] at hmem
  exact hmem.2

theorem start_hasLimits : start.HasLimits one := by
  refine ⟨fun x n h => ?_, fun x y n h => ?_, fun x n h => ?_⟩
  · obtain ⟨s, -, hlimit⟩ := Option.bind_eq_some_iff.1 h
    obtain ⟨r, hr, rfl⟩ := Option.map_eq_some_iff.1 hlimit
    rw [rows_one hr]
    rfl
  · obtain ⟨q, hq, rfl⟩ := Option.map_eq_some_iff.1 h
    rw [rows_one hq]
    rfl
  · obtain ⟨q, hq, rfl⟩ := Option.map_eq_some_iff.1 h
    rw [rows_one hq]
    rfl

end Demo

/-- Two PortSessions under limits of one. -/
def twoPorts : List Transaction :=
  [.admitPortSession (openPort "port1"), .admitPortSession (openPort "port2")]

theorem twoPorts_over : Along (DB.step config) (fun d t => Fresh d t ∧ Held one t) start twoPorts ∧
    ¬Along (DB.step config) (fun d t => (d.step config t).Within one) start twoPorts := by
  have hd : (start.step config (.admitPortSession (openPort "port1"))).Wf :=
    step_wf config start_blank.wf (start_blank.fresh _)
  refine ⟨⟨⟨start_blank.fresh _, trivial⟩, ⟨?_, trivial⟩, trivial⟩, ?_⟩
  · intro id hid
    cases hid
    exact hd.unused (by decide +kernel) (by decide +kernel) (by decide +kernel) (by decide +kernel)
  · rintro ⟨-, hw, -⟩
    exact absurd (hw.sandbox "box") (by decide +kernel)

/-- One Exec where there is room for one. -/
theorem runExec_within : (start.step config (.admitDataPlane (runExec "exec1"))).Within one :=
  ((within_along_iff config start_blank start_within start_hasLimits [.admitDataPlane (runExec "exec1")]
    ⟨⟨start_blank.fresh _, trivial⟩, trivial⟩).2 ⟨fun _ => ⟨rfl, rfl⟩, trivial⟩).1

end SecondBox.DataPlane
