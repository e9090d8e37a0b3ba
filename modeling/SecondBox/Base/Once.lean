/-
  A registry of operations that run at most once.

  An operation is entered under a key, is started at most once and ends with an
  answer.  Ended operations stay in the registry for a while, so that a request
  that comes again finds the answer and not an empty place: the keys of ended
  operations stand in a queue of at most `limit` keys, and an ended operation
  leaves the registry only when `limit` others have ended after it.

  `Move` says what may happen to a registry, one event at a time, and
  `Moves.inv` what holds in every history of moves.  A program that keeps such
  a registry has to show that each of its steps is a sequence of moves.  Some
  keys may be served without the registry as well; nothing is claimed of these.
-/
import SecondBox.Base.Table

namespace Once

open Relational

/-- The operations by key, and the keys of the ended ones, oldest first. -/
structure Registry (κ σ : Type) where
  entries : Table κ σ
  order : List κ

variable {κ σ τ : Type} {ks : List κ} {k : κ}

namespace Registry

/-- No entries. -/
def empty : Registry κ σ := ⟨.empty, []⟩

variable [DecidableEq κ]

/-- The entry at a key. -/
def get (r : Registry κ σ) (k : κ) : Option σ := r.entries.get k

/-- Set the entry at a key. -/
def put (r : Registry κ σ) (k : κ) (e : σ) : Registry κ σ := { r with entries := r.entries.put k e }

/-- Drop the oldest keys until `limit` are left, each with its entry if that has
    ended; the entries that went are returned. -/
def trim (limit : ℕ) (ended : σ → Bool) : List κ → Table κ σ → Registry κ σ × List σ
  | [], t => (⟨t, []⟩, [])
  | k :: ks, t =>
    if limit < (k :: ks).length then
      match t.get k with
      | some e =>
        if ended e then
          let rest := trim limit ended ks (t.deleteWhere fun k' _ => k' == k)
          (rest.1, e :: rest.2)
        else trim limit ended ks t
      | none => trim limit ended ks t
    else (⟨t, k :: ks⟩, [])

/-- An operation has ended: its key joins the queue. -/
def retain (limit : ℕ) (ended : σ → Bool) (r : Registry κ σ) (k : κ) : Registry κ σ × List σ :=
  if (r.get k).isNone then (r, []) else trim limit ended (r.order ++ [k]) r.entries

@[simp] theorem get_empty (k : κ) : (empty : Registry κ σ).get k = none := rfl

variable (r : Registry κ σ)

theorem get_put (k k' : κ) (e : σ) :
    (r.put k e).get k' = if k' = k then some e else r.get k' := r.entries.get_put k k' e

@[simp] theorem get_put_self (k : κ) (e : σ) : (r.put k e).get k = some e :=
  r.entries.get_put_self k e

theorem put_put (k : κ) (e e' : σ) : (r.put k e).put k e' = r.put k e' := by
  simp only [put, Table.put_put]

theorem get_put_of_ne {k' : κ} (e : σ) (h : k' ≠ k) : (r.put k e).get k' = r.get k' :=
  r.entries.get_put_of_ne e h

@[simp] theorem order_put (k : κ) (e : σ) : (r.put k e).order = r.order := rfl

/-- The queue holds the ended operations, each once. -/
structure Wf (limit : ℕ) (ended : σ → Bool) (r : Registry κ σ) : Prop where
  nodup : r.order.Nodup
  window : r.order.length ≤ limit
  mem_order : ∀ k, k ∈ r.order ↔ ∃ e, r.get k = some e ∧ ended e = true

section Wf
variable {limit : ℕ} {ended : σ → Bool} {r : Registry κ σ}

theorem Wf.empty : (empty : Registry κ σ).Wf limit ended where
  nodup := List.nodup_nil
  window := Nat.zero_le _
  mem_order k := by simp [Registry.empty, get]

variable {e : σ}

theorem Wf.put (h : r.Wf limit ended)
    (he : ended e = true ↔ ∃ e', r.get k = some e' ∧ ended e' = true) :
    (r.put k e).Wf limit ended where
  nodup := h.nodup
  window := h.window
  mem_order k' := by
    rw [order_put, h.mem_order]
    by_cases hk : k' = k
    · subst hk
      simp [he]
    · rw [get_put_of_ne r e hk]

theorem Wf.touch (h : r.Wf limit ended) {r' : Registry κ σ} {f : κ → σ → σ}
    (horder : r'.order = r.order) (hget : ∀ k, r'.get k = (r.get k).map (f k))
    (hend : ∀ k e, r.get k = some e → ended (f k e) = ended e) :
    r'.Wf limit ended where
  nodup := horder ▸ h.nodup
  window := horder ▸ h.window
  mem_order k := by
    rw [horder, h.mem_order, hget]
    cases hk : r.get k with
    | none => simp
    | some e => simp [hend k e hk]

theorem trim_of_le {t : Table κ σ} (h : ks.length ≤ limit) :
    trim limit ended ks t = (⟨t, ks⟩, []) := by
  cases ks with
  | nil => rfl
  | cons k ks => rw [trim, if_neg (Nat.not_lt.2 h)]

/-- What `retain` does: there is room for one more key, or the oldest key makes room. -/
theorem retain_cases (hlimit : 0 < limit) (h : r.Wf limit ended)
    (hk : ∀ e', r.get k = some e' → ended e' = false) :
    (r.order.length < limit ∧ (r.put k e).retain limit ended k = (⟨(r.put k e).entries, r.order ++ [k]⟩, [])) ∨
    ∃ k₀ ks e₀, r.order = k₀ :: ks ∧ r.order.length = limit ∧ k₀ ≠ k ∧ r.get k₀ = some e₀ ∧
      ended e₀ = true ∧
      (r.put k e).retain limit ended k =
        (⟨(r.put k e).entries.deleteWhere fun k' _ => k' == k₀, ks ++ [k]⟩, [e₀]) := by
  have hretain : (r.put k e).retain limit ended k = trim limit ended (r.order ++ [k])
      (r.put k e).entries := by
    rw [retain, get_put_self]
    rfl
  rcases Nat.lt_or_ge r.order.length limit with hlt | hge
  · refine .inl ⟨hlt, ?_⟩
    rw [hretain, trim_of_le (by rw [List.length_append]; exact hlt)]
  · have hlen : r.order.length = limit := Nat.le_antisymm h.window hge
    cases horder : r.order with
    | nil =>
      rw [horder] at hlen
      exact absurd hlen (Nat.ne_of_lt hlimit)
    | cons k₀ ks =>
      obtain ⟨e₀, he₀, hend⟩ := (h.mem_order k₀).1 (by rw [horder]; exact List.mem_cons_self)
      have hne : k₀ ≠ k := by
        rintro rfl
        rw [hk e₀ he₀] at hend
        cases hend
      have hget : (r.put k e).entries.get k₀ = some e₀ := by
        rw [← he₀]
        exact get_put_of_ne r e hne
      refine .inr ⟨k₀, ks, e₀, rfl, horder ▸ hlen, hne, he₀, hend, ?_⟩
      have hks : (ks ++ [k]).length ≤ limit := by
        rw [← hlen, horder]
        simp
      have hlong : limit < (k₀ :: (ks ++ [k])).length := by
        rw [← hlen, horder]
        simp
      rw [hretain, horder, List.cons_append, trim, if_pos hlong, hget]
      dsimp only
      rw [if_pos hend, trim_of_le hks]

theorem get_of_get_trim {t : Table κ σ} (h : (trim limit ended ks t).1.get k = some e) :
    t.get k = some e := by
  induction ks generalizing t with
  | nil => exact h
  | cons k₀ ks ih =>
    rw [trim] at h
    split at h
    · split at h
      · split at h
        · have h' := ih h
          rw [Table.get_deleteWhere, Option.filter_eq_some_iff] at h'
          exact h'.1
        · exact ih h
      · exact ih h
    · exact h

theorem get_of_get_retain {k' : κ} (h : (r.retain limit ended k).1.get k' = some e) :
    r.get k' = some e := by
  rw [retain] at h
  split at h
  · exact h
  · exact get_of_get_trim h

theorem get_retain_self (hlimit : 0 < limit) (h : r.Wf limit ended)
    (hk : ∀ e', r.get k = some e' → ended e' = false) :
    ((r.put k e).retain limit ended k).1.get k = some e := by
  rcases retain_cases (e := e) hlimit h hk with ⟨-, heq⟩ | ⟨k₀, ks, e₀, -, -, hne, -, -, heq⟩
  · rw [heq]
    exact get_put_self r k e
  · have hget : (r.put k e).entries.get k = some e := get_put_self r k e
    rw [heq]
    simp [get, hget, hne.symm]

theorem Wf.retain (hlimit : 0 < limit) (h : r.Wf limit ended)
    (hk : ∀ e', r.get k = some e' → ended e' = false) (he : ended e = true) :
    ((r.put k e).retain limit ended k).1.Wf limit ended := by
  have hnot : k ∉ r.order := by
    intro hmem
    obtain ⟨e', he', hend⟩ := (h.mem_order k).1 hmem
    rw [hk e' he'] at hend
    cases hend
  rcases retain_cases (e := e) hlimit h hk with ⟨hlt, heq⟩ | ⟨k₀, ks, e₀, horder, hlen,
    hne, -, -, heq⟩
  · rw [heq]
    refine ⟨?_, by rw [List.length_append]; exact hlt, fun k' => ?_⟩
    · exact List.nodup_append.2 ⟨h.nodup, List.nodup_singleton k, by
        rintro a ha b hb rfl
        rw [List.mem_singleton.1 hb] at ha
        exact hnot ha⟩
    · have hiff : k' ∈ r.order ++ [k] ↔ k' ∈ r.order ∨ k' = k := by simp
      rw [hiff, h.mem_order]
      change _ ↔ ∃ e', (r.put k e).get k' = some e' ∧ _
      by_cases hk' : k' = k
      · subst hk'
        simp [he]
      · simp [hk', get_put_of_ne r e hk']
  · have hnodup : (k₀ :: ks).Nodup := horder ▸ h.nodup
    have hnot' : k ∉ ks := fun hmem => hnot (by rw [horder]; exact List.mem_cons_of_mem _ hmem)
    rw [heq]
    refine ⟨?_, by simp [← hlen, horder], fun k' => ?_⟩
    · exact List.nodup_append.2 ⟨(List.nodup_cons.1 hnodup).2, List.nodup_singleton k, by
        rintro a ha b hb rfl
        rw [List.mem_singleton.1 hb] at ha
        exact hnot' ha⟩
    · have hiff : k' ∈ ks ++ [k] ↔ k' ∈ ks ∨ k' = k := by simp
      rw [hiff]
      by_cases hk' : k' = k
      · subst hk'
        have hget : (r.put k' e).entries.get k' = some e := get_put_self r k' e
        simp [get, hget, hne.symm, he]
      · have hget : (r.put k e).entries.get k' = r.get k' := get_put_of_ne r e hk'
        have hold := h.mem_order k'
        rw [horder, List.mem_cons] at hold
        by_cases h₀ : k' = k₀
        · subst h₀
          simp [get, (List.nodup_cons.1 hnodup).1, hk']
        · simp only [h₀, false_or] at hold
          simp [get, hget, h₀, hk', hold]

end Wf

end Registry

/-! ## Events -/

/-- What is seen of the operation under a key. -/
inductive Event (κ τ : Type) where
  | entered (k : κ)
  | started (k : κ)
  /-- the operation has ended and its key joins the queue -/
  | retained (k : κ)
  | answered (k : κ) (t : τ)
  /-- it was confirmed that the operation is not there and will not start -/
  | absent (k : κ)

namespace Event

/-- The key of an event. -/
def key : Event κ τ → κ
  | entered k | started k | retained k | answered k _ | absent k => k

/-- Some key was entered. -/
def isEntered : Event κ τ → Bool
  | entered _ => true
  | _ => false

/-- Some key was retained. -/
def isRetained : Event κ τ → Bool
  | retained _ => true
  | _ => false

variable [DecidableEq κ]

/-- `k` was retained. -/
def retains (k : κ) : Event κ τ → Bool
  | retained k' => k' == k
  | _ => false

/-- `k` was started. -/
def starts (k : κ) : Event κ τ → Bool
  | started k' => k' == k
  | _ => false

@[simp] theorem retains_eq_true {ev : Event κ τ} : ev.retains k = true ↔ ev = retained k := by
  cases ev <;> simp [retains]

@[simp] theorem starts_eq_true {ev : Event κ τ} : ev.starts k = true ↔ ev = started k := by
  cases ev <;> simp [starts]

end Event

/-- Nothing starts once it was confirmed that the operation under `k` is not there. -/
def Barrier (k : κ) (es : List (Event κ τ)) : Prop :=
  ∀ before after, es = before ++ .absent k :: after → .started k ∉ after

variable {ev : Event κ τ} {es : List (Event κ τ)}

theorem Barrier.append (h : Barrier k es) (hev : ev ≠ .started k) : Barrier k (es ++ [ev]) := by
  intro before after heq
  rcases List.eq_nil_or_concat after with rfl | ⟨after', last, rfl⟩
  · exact List.not_mem_nil
  · rw [List.concat_eq_append, ← List.cons_append, ← List.append_assoc] at heq
    obtain ⟨heq', hlast⟩ := List.append_inj' heq rfl
    rw [List.singleton_inj] at hlast
    rw [List.concat_eq_append, List.mem_append, List.mem_singleton, ← hlast]
    rintro (hst | hst)
    · exact h before after' heq' hst
    · exact hev hst.symm

section Later
variable [DecidableEq κ]

/-- What happened after the operation under `k` first ended. -/
def since (k : κ) : List (Event κ τ) → List (Event κ τ)
  | [] => []
  | ev :: es => if ev.retains k then es else since k es

/-- How many operations ended after the one under `k`. -/
def later (k : κ) (es : List (Event κ τ)) : ℕ := (since k es).countP Event.isRetained

theorem since_append_of_mem (h : .retained k ∈ es) (es' : List (Event κ τ)) :
    since k (es ++ es') = since k es ++ es' := by
  induction es with
  | nil => cases h
  | cons ev es ih =>
    rw [List.cons_append, since, since]
    split
    · rfl
    · next hev =>
      refine ih ((List.mem_cons.1 h).resolve_left ?_)
      rintro rfl
      exact hev (Event.retains_eq_true.2 rfl)

theorem since_append_of_not_mem (h : .retained k ∉ es) (es' : List (Event κ τ)) :
    since k (es ++ es') = since k es' := by
  induction es with
  | nil => rfl
  | cons ev es ih =>
    have hev : ¬ ev.retains k = true := by
      rw [Event.retains_eq_true]
      rintro rfl
      exact h List.mem_cons_self
    rw [List.cons_append, since, if_neg hev]
    exact ih fun hmem => h (List.mem_cons_of_mem _ hmem)

theorem later_append_of_mem (h : .retained k ∈ es) (es' : List (Event κ τ)) :
    later k (es ++ es') = later k es + es'.countP Event.isRetained := by
  rw [later, since_append_of_mem h, List.countP_append]
  rfl

theorem since_of_not_mem (h : .retained k ∉ es) : since k es = [] := by
  have h' := since_append_of_not_mem h []
  rwa [List.append_nil] at h'

theorem later_le_append (k : κ) (es es' : List (Event κ τ)) : later k es ≤ later k (es ++ es') := by
  by_cases h : .retained k ∈ es
  · rw [later_append_of_mem h]
    exact Nat.le_add_right _ _
  · rw [later, since_of_not_mem h]
    exact Nat.zero_le _

/-- How many keys of the queue stand behind `k`. -/
def behind (k : κ) : List κ → ℕ
  | [] => 0
  | k' :: ks => if k' = k then ks.length else behind k ks

theorem behind_append (h : k ∈ ks) (k' : κ) : behind k (ks ++ [k']) = behind k ks + 1 := by
  induction ks with
  | nil => cases h
  | cons k₀ ks ih =>
    rw [List.cons_append, behind, behind]
    split
    · rw [List.length_append]
      rfl
    · next hne => exact ih ((List.mem_cons.1 h).resolve_left fun heq => hne heq.symm)

theorem behind_of_not_mem (h : k ∉ ks) : behind k (ks ++ [k]) = 0 := by
  induction ks with
  | nil => simp [behind]
  | cons k₀ ks ih =>
    rw [List.cons_append, behind, if_neg fun heq => h (by rw [heq]; exact List.mem_cons_self)]
    exact ih fun hmem => h (List.mem_cons_of_mem _ hmem)

end Later

/-! ## Moves -/

section Moves
variable [DecidableEq κ] (limit : ℕ) (answer : σ → Option τ) (spent : σ → Bool) (foreign : κ → Prop)

/-- An operation has ended when it has an answer. -/
def ended (e : σ) : Bool := (answer e).isSome

/-- What may happen to a registry, with what is seen of it. -/
inductive Move : Registry κ σ → Option (Event κ τ) → Registry κ σ → Prop where
  | enter {r : Registry κ σ} {k : κ} {e : σ} (hk : r.get k = none) (ha : answer e = none) :
      Move r (some (.entered k)) (r.put k e)
  | touch {r r' : Registry κ σ} {f : κ → σ → σ} (horder : r'.order = r.order)
      (hget : ∀ k, r'.get k = (r.get k).map (f k))
      (ha : ∀ k e, r.get k = some e → answer (f k e) = answer e)
      (hs : ∀ k e, r.get k = some e → spent e = true → spent (f k e) = true) : Move r none r'
  | start {r : Registry κ σ} {k : κ} {e e' : σ} (hk : r.get k = some e) (hs : spent e = false)
      (ha : answer e' = answer e) (hs' : spent e' = true) : Move r (some (.started k)) (r.put k e')
  | finish {r : Registry κ σ} {k : κ} {e e' : σ} (hk : r.get k = some e) (ha : answer e = none)
      (ha' : ended answer e' = true) (hs : spent e' = true) :
      Move r (some (.retained k)) ((r.put k e').retain limit (ended answer) k).1
  | reply {r : Registry κ σ} {k : κ} {e : σ} {t : τ} (hk : r.get k = some e)
      (ha : answer e = some t) :
      Move r (some (.answered k t)) r
  | confirm {r : Registry κ σ} {k : κ} {e : σ} (hk : r.get k = some e)
      (ha : ended answer e = true) :
      Move r (some (.absent k)) r
  | elsewhere {r : Registry κ σ} {ev : Event κ τ} (hkey : foreign ev.key)
      (hret : ev.isRetained = false) :
      Move r (some ev) r

/-- A history of moves. -/
inductive Moves : Registry κ σ → List (Event κ τ) → Registry κ σ → Prop where
  | refl (r : Registry κ σ) : Moves r [] r
  | step {r r' r'' : Registry κ σ} {es : List (Event κ τ)} {ev : Option (Event κ τ)}
      (h : Moves r es r')
      (hmove : Move limit answer spent foreign r' ev r'') : Moves r (es ++ ev.toList) r''

variable {limit answer spent foreign}

theorem Move.moves {r r' : Registry κ σ} {ev : Option (Event κ τ)}
    (h : Move limit answer spent foreign r ev r') :
    Moves limit answer spent foreign r ev.toList r' := Moves.step (.refl r) h

variable {es' : List (Event κ τ)}

theorem Moves.trans {r r' r'' : Registry κ σ} (h : Moves limit answer spent foreign r es r')
    (h' : Moves limit answer spent foreign r' es' r'') :
    Moves limit answer spent foreign r (es ++ es') r'' := by
  induction h' with
  | refl => simpa using h
  | step _ hmove ih =>
    rw [← List.append_assoc]
    exact .step ih hmove

theorem Move.get_none {r r' : Registry κ σ} {ev : Option (Event κ τ)}
    (h : Move limit answer spent foreign r ev r') (hev : ev ≠ some (.entered k))
    (hk : r.get k = none) : r'.get k = none := by
  cases h with
  | enter hk' ha =>
    rename_i k' e
    have hne : k ≠ k' := by
      rintro rfl
      exact hev rfl
    rw [Registry.get_put_of_ne _ _ hne, hk]
  | touch horder hget ha hs => rw [hget, hk, Option.map_none]
  | start hk' hs ha hs' =>
    rename_i k' e e'
    have hne : k ≠ k' := by
      rintro rfl
      rw [hk] at hk'
      cases hk'
    rw [Registry.get_put_of_ne _ _ hne, hk]
  | finish hk' ha ha' hs =>
    rename_i k' e e'
    have hne : k ≠ k' := by
      rintro rfl
      rw [hk] at hk'
      cases hk'
    cases hget : ((r.put k' e').retain limit (ended answer) k').1.get k with
    | none => rfl
    | some e =>
      have hold := Registry.get_of_get_retain hget
      rw [Registry.get_put_of_ne _ _ hne, hk] at hold
      cases hold
  | reply | confirm | elsewhere => exact hk

theorem Move.size_le {r r' : Registry κ σ} {ev : Option (Event κ τ)}
    (h : Move limit answer spent foreign r ev r') :
    r'.entries.size ≤ r.entries.size + ev.toList.countP Event.isEntered := by
  by_cases hev : ∃ k, ev = some (.entered k)
  · obtain ⟨k, rfl⟩ := hev
    cases h with
    | enter hk ha => exact (Table.size_put_of_none _ _ hk).le
    | elsewhere => exact Nat.le_add_right _ _
  · have hkeys : ∀ k, r.entries.get k = none → r'.entries.get k = none :=
      fun k => h.get_none fun heq => hev ⟨k, heq⟩
    exact Nat.le_add_right_of_le (Table.size_le_of_get hkeys)

theorem Moves.size_le {r r' : Registry κ σ} (h : Moves limit answer spent foreign r es r') :
    r'.entries.size ≤ r.entries.size + es.countP Event.isEntered := by
  induction h with
  | refl => exact Nat.le_add_right _ _
  | step _ hmove ih =>
    have hstep := hmove.size_le
    rw [List.countP_append]
    omega

/-! ## What holds in every history -/

variable (limit answer spent foreign)

/-- What is known of an operation that has not been pushed out of the registry. -/
structure Recent (k : κ) (es : List (Event κ τ)) (r : Registry κ σ) : Prop where
  present : .entered k ∈ es → ∃ e, r.get k = some e
  queued : .retained k ∈ es → k ∈ r.order ∧ behind k r.order = later k es
  unspent : ∀ e, r.get k = some e → spent e = false → .started k ∉ es
  once : es.countP (Event.starts k) ≤ 1
  answered : ∀ e t, r.get k = some e → .answered k t ∈ es → answer e = some t
  absent : ∀ e, r.get k = some e → .absent k ∈ es → ended answer e = true
  barrier : Barrier k es

/-- What holds of a registry and the events so far. -/
structure Inv (es : List (Event κ τ)) (r : Registry κ σ) : Prop where
  wf : r.Wf limit (ended answer)
  settled : ∀ k e, r.get k = some e → ended answer e = true → spent e = true
  entered : ∀ k e, r.get k = some e → .entered k ∈ es
  known : ∀ ev ∈ es, ¬foreign ev.key → .entered ev.key ∈ es
  retained : ∀ k ∈ r.order, .retained k ∈ es
  recent : ∀ k, ¬foreign k → later k es < limit → Recent answer spent k es r

variable {limit answer spent foreign}

theorem Inv.empty : Inv limit answer spent foreign [] (Registry.empty : Registry κ σ) where
  wf := .empty
  settled k e h := by simp at h
  entered k e h := by simp at h
  known ev h := by cases h
  retained k h := by cases h
  recent k _ _ := by
    refine ⟨?_, ?_, ?_, Nat.zero_le _, ?_, ?_, ?_⟩
    · intro h
      cases h
    · intro h
      cases h
    · intro e h
      simp at h
    · intro e t h
      simp at h
    · intro e h
      simp at h
    · intro before after h
      cases before <;> cases h

section Step
variable {k : κ} {es : List (Event κ τ)} {r r' : Registry κ σ}

/-- An event of another operation, if the queue does not change. -/
theorem Recent.other (h : Recent answer spent k es r) (hkey : ev.key ≠ k)
    (hget : r'.get k = r.get k)
    (hqueue : .retained k ∈ es → k ∈ r'.order ∧ behind k r'.order = later k (es ++ [ev])) :
    Recent answer spent k (es ++ [ev]) r' := by
  have hmem : ∀ ev' : Event κ τ, ev'.key = k → (ev' ∈ es ++ [ev] ↔ ev' ∈ es) := by
    intro ev' hev'
    rw [List.mem_append, List.mem_singleton, or_iff_left]
    rintro rfl
    exact hkey hev'
  refine ⟨?_, ?_, ?_, ?_, ?_, ?_, ?_⟩
  · rw [hmem _ rfl, hget]
    exact h.present
  · rw [hmem _ rfl]
    exact hqueue
  · rw [hget, hmem _ rfl]
    exact h.unspent
  · have hstart : ev.starts k = false := by
      rw [Bool.eq_false_iff, ne_eq, Event.starts_eq_true]
      rintro rfl
      exact hkey rfl
    simpa [List.countP_append, hstart] using h.once
  · intro e t
    rw [hget, hmem _ rfl]
    exact h.answered e t
  · intro e
    rw [hget, hmem _ rfl]
    exact h.absent e
  · refine h.barrier.append ?_
    rintro rfl
    exact hkey rfl

/-- Nothing has been seen of an operation that is not in the registry and was not pushed out of it. -/
theorem Inv.unseen (h : Inv limit answer spent foreign es r) (hf : ¬foreign k)
    (hl : later k es < limit) (hk : r.get k = none) : ∀ ev ∈ es, ev.key ≠ k := by
  rintro ev hev rfl
  obtain ⟨e, he⟩ := (h.recent ev.key hf hl).present (h.known ev hev hf)
  rw [hk] at he
  cases he

theorem known_append (h : Inv limit answer spent foreign es r)
    (hev : ¬foreign ev.key → .entered ev.key ∈ es ++ [ev]) :
    ∀ ev' ∈ es ++ [ev], ¬foreign ev'.key → Event.entered ev'.key ∈ es ++ [ev] := by
  intro ev' hmem hf
  rw [List.mem_append, List.mem_singleton] at hmem
  rcases hmem with hmem | rfl
  · exact List.mem_append_left _ (h.known ev' hmem hf)
  · exact hev hf

theorem later_append_of_not_retained (hev : ev.isRetained = false) (k : κ) :
    later k (es ++ [ev]) = later k es := by
  by_cases h : .retained k ∈ es
  · rw [later_append_of_mem h]
    simp [hev]
  · have hne : ev.retains k = false := by
      rw [Bool.eq_false_iff, ne_eq, Event.retains_eq_true]
      rintro rfl
      cases hev
    rw [later, later, since_append_of_not_mem h, since, hne, since_of_not_mem h]
    rfl

variable {e : σ}

theorem Inv.enter (h : Inv limit answer spent foreign es r) (hk : r.get k = none)
    (ha : answer e = none) :
    Inv limit answer spent foreign (es ++ [.entered k]) (r.put k e) := by
  have hend : ended answer e = false := by simp [ended, ha]
  refine ⟨h.wf.put (by simp [hend, hk]), ?_, ?_,
    known_append h (fun _ => by simp [Event.key]), ?_, ?_⟩
  · intro k' e' he' hend'
    by_cases hk' : k' = k
    · subst hk'
      rw [r.get_put_self] at he'
      cases he'
      rw [hend] at hend'
      cases hend'
    · rw [r.get_put_of_ne e hk'] at he'
      exact h.settled k' e' he' hend'
  · intro k' e' he'
    by_cases hk' : k' = k
    · subst hk'
      simp
    · rw [r.get_put_of_ne e hk'] at he'
      exact List.mem_append_left _ (h.entered k' e' he')
  · exact fun k' hk' => List.mem_append_left _ (h.retained k' hk')
  · intro k' hf hl
    have heq : later k' (es ++ [.entered k]) = later k' es := later_append_of_not_retained rfl k'
    rw [heq] at hl
    have hr := h.recent k' hf hl
    by_cases hk' : k' = k
    · subst hk'
      have hno := h.unseen hf hl hk
      have hmem : ∀ ev : Event κ τ, ev.key = k' → ev ∈ es ++ [.entered k'] → ev = .entered k' := by
        intro ev hev hmem
        rcases List.mem_append.1 hmem with hmem | hmem
        · exact absurd hev (hno ev hmem)
        · exact List.mem_singleton.1 hmem
      refine ⟨fun _ => ⟨e, r.get_put_self k' e⟩, ?_, ?_, ?_, ?_, ?_, ?_⟩
      · intro hret
        cases hmem _ rfl hret
      · intro e' _ _ hst
        cases hmem _ rfl hst
      · rw [List.countP_append]
        exact hr.once
      · intro e' t _ hans
        cases hmem _ rfl hans
      · intro e' _ habs
        cases hmem _ rfl habs
      · intro before after hes hst
        cases hmem _ rfl (by rw [hes]; exact List.mem_append_right _ (List.mem_cons_of_mem _ hst))
    · refine hr.other (fun hkey => hk' hkey.symm) (r.get_put_of_ne e hk') fun hret => ?_
      rw [heq]
      exact hr.queued hret

theorem Inv.touch (h : Inv limit answer spent foreign es r) {f : κ → σ → σ}
    (horder : r'.order = r.order) (hget : ∀ k, r'.get k = (r.get k).map (f k))
    (ha : ∀ k e, r.get k = some e → answer (f k e) = answer e)
    (hs : ∀ k e, r.get k = some e → spent e = true → spent (f k e) = true) :
    Inv limit answer spent foreign es r' := by
  have hold : ∀ {k e'}, r'.get k = some e' → ∃ e, r.get k = some e ∧ f k e = e' := by
    intro k e' he'
    rwa [hget, Option.map_eq_some_iff] at he'
  have hend : ∀ k e, r.get k = some e → ended answer (f k e) = ended answer e := by
    intro k e he
    rw [ended, ended, ha k e he]
  refine ⟨h.wf.touch horder hget hend, ?_, ?_, h.known, horder ▸ h.retained, ?_⟩
  · intro k e' he' hend'
    obtain ⟨e, he, rfl⟩ := hold he'
    exact hs k e he (h.settled k e he (hend k e he ▸ hend'))
  · intro k e' he'
    obtain ⟨e, he, -⟩ := hold he'
    exact h.entered k e he
  · intro k hf hl
    have hr := h.recent k hf hl
    refine ⟨?_, horder ▸ hr.queued, ?_, hr.once, ?_, ?_, hr.barrier⟩
    · intro hmem
      obtain ⟨e, he⟩ := hr.present hmem
      exact ⟨f k e, by rw [hget, he]; rfl⟩
    · intro e' he' hs'
      obtain ⟨e, he, rfl⟩ := hold he'
      refine hr.unspent e he (Bool.eq_false_iff.2 fun hse => ?_)
      rw [hs k e he hse] at hs'
      cases hs'
    · intro e' t he' hans
      obtain ⟨e, he, rfl⟩ := hold he'
      rw [ha k e he]
      exact hr.answered e t he hans
    · intro e' he' habs
      obtain ⟨e, he, rfl⟩ := hold he'
      rw [hend k e he]
      exact hr.absent e he habs

variable {e' : σ}

theorem get_put_eq_map (hk : r.get k = some e) (k' : κ) :
    (r.put k e').get k' = (r.get k').map fun e₀ => if k' = k then e' else e₀ := by
  rw [r.get_put]
  split
  · next h => rw [h, hk]; rfl
  · cases r.get k' <;> rfl

/-- What the new entry has in common with the old one, all entries have in common with the old ones. -/
theorem forall_put {P : σ → σ → Prop} (hrefl : ∀ e₀, P e₀ e₀) (hk : r.get k = some e) (h : P e e') :
    ∀ k' e₀, r.get k' = some e₀ → P e₀ (if k' = k then e' else e₀) := by
  intro k' e₀ he₀
  split
  · next hkk =>
    rw [hkk, hk] at he₀
    cases he₀
    exact h
  · exact hrefl e₀

theorem Inv.put (h : Inv limit answer spent foreign es r) (hk : r.get k = some e)
    (ha : answer e' = answer e) (hs : spent e = true → spent e' = true) :
    Inv limit answer spent foreign es (r.put k e') :=
  h.touch (r.order_put k e') (get_put_eq_map hk)
    (forall_put (P := fun e e' => answer e' = answer e) (fun _ => rfl) hk ha)
    (forall_put (P := fun e e' => spent e = true → spent e' = true) (fun _ h => h) hk hs)

theorem Move.put (hk : r.get k = some e) (ha : answer e' = answer e)
    (hs : spent e = true → spent e' = true) :
    Move limit answer spent foreign r none (r.put k e') :=
  .touch (r.order_put k e') (get_put_eq_map hk)
    (forall_put (P := fun e e' => answer e' = answer e) (fun _ => rfl) hk ha)
    (forall_put (P := fun e e' => spent e = true → spent e' = true) (fun _ h => h) hk hs)

theorem Moves.put (hk : r.get k = some e) (ha : answer e' = answer e)
    (hs : spent e = true → spent e' = true) : Moves limit answer spent foreign r [] (r.put k e') :=
  .step (.refl r) (Move.put hk ha hs)

theorem Inv.note (h : Inv limit answer spent foreign es r)
    (hk : ¬foreign ev.key → ∃ e, r.get ev.key = some e) (hret : ev.isRetained = false)
    (hrecent : ¬foreign ev.key → later ev.key es < limit → Recent answer spent ev.key (es ++ [ev]) r) :
    Inv limit answer spent foreign (es ++ [ev]) r := by
  have hkeep : ∀ ev' ∈ es, ev' ∈ es ++ [ev] := fun ev' hmem => List.mem_append_left _ hmem
  refine ⟨h.wf, h.settled, ?_, known_append h fun hf => ?_, ?_, ?_⟩
  · exact fun k' e' he' => hkeep _ (h.entered k' e' he')
  · obtain ⟨e, he⟩ := hk hf
    exact hkeep _ (h.entered _ e he)
  · exact fun k' hk' => hkeep _ (h.retained k' hk')
  · intro k' hf hl
    have heq : later k' (es ++ [ev]) = later k' es := later_append_of_not_retained hret k'
    rw [heq] at hl
    by_cases hkey : ev.key = k'
    · subst hkey
      exact hrecent hf hl
    · refine (h.recent k' hf hl).other hkey rfl fun hmem => ?_
      rw [heq]
      exact (h.recent k' hf hl).queued hmem

theorem Inv.start (h : Inv limit answer spent foreign es r) (hk : r.get k = some e)
    (hs : spent e = true) (hno : ¬foreign k → later k es < limit → .started k ∉ es ∧
    .absent k ∉ es) : Inv limit answer spent foreign (es ++ [.started k]) r := by
  have hev : (Event.started k : Event κ τ).key = k := rfl
  refine h.note (fun _ => ⟨e, hk⟩) rfl fun hf hl => ?_
  have hr := h.recent k hf hl
  obtain ⟨hstart, habsent⟩ := hno hf hl
  have hmem : ∀ ev : Event κ τ, ev ≠ .started k → ev ∈ es ++ [.started k] → ev ∈ es := by
    intro ev hne hmem
    exact (List.mem_append.1 hmem).resolve_right fun hlast => hne (List.mem_singleton.1 hlast)
  rw [hev]
  refine ⟨fun _ => ⟨e, hk⟩, ?_, ?_, ?_, ?_, ?_, ?_⟩
  · intro hret
    rw [later_append_of_not_retained rfl]
    exact hr.queued (hmem _ (by simp) hret)
  · intro e' he' hs'
    rw [hk] at he'
    cases he'
    rw [hs] at hs'
    cases hs'
  · have hzero : es.countP (Event.starts k) = 0 := by
      rw [List.countP_eq_zero]
      intro ev hmem' hst
      rw [Event.starts_eq_true.1 hst] at hmem'
      exact hstart hmem'
    rw [List.countP_append, hzero]
    simp [Event.starts]
  · exact fun e' t he' hans => hr.answered e' t he' (hmem _ (by simp) hans)
  · exact fun e' he' habs => hr.absent e' he' (hmem _ (by simp) habs)
  · intro before after heq
    refine absurd (hmem (.absent k) (by simp) ?_) habsent
    rw [heq]
    exact List.mem_append_right _ List.mem_cons_self

/-- An event of the operation itself that neither starts nor ends it. -/
theorem Recent.own (h : Recent answer spent k es r) (hk : r.get k = some e)
    (hstart : ev ≠ .started k) (hret : ev.isRetained = false)
    (hans : ∀ t, ev = .answered k t → answer e = some t)
    (habs : ev = .absent k → ended answer e = true) : Recent answer spent k (es ++ [ev]) r := by
  have hmem : ∀ ev', ev' ∈ es ++ [ev] → ev' ∈ es ∨ ev' = ev := by
    intro ev' hmem
    rwa [List.mem_append, List.mem_singleton] at hmem
  refine ⟨fun _ => ⟨e, hk⟩, ?_, ?_, ?_, ?_, ?_, h.barrier.append hstart⟩
  · intro hmem'
    rw [later_append_of_not_retained hret]
    refine h.queued ((hmem _ hmem').resolve_right ?_)
    rintro rfl
    cases hret
  · exact fun e' he' hs' hst => h.unspent e' he' hs' ((hmem _ hst).resolve_right hstart.symm)
  · have hno : ev.starts k = false := by
      rw [Bool.eq_false_iff, ne_eq, Event.starts_eq_true]
      exact hstart
    rw [List.countP_append]
    simpa [hno] using h.once
  · intro e' t he' hans'
    rcases hmem _ hans' with hmem' | heq
    · exact h.answered e' t he' hmem'
    · rw [hk] at he'
      cases he'
      exact hans t heq.symm
  · intro e' he' habs'
    rcases hmem _ habs' with hmem' | heq
    · exact h.absent e' he' hmem'
    · rw [hk] at he'
      cases he'
      exact habs heq.symm

theorem Inv.reply (h : Inv limit answer spent foreign es r) {t : τ} (hk : r.get k = some e)
    (ha : answer e = some t) :
    Inv limit answer spent foreign (es ++ [.answered k t]) r := by
  have hev : (Event.answered k t).key = k := rfl
  refine h.note (fun _ => ⟨e, hk⟩) rfl fun hf hl => ?_
  rw [hev]
  refine (h.recent k hf hl).own hk (by simp) rfl ?_ (by simp)
  rintro t' heq
  cases heq
  exact ha

theorem Inv.confirm (h : Inv limit answer spent foreign es r) (hk : r.get k = some e)
    (ha : ended answer e = true) :
    Inv limit answer spent foreign (es ++ [.absent k]) r := by
  have hev : (Event.absent k : Event κ τ).key = k := rfl
  refine h.note (fun _ => ⟨e, hk⟩) rfl fun hf hl => ?_
  rw [hev]
  exact (h.recent k hf hl).own hk (by simp) rfl (by simp) fun _ => ha

/-- What the registry holds of the other operations after one has ended. -/
theorem get_retain_of_ne (hlimit : 0 < limit) (h : r.Wf limit (ended answer))
    (hk : ∀ e', r.get k = some e' → ended answer e' = false) {k' : κ} (hne : k' ≠ k) :
    ((r.put k e).retain limit (ended answer) k).1.get k' = r.get k' ∨
      (r.order.length = limit ∧ ∃ ks, r.order = k' :: ks) ∧
        ((r.put k e).retain limit (ended answer) k).1.get k' = none := by
  rcases r.retain_cases (e := e) hlimit h hk with ⟨-, heq⟩ | ⟨k₀, ks, e₀, horder,
    hlen, -, -, -, heq⟩
  · rw [heq]
    exact .inl (r.get_put_of_ne e hne)
  · rw [heq]
    have hget : (r.put k e).entries.get k' = r.get k' := r.get_put_of_ne e hne
    by_cases h₀ : k' = k₀
    · subst h₀
      exact .inr ⟨⟨hlen, ks, horder⟩, by simp [Registry.get]⟩
    · left
      have hb : (k' == k₀) = false := beq_false_of_ne h₀
      change ((r.put k e).entries.deleteWhere fun k' _ => k' == k₀).get k' = _
      rw [Table.get_deleteWhere, hget]
      cases r.get k' <;> simp [hb]

theorem order_retain (hlimit : 0 < limit) (h : r.Wf limit (ended answer))
    (hk : ∀ e', r.get k = some e' → ended answer e' = false) :
    ∃ ks, ((r.put k e).retain limit (ended answer) k).1.order = ks ++ [k] ∧
      (ks = r.order ∨ r.order.length = limit ∧ ∃ k₀, r.order = k₀ :: ks) := by
  rcases r.retain_cases (e := e) hlimit h hk with ⟨-, heq⟩ | ⟨k₀, ks, e₀, horder,
    hlen, -, -, -, heq⟩
  · exact ⟨r.order, by rw [heq], .inl rfl⟩
  · exact ⟨ks, by rw [heq], .inr ⟨hlen, k₀, horder⟩⟩

theorem Recent.finish (h : Recent answer spent k es r) (hnot : k ∉ r.order) (hk : r.get k = some e)
    (ha : answer e = none) (ha' : ended answer e' = true) (hs : spent e' = true)
    (hself : r'.get k = some e')
    (horder : r'.order = ks ++ [k]) (hks : k ∉ ks) :
    Recent answer spent k (es ++ [.retained k]) r' := by
  have hmem : ∀ ev : Event κ τ, ev ≠ .retained k → ev ∈ es ++ [.retained k] → ev ∈ es := by
    intro ev hne hmem
    exact (List.mem_append.1 hmem).resolve_right fun hlast => hne (List.mem_singleton.1 hlast)
  have hfirst : .retained k ∉ es := fun hret => hnot (h.queued hret).1
  have hlater : later k (es ++ [.retained k]) = 0 := by
    rw [later, since_append_of_not_mem hfirst]
    simp [since, Event.retains]
  refine ⟨fun _ => ⟨e', hself⟩, fun _ => ?_, ?_, ?_, ?_, ?_, h.barrier.append (by simp)⟩
  · rw [horder, hlater]
    exact ⟨by simp, behind_of_not_mem hks⟩
  · intro e₁ he₁ hs₁
    rw [hself] at he₁
    cases he₁
    rw [hs] at hs₁
    cases hs₁
  · rw [List.countP_append]
    exact h.once
  · intro e₁ t _ hans
    have hans' := h.answered e t hk (hmem _ (by simp) hans)
    rw [ha] at hans'
    cases hans'
  · intro e₁ he₁ _
    rw [hself] at he₁
    cases he₁
    exact ha'

/-- Another operation ends: the queue moves up by one. -/
theorem Recent.pushed (h : Recent answer spent k es r) {k' : κ} (hne : k' ≠ k)
    (hl : later k (es ++ [.retained k']) < limit) (hmem : k ∈ r.order → .retained k ∈ es)
    (hget : r'.get k = r.get k ∨ (r.order.length = limit ∧ ∃ ks, r.order = k :: ks) ∧
    r'.get k = none) (horder : r'.order = ks ++ [k'])
    (hks : ks = r.order ∨ r.order.length = limit ∧ ∃ k₀, r.order = k₀ :: ks) :
    Recent answer spent k (es ++ [.retained k']) r' := by
  have hstep : .retained k ∈ es → later k (es ++ [.retained k']) = later k es + 1 := by
    intro hret
    rw [later_append_of_mem hret]
    rfl
  -- the operation does not stand first in a full queue, for then `limit` others would have ended after it
  have hfirst : ∀ ks', r.order.length = limit → r.order ≠ k :: ks' := by
    intro ks' hlen heq
    have hret : .retained k ∈ es := hmem (by rw [heq]; exact List.mem_cons_self)
    have hb := (h.queued hret).2
    rw [heq, behind, if_pos rfl] at hb
    rw [heq, List.length_cons] at hlen
    have := hstep hret
    omega
  refine h.other hne (hget.resolve_right fun ⟨⟨hlen, ks', heq⟩, _⟩ => hfirst ks' hlen heq)
    fun hret => ?_
  obtain ⟨hin, hb⟩ := h.queued hret
  rw [horder, hstep hret]
  rcases hks with rfl | ⟨hlen, k₀, heq⟩
  · exact ⟨List.mem_append_left _ hin, by rw [behind_append hin, hb]⟩
  · have h₀ : k₀ ≠ k := by
      rintro rfl
      exact hfirst ks hlen heq
    rw [heq, List.mem_cons] at hin
    have hin' := hin.resolve_left h₀.symm
    rw [heq, behind, if_neg h₀] at hb
    exact ⟨List.mem_append_left _ hin', by rw [behind_append hin', hb]⟩

theorem Inv.finish (hlimit : 0 < limit) (h : Inv limit answer spent foreign es r)
    (hk : r.get k = some e) (ha : answer e = none) (ha' : ended answer e' = true)
    (hs : spent e' = true) :
    Inv limit answer spent foreign (es ++ [.retained k])
      ((r.put k e').retain limit (ended answer) k).1 := by
  have hopen : ∀ e₁, r.get k = some e₁ → ended answer e₁ = false := by
    intro e₁ he₁
    rw [hk] at he₁
    cases he₁
    simp [ended, ha]
  have hnot : k ∉ r.order := by
    intro hmem
    obtain ⟨e₁, he₁, hend⟩ := (h.wf.mem_order k).1 hmem
    rw [hopen e₁ he₁] at hend
    cases hend
  have hself := Registry.get_retain_self (e := e') hlimit h.wf hopen
  have hother := fun k' (hne : k' ≠ k) => get_retain_of_ne (e := e') hlimit h.wf hopen hne
  obtain ⟨ks, hlast, hks⟩ := order_retain (e := e') hlimit h.wf hopen
  have hwf := h.wf.retain hlimit hopen ha'
  set r' := ((r.put k e').retain limit (ended answer) k).1
  have hold : ∀ k' e₁, k' ≠ k → r'.get k' = some e₁ → r.get k' = some e₁ := by
    intro k' e₁ hne he₁
    rcases hother k' hne with hget | ⟨-, hget⟩
    · rwa [hget] at he₁
    · rw [hget] at he₁
      cases he₁
  have horder : ∀ k' ∈ r'.order, k' ∈ r.order ∨ k' = k := by
    intro k' hk'
    rw [hwf.mem_order] at hk'
    obtain ⟨e₁, he₁, hend⟩ := hk'
    by_cases hne : k' = k
    · exact .inr hne
    · exact .inl ((h.wf.mem_order k').2 ⟨e₁, hold k' e₁ hne he₁, hend⟩)
  refine ⟨hwf, ?_, ?_, known_append h (fun _ => List.mem_append_left _ (h.entered k e hk)), ?_, ?_⟩
  · intro k' e₁ he₁ hend
    by_cases hne : k' = k
    · subst hne
      rw [hself] at he₁
      cases he₁
      exact hs
    · exact h.settled k' e₁ (hold k' e₁ hne he₁) hend
  · intro k' e₁ he₁
    by_cases hne : k' = k
    · subst hne
      exact List.mem_append_left _ (h.entered k' e hk)
    · exact List.mem_append_left _ (h.entered k' e₁ (hold k' e₁ hne he₁))
  · intro k' hk'
    rcases horder k' hk' with hmem | rfl
    · exact List.mem_append_left _ (h.retained k' hmem)
    · simp
  · intro k' hf hl
    have hr := h.recent k' hf (Nat.lt_of_le_of_lt (later_le_append k' es _) hl)
    by_cases hne : k' = k
    · subst hne
      refine hr.finish hnot hk ha ha' hs hself hlast fun hmem => hnot ?_
      rcases hks with rfl | ⟨-, k₀, heq⟩
      · exact hmem
      · rw [heq]
        exact List.mem_cons_of_mem _ hmem
    · exact hr.pushed (fun heq => hne heq.symm) hl (h.retained k') (hother k' hne) hlast hks

theorem Move.inv (hlimit : 0 < limit) {ev : Option (Event κ τ)}
    (hmove : Move limit answer spent foreign r ev r') (h : Inv limit answer spent foreign es r) :
    Inv limit answer spent foreign (es ++ ev.toList) r' := by
  cases hmove with
  | enter hk ha => exact h.enter hk ha
  | touch horder hget ha hs =>
    rw [Option.toList_none, List.append_nil]
    exact h.touch horder hget ha hs
  | @start k e e' hk hs ha hs' =>
    have hput := h.put hk ha fun _ => hs'
    refine hput.start (r.get_put_self k e') hs' fun hf hl => ⟨(h.recent k hf hl).unspent e hk hs,
      fun habs => ?_⟩
    have hse := h.settled k e hk ((h.recent k hf hl).absent e hk habs)
    rw [hs] at hse
    cases hse
  | finish hk ha ha' hs => exact h.finish hlimit hk ha ha' hs
  | reply hk ha => exact h.reply hk ha
  | confirm hk ha => exact h.confirm hk ha
  | elsewhere hkey hret => exact h.note (fun hf => absurd hkey hf) hret fun hf => absurd hkey hf

theorem Moves.inv (hlimit : 0 < limit) (hmoves : Moves limit answer spent foreign r es' r')
    (h : Inv limit answer spent foreign es r) : Inv limit answer spent foreign (es ++ es') r' := by
  induction hmoves with
  | refl => simpa using h
  | step _ hmove ih =>
    rw [← List.append_assoc]
    exact hmove.inv hlimit ih

/-- A move that ends no operation takes none out of the registry. -/
theorem Move.same {ev : Option (Event κ τ)} (hmove : Move limit answer spent foreign r ev r')
    (hev : ev.toList.countP Event.isRetained = 0) (hk : r.get k = some e) :
    ∃ e', r'.get k = some e' ∧ answer e' = answer e := by
  have hput : ∀ {k' : κ} {e₀ e₁ : σ}, r.get k' = some e₀ → answer e₁ = answer e₀ →
      ∃ e', (r.put k' e₁).get k = some e' ∧ answer e' = answer e := by
    intro k' e₀ e₁ hk' ha
    by_cases hkk : k = k'
    · subst hkk
      rw [hk] at hk'
      cases hk'
      exact ⟨e₁, r.get_put_self k e₁, ha⟩
    · exact ⟨e, by rw [r.get_put_of_ne e₁ hkk, hk], rfl⟩
  cases hmove with
  | enter hk' ha =>
    refine ⟨e, ?_, rfl⟩
    rw [r.get_put_of_ne, hk]
    rintro rfl
    rw [hk] at hk'
    cases hk'
  | @touch _ f horder hget ha _ => exact ⟨f k e, by rw [hget, hk]; rfl, ha k e hk⟩
  | start hk' _ ha _ => exact hput hk' ha
  | finish => simp [Event.isRetained] at hev
  | reply => exact ⟨e, hk, rfl⟩
  | confirm => exact ⟨e, hk, rfl⟩
  | elsewhere => exact ⟨e, hk, rfl⟩

theorem Moves.same (hmoves : Moves limit answer spent foreign r es' r')
    (hes : es'.countP Event.isRetained = 0) (hk : r.get k = some e) :
    ∃ e', r'.get k = some e' ∧ answer e' = answer e := by
  induction hmoves with
  | refl => exact ⟨e, hk, rfl⟩
  | step _ hmove ih =>
    rw [List.countP_append, Nat.add_eq_zero_iff] at hes
    obtain ⟨e₁, hk₁, ha₁⟩ := ih hes.1
    obtain ⟨e₂, hk₂, ha₂⟩ := hmove.same hes.2 hk₁
    exact ⟨e₂, hk₂, ha₂.trans ha₁⟩

/-- As long as one operation ends at a time, one that has not ended stays in the registry. -/
theorem Moves.keeps (hlimit : 0 < limit) (h : Inv limit answer spent foreign es r)
    (hmoves : Moves limit answer spent foreign r es' r') (hes : es'.countP Event.isRetained ≤ 1)
    (hk : r.get k = some e) (he : ended answer e = false) : ∃ e', r'.get k = some e' := by
  induction hmoves with
  | refl => exact ⟨e, hk⟩
  | @step r₁ r₂ es₁ ev hbefore hmove ih =>
    rw [List.countP_append] at hes
    obtain ⟨e₁, hk₁⟩ := ih (by omega)
    by_cases hev : ev.toList.countP Event.isRetained = 0
    · obtain ⟨e₂, hk₂, -⟩ := hmove.same hev hk₁
      exact ⟨e₂, hk₂⟩
    · obtain ⟨e₂, hk₂, ha₂⟩ := hbefore.same (by omega) hk
      have he₂ : ended answer e₂ = false := by
        rw [ended, ha₂]
        exact he
      have hinv := hbefore.inv hlimit h
      cases hmove with
      | @finish k' e' e'' hk' ha' ha'' hs =>
        have hopen : ∀ e₀, r₁.get k' = some e₀ → ended answer e₀ = false := by
          intro e₀ he₀
          rw [hk'] at he₀
          cases he₀
          simp [ended, ha']
        by_cases hkk : k = k'
        · subst hkk
          exact ⟨e'', Registry.get_retain_self hlimit hinv.wf hopen⟩
        · rcases get_retain_of_ne (e := e'') hlimit hinv.wf hopen hkk with hget | ⟨⟨-, ks, horder⟩,
            -⟩
          · exact ⟨e₂, by rw [hget, hk₂]⟩
          · obtain ⟨e₀, he₀, hend⟩ :=
              (hinv.wf.mem_order k).1 (by rw [horder]; exact List.mem_cons_self)
            rw [hk₂] at he₀
            cases he₀
            rw [he₂] at hend
            cases hend
      | elsewhere _ hret => simp [hret] at hev
      | _ => simp [Event.isRetained] at hev

end Step

end Moves

end Once
