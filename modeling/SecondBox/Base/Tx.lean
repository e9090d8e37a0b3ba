/-
  Transactions: programs that read and change a state and either commit or roll
  back.

  `Tx σ ε α` is state passing with errors.  `commit` is the state a transaction
  leaves behind: what it computed, or the state it started from if it failed.
  Transactions are serializable, so a history is a list of whole transactions.

  `wp m s Q E` is what a transaction started in `s` guarantees: `Q` of its
  result and state if it commits, `E` of its error if it rolls back.  The simp
  rules take a program apart; `Ensures` is `wp` with nothing said of errors.
-/
import Mathlib.Order.Defs.Unbundled

namespace Relational

variable {σ ε α β : Type}

/-- A transaction: an error rolls back. -/
abbrev Tx (σ ε : Type) := StateT σ (Except ε)

namespace Tx

/-- Go on if `b` holds, roll back with `e` otherwise. -/
def require (b : Bool) (e : ε) : Tx σ ε Unit := if b then pure () else throw e

/-- The row a query returns, or `e` if it returns none. -/
def expect (o : Option α) (e : ε) : Tx σ ε α :=
  match o with
  | some a => pure a
  | none => throw e

/-- The state after `m`: a transaction that fails changes nothing. -/
def commit (m : Tx σ ε α) (s : σ) : σ :=
  match m.run s with
  | .ok (_, s') => s'
  | .error _ => s

/-- `m` does not roll back in `s`. -/
def Commits (m : Tx σ ε α) (s : σ) : Prop := ∃ a s', m.run s = .ok (a, s')

/-- The answer of `m` in state `s`. -/
def answer (m : Tx σ ε α) (s : σ) : Except ε α :=
  (m.run s).map Prod.fst

/-- `Q` holds after a commit, `E` of an error. -/
def wp (m : Tx σ ε α) (s : σ) (Q : α → σ → Prop) (E : ε → Prop) : Prop :=
  match m.run s with
  | .ok (a, s') => Q a s'
  | .error e => E e

/-- `Q` of the result and the state, if `m` commits. -/
def Ensures (m : Tx σ ε α) (s : σ) (Q : α → σ → Prop) : Prop := m.wp s Q fun _ => True

variable (o : Option α)
variable (r : Except ε α) {Q' : α → σ → Prop} {m : Tx σ ε α}
variable (e : ε)

section Rules
variable {s : σ} {Q : α → σ → Prop} {E : ε → Prop}

@[simp] theorem wp_pure (a : α) : wp (pure a : Tx σ ε α) s Q E ↔ Q a s := Iff.rfl

@[simp] theorem wp_throw : wp (throw e : Tx σ ε α) s Q E ↔ E e := Iff.rfl

@[simp] theorem wp_bind (m : Tx σ ε β) (f : β → Tx σ ε α) :
    wp (m >>= f) s Q E ↔ m.wp s (fun b s' => (f b).wp s' Q E) E := by
  simp only [wp, StateT.run_bind]
  cases m.run s <;> rfl

@[simp] theorem wp_map (m : Tx σ ε β) (f : β → α) :
    wp (f <$> m) s Q E ↔ m.wp s (fun b s' => Q (f b) s') E := by
  simp only [wp, StateT.run_map]
  cases m.run s <;> rfl

@[simp] theorem wp_get {Q : σ → σ → Prop} : wp (get : Tx σ ε σ) s Q E ↔ Q s s := Iff.rfl

@[simp] theorem wp_set (s' : σ) {Q : PUnit → σ → Prop} : wp (set s' : Tx σ ε PUnit) s Q E ↔
    Q ⟨⟩ s' := Iff.rfl

@[simp] theorem wp_require (b : Bool) (e : ε) {Q : Unit → σ → Prop} :
    wp (require b e : Tx σ ε Unit) s Q E ↔ (b = true → Q () s) ∧ (b = false → E e) := by
  cases b <;> simp [require]

@[simp] theorem wp_expect : wp (expect o e : Tx σ ε α) s Q E ↔ (∀ a, o = some a → Q a s) ∧
    (o = none → E e) := by
  cases o <;> simp [expect]

theorem wp_ite (c : Prop) [Decidable c] (m m' : Tx σ ε α) :
    wp (if c then m else m') s Q E ↔ (c → m.wp s Q E) ∧ (¬c → m'.wp s Q E) := by
  split <;> simp_all

@[simp] theorem wp_lift : wp (liftM r : Tx σ ε α) s Q E ↔ (∀ a, r = .ok a → Q a s) ∧
    (∀ e, r = .error e → E e) := by
  cases r with
  | ok a =>
    simp only [Except.ok.injEq, forall_eq', reduceCtorEq, false_implies, implies_true, and_true]
    exact Iff.rfl
  | error e =>
    simp only [Except.error.injEq, forall_eq', reduceCtorEq, false_implies, implies_true, true_and]
    exact Iff.rfl

theorem wp_mono {E' : ε → Prop} (h : m.wp s Q E)
    (hQ : ∀ a s', Q a s' → Q' a s') (hE : ∀ e, E e → E' e) : m.wp s Q' E' := by
  simp only [wp] at h ⊢
  split at h
  · next a s' _ => exact hQ a s' h
  · next e _ => exact hE e h

end Rules

/-! ### Transactions that may fail

The same rules when nothing is said of errors: a failed check leaves nothing to
prove. -/

section Ensures
variable {s : σ} {Q : α → σ → Prop}

@[simp] theorem ensures_pure (a : α) : Ensures (pure a : Tx σ ε α) s Q ↔ Q a s := Iff.rfl

@[simp] theorem ensures_throw : Ensures (throw e : Tx σ ε α) s Q := trivial

@[simp] theorem ensures_bind (m : Tx σ ε β) (f : β → Tx σ ε α) :
    Ensures (m >>= f) s Q ↔ m.Ensures s fun b s' => (f b).Ensures s' Q :=
  wp_bind m f

@[simp] theorem ensures_map (m : Tx σ ε β) (f : β → α) :
    Ensures (f <$> m) s Q ↔ m.Ensures s fun b s' => Q (f b) s' :=
  wp_map m f

@[simp] theorem ensures_get {Q : σ → σ → Prop} : Ensures (get : Tx σ ε σ) s Q ↔ Q s s := Iff.rfl

@[simp] theorem ensures_modify (f : σ → σ) {Q : PUnit → σ → Prop} :
    Ensures (modify f : Tx σ ε PUnit) s Q ↔ Q ⟨⟩ (f s) := Iff.rfl

@[simp] theorem ensures_require (b : Bool) (e : ε) {Q : Unit → σ → Prop} :
    Ensures (require b e : Tx σ ε Unit) s Q ↔ (b = true → Q () s) := by
  simp [Ensures]

@[simp] theorem ensures_expect : Ensures (expect o e : Tx σ ε α) s Q ↔ ∀ a, o = some a → Q a s := by
  simp [Ensures]

@[simp] theorem ensures_lift : Ensures (liftM r : Tx σ ε α) s Q ↔ ∀ a, r = .ok a → Q a s := by
  simp [Ensures]

@[simp] theorem ensures_discard (m : Tx σ ε α) {Q : PUnit → σ → Prop} :
    Ensures (discard m) s Q ↔ m.Ensures s fun _ s' => Q ⟨⟩ s' :=
  wp_map m _

theorem ensures_ite (c : Prop) [Decidable c] (m m' : Tx σ ε α) :
    Ensures (if c then m else m') s Q ↔ (c → m.Ensures s Q) ∧ (¬c → m'.Ensures s Q) :=
  wp_ite c m m'

theorem Ensures.mono (h : m.Ensures s Q) (hQ : ∀ a s', Q a s' → Q' a s') : m.Ensures s Q' :=
  wp_mono h hQ fun _ => id

end Ensures

/-! ### Transactions that must not fail

The same rules when an error is excluded: a check becomes a condition. -/

/-- `m` commits, with `Q` of its result and the state. -/
def Succeeds (m : Tx σ ε α) (s : σ) (Q : α → σ → Prop) : Prop := m.wp s Q fun _ => False

section Succeeds
variable {s : σ} {Q : α → σ → Prop}

@[simp] theorem succeeds_pure (a : α) : Succeeds (pure a : Tx σ ε α) s Q ↔ Q a s := Iff.rfl

@[simp] theorem succeeds_bind (m : Tx σ ε β) (f : β → Tx σ ε α) :
    Succeeds (m >>= f) s Q ↔ m.Succeeds s fun b s' => (f b).Succeeds s' Q :=
  wp_bind m f

@[simp] theorem succeeds_map (m : Tx σ ε β) (f : β → α) :
    Succeeds (f <$> m) s Q ↔ m.Succeeds s fun b s' => Q (f b) s' :=
  wp_map m f

@[simp] theorem succeeds_get {Q : σ → σ → Prop} : Succeeds (get : Tx σ ε σ) s Q ↔ Q s s := Iff.rfl

@[simp] theorem succeeds_modify (f : σ → σ) {Q : PUnit → σ → Prop} :
    Succeeds (modify f : Tx σ ε PUnit) s Q ↔ Q ⟨⟩ (f s) := Iff.rfl

@[simp] theorem succeeds_require (b : Bool) (e : ε) {Q : Unit → σ → Prop} :
    Succeeds (require b e : Tx σ ε Unit) s Q ↔ b = true ∧ Q () s := by
  cases b <;> simp [Succeeds]

@[simp] theorem succeeds_expect : Succeeds (expect o e : Tx σ ε α) s Q ↔
    ∃ a, o = some a ∧ Q a s := by
  cases o <;> simp [Succeeds]

@[simp] theorem succeeds_discard (m : Tx σ ε α) {Q : PUnit → σ → Prop} :
    Succeeds (discard m) s Q ↔ m.Succeeds s fun _ s' => Q ⟨⟩ s' :=
  wp_map m _

theorem succeeds_ite (c : Prop) [Decidable c] (m m' : Tx σ ε α) :
    Succeeds (if c then m else m') s Q ↔ if c then m.Succeeds s Q else m'.Succeeds s Q := by
  split <;> rfl

theorem Succeeds.mono (h : m.Succeeds s Q) (hQ : ∀ a s', Q a s' → Q' a s') : m.Succeeds s Q' :=
  wp_mono h hQ fun _ => id

theorem commits_iff_succeeds : m.Commits s ↔ m.Succeeds s fun _ _ => True := by
  simp only [Commits, Succeeds, wp]
  constructor
  · rintro ⟨a, s', h⟩
    rw [h]
    trivial
  · intro h
    split at h
    · next a s' h' => exact ⟨a, s', h'⟩
    · exact h.elim

end Succeeds

section Commit
variable {m : Tx σ ε α} {s : σ}

/-- What holds of every state `m` can leave, the initial one included. -/
theorem commit_of_ensures {P : σ → Prop} (h : m.Ensures s fun _ s' => P s') (hs : P s) :
    P (m.commit s) := by
  simp only [Ensures, wp] at h
  simp only [commit]
  split at h
  · exact h
  · exact hs

theorem commit_of_run {a : α} {s' : σ} (h : m.run s = .ok (a, s')) : m.commit s = s' := by
  simp only [commit, h]

theorem commit_of_error {e : ε} (h : m.run s = .error e) : m.commit s = s := by
  simp only [commit, h]

@[simp] theorem commit_discard : (discard m).commit s = m.commit s := by
  rw [show discard m = Function.const α PUnit.unit <$> m from rfl]
  simp only [commit, StateT.run_map]
  cases m.run s <;> rfl

theorem commit_of_not_commits (h : ¬m.Commits s) : m.commit s = s := by
  cases hr : m.run s with
  | ok r => exact absurd ⟨r.1, r.2, hr⟩ h
  | error e => exact commit_of_error hr

theorem Ensures.commit {Q : α → σ → Prop} (h : m.Ensures s Q) (hc : m.Commits s) :
    ∃ a, Q a (m.commit s) := by
  obtain ⟨a, s', hr⟩ := hc
  rw [commit_of_run hr]
  simp only [Ensures, wp, hr] at h
  exact ⟨a, h⟩

theorem Ensures.answer {Q : α → σ → Prop} (h : m.Ensures s Q) {a : α} (ha : m.answer s = .ok a) :
    Q a (m.commit s) := by
  simp only [Tx.answer] at ha
  cases hr : m.run s with
  | ok r =>
    rw [hr] at ha
    cases ha
    rw [commit_of_run hr]
    simpa only [Ensures, wp, hr] using h
  | error e =>
    rw [hr] at ha
    cases ha

theorem Commits.answer (h : m.Commits s) : ∃ a, m.answer s = .ok a := by
  obtain ⟨a, s', hr⟩ := h
  exact ⟨a, by simp [Tx.answer, hr, Except.map]⟩

theorem succeeds_state_iff {P : σ → Prop} : (m.Succeeds s fun _ s' => P s') ↔
    m.Commits s ∧ P (m.commit s) := by
  constructor
  · intro h
    have hc := commits_iff_succeeds.2 (h.mono fun _ _ _ => trivial)
    obtain ⟨a, s', hr⟩ := hc
    rw [commit_of_run hr]
    simp only [Succeeds, wp, hr] at h
    exact ⟨⟨a, s', hr⟩, h⟩
  · rintro ⟨⟨a, s', hr⟩, h⟩
    rw [commit_of_run hr] at h
    simpa only [Succeeds, wp, hr] using h

theorem succeeds_iff {Q : α → σ → Prop} : m.Succeeds s Q ↔ ∃ a, m.answer s = .ok a ∧
    Q a (m.commit s) := by
  simp only [Succeeds, wp, Tx.answer, Tx.commit]
  cases m.run s with
  | ok r => simp [Except.map]
  | error e => simp [Except.map]

theorem answer_of_wp {E : ε → Prop} (h : m.wp s (fun _ _ => False) E) :
    ∃ e, m.answer s = .error e ∧ E e := by
  simp only [wp] at h
  split at h
  · exact h.elim
  · next e heq => exact ⟨e, by simp [Tx.answer, heq, Except.map], h⟩

end Commit

/-! ### Invariants

`Preserves P m`: whatever it reads, `m` keeps `P`.  It is a class so that
instance search takes a program apart down to its writes. -/

/-- `m` keeps `P`. -/
class Preserves (P : σ → Prop) (m : Tx σ ε α) : Prop where
  ensures : ∀ s, P s → m.Ensures s fun _ s' => P s'

section Preserves
variable {P : σ → Prop}

instance (a : α) : Preserves P (pure a : Tx σ ε α) := ⟨fun _ h => h⟩

instance : Preserves P (throw e : Tx σ ε α) := ⟨fun _ _ => trivial⟩

instance : Preserves P (get : Tx σ ε σ) := ⟨fun _ h => h⟩

instance (b : Bool) (e : ε) : Preserves P (require b e : Tx σ ε Unit) := ⟨fun s h => by simp [h]⟩

instance : Preserves P (expect o e : Tx σ ε α) := ⟨fun s h => by simp [h]⟩

instance : Preserves P (liftM r : Tx σ ε α) := ⟨fun s h => by simp [h]⟩

theorem Preserves.bind {m : Tx σ ε β} {f : β → Tx σ ε α} (hm : Preserves P m)
    (hf : ∀ b, Preserves P (f b)) :
    Preserves P (m >>= f) := by
  refine ⟨fun s h => ?_⟩
  rw [ensures_bind]
  exact (hm.ensures s h).mono fun b s' h' => (hf b).ensures s' h'

theorem Preserves.seq {m : Tx σ ε β} {f : β → Tx σ ε α} [hm : Preserves P m]
    (hf : ∀ b, Preserves P (f b)) :
    Preserves P (m >>= f) := hm.bind hf

instance (m : Tx σ ε β) (f : β → Tx σ ε α) [hm : Preserves P m] [hf : ∀ b, Preserves P (f b)] :
    Preserves P (m >>= f) := hm.bind hf

instance (m : Tx σ ε α) [hm : Preserves P m] : Preserves P (discard m) := by
  refine ⟨fun s h => ?_⟩
  rw [ensures_discard]
  exact hm.ensures s h

instance (c : Prop) [Decidable c] (m m' : Tx σ ε α) [hm : Preserves P m] [hm' : Preserves P m'] :
    Preserves P (if c then m else m') := by
  split
  · exact hm
  · exact hm'

theorem Preserves.modify {f : σ → σ} (h : ∀ s, P s → P (f s)) :
    Preserves P (modify f : Tx σ ε PUnit) := ⟨h⟩

theorem Preserves.commit [hm : Preserves P m] {s : σ} (h : P s) : P (m.commit s) :=
  commit_of_ensures (hm.ensures s h) h

end Preserves

/-! ### What a transaction may do

`Follows R m`: the state `m` leaves is related by `R` to the one it found.  A
transaction frames `π` if it leaves the part `π` of the state alone, so that
whatever held of that part still holds. -/

/-- `m` relates its states by `R`. -/
class Follows (R : σ → σ → Prop) (m : Tx σ ε α) : Prop where
  follows : ∀ s, m.Ensures s fun _ s' => R s s'

section Follows
variable {R : σ → σ → Prop} [IsPreorder σ R]

instance (a : α) : Follows R (pure a : Tx σ ε α) := ⟨refl_of R⟩

instance : Follows R (throw e : Tx σ ε α) := ⟨fun _ => trivial⟩

instance : Follows R (get : Tx σ ε σ) := ⟨refl_of R⟩

instance (b : Bool) (e : ε) : Follows R (require b e : Tx σ ε Unit) :=
  ⟨fun s => by simp [refl_of R s]⟩

instance : Follows R (expect o e : Tx σ ε α) := ⟨fun s => by simp [refl_of R s]⟩

instance : Follows R (liftM r : Tx σ ε α) := ⟨fun s => by simp [refl_of R s]⟩

theorem Follows.bind {m : Tx σ ε β} {f : β → Tx σ ε α} (hm : Follows R m)
    (hf : ∀ b, Follows R (f b)) :
    Follows R (m >>= f) := by
  refine ⟨fun s => ?_⟩
  rw [ensures_bind]
  refine (hm.follows s).mono fun b s' h => ?_
  exact ((hf b).follows s').mono fun _ _ h' => trans_of R h h'

theorem Follows.seq {m : Tx σ ε β} {f : β → Tx σ ε α} [hm : Follows R m]
    (hf : ∀ b, Follows R (f b)) :
    Follows R (m >>= f) := hm.bind hf

instance (m : Tx σ ε β) (f : β → Tx σ ε α) [hm : Follows R m] [hf : ∀ b, Follows R (f b)] :
    Follows R (m >>= f) :=
  hm.bind hf

instance (m : Tx σ ε α) [hm : Follows R m] : Follows R (discard m) := by
  refine ⟨fun s => ?_⟩
  rw [ensures_discard]
  exact hm.follows s

instance (c : Prop) [Decidable c] (m m' : Tx σ ε α) [hm : Follows R m] [hm' : Follows R m'] :
    Follows R (if c then m else m') := by
  split
  · exact hm
  · exact hm'

theorem Follows.commit [hm : Follows R m] (s : σ) : R s (m.commit s) :=
  commit_of_ensures (hm.follows s) (refl_of R s)

end Follows

section Frames
variable {γ : Type} {π : σ → γ}

/-- The part `π` of the state is the same. -/
def Same (π : σ → γ) (s s' : σ) : Prop := π s' = π s

instance : IsPreorder σ (Same π) where
  refl _ := rfl
  trans _ _ _ h h' := h'.trans h

/-- `m` leaves `π` alone. -/
abbrev Frames (π : σ → γ) (m : Tx σ ε α) : Prop := Follows (Same π) m

theorem Frames.modify {f : σ → σ} (h : ∀ s, π (f s) = π s) :
    Frames π (modify f : Tx σ ε PUnit) := ⟨h⟩

theorem Frames.ensures [hm : Frames π m] {s : σ} {Q : γ → Prop} (h : Q (π s)) :
    m.Ensures s fun _ s' => Q (π s') := by
  refine (hm.follows s).mono fun _ s' h' => ?_
  rw [Same] at h'
  rw [h']
  exact h

end Frames

end Tx

end Relational
