/-
  Histories of a state machine: a step function run over a list of inputs, and
  the one induction every invariant needs.
-/
import Mathlib.Data.List.Chain
import Mathlib.Order.Basic

namespace History

variable {σ τ : Type}

/-- The state after the inputs `ts`, in order. -/
def after (step : σ → τ → σ) (s : σ) (ts : List τ) : σ := ts.foldl step s

/-- Every input of the history meets `A` in the state it arrives in. -/
def Along (step : σ → τ → σ) (A : σ → τ → Prop) : σ → List τ → Prop
  | _, [] => True
  | s, t :: ts => A s t ∧ Along step A (step s t) ts

section
variable {step : σ → τ → σ} {A : σ → τ → Prop}

@[simp] theorem after_nil (s : σ) : after step s [] = s := rfl

@[simp] theorem after_cons (s : σ) (t : τ) (ts : List τ) :
    after step s (t :: ts) = after step (step s t) ts := rfl

theorem after_append (s : σ) (ts ts' : List τ) :
    after step s (ts ++ ts') = after step (after step s ts) ts' :=
  List.foldl_append

@[simp] theorem along_nil (s : σ) : Along step A s [] := trivial

@[simp] theorem along_cons (s : σ) (t : τ) (ts : List τ) :
    Along step A s (t :: ts) ↔ A s t ∧ Along step A (step s t) ts := Iff.rfl

theorem along_append (s : σ) (ts ts' : List τ) :
    Along step A s (ts ++ ts') ↔ Along step A s ts ∧ Along step A (after step s ts) ts' := by
  induction ts generalizing s with
  | nil => simp
  | cons t ts ih => simp [ih, and_assoc]

variable {s : σ} {ts : List τ}

theorem along_iff_forall : Along step A s ts ↔ ∀ us t vs, ts = us ++ t :: vs →
    A (after step s us) t := by
  constructor
  · rintro h us t vs rfl
    rw [along_append] at h
    exact h.2.1
  · intro h
    induction ts generalizing s with
    | nil => trivial
    | cons t ts ih =>
      refine ⟨h [] t ts rfl, ih fun us t' vs hts => ?_⟩
      exact h (t :: us) t' vs (by rw [hts]; rfl)

instance Along.decidable [∀ s t, Decidable (A s t)] : ∀ s ts, Decidable (Along step A s ts)
  | _, [] => isTrue trivial
  | s, t :: ts =>
    have := Along.decidable (step s t) ts
    inferInstanceAs (Decidable (A s t ∧ Along step A (step s t) ts))

variable {I : σ → Prop}

/-- What every step that meets `A` keeps, every history that meets `A` keeps. -/
theorem Along.invariant (hstep : ∀ s t, A s t → I s → I (step s t))
    (ha : Along step A s ts) (hs : I s) : I (after step s ts) := by
  induction ts generalizing s with
  | nil => exact hs
  | cons t ts ih => exact ih ha.2 (hstep s t ha.1 hs)

theorem after_invariant (hstep : ∀ s t, I s → I (step s t)) (hs : I s) (ts : List τ) :
    I (after step s ts) := by
  induction ts generalizing s with
  | nil => exact hs
  | cons t ts ih => exact ih (hstep s t hs)

theorem along_of_forall {B : τ → Prop} (h : ∀ t ∈ ts, B t) (s : σ) :
    Along step (fun _ t => B t) s ts := by
  induction ts generalizing s with
  | nil => trivial
  | cons t ts ih =>
    exact ⟨h t List.mem_cons_self, ih (fun t' ht' => h t' (List.mem_cons_of_mem t ht')) (step s t)⟩

/-- Two properties of steps that agree in every state an invariant allows agree along histories. -/
theorem along_iff {B C : σ → τ → Prop} (hiff : ∀ s t, I s → A s t → (B s t ↔ C s t))
    (hstep : ∀ s t, I s → A s t → B s t → I (step s t)) (hs : I s)
    (ha : Along step A s ts) : Along step B s ts ↔ Along step C s ts := by
  induction ts generalizing s with
  | nil => exact Iff.rfl
  | cons t ts ih =>
    have hhead := hiff s t hs ha.1
    constructor
    · rintro ⟨hb, hbs⟩
      exact ⟨hhead.1 hb, (ih (hstep s t hs ha.1 hb) ha.2).1 hbs⟩
    · rintro ⟨hc, hcs⟩
      have hb := hhead.2 hc
      exact ⟨hb, (ih (hstep s t hs ha.1 hb) ha.2).2 hcs⟩

/-! ## Counting -/

/-- How many inputs meet `p` in the state they arrive in. -/
def tally (step : σ → τ → σ) (p : σ → τ → Bool) : σ → List τ → ℕ
  | _, [] => 0
  | s, t :: ts => (p s t).toNat + tally step p (step s t) ts

/-- A rank that no step raises, and that every step with `p` lowers, bounds their number. -/
theorem Along.tally_le {p : σ → τ → Bool} {r : σ → ℕ} (ha : Along step A s ts)
    (hstep : ∀ s t, A s t → I s → I (step s t) ∧ r (step s t) + (p s t).toNat ≤ r s) (hs : I s) :
    tally step p s ts ≤ r s := by
  induction ts generalizing s with
  | nil => exact Nat.zero_le _
  | cons t ts ih =>
    obtain ⟨hnext, hrank⟩ := hstep s t ha.1 hs
    have hrest := ih ha.2 hnext
    rw [tally]
    omega

end

end History
