/-
  Lists of rules read first match first: the first rule that applies decides.
-/
import Mathlib.Init

namespace FirstMatch

variable {ρ π : Type}

/-- Does the first rule that applies to `x` allow it?  Without one, `otherwise` decides. -/
def admitted (applies : ρ → π → Bool) (allows : ρ → Bool) (otherwise : Bool) : List ρ → π → Bool
  | [], _ => otherwise
  | r :: rs, x => if applies r x then allows r else admitted applies allows otherwise rs x

variable {applies : ρ → π → Bool} {allows : ρ → Bool} {otherwise : Bool} {l₁ l₂ : List ρ} {x : π}

/-- A block of allowing rules admits what one of them applies to. -/
theorem admitted_append_allow (h : ∀ r ∈ l₁, allows r = true) :
    admitted applies allows otherwise (l₁ ++ l₂) x = true ↔
      (∃ r ∈ l₁, applies r x = true) ∨ admitted applies allows otherwise l₂ x = true := by
  induction l₁ with
  | nil => simp
  | cons r l ih =>
    rw [List.forall_mem_cons] at h
    simp only [List.cons_append, admitted, List.mem_cons, exists_eq_or_imp]
    by_cases hr : applies r x = true
    · simp [hr, h.1]
    · rw [if_neg hr, ih h.2]
      simp [hr]

/-- A block of denying rules stops what one of them applies to. -/
theorem admitted_append_deny (h : ∀ r ∈ l₁, allows r = false) :
    admitted applies allows otherwise (l₁ ++ l₂) x = true ↔
      (∀ r ∈ l₁, applies r x = false) ∧ admitted applies allows otherwise l₂ x = true := by
  induction l₁ with
  | nil => simp
  | cons r l ih =>
    rw [List.forall_mem_cons] at h
    rw [List.cons_append, admitted, List.forall_mem_cons]
    by_cases hr : applies r x = true
    · simp [hr, h.1]
    · rw [if_neg hr, ih h.2]
      simp [hr]

end FirstMatch
