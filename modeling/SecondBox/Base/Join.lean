/-
  Lists joined with a separator.
-/
import Mathlib.Data.List.Basic

namespace Join

/-- Lists that are joined with a separator fall apart in one way only, if the first part is known to
    hold as many separators. -/
theorem append_cons_inj_of_count {α : Type} [DecidableEq α] {a : α} {l l' r r' : List α}
    (h : l ++ a :: r = l' ++ a :: r') (hcount : l.count a = l'.count a) : l = l' ∧ r = r' := by
  induction l generalizing l' with
  | nil =>
    cases l' with
    | nil => exact ⟨rfl, (List.cons.inj h).2⟩
    | cons b l' =>
      obtain ⟨rfl, -⟩ := List.cons.inj h
      simp at hcount
  | cons b l ih =>
    cases l' with
    | nil =>
      obtain ⟨rfl, -⟩ := List.cons.inj h
      simp at hcount
    | cons c l' =>
      obtain ⟨rfl, htail⟩ := List.cons.inj h
      have hcount' : l.count a = l'.count a := by
        rw [List.count_cons, List.count_cons] at hcount
        omega
      obtain ⟨rfl, rfl⟩ := ih htail hcount'
      exact ⟨rfl, rfl⟩

end Join
