/-
  Programs that a crash can interrupt.

  A program reads a state and changes it in atomic steps.  Before each step the
  process may die (`Fate.crash`), and each step may fail and leave the state
  alone (`Fate.fault`); `exec` runs a program against a list of such fates, and
  `run` is the run in which every step takes effect.

  Three ways to reason about every fate at once:

  * `wp C p Q`: whatever happens, `C` holds where the process dies and `Q` where
    the program returns (`wp_exec`);
  * `Keeps P p`: started where `P` holds, `p` stops only where `P` holds;
  * `Moves T p`: every step of `p`, on every branch, is a `T`-move
    (`Moves.exec`), the frame rule.
-/
import Mathlib.Logic.Relation

namespace Crash

variable {σ ε α β : Type}

/-- What becomes of one step. -/
inductive Fate where
  | ok
  | fault
  | crash
deriving DecidableEq

/-- A program over states `σ` with errors `ε` and result `α`. -/
inductive Prog (σ ε α : Type) where
  | ret (a : α)
  | fail (e : ε)
  | read (k : σ → Prog σ ε α)
  /-- change the state by `f` and go on with `k`; `h` is the program after a fault -/
  | step (f : σ → σ) (k h : Prog σ ε α)

/-- How an execution ends: with a result or an error, or by a crash. -/
inductive Outcome (ε α : Type) where
  | done (r : Except ε α)
  | crashed

namespace Prog

/-! ## Combinators -/

/-- Sequencing, also in the handler of a step. -/
def bind : Prog σ ε α → (α → Prog σ ε β) → Prog σ ε β
  | ret a, g => g a
  | fail e, _ => fail e
  | read k, g => read fun s => (k s).bind g
  | step f k h, g => step f (k.bind g) (h.bind g)

instance : Monad (Prog σ ε) where
  pure := ret
  bind := bind

/-- Run `p` to its end and return how it ended: `attempt p` never fails. -/
def attempt : Prog σ ε α → Prog σ ε (Except ε α)
  | ret a => ret (.ok a)
  | fail e => ret (.error e)
  | read k => read fun s => (k s).attempt
  | step f k h => step f k.attempt h.attempt

/-- The value of `f` in the current state. -/
def asking (f : σ → α) : Prog σ ε α := read fun s => ret (f s)

/-- A check or a lookup in the current state that may fail. -/
def reading (f : σ → Except ε α) : Prog σ ε α :=
  read fun s => match f s with
    | .ok a => ret a
    | .error e => fail e

/-- One step, with the error a fault reports. -/
def sys (e : ε) (f : σ → σ) : Prog σ ε Unit := step f (ret ()) (fail e)

/-- Go on only if `c` holds. -/
def require (c : Prop) [Decidable c] (e : ε) : Prog σ ε Unit :=
  if c then ret () else fail e

/-- `q` is the clean-up of `p`: it runs when `p` fails, and its own errors are ignored. -/
def onError (p : Prog σ ε α) (q : Prog σ ε Unit) : Prog σ ε α :=
  p.attempt.bind fun
    | .ok a => ret a
    | .error e => q.attempt.bind fun _ => fail e

/-- The loop over a list, in order, stopping at the first error. -/
def forEach : List α → (α → Prog σ ε Unit) → Prog σ ε Unit
  | [], _ => ret ()
  | a :: as, g => (g a).bind fun _ => forEach as g

/-! ## Executions -/

/-- Run `p` from `s`, taking the fate of each step from the list; once it is
    used up every step takes effect. -/
def exec : Prog σ ε α → List Fate → σ → Outcome ε α × σ
  | ret a, _, s => (.done (.ok a), s)
  | fail e, _, s => (.done (.error e), s)
  | read k, φ, s => (k s).exec φ s
  | step f k _, [], s => k.exec [] (f s)
  | step f k _, .ok :: φ, s => k.exec φ (f s)
  | step _ _ h, .fault :: φ, s => h.exec φ s
  | step _ _ _, .crash :: _, s => (.crashed, s)

/-- The undisturbed run. -/
def run : Prog σ ε α → σ → Except ε α × σ
  | ret a, s => (.ok a, s)
  | fail e, s => (.error e, s)
  | read k, s => (k s).run s
  | step f k _, s => k.run (f s)

theorem exec_nil : ∀ (p : Prog σ ε α) (s : σ), p.exec [] s = (.done (p.run s).1, (p.run s).2)
  | ret _, _ | fail _, _ => rfl
  | read k, s => exec_nil (k s) s
  | step f k _, s => exec_nil k (f s)

/-- A result computed at the end changes nothing else. -/
theorem exec_bind_ret_snd (g : α → β) : ∀ (p : Prog σ ε α) (φ : List Fate) (s : σ),
    ((p.bind fun a => ret (g a)).exec φ s).2 = (p.exec φ s).2
  | ret _, _, _ | fail _, _, _ => rfl
  | read k, φ, s => exec_bind_ret_snd g (k s) φ s
  | step f k _, [], s => exec_bind_ret_snd g k [] (f s)
  | step f k _, .ok :: φ, s => exec_bind_ret_snd g k φ (f s)
  | step _ _ h, .fault :: φ, s => exec_bind_ret_snd g h φ s
  | step _ _ _, .crash :: _, _ => rfl

@[simp] theorem pure_eq (a : α) : (pure a : Prog σ ε α) = ret a := rfl

@[simp] theorem bind_eq (p : Prog σ ε α) (g : α → Prog σ ε β) : p >>= g = p.bind g := rfl

theorem bind_assoc {γ : Type} : ∀ (p : Prog σ ε α) (g : α → Prog σ ε β) (h : β → Prog σ ε γ),
    (p.bind g).bind h = p.bind fun a => (g a).bind h
  | ret _, _, _ | fail _, _, _ => rfl
  | read k, g, h => congrArg read (funext fun s => bind_assoc (k s) g h)
  | step f k e, g, h => by simp only [bind, bind_assoc k g h, bind_assoc e g h]

theorem run_bind : ∀ (p : Prog σ ε α) (g : α → Prog σ ε β) (s : σ),
    (p.bind g).run s = match p.run s with
      | (.ok a, s') => (g a).run s'
      | (.error e, s') => (.error e, s')
  | ret _, _, _ | fail _, _, _ => rfl
  | read k, g, s => run_bind (k s) g s
  | step f k _, g, s => run_bind k g (f s)

variable (f : σ → Except ε α)

theorem run_reading (s : σ) : (reading f).run s = (f s, s) := by
  simp only [reading, run]
  cases f s <;> rfl

/-! ## Weakest preconditions -/

/-- Whatever becomes of the steps of `p` started in `s`, a crash leaves a state
    with `C`, and a return satisfies `Q`. -/
def wp (C : σ → Prop) : Prog σ ε α → (Except ε α → σ → Prop) → σ → Prop
  | ret a, Q, s => Q (.ok a) s
  | fail e, Q, s => Q (.error e) s
  | read k, Q, s => (k s).wp C Q s
  | step f k h, Q, s => C s ∧ k.wp C Q (f s) ∧ h.wp C Q s

variable {Q : Except ε α → σ → Prop} {p : Prog σ ε α} {s : σ}

section
variable {C : σ → Prop}

theorem wp_exec : ∀ {p : Prog σ ε α} {Q : Except ε α → σ → Prop} {s : σ}, p.wp C Q s →
    ∀ φ : List Fate, match p.exec φ s with
      | (.done r, s') => Q r s'
      | (.crashed, s') => C s'
  | ret _, _, _, h, _ | fail _, _, _, h, _ => h
  | read k, _, s, h, φ => wp_exec (p := k s) h φ
  | step _ _ _, _, _, h, [] => wp_exec h.2.1 []
  | step _ _ _, _, _, h, .ok :: φ => wp_exec h.2.1 φ
  | step _ _ _, _, _, h, .fault :: φ => wp_exec h.2.2 φ
  | step _ _ _, _, _, h, .crash :: _ => h.1

/-- The undisturbed run is one of the runs `wp` speaks about. -/
theorem wp_run (h : p.wp C Q s) : Q (p.run s).1 (p.run s).2 := by
  have hx := wp_exec h []
  rwa [exec_nil] at hx

theorem wp_mono : ∀ {p : Prog σ ε α} {Q Q' : Except ε α → σ → Prop} {s : σ},
    (∀ r s, Q r s → Q' r s) → p.wp C Q s → p.wp C Q' s
  | ret _, _, _, _, hQ, h | fail _, _, _, _, hQ, h => hQ _ _ h
  | read k, _, _, s, hQ, h => wp_mono (p := k s) hQ h
  | step _ _ _, _, _, _, hQ, h => ⟨h.1, wp_mono hQ h.2.1, wp_mono hQ h.2.2⟩

theorem wp_true : ∀ (p : Prog σ ε α) (s : σ), p.wp (fun _ => True) (fun _ _ => True) s
  | ret _, _ | fail _, _ => trivial
  | read k, s => wp_true (k s) s
  | step f k h, s => ⟨trivial, wp_true k (f s), wp_true h s⟩

theorem wp_crash_mono {C' : σ → Prop} (hC : ∀ s, C s → C' s) : ∀ {p : Prog σ ε α}
    {Q : Except ε α → σ → Prop} {s : σ}, p.wp C Q s → p.wp C' Q s
  | ret _, _, _, h | fail _, _, _, h => h
  | read k, _, s, h => wp_crash_mono (p := k s) hC h
  | step _ _ _, _, _, h => ⟨hC _ h.1, wp_crash_mono hC h.2.1, wp_crash_mono hC h.2.2⟩

@[simp] theorem wp_ret (a : α) (Q : Except ε α → σ → Prop) (s : σ) :
    (ret a : Prog σ ε α).wp C Q s ↔ Q (.ok a) s := Iff.rfl

@[simp] theorem wp_fail (e : ε) (Q : Except ε α → σ → Prop) (s : σ) :
    (fail e : Prog σ ε α).wp C Q s ↔ Q (.error e) s := Iff.rfl

@[simp] theorem wp_asking (f : σ → α) (Q : Except ε α → σ → Prop) (s : σ) :
    (asking f : Prog σ ε α).wp C Q s ↔ Q (.ok (f s)) s := Iff.rfl

@[simp] theorem wp_reading (Q : Except ε α → σ → Prop) (s : σ) :
    (reading f).wp C Q s ↔ Q (f s) s := by
  simp only [reading, wp]
  cases f s <;> rfl

@[simp] theorem wp_sys (e : ε) (f : σ → σ) (Q : Except ε Unit → σ → Prop) (s : σ) :
    (sys e f).wp C Q s ↔ C s ∧ Q (.ok ()) (f s) ∧ Q (.error e) s := Iff.rfl

@[simp] theorem wp_require (c : Prop) [Decidable c] (e : ε) (Q : Except ε Unit → σ → Prop) (s : σ) :
    (require c e : Prog σ ε Unit).wp C Q s ↔ (c → Q (.ok ()) s) ∧ (¬ c → Q (.error e) s) := by
  by_cases h : c <;> simp [require, h]

/-- What must hold when `p` returns for `p.bind g` to be right. -/
def andThen (C : σ → Prop) (g : α → Prog σ ε β) (Q : Except ε β → σ → Prop) : Except ε α → σ → Prop
  | .ok a, s => (g a).wp C Q s
  | .error e, s => Q (.error e) s

@[simp] theorem andThen_ok (g : α → Prog σ ε β) (Q : Except ε β → σ → Prop) (a : α) (s : σ) :
    andThen C g Q (.ok a) s ↔ (g a).wp C Q s := Iff.rfl

@[simp] theorem andThen_error (g : α → Prog σ ε β) (Q : Except ε β → σ → Prop) (e : ε) (s : σ) :
    andThen C g Q (.error e) s ↔ Q (.error e) s := Iff.rfl

@[simp] theorem wp_bind : ∀ (p : Prog σ ε α) (g : α → Prog σ ε β) (Q : Except ε β → σ → Prop)
    (s : σ), (p.bind g).wp C Q s ↔ p.wp C (andThen C g Q) s
  | ret _, _, _, _ | fail _, _, _, _ => Iff.rfl
  | read k, g, Q, s => wp_bind (k s) g Q s
  | step f k h, g, Q, s => by simp only [bind, wp, wp_bind k g, wp_bind h g]

variable {g : α → Prog σ ε β} {Q : Except ε β → σ → Prop}

theorem wp_asking_bind {f : σ → α} (h : (g (f s)).wp C Q s) : ((asking f).bind g).wp C Q s := h

theorem wp_reading_bind {f : σ → Except ε α}
    (he : ∀ e, f s = .error e → Q (.error e) s) (h : ∀ a, f s = .ok a → (g a).wp C Q s) :
    ((reading f).bind g).wp C Q s := by
  rw [wp_bind, wp_reading]
  cases hf : f s with
  | ok a => exact h a hf
  | error e => exact he e hf

theorem wp_require_bind {c : Prop} [Decidable c] {e : ε} {g : Unit → Prog σ ε β}
    (he : ¬ c → Q (.error e) s) (h : c → (g ()).wp C Q s) :
    ((require c e : Prog σ ε Unit).bind g).wp C Q s := by
  rw [wp_bind, wp_require]
  exact ⟨h, he⟩

theorem wp_sys_bind {e : ε} {f : σ → σ} {g : Unit → Prog σ ε β}
    (hC : C s) (he : Q (.error e) s) (h : (g ()).wp C Q (f s)) : ((sys e f).bind g).wp C Q s := by
  rw [wp_bind, wp_sys]
  exact ⟨hC, h, he⟩

/-- A property of successful results only depends on what runs last. -/
theorem wp_last {R : β → σ → Prop}
    (h : ∀ a s', (g a).wp (fun _ => True) (fun r s'' => ∀ b, r = .ok b → R b s'') s') :
    (p.bind g).wp (fun _ => True) (fun r s'' => ∀ b, r = .ok b → R b s'') s := by
  refine (wp_bind _ _ _ _).2 (wp_mono (fun r s' _ => ?_) (wp_true p s))
  cases r with
  | ok a => exact h a s'
  | error e => exact fun b he => by cases he

@[simp] theorem wp_attempt : ∀ (p : Prog σ ε α) (Q : Except ε (Except ε α) → σ → Prop) (s : σ),
    p.attempt.wp C Q s ↔ p.wp C (fun r => Q (.ok r)) s
  | ret _, _, _ | fail _, _, _ => Iff.rfl
  | read k, Q, s => wp_attempt (k s) Q s
  | step f k h, Q, s => by simp only [attempt, wp, wp_attempt k, wp_attempt h]

end

/-! ## Invariants -/

/-- Started where `P` holds, `p` stops only where `P` holds. -/
def Keeps (P : σ → Prop) (p : Prog σ ε α) : Prop := ∀ s, P s → p.wp P (fun _ => P) s

variable {g : α → Prog σ ε β}

namespace Keeps
variable {P : σ → Prop}

theorem ret (a : α) : (Prog.ret a : Prog σ ε α).Keeps P := fun _ h => h

theorem fail (e : ε) : (Prog.fail e : Prog σ ε α).Keeps P := fun _ h => h

variable {p : Prog σ ε α}

theorem bind (hp : p.Keeps P) (hg : ∀ a, (g a).Keeps P) : (p.bind g).Keeps P := by
  intro s hs
  refine (wp_bind _ _ _ _).2 (wp_mono (fun r s' hr => ?_) (hp s hs))
  cases r with
  | ok a => exact hg a s' hr
  | error e => exact hr

theorem asking (f : σ → α) : (Prog.asking f : Prog σ ε α).Keeps P := fun _ h => h

theorem reading : (Prog.reading f).Keeps P := fun _ h => (wp_reading _ _ _).2 h

theorem require (c : Prop) [Decidable c] (e : ε) : (Prog.require c e : Prog σ ε Unit).Keeps P :=
  fun _ h => (wp_require _ _ _ _).2 ⟨fun _ => h, fun _ => h⟩

theorem sys {e : ε} {f : σ → σ} (hf : ∀ s, P s → P (f s)) : (Prog.sys e f).Keeps P :=
  fun s h => ⟨h, hf s h, h⟩

theorem attempt (hp : p.Keeps P) : p.attempt.Keeps P :=
  fun s h => (wp_attempt _ _ _).2 (hp s h)

theorem stronger {P' : σ → Prop} (h : p.Keeps P') (hs : P' s) (hP : ∀ s, P' s → P s) :
    p.wp P (fun _ => P) s :=
  wp_mono (fun _ => hP) (wp_crash_mono hP (h s hs))

end Keeps

/-! ## Moves -/

/-- Every step of `p`, on every branch, takes a state to one related by `T`. -/
def Moves (T : σ → σ → Prop) : Prog σ ε α → Prop
  | ret _ => True
  | fail _ => True
  | read k => ∀ s, (k s).Moves T
  | step f k h => (∀ s, T s (f s)) ∧ k.Moves T ∧ h.Moves T

variable {C : σ → Prop}

namespace Moves
variable {T : σ → σ → Prop}

theorem bind : ∀ {p : Prog σ ε α} {g : α → Prog σ ε β}, p.Moves T → (∀ a, (g a).Moves T) →
    (p.bind g).Moves T
  | ret _, _, _, hg => hg _
  | fail _, _, _, _ => trivial
  | read _, _, hp, hg => fun s => bind (hp s) hg
  | step _ _ _, _, hp, hg => ⟨hp.1, bind hp.2.1 hg, bind hp.2.2 hg⟩

theorem attempt : ∀ {p : Prog σ ε α}, p.Moves T → p.attempt.Moves T
  | ret _, _ | fail _, _ => trivial
  | read _, hp => fun s => attempt (hp s)
  | step _ _ _, hp => ⟨hp.1, attempt hp.2.1, attempt hp.2.2⟩

theorem sys {e : ε} {f : σ → σ} (h : ∀ s, T s (f s)) : (Prog.sys e f).Moves T :=
  ⟨h, trivial, trivial⟩

theorem asking (f : σ → α) : (Prog.asking f : Prog σ ε α).Moves T := fun _ => trivial

theorem reading : (Prog.reading f).Moves T := by
  intro s
  change Moves T (match f s with | .ok a => ret a | .error e => fail e)
  cases f s <;> trivial

theorem require (c : Prop) [Decidable c] (e : ε) : (Prog.require c e : Prog σ ε Unit).Moves T := by
  by_cases h : c <;> simp [Prog.require, h, Moves]

/-- The frame rule: an execution of any fate is a chain of `T`-moves. -/
theorem exec : ∀ {p : Prog σ ε α}, p.Moves T → ∀ (φ : List Fate) (s : σ),
    Relation.ReflTransGen T s (p.exec φ s).2
  | ret _, _, _, _ | fail _, _, _, _ => .refl
  | read _, h, φ, s => exec (h s) φ s
  | step _ _ _, h, [], s => .head (h.1 s) (exec h.2.1 [] _)
  | step _ _ _, h, .ok :: φ, s => .head (h.1 s) (exec h.2.1 φ _)
  | step _ _ _, h, .fault :: φ, s => exec h.2.2 φ s
  | step _ _ _, _, .crash :: _, _ => .refl

theorem run_idle (h : p.Moves Eq) (s : σ) : (p.run s).2 = s := by
  have he := h.exec [] s
  rw [exec_nil] at he
  generalize (p.run s).2 = s' at he
  induction he with
  | refl => rfl
  | tail _ h ih => exact h.symm.trans ih

/-- What a chain of `T`-moves keeps holds wherever the program stops. -/
theorem wp : ∀ {p : Prog σ ε α} {s : σ}, p.Moves T →
    (∀ s', Relation.ReflTransGen T s s' → C s') → (∀ r s', Relation.ReflTransGen T s s' → Q r s') →
    p.wp C Q s
  | ret _, s, _, _, hQ | fail _, s, _, _, hQ => hQ _ s .refl
  | read k, s, h, hC, hQ => wp (p := k s) (h s) hC hQ
  | step _ _ _, s, h, hC, hQ =>
    ⟨hC s .refl, wp h.2.1 (fun s' hs => hC s' (.head (h.1 s) hs)) fun r s' hs =>
      hQ r s' (.head (h.1 s) hs), wp h.2.2 hC hQ⟩

end Moves

/-! ## Properties that compose -/

/-- A property of programs that reading has and that sequencing keeps. -/
structure Compositional (Φ : (α : Type) → Prog σ ε α → Prop) : Prop where
  ret {α : Type} (a : α) : Φ α (ret a)
  fail {α : Type} (e : ε) : Φ α (fail e)
  read {α : Type} {k : σ → Prog σ ε α} : (∀ s, Φ α (k s)) → Φ α (read k)
  idle (e : ε) : Φ Unit (sys e id)
  bind {α β : Type} {p : Prog σ ε α} {g : α → Prog σ ε β} : Φ α p → (∀ a, Φ β (g a)) →
    Φ β (p.bind g)
  attempt {α : Type} {p : Prog σ ε α} : Φ α p → Φ (Except ε α) p.attempt

theorem Keeps.compositional (P : σ → Prop) : Compositional fun _ (p : Prog σ ε _) => p.Keeps P :=
  ⟨.ret, .fail, fun h s => h s s, fun _ => .sys fun _ => id, .bind, .attempt⟩

theorem Moves.compositional {T : σ → σ → Prop} (hT : ∀ s, T s s) :
    Compositional fun _ (p : Prog σ ε _) => p.Moves T :=
  ⟨fun _ => trivial, fun _ => trivial, id, fun _ => .sys hT, .bind, .attempt⟩

namespace Compositional
variable {Φ : (α : Type) → Prog σ ε α → Prop} (h : Compositional Φ)
include h

theorem asking (f : σ → α) : Φ _ (asking f) := h.read fun _ => h.ret _

/-- What follows a lookup only has to be known for values the lookup can give. -/
theorem asking_bind {f : σ → α} (hg : ∀ s, Φ _ (g (f s))) :
    Φ _ ((Prog.asking f).bind g) := h.read hg

theorem reading : Φ _ (reading f) := by
  refine h.read fun s => ?_
  split
  · exact h.ret _
  · exact h.fail _

theorem reading_bind {f : σ → Except ε α} (hg : ∀ a, Φ _ (g a)) : Φ _ ((Prog.reading f).bind g) :=
  h.bind (h.reading f) hg

theorem require (c : Prop) [Decidable c] (e : ε) : Φ _ (require c e) := by
  rw [Prog.require]
  split
  · exact h.ret _
  · exact h.fail _

theorem require_bind {c : Prop} [Decidable c] {e : ε} {g : Unit → Prog σ ε α}
    (hg : ∀ u, Φ _ (g u)) :
    Φ _ ((Prog.require c e).bind g) := h.bind (h.require c e) hg

theorem onError {q : Prog σ ε Unit} (hp : Φ _ p) (hq : Φ _ q) : Φ _ (p.onError q) := by
  refine h.bind (h.attempt hp) fun r => ?_
  cases r with
  | ok a => exact h.ret a
  | error e => exact h.bind (h.attempt hq) fun _ => h.fail e

theorem forEach {g : α → Prog σ ε Unit} : ∀ {as : List α}, (∀ a ∈ as, Φ _ (g a)) →
    Φ _ (forEach as g)
  | [], _ => h.ret ()
  | a :: _, hg => h.bind (hg a (by simp)) fun _ => forEach fun b hb => hg b (by simp [hb])

end Compositional

/-! ## Results -/

/-- Every result `p` can return, on every branch, satisfies `R`. -/
def Yields (R : α → Prop) : Prog σ ε α → Prop
  | ret a => R a
  | fail _ => True
  | read k => ∀ s, (k s).Yields R
  | step _ k h => k.Yields R ∧ h.Yields R

theorem Yields.bind {R : β → Prop} : ∀ {p : Prog σ ε α} {g : α → Prog σ ε β},
    (∀ a, (g a).Yields R) →
    (p.bind g).Yields R
  | ret _, _, h => h _
  | fail _, _, _ => trivial
  | read _, _, h => fun _ => Yields.bind h
  | step _ _ _, _, h => ⟨Yields.bind h, Yields.bind h⟩

variable {R : α → Prop}

/-- What follows only has to be known for the values `p` yields. -/
theorem Yields.bind_of {R' : β → Prop} : ∀ {p : Prog σ ε α} {g : α → Prog σ ε β},
    p.Yields R → (∀ a, R a → (g a).Yields R') → (p.bind g).Yields R'
  | ret _, _, hp, h => h _ hp
  | fail _, _, _, _ => trivial
  | read _, _, hp, h => fun s => Yields.bind_of (hp s) h
  | step _ _ _, _, hp, h => ⟨Yields.bind_of hp.1 h, Yields.bind_of hp.2 h⟩

theorem Yields.wp : ∀ {p : Prog σ ε α} {s : σ},
    p.Yields R → p.wp C Q s → p.wp C (fun r s => Q r s ∧ ∀ a, r = .ok a → R a) s
  | ret _, _, h, hQ => ⟨hQ, fun _ e => by cases e; exact h⟩
  | fail _, _, _, hQ => ⟨hQ, fun _ e => by cases e⟩
  | read k, s, h, hQ => Yields.wp (p := k s) (h s) hQ
  | step _ _ _, _, h, hQ => ⟨hQ.1, Yields.wp h.1 hQ.2.1, Yields.wp h.2 hQ.2.2⟩

/-- What a program yields is all that its successful results have to satisfy. -/
theorem Yields.wp_ok : ∀ {p : Prog σ ε α} {s : σ}, p.Yields R →
    p.wp (fun _ => True) (fun r _ => ∀ a, r = .ok a → R a) s
  | ret _, _, h => fun _ e => by cases e; exact h
  | fail _, _, _ => fun _ e => by cases e
  | read k, s, h => Yields.wp_ok (p := k s) (h s)
  | step _ _ _, _, h => ⟨trivial, Yields.wp_ok h.1, Yields.wp_ok h.2⟩

/-! ## Runs without a step -/

/-- Started in `s`, `p` ends with `r` without taking a step. -/
def Settles (s : σ) : Prog σ ε α → Except ε α → Prop
  | ret a, r => r = .ok a
  | fail e, r => r = .error e
  | read k, r => (k s).Settles s r
  | step _ _ _, _ => False

namespace Settles
variable {s : σ}

theorem exec : ∀ {p : Prog σ ε α} {r : Except ε α}, p.Settles s r → ∀ φ, p.exec φ s = (.done r, s)
  | ret _, _, h, _ | fail _, _, h, _ => by cases h; rfl
  | read k, _, h, φ => exec (p := k s) h φ

theorem run : ∀ {p : Prog σ ε α} {r : Except ε α}, p.Settles s r → p.run s = (r, s)
  | ret _, _, h | fail _, _, h => by cases h; rfl
  | read k, _, h => run (p := k s) h

theorem ret (a : α) : (Prog.ret a : Prog σ ε α).Settles s (.ok a) := rfl

theorem fail (e : ε) : (Prog.fail e : Prog σ ε α).Settles s (.error e) := rfl

theorem bind : ∀ {p : Prog σ ε α} {g : α → Prog σ ε β} {a : α} {r : Except ε β},
    p.Settles s (.ok a) →
    (g a).Settles s r → (p.bind g).Settles s r
  | .ret _, _, _, _, h, hg => by cases h; exact hg
  | .fail _, _, _, _, h, _ => by cases h
  | .read k, _, _, _, h, hg => bind (p := k s) h hg

theorem asking_bind {f : σ → α} {r : Except ε β} (h : (g (f s)).Settles s r) :
    ((Prog.asking f).bind g).Settles s r := h

theorem bind_error : ∀ {p : Prog σ ε α} {g : α → Prog σ ε β} {e : ε}, p.Settles s (.error e) →
    (p.bind g).Settles s (.error e)
  | .ret _, _, _, h => by cases h
  | .fail _, _, _, h => by cases h; rfl
  | .read k, _, _, h => bind_error (p := k s) h

theorem wp : ∀ {p : Prog σ ε α} {r : Except ε α},
    p.Settles s r → Q r s → p.wp C Q s
  | .ret _, _, h, hQ | .fail _, _, h, hQ => by cases h; exact hQ
  | .read k, _, h, hQ => wp (p := k s) h hQ

/-- What follows a program that takes no step runs in the same state. -/
theorem wp_bind {Q : Except ε β → σ → Prop} : ∀ {p : Prog σ ε α} {g : α → Prog σ ε β}
    {r : Except ε α}, p.Settles s r → (∀ e, r = .error e → Q (.error e) s) →
    (∀ a, r = .ok a → (g a).wp C Q s) → (p.bind g).wp C Q s
  | .ret _, _, _, h, _, hg => hg _ h
  | .fail _, _, _, h, he, _ => he _ h
  | .read k, _, _, h, he, hg => wp_bind (p := k s) h he hg

theorem reading : (Prog.reading f).Settles s (f s) := by
  change Settles s (match f s with | .ok a => .ret a | .error e => .fail e) (f s)
  cases f s <;> rfl

theorem reading_ok {f : σ → Except ε α} {a : α} (h : f s = .ok a) :
    (Prog.reading f).Settles s (.ok a) :=
  h ▸ reading f

variable {e : ε}

theorem reading_error {f : σ → Except ε α} (h : f s = .error e) :
    (Prog.reading f).Settles s (.error e) :=
  h ▸ reading f

theorem require (c : Prop) [Decidable c] (e : ε) :
    (Prog.require c e : Prog σ ε Unit).Settles s (if c then .ok () else .error e) := by
  by_cases h : c <;> simp [Prog.require, h, Settles]

theorem require_ok {c : Prop} [Decidable c] (h : c) :
    (Prog.require c e : Prog σ ε Unit).Settles s (.ok ()) := by
  simp [Prog.require, h, Settles]

theorem require_error {c : Prop} [Decidable c] (h : ¬ c) :
    (Prog.require c e : Prog σ ε Unit).Settles s (.error e) := by
  simp [Prog.require, h, Settles]

end Settles

end Prog

end Crash
