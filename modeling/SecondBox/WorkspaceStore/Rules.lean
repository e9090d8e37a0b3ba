/-
  Proof rules for the store's building blocks.

  Publishing a record leaves either the old disk or the one with the record in
  place, up to temporary files, whatever interrupts it (`wp_atomicJSON`); a
  mutation either replays a receipt, or runs its body on a disk without one and
  then records it (`wp_mutate`).  `Store.step_of_wp` lifts a result about the
  program of a call to the step of the store.
-/
import SecondBox.WorkspaceStore.Frame

namespace SecondBox.WorkspaceStore

open Crash Crash.Prog

variable {α : Type} {C : Disk → Prop} {d : Disk}

/-- The disk with other temporary files. -/
def Disk.withTemps (d : Disk) (ts : List Temp) : Disk := { d with temps := ts }

@[simp] theorem Disk.withTemps_temps (d : Disk) : d.withTemps d.temps = d := rfl

@[simp] theorem Disk.withTemps_withTemps (d : Disk) (ts us : List Temp) :
    (d.withTemps ts).withTemps us = d.withTemps us := rfl

theorem Disk.addTemp_eq (t : Temp) (d : Disk) : d.addTemp t = d.withTemps (d.temps.insert t) := rfl

theorem Disk.removeTemp_eq (t : Temp) (d : Disk) :
    d.removeTemp t = d.withTemps (d.temps.filter (· ≠ t)) := rfl

@[simp] theorem wp_sync (Q : Except StoreErr Unit → Disk → Prop) :
    sync.wp C Q d ↔ C d ∧ Q (.ok ()) d ∧ Q (.error .io) d := Iff.rfl

@[simp] theorem wp_requireDir (p : Dir) (Q : Except StoreErr Unit → Disk → Prop) :
    (requireDir p).wp C Q d ↔ (p ∈ d.dirs → Q (.ok ()) d) ∧
      (p ∉ d.dirs → Q (.error .notExist) d) := by
  simp [requireDir]

@[simp] theorem wp_syncDir (p : Dir) (Q : Except StoreErr Unit → Disk → Prop) :
    (syncDir p).wp C Q d ↔ (p ∈ d.dirs → C d ∧ Q (.ok ()) d ∧ Q (.error .io) d) ∧
      (p ∉ d.dirs → Q (.error .notExist) d) := by
  simp [syncDir]

/-- Where an interrupted `atomicJSON` can stop. -/
theorem wp_atomicJSON {target : Record} {publish : Disk → Disk}
    {Q : Except StoreErr Unit → Disk → Prop}
    (comm : ∀ ts, publish (d.withTemps ts) = (publish d).withTemps ts)
    (old : ∀ ts, C (d.withTemps ts)) (oldErr : ∀ e ts, Q (.error e) (d.withTemps ts))
    (new : (∀ p, target.dir = some p → p ∈ d.dirs) → ∀ ts, C ((publish d).withTemps ts))
    (newErr : (∀ p, target.dir = some p → p ∈ d.dirs) → ∀ ts, Q (.error .io) ((publish d).withTemps ts))
    (done : (∀ p, target.dir = some p → p ∈ d.dirs) → ∀ ts, Q (.ok ()) ((publish d).withTemps ts)) :
    (atomicJSON target publish).wp C Q d := by
  have body : (∀ p, target.dir = some p → p ∈ d.dirs) → (do
      let n ← asking (Disk.freshTmp target)
      sys .io (Disk.addTemp (.json target n))
      onError (do
          sync
          sys .io fun d => publish (d.removeTemp (.json target n)))
        (sys .io (Disk.removeTemp (.json target n)))
      sync : Op Unit).wp C Q d := by
    intro hdir
    simp only [wp_sys, wp_asking, onError, bind_eq, wp_bind, wp_attempt, wp_sync, wp_ret, wp_fail,
      andThen_ok, andThen_error, Disk.addTemp_eq, Disk.removeTemp_eq, Disk.withTemps_withTemps,
      comm]
    exact ⟨old d.temps,
      ⟨old _, ⟨old _, ⟨new hdir _, done hdir _, newErr hdir _⟩, old _, oldErr _ _, oldErr _ _⟩,
      old _, oldErr _ _, oldErr _ _⟩, oldErr _ d.temps⟩
  unfold atomicJSON requireRecordDir
  cases ht : target.dir with
  | none => exact body (by simp [ht])
  | some p =>
    rw [bind_eq, wp_bind, wp_requireDir]
    exact ⟨fun hp => body (by simpa [ht] using hp), fun _ => oldErr _ d.temps⟩

variable {w : ID}

/-- Where an interrupted `publishCurrentManifest` can stop. -/
theorem wp_publishCurrentManifest {m : CurrentManifest}
    {Q : Except StoreErr Unit → Disk → Prop} (old : ∀ ts, C (d.withTemps ts))
    (oldErr : ∀ e ts, Q (.error e) (d.withTemps ts))
    (new : 1 ≤ m.generation → .part w .manifest ∈ d.dirs → ∀ ts, C ((d.setManifest w m).withTemps ts))
    (newErr : 1 ≤ m.generation → .part w .manifest ∈ d.dirs → ∀ ts,
      Q (.error .io) ((d.setManifest w m).withTemps ts))
    (done : 1 ≤ m.generation → .part w .manifest ∈ d.dirs → ∀ ts, Q (.ok ()) ((d.setManifest w m).withTemps ts)) :
    (publishCurrentManifest w m).wp C Q d := by
  unfold publishCurrentManifest
  simp only [bind_eq, wp_bind, wp_require]
  refine ⟨fun h => ?_, fun _ => oldErr _ d.temps⟩
  exact wp_atomicJSON (fun _ => rfl) old oldErr (fun hd => new h.2.2.1 (hd _ rfl))
    (fun hd => newErr h.2.2.1 (hd _ rfl)) fun hd => done h.2.2.1 (hd _ rfl)

variable {env : Env}

theorem wp_lock_bind {β : Type} {g : Unit → Op β} {Q : Except StoreErr β → Disk → Prop}
    (he : ∀ e, Q (.error e) d) (h : env.held w = false → (g ()).wp C Q d) :
    ((lockWorkspace env w).bind g).wp C Q d := by
  simp only [lockWorkspace, bind_eq, wp_bind, wp_reading]
  cases validateID w with
  | error e => exact he e
  | ok _ => exact (wp_require _ _ _ _).2 ⟨h, fun _ => he _⟩

/-- A mutation returns an error at once, replays its receipt, or runs its body
    where there was no receipt and records one. -/
theorem wp_mutate {request : Json} {m : Mutation} {kind : ReceiptKind} {apply : Op Receipt}
    {Q : Except StoreErr Receipt → Disk → Prop} (err : ∀ e, Q (.error e) d)
    (hit : ∀ r, validateMutation m = .ok () →
      loadReceipt m ⟨m.fencingToken, request⟩ kind d = .ok (some r) → Q (.ok r) d)
    (miss : loadReceipt m ⟨m.fencingToken, request⟩ kind d = .ok none → validateMutation m = .ok () →
      env.held m.workspaceID = false → apply.wp C (andThen C (fun r => recordReceipt env { r with
        kind := kind, operationID := m.operationID, workspaceID := m.workspaceID,
        inputDigest := ⟨m.fencingToken, request⟩ }) Q) d) :
    (mutate env request m kind apply).wp C Q d := by
  unfold mutate
  simp only [bind_eq, pure_eq, wp_bind, wp_reading]
  cases hv : validateMutation m with
  | error e => exact err e
  | ok u =>
    simp only [andThen_ok, wp_bind, wp_reading, inputDigest]
    split
    · exact err _
    · simp only [andThen_ok, wp_bind, wp_reading]
      · cases hl : loadReceipt m ⟨m.fencingToken, request⟩ kind d with
        | error e => exact err e
        | ok found =>
          cases found with
          | some r => exact hit r hv hl
          | none =>
            simp only [lockWorkspace, bind_eq]
            cases validateID m.workspaceID with
            | error e => exact err e
            | ok u =>
              simp only [andThen_ok, wp_require, wp_bind, wp_reading, hl]
              exact ⟨fun hh => miss hl hv hh, fun _ => err _⟩

/-! ## Invariants of programs -/

section
variable {β : Type} {P : Disk → Prop} {S : Record → Prop} {I : ImageFile → Prop} {D : Dir → Prop}

/-- `P` holds wherever `p`, started on `d`, can stop. -/
abbrev Always (P : Disk → Prop) (p : Op α) (d : Disk) : Prop := p.wp P (fun _ => P) d

variable {p : Op α}

theorem Touches.always (h : Touches S I D p) (hP : ∀ d', Within S I D d d' → P d') : Always P p d :=
  h.wp hP fun _ => hP

variable {g : α → Op β}

theorem Touches.always_bind (h : Touches S I D p)
    (hP : ∀ d', Within S I D d d' → P d') (hg : ∀ a d', Within S I D d d' → Always P (g a) d') :
    Always P (p.bind g) d := by
  rw [Always, wp_bind]
  refine h.wp hP fun r d' hd => ?_
  cases r with
  | ok a => exact hg a d' hd
  | error e => exact hP d' hd

theorem always_reading_bind {f : Disk → Except StoreErr α} (h : P d)
    (hg : ∀ a, f d = .ok a → Always P (g a) d) : Always P ((reading f).bind g) d :=
  wp_reading_bind (fun _ _ => h) hg

theorem always_asking_bind {f : Disk → α} (hg : Always P (g (f d)) d) :
    Always P ((asking f).bind g) d := hg

variable {g : Unit → Op β}

theorem always_require_bind {c : Prop} [Decidable c] {e : StoreErr} (h : P d)
    (hg : c → Always P (g ()) d) : Always P ((require c e : Op Unit).bind g) d :=
  wp_require_bind (fun _ => h) hg

theorem always_requireDir_bind {p : Dir} (h : P d) (hg : p ∈ d.dirs → Always P (g ()) d) :
    Always P ((requireDir p).bind g) d :=
  (wp_bind _ _ _ _).2 ((wp_requireDir _ _).2 ⟨hg, fun _ => h⟩)

theorem always_syncDir_bind {p : Dir} (h : P d) (hg : Always P (g ()) d) :
    Always P ((syncDir p).bind g) d :=
  (wp_bind _ _ _ _).2 ((wp_syncDir _ _).2 ⟨fun _ => ⟨h, hg, h⟩, fun _ => h⟩)

theorem always_sys_bind {e : StoreErr} {f : Disk → Disk} (h : P d)
    (hg : Always P (g ()) (f d)) : Always P ((sys e f : Op Unit).bind g) d :=
  wp_sys_bind h h hg

/-- The shape of most calls: a program, then only the handles change. -/
theorem always_ret_bind {g : α → β} (h : Always P p d) : Always P (p.bind fun a => ret (g a)) d :=
  (wp_bind _ _ _ _).2 (wp_mono (fun r _ hd => by cases r <;> exact hd) h)

theorem always_bind_keeps {g : α → Op β} (h : Always P p d) (hg : ∀ a, (g a).Keeps P) :
    Always P (p.bind g) d := by
  refine (wp_bind _ _ _ _).2 (wp_mono (fun r d' hd => ?_) h)
  cases r with
  | ok a => exact hg a d' hd
  | error e => exact hd

theorem always_lock_bind (h : P d)
    (hg : env.held w = false → Always P (g ()) d) : Always P ((lockWorkspace env w).bind g) d :=
  wp_lock_bind (fun _ => h) hg

theorem always_atomicJSON_bind {target : Record} {publish : Disk → Disk}
    (comm : ∀ ts, publish (d.withTemps ts) = (publish d).withTemps ts)
    (old : ∀ ts, P (d.withTemps ts))
    (new : (∀ p, target.dir = some p → p ∈ d.dirs) → ∀ ts, P ((publish d).withTemps ts))
    (hg : (∀ p, target.dir = some p → p ∈ d.dirs) → ∀ ts, Always P (g ()) ((publish d).withTemps ts)) :
    Always P ((atomicJSON target publish).bind g) d := by
  rw [Always, wp_bind]
  exact wp_atomicJSON comm old (fun _ => old) new new hg

theorem always_publish_bind {m : CurrentManifest} (old : ∀ ts, P (d.withTemps ts))
    (new : 1 ≤ m.generation → .part w .manifest ∈ d.dirs → ∀ ts, P ((d.setManifest w m).withTemps ts))
    (hg : 1 ≤ m.generation → .part w .manifest ∈ d.dirs →
    ∀ ts, Always P (g ()) ((d.setManifest w m).withTemps ts)) :
    Always P ((publishCurrentManifest w m).bind g) d := by
  rw [Always, wp_bind]
  exact wp_publishCurrentManifest old (fun _ => old) new new hg

/-- The invariant of a mutation is that of its body, if recording a receipt keeps it. -/
theorem always_mutate {request : Json} {m : Mutation} {kind : ReceiptKind} {apply : Op Receipt}
    (h : P d) (ha : loadReceipt m ⟨m.fencingToken, request⟩ kind d = .ok none →
      validateMutation m = .ok () →
      env.held m.workspaceID = false → Always P apply d)
    (hr : ∀ d' d'', P d' → Within (· = .receipt m.workspaceID m.operationID kind) (fun _ => False)
      (fun _ => False) d' d'' → P d'') : Always P (mutate env request m kind apply) d := by
  refine wp_mutate (fun _ => h) (fun _ _ _ => h) fun hl hv hh =>
    wp_mono (fun r d' hd => ?_) (ha hl hv hh)
  cases r with
  | error e => exact hd
  | ok r =>
    exact Touches.always (S := (· = .receipt m.workspaceID m.operationID kind))
      (.recordReceipt env rfl)
      fun d'' => hr d' d'' hd

end

/-- `p` touches no record: only images, directories and temporary files. -/
abbrev Quiet (p : Op α) : Prop := Touches (fun _ => False) (fun _ => True) (fun _ => True) p

/-! ## Steps of the store -/

/-- `P` holds of the store a call leaves when its program returns. -/
def Store.settled (s : Store) (P : Store → Prop) : Except StoreErr (Store → Store) → Disk → Prop
  | .ok f, d => P (f { s with disk := d })
  | .error _, d => P { s with disk := d }

/-- A result about every way the program of a call can stop is one about the step. -/
theorem Store.step_of_wp {P : Store → Prop} {s : Store} {c : Call} {t : Moment}
    (h : (c.prog s (s.env t)).wp (fun d => P (s.crash t d)) (s.settled P) s.disk) :
    P (s.step c t) := by
  have hx := wp_exec h t.fates
  unfold Store.step
  revert hx
  cases (c.prog s (s.env t)).exec t.fates s.disk with
  | mk o d =>
    cases o with
    | crashed => exact id
    | done r => cases r <;> exact id

theorem Call.prog_yields (s : Store) (env : Env) (c : Call) :
    (c.prog s env).Yields fun f => ∀ s, (f s).disk = s.disk := by
  cases c with
  | guestWrite w i =>
    simp only [Call.prog]
    split
    · exact fun _ => rfl
    · refine .bind fun i => ?_
      split
      · exact fun _ => rfl
      · exact .bind fun _ _ => rfl
  | writeChunk i | complete i | abortImport i =>
    simp only [Call.prog]
    split
    · exact fun _ => rfl
    · exact .bind fun _ _ => rfl
  | closeAttachment | closeExport => exact fun _ => rfl
  | _ => exact .bind fun _ _ => rfl

theorem Store.step_disk (s : Store) (c : Call) (t : Moment) :
    (s.step c t).disk = ((c.prog s (s.env t)).exec t.fates s.disk).2 := by
  have hy := wp_exec ((c.prog_yields s (s.env t)).wp_ok (s := s.disk)) t.fates
  unfold Store.step
  revert hy
  generalize (c.prog s (s.env t)).exec t.fates s.disk = res
  rcases res with ⟨(_ | f) | _, d⟩
  · exact fun _ => rfl
  · exact fun hy => hy f rfl _
  · exact fun _ => rfl

theorem Store.step_disk_of_wp {P : Disk → Prop} {s : Store} {c : Call} {t : Moment}
    (h : (c.prog s (s.env t)).wp P (fun _ => P) s.disk) : P (s.step c t).disk := by
  refine Store.step_of_wp (P := fun s' => P s'.disk) (wp_mono ?_ ((c.prog_yields s (s.env t)).wp h))
  intro r d hr
  cases r with
  | error e => exact hr.1
  | ok f =>
    change P (f { s with disk := d }).disk
    rw [hr.2 f rfl]
    exact hr.1

end SecondBox.WorkspaceStore
