/-
  Undisturbed runs, up to temporary files.

  `Ends p d r D`: started on `d`, whatever temporary files are left there, `p`
  undisturbed ends with `r` on the disk `D` and some temporary files.
  `Steady p`: temporary files found on the disk do not matter to `p`.
-/
import SecondBox.WorkspaceStore.Rules

namespace SecondBox.WorkspaceStore

open Crash Crash.Prog

variable {α β : Type} {d D D' : Disk}

/-- `p` ends so, whatever temporary files there are. -/
def Ends (p : Op α) (d : Disk) (r : Except StoreErr α) (D : Disk) : Prop :=
  ∀ ts, ∃ ts', p.run (d.withTemps ts) = (r, D.withTemps ts')

variable {publish : Disk → Disk} {target : Record} {uuid : Option FsUUID} {final : ImageFile}
  {f : Disk → Disk}

variable {g : α → Op β}

namespace Ends

theorem ret (a : α) : Ends (.ret a) d (.ok a) d := fun ts => ⟨ts, rfl⟩

variable {p : Op α}

theorem bind {a : α} {r : Except StoreErr β} (hp : Ends p d (.ok a) D)
    (hg : Ends (g a) D r D') : Ends (p.bind g) d r D' := by
  intro ts
  obtain ⟨us, hp⟩ := hp ts
  obtain ⟨vs, hg⟩ := hg us
  exact ⟨vs, by rw [run_bind, hp]; exact hg⟩

variable {e : StoreErr}

theorem bind_error (hp : Ends p d (.error e) D) : Ends (p.bind g) d (.error e) D := by
  intro ts
  obtain ⟨us, hp⟩ := hp ts
  exact ⟨us, by rw [run_bind, hp]⟩

theorem asking_bind {f : Disk → α} {r : Except StoreErr β}
    (hg : Ends (g (f d)) d r D) (hf : ∀ ts, f (d.withTemps ts) = f d := by intro; rfl) :
    Ends ((asking f).bind g) d r D := by
  intro ts
  obtain ⟨us, hg⟩ := hg ts
  refine ⟨us, ?_⟩
  change (g (f (d.withTemps ts))).run (d.withTemps ts) = _
  rw [hf, hg]

theorem of_settles {r : Except StoreErr α} (h : ∀ ts, p.Settles (d.withTemps ts) r) :
    Ends p d r d := fun ts => ⟨ts, (h ts).run⟩

theorem reading_ok {f : Disk → Except StoreErr α} {a : α} (h : f d = .ok a)
    (hf : ∀ ts, f (d.withTemps ts) = f d := by intro; rfl) : Ends (reading f) d (.ok a) d :=
  of_settles fun ts => .reading_ok ((hf ts).trans h)

theorem reading_error {f : Disk → Except StoreErr α} (h : f d = .error e)
    (hf : ∀ ts, f (d.withTemps ts) = f d := by intro; rfl) : Ends (reading f) d (.error e) d :=
  of_settles fun ts => .reading_error ((hf ts).trans h)

theorem require_ok {c : Prop} [Decidable c] (h : c) : Ends (require c e : Op Unit) d (.ok ()) d :=
  of_settles fun _ => .require_ok h

theorem require_error {c : Prop} [Decidable c] (h : ¬ c) :
    Ends (require c e : Op Unit) d (.error e) d :=
  of_settles fun _ => .require_error h

theorem sys (hf : ∀ ts, ∃ ts', f (d.withTemps ts) = D.withTemps ts') :
    Ends (sys e f) d (.ok ()) D := by
  intro ts
  obtain ⟨us, h⟩ := hf ts
  exact ⟨us, by rw [← h]; rfl⟩

theorem sync : Ends sync d (.ok ()) d := sys fun ts => ⟨ts, rfl⟩

theorem requireDir {p : Dir} (h : p ∈ d.dirs) : Ends (requireDir p) d (.ok ()) d :=
  asking_bind (require_ok (by simpa using h))

theorem requireDir_error {p : Dir} (h : p ∉ d.dirs) :
    Ends (WorkspaceStore.requireDir p) d (.error .notExist) d :=
  asking_bind (require_error (by simpa using h))

theorem syncDir {p : Dir} (h : p ∈ d.dirs) : Ends (syncDir p) d (.ok ()) d :=
  bind (requireDir h) sync

theorem removeRecord (r : Record) :
    Ends (removeExactFile (.record r)) d (.ok ()) (d.removeRecord r) :=
  sys fun ts => ⟨ts, by cases r <;> rfl⟩

theorem removeImage (f : ImageFile) :
    Ends (removeExactFile (.image f)) d (.ok ()) (d.removeImage f) :=
  sys fun ts => ⟨ts, rfl⟩

theorem atomicJSON
    (comm : ∀ ts, publish (d.withTemps ts) = (publish d).withTemps ts)
    (hdir : ∀ p, target.dir = some p → p ∈ d.dirs) :
    Ends (atomicJSON target publish) d (.ok ()) (publish d) := by
  have body : Ends (do
      let n ← asking (Disk.freshTmp target)
      Prog.sys .io (Disk.addTemp (.json target n))
      onError (do
          WorkspaceStore.sync
          Prog.sys .io fun d => publish (d.removeTemp (.json target n)))
        (Prog.sys .io (Disk.removeTemp (.json target n)))
      WorkspaceStore.sync : Op Unit) d (.ok ()) (publish d) := by
    intro ts
    exact ⟨_, Prod.ext rfl (comm _)⟩
  unfold WorkspaceStore.atomicJSON requireRecordDir
  cases ht : target.dir with
  | none => exact body
  | some p => exact bind (requireDir (hdir p ht)) body

theorem publishCurrentManifest {w : ID} {m : CurrentManifest}
    (hm : m.formatVersion = currentManifestFormatVersion ∧ m.workspaceID = w ∧ 1 ≤ m.generation ∧
      legacyMinimumExt4Bytes ≤ m.capacityBytes) (hdir : Dir.part w .manifest ∈ d.dirs) :
    Ends (publishCurrentManifest w m) d (.ok ()) (d.setManifest w m) :=
  bind (require_ok hm) (atomicJSON (fun _ => rfl) fun p hp => by cases hp; exact hdir)

theorem atomicJSON_error {p : Dir} (hp : target.dir = some p)
    (hdir : p ∉ d.dirs) :
    Ends (WorkspaceStore.atomicJSON target publish) d (.error .notExist) d := by
  unfold WorkspaceStore.atomicJSON requireRecordDir
  rw [hp]
  exact bind_error (requireDir_error hdir)

theorem publishClone {dir : Dir} {mode : Nat} {op : ID} {source : Image} (hdir : dir ∈ d.dirs) :
    Ends (publishClone dir final mode op uuid source) d (.ok ())
      (d.setImage final { source with mode := mode, uuid := uuid.getD source.uuid }) := by
  have body : Ends (onError (do
      Prog.sys .storageIncompatible id
      WorkspaceStore.sync
      Prog.sys .io fun d => (d.removeTemp (.reflinking dir op)).setImage final
        { source with mode := mode, uuid := uuid.getD source.uuid })
      (Prog.sys .io (Disk.removeTemp (.reflinking dir op))) : Op Unit) d (.ok ())
      (d.setImage final { source with mode := mode, uuid := uuid.getD source.uuid }) :=
    fun ts => ⟨_, rfl⟩
  exact bind (D := d) (sys fun _ => ⟨_, rfl⟩) (bind (requireDir hdir)
    (bind (D := d) (sys fun _ => ⟨_, rfl⟩) (bind body sync)))

theorem publishClone_error {dir : Dir} {mode : Nat} {op : ID} {source : Image}
    (hdir : dir ∉ d.dirs) :
    Ends (WorkspaceStore.publishClone dir final mode op uuid source) d (.error .notExist) d :=
  bind (D := d) (sys fun _ => ⟨_, rfl⟩) (bind_error (requireDir_error hdir))

theorem run_eq {r : Except StoreErr α} (h : Ends p d r D) :
    ∃ ts, p.run d = (r, D.withTemps ts) := h d.temps

end Ends

/-! ## Temporary files do not matter -/

/-- Temporary files do not matter to `p`. -/
def Steady (p : Op α) : Prop :=
  ∀ d ts, ∃ ts', p.run (d.withTemps ts) = ((p.run d).1, (p.run d).2.withTemps ts')

namespace Steady

theorem bind {p : Op α} (hp : Steady p) (hg : ∀ a, Steady (g a)) : Steady (p.bind g) := by
  intro d ts
  obtain ⟨us, hp⟩ := hp d ts
  rw [run_bind, run_bind, hp]
  cases hr : p.run d with
  | mk r D =>
    cases r with
    | error e => exact ⟨us, rfl⟩
    | ok a => exact hg a D us

theorem ret (a : α) : Steady (.ret a) := fun _ ts => ⟨ts, rfl⟩

theorem fail (e : StoreErr) : Steady (.fail e : Op α) := fun _ ts => ⟨ts, rfl⟩

theorem asking {f : Disk → α} (hf : ∀ d ts, f (d.withTemps ts) = f d) : Steady (asking f) := by
  intro d ts
  refine ⟨ts, Prod.ext ?_ rfl⟩
  exact congrArg Except.ok (hf d ts)

theorem reading {f : Disk → Except StoreErr α} (hf : ∀ d ts, f (d.withTemps ts) = f d) :
    Steady (reading f) := by
  intro d ts
  exact ⟨ts, by rw [run_reading, run_reading, hf]⟩

theorem require (c : Prop) [Decidable c] (e : StoreErr) : Steady (require c e : Op Unit) := by
  by_cases h : c
  · simpa [Prog.require, h] using ret ()
  · simpa [Prog.require, h] using fail e

theorem sys {e : StoreErr} (hf : ∀ d ts, ∃ ts', f (d.withTemps ts) = (f d).withTemps ts') :
    Steady (sys e f) := by
  intro d ts
  obtain ⟨us, h⟩ := hf d ts
  exact ⟨us, Prod.ext rfl h⟩

theorem of_ends {p : Op α} (h : ∀ d, ∃ r D, Ends p d r D) : Steady p := by
  intro d ts
  obtain ⟨r, D, h⟩ := h d
  obtain ⟨us, hu⟩ := h ts
  obtain ⟨vs, hv⟩ := h.run_eq
  exact ⟨us, by rw [hu, hv]; rfl⟩

theorem ends {p : Op α} (h : Steady p) (d : Disk) : Ends p d (p.run d).1 (p.run d).2 := h d

theorem sync : Steady sync := sys fun _ ts => ⟨ts, rfl⟩

theorem requireDir (p : Dir) : Steady (requireDir p) :=
  bind (asking fun _ _ => rfl) fun _ => require _ _

theorem syncDir (p : Dir) : Steady (syncDir p) := bind (requireDir p) fun _ => sync

theorem removeExactFile (f : File) : Steady (removeExactFile f) := by
  refine sys fun d ts => ?_
  cases f with
  | record r => exact ⟨ts, by cases r <;> rfl⟩
  | image f => exact ⟨ts, rfl⟩
  | temp t => exact ⟨_, rfl⟩

theorem atomicJSON (comm : ∀ d ts, publish (d.withTemps ts) = (publish d).withTemps ts) :
    Steady (atomicJSON target publish) := by
  refine of_ends fun d => ?_
  by_cases h : ∀ p, target.dir = some p → p ∈ d.dirs
  · exact ⟨_, _, .atomicJSON (comm d) h⟩
  · push Not at h
    obtain ⟨p, hp, hdir⟩ := h
    exact ⟨_, _, .atomicJSON_error hp hdir⟩

theorem publishCurrentManifest (w : ID) (m : CurrentManifest) :
    Steady (publishCurrentManifest w m) :=
  bind (require _ _) fun _ => atomicJSON fun _ _ => rfl

theorem publishClone (dir : Dir) (final : ImageFile) (mode : Nat) (op : ID) (uuid : Option FsUUID)
    (source : Image) : Steady (publishClone dir final mode op uuid source) := by
  refine of_ends fun d => ?_
  by_cases h : dir ∈ d.dirs
  · exact ⟨_, _, .publishClone h⟩
  · exact ⟨_, _, .publishClone_error h⟩

theorem cloneImage (source : ImageFile) (dir : Dir) (final : ImageFile) (mode : Nat)
    (capacity : Int) (op : ID) (uuid : Option FsUUID) :
    Steady (cloneImage source dir final mode capacity op uuid) := by
  have check : Steady (Prog.reading (validateClone final capacity uuid)) :=
    reading fun _ _ => by cases uuid <;> rfl
  refine bind (asking fun _ _ => rfl) fun found => ?_
  cases found with
  | some info => exact bind (require _ _) fun _ => check
  | none =>
    refine bind (asking fun _ _ => rfl) fun found => ?_
    cases found with
    | none => exact fail _
    | some i => exact bind (publishClone dir final mode op uuid i) fun _ => check

end Steady

/-! ## Where a run can be cut -/

/-- `d'` is one of the disks of `V`, up to temporary files. -/
def UpToTemps (V : Disk → Prop) (d' : Disk) : Prop := ∃ X ts, V X ∧ d' = X.withTemps ts

/-- Started on `d`, `p` can only be cut on the disks of `V`, and if it succeeds,
    `R` holds of its result and the disk, up to temporary files. -/
def Walk (V : Disk → Prop) (p : Op α) (d : Disk) (R : α → Disk → Prop) : Prop :=
  ∀ ts, p.wp (UpToTemps V) (fun r d' => ∀ a, r = .ok a → UpToTemps (R a) d') (d.withTemps ts)

namespace Walk
variable {V : Disk → Prop} {R : α → Disk → Prop} {R' : β → Disk → Prop}

theorem ret {a : α} (h : R a d) : Walk V (.ret a) d R := fun ts b hb => by
  cases hb
  exact ⟨d, ts, h, rfl⟩

theorem fail (e : StoreErr) : Walk V (.fail e : Op α) d R := fun _ b hb => by cases hb

theorem bind {p : Op α} (hp : Walk V p d R) (hg : ∀ a D, R a D → Walk V (g a) D R') :
    Walk V (p.bind g) d R' := by
  intro ts
  refine (wp_bind _ _ _ _).2 (wp_mono (fun r d' hr => ?_) (hp ts))
  cases r with
  | error e => exact fun b hb => by cases hb
  | ok a =>
    obtain ⟨D, us, hR, rfl⟩ := hr a rfl
    exact hg a D hR us

theorem asking_bind {f : Disk → α} (hg : Walk V (g (f d)) d R')
    (hf : ∀ ts, f (d.withTemps ts) = f d := by intro; rfl) : Walk V ((asking f).bind g) d R' := by
  intro ts
  have h := hg ts
  rw [← hf ts] at h
  exact h

theorem reading_bind {f : Disk → Except StoreErr α} (hg : ∀ a, f d = .ok a → Walk V (g a) d R')
    (hf : ∀ ts, f (d.withTemps ts) = f d := by intro; rfl) :
    Walk V ((Prog.reading f).bind g) d R' := fun ts =>
  wp_reading_bind (fun e _ b hb => by cases hb) fun a ha => hg a ((hf ts).symm.trans ha) ts

theorem reading {f : Disk → Except StoreErr α} (h : ∀ a, f d = .ok a → R a d)
    (hf : ∀ ts, f (d.withTemps ts) = f d := by intro; rfl) :
    Walk V (Prog.reading f) d R := fun ts =>
  (wp_reading _ _ _).2 fun a ha => ⟨d, ts, h a ((hf ts).symm.trans ha), rfl⟩

variable {g : Unit → Op β}

theorem require_bind {c : Prop} [Decidable c] {e : StoreErr}
    (hg : c → Walk V (g ()) d R') : Walk V ((require c e : Op Unit).bind g) d R' := fun ts =>
  wp_require_bind (fun _ b hb => by cases hb) fun hc => hg hc ts

theorem requireDir_bind {p : Dir} (hg : p ∈ d.dirs → Walk V (g ()) d R') :
    Walk V ((requireDir p).bind g) d R' := fun ts =>
  (wp_bind _ _ _ _).2 ((wp_requireDir p _).2 ⟨fun h => hg h ts, fun _ b hb => by cases hb⟩)

theorem sys_bind {e : StoreErr} (hV : V d)
    (hf : ∀ ts, ∃ ts', f (d.withTemps ts) = D.withTemps ts') (hg : Walk V (g ()) D R') :
    Walk V ((sys e f).bind g) d R' := by
  intro ts
  obtain ⟨us, h⟩ := hf ts
  exact wp_sys_bind ⟨d, ts, hV, rfl⟩ (fun b hb => by cases hb) (h ▸ hg us)

theorem removeRecord_bind {r : Record} (hV : V d) (hg : Walk V (g ()) (d.removeRecord r) R') :
    Walk V ((removeExactFile (.record r)).bind g) d R' :=
  sys_bind hV (fun ts => ⟨ts, by cases r <;> rfl⟩) hg

theorem removeImage_bind {f : ImageFile} (hV : V d) (hg : Walk V (g ()) (d.removeImage f) R') :
    Walk V ((removeExactFile (.image f)).bind g) d R' :=
  sys_bind hV (fun ts => ⟨ts, rfl⟩) hg

theorem syncDir_bind {p : Dir} (hV : V d) (hg : p ∈ d.dirs → Walk V (g ()) d R') :
    Walk V ((WorkspaceStore.syncDir p).bind g) d R' := by
  intro ts
  refine (wp_bind _ _ _ _).2 ((wp_syncDir p _).2 ⟨fun h => ⟨⟨d, ts, hV, rfl⟩, hg h ts,
    fun b hb => by cases hb⟩, fun _ b hb => by cases hb⟩)

theorem syncDir {p : Dir} {R : Unit → Disk → Prop} (hV : V d) (h : R () d) :
    Walk V (WorkspaceStore.syncDir p) d R := by
  intro ts
  exact (wp_syncDir p _).2 ⟨fun _ => ⟨⟨d, ts, hV, rfl⟩, fun b hb => ⟨d, ts, h, rfl⟩, fun b hb => by cases hb⟩,
    fun _ b hb => by cases hb⟩

theorem atomicJSON_bind
    (comm : ∀ ts, publish (d.withTemps ts) = (publish d).withTemps ts) (old : V d)
    (new : (∀ p, target.dir = some p → p ∈ d.dirs) → V (publish d))
    (hg : (∀ p, target.dir = some p → p ∈ d.dirs) → Walk V (g ()) (publish d) R') :
    Walk V ((atomicJSON target publish).bind g) d R' := by
  intro ts
  rw [wp_bind]
  by_cases h : ∀ p, target.dir = some p → p ∈ d.dirs
  · refine wp_atomicJSON (fun us => ?_) (fun us => ⟨d, us, old, rfl⟩) (fun e us b hb => by cases hb)
      (fun _ us => ⟨_, us, new h, ?_⟩) (fun _ us b hb => by cases hb) fun _ us => ?_
    · rw [Disk.withTemps_withTemps, comm, comm, Disk.withTemps_withTemps]
    · rw [comm, Disk.withTemps_withTemps]
    · rw [comm, Disk.withTemps_withTemps]
      exact hg h us
  · push Not at h
    obtain ⟨p, hp, hdir⟩ := h
    unfold WorkspaceStore.atomicJSON requireRecordDir
    rw [hp, bind_eq, wp_bind, wp_requireDir]
    exact ⟨fun h => absurd h hdir, fun _ b hb => by cases hb⟩

theorem publishCurrentManifest_bind {w : ID} {m : CurrentManifest} (old : V d)
    (new : 1 ≤ m.generation → Dir.part w .manifest ∈ d.dirs → V (d.setManifest w m))
    (hg : 1 ≤ m.generation → Dir.part w .manifest ∈ d.dirs → Walk V (g ()) (d.setManifest w m) R') :
    Walk V ((publishCurrentManifest w m).bind g) d R' := by
  intro ts
  rw [WorkspaceStore.publishCurrentManifest, bind_eq, bind_assoc]
  exact require_bind (fun hm => atomicJSON_bind (fun _ => rfl) old (fun hdir => new hm.2.2.1 (hdir _ rfl))
    fun hdir => hg hm.2.2.1 (hdir _ rfl)) ts

theorem publishClone_bind {dir : Dir} {mode : Nat} {op : ID}
    {source : Image} (old : V d)
    (new : dir ∈ d.dirs → V (d.setImage final { source with mode := mode, uuid := uuid.getD source.uuid }))
    (hg : dir ∈ d.dirs → Walk V (g ())
      (d.setImage final { source with mode := mode, uuid := uuid.getD source.uuid }) R') :
    Walk V ((publishClone dir final mode op uuid source).bind g) d R' := by
  have here : ∀ us, UpToTemps V (d.withTemps us) := fun us => ⟨d, us, old, rfl⟩
  have noErr : ∀ (e : StoreErr) (d' : Disk) (b : β), Except.error e = .ok b → UpToTemps (R' b) d' :=
    fun e d' b hb => by cases hb
  intro ts
  rw [wp_bind]
  unfold publishClone
  simp only [onError, bind_eq, wp_bind, wp_attempt, wp_sys, wp_sync, wp_requireDir, andThen_ok,
    andThen_error, wp_ret, wp_fail, id_eq]
  refine ⟨here _, ⟨fun hdir => ⟨here _, ⟨here _, ⟨here _, ⟨here _, ⟨⟨_, _, new hdir, rfl⟩, hg hdir _, noErr _ _⟩,
    here _, noErr _ _, noErr _ _⟩, here _, noErr _ _, noErr _ _⟩, here _, noErr _ _, noErr _ _⟩,
    noErr _ _⟩, fun _ => noErr _ _⟩, noErr _ _⟩

end Walk

end SecondBox.WorkspaceStore
