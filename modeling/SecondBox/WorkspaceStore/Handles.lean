/-
  Histories of the store, and the import handles along them.

  `step_imports`: every handle after a call is one from before the call, moved
  on as `Becomes` says, or the one a `BeginRelocationImport` just returned, and
  then nothing held the Workspace and the import had no receipt.  It follows
  that handles stay sound and that no two of them lock one Workspace
  (`Reachable.handles`).
-/
import SecondBox.WorkspaceStore.Manifests

namespace SecondBox.WorkspaceStore

open Crash Crash.Prog

/-! ## Histories -/

/-- The store after a history of calls. -/
def Store.after (s : Store) : List (Call × Moment) → Store
  | [] => s
  | (c, t) :: hist => (s.step c t).after hist

/-- Every call of the history meets `A` in the state it is made in. -/
def Store.Along (A : Store → Call → Prop) (s : Store) : List (Call × Moment) → Prop
  | [] => True
  | (c, t) :: hist => A s c ∧ (s.step c t).Along A hist

instance Store.Along.decidable {A : Store → Call → Prop} [∀ s c, Decidable (A s c)] :
    ∀ (s : Store) (hist : List (Call × Moment)), Decidable (s.Along A hist)
  | _, [] => isTrue trivial
  | s, (c, t) :: hist =>
    have : Decidable ((s.step c t).Along A hist) := Along.decidable _ hist
    inferInstanceAs (Decidable (A s c ∧ (s.step c t).Along A hist))

theorem Store.Along.invariant {A : Store → Call → Prop} {P : Store → Prop}
    (step : ∀ s c t, P s → A s c → P (s.step c t)) :
    ∀ {hist : List (Call × Moment)} {s : Store}, P s → s.Along A hist → P (s.after hist)
  | [], _, h, _ => h
  | (c, t) :: _, s, h, ha => Along.invariant (s := s.step c t) step (step s c t h ha.1) ha.2

theorem Store.after_keeps {P : Disk → Prop} (h : ∀ s env (c : Call), (c.prog s env).Keeps P)
    (hist : List (Call × Moment)) {s : Store} (hs : P s.disk) : P (s.after hist).disk := by
  induction hist generalizing s with
  | nil => exact hs
  | cons e hist ih => exact ih (Store.step_disk_of_wp (h s _ e.1 s.disk hs))

/-! ## What a call does to a handle -/

/-- `h'` is `h` some calls later. -/
structure RelocationImport.Becomes (h h' : RelocationImport) : Prop where
  request : h'.request = h.request
  digest : h'.digest = h.digest
  locked : h'.locked = true → h.locked = true ∧ h'.receipt = h.receipt
  fileOpen : h'.fileOpen = true → h.fileOpen = true ∧ h'.locked = h.locked
  created : h'.receipt = none → h'.created = true →
    (h.created = true ∨ h.fileOpen = true) ∧ h.receipt = none ∧ h'.locked = h.locked

theorem RelocationImport.Becomes.refl (h : RelocationImport) : h.Becomes h :=
  ⟨rfl, rfl, fun hl => ⟨hl, rfl⟩, fun ho => ⟨ho, rfl⟩, fun hr hc => ⟨.inl hc, hr, rfl⟩⟩

/-- An open staging file and a published but uncommitted tree are locked, and
    a committed import has released its lock; the request passed its checks. -/
structure RelocationImport.Sound (h : RelocationImport) : Prop where
  digest : h.digest = ⟨h.request.fencingToken, h.request.json⟩
  valid : validateMutation h.request.toMutation = .ok ()
  statics : h.request.generation ≠ 0 ∧ legacyMinimumExt4Bytes ≤ h.request.capacityBytes
  fileOpen : h.fileOpen = true → h.locked = true
  created : h.receipt = none → h.created = true → h.locked = true
  locked : h.locked = true → h.receipt = none

theorem RelocationImport.Becomes.sound {h h' : RelocationImport} (hb : h.Becomes h')
    (hs : h.Sound) : h'.Sound where
  digest := by rw [hb.digest, hb.request, hs.digest]
  valid := by rw [hb.request]; exact hs.valid
  statics := by rw [hb.request]; exact hs.statics
  fileOpen ho := (hb.fileOpen ho).2 ▸ hs.fileOpen (hb.fileOpen ho).1
  created hr hc := by
    obtain ⟨hc, hr, hl⟩ := hb.created hr hc
    rw [hl]
    exact hc.elim (hs.created hr) hs.fileOpen
  locked hl := (hb.locked hl).2.trans (hs.locked (hb.locked hl).1)

theorem writeChunk_yields (h : RelocationImport) (offset : Nat) (c : Chunk) :
    (writeChunk h offset c).Yields h.Becomes := by
  refine .bind fun _ => .bind fun _ => .bind fun i => ?_
  cases i with
  | none => trivial
  | some i => exact .bind fun _ => ⟨rfl, rfl, fun hl => ⟨hl, rfl⟩, fun ho => ⟨ho, rfl⟩,
      fun hr hc => ⟨.inl hc, hr, rfl⟩⟩

theorem complete_yields (env : Env) (h : RelocationImport) (size : Nat) (checksum : Checksum) :
    (complete env h size checksum).Yields fun x => h.Becomes x.1 := by
  unfold complete
  split
  · exact .refl h
  rename_i hr
  split
  · exact .refl h
  rename_i hc
  split
  · exact .refl h
  have ho : h.fileOpen = true := by simpa using (not_or.1 hc).1
  refine .bind fun synced => ?_
  split
  · exact .refl h
  refine .bind fun checked => ?_
  split
  · exact ⟨rfl, rfl, fun hl => ⟨hl, rfl⟩, by simp, fun hr hc => ⟨.inl hc, hr, rfl⟩⟩
  refine .bind fun published => ?_
  split
  · exact ⟨rfl, rfl, fun hl => ⟨hl, rfl⟩, by simp, fun hr _ => ⟨.inr ho, hr, rfl⟩⟩
  · exact .bind fun _ => ⟨rfl, rfl, by simp, by simp, by simp⟩

theorem abort_yields (h : RelocationImport) : (abort h).Yields fun x => h.Becomes x.1 := by
  unfold abort
  split
  · exact .refl h
  · exact .bind fun _ => .bind fun _ => ⟨rfl, rfl, by simp, by simp, by simp⟩

/-! ## Steps -/

/-- A handle `BeginRelocationImport` returned when called on `s`. -/
structure RelocationImport.Begun (s : Store) (h : RelocationImport) : Prop where
  sound : h.Sound
  created : h.created = false
  locked : h.locked = true → s.held h.request.workspaceID = false ∧
    s.disk.receipts.lookup (h.request.workspaceID, h.request.operationID, .relocationImport) =
    none ∧ ∀ m ∈ s.disk.manifests.lookup h.request.workspaceID, m.image = h.request.image ∧
      m.generation = h.request.generation ∧ m.capacityBytes = h.request.capacityBytes

/-- The handles a call can leave at an index. -/
inductive ImportMove (s : Store) (i : Nat) : Call → RelocationImport → Prop where
  | moved {c : Call} {h h' : RelocationImport} : s.imports[i]? = some h → h.Becomes h' →
      ImportMove s i c h'
  | begun {r : RelocationImportRequest} {h : RelocationImport} :
      i = s.imports.length → h.request = r →
      h.Begun s → ImportMove s i (.beginRelocationImport r) h

theorem beginRelocationImport_begun (s : Store) (t : Moment) (r : RelocationImportRequest) :
    (beginRelocationImport (s.env t) r).wp (fun _ => True)
      (fun res _ => ∀ h, res = .ok h → h.request = r ∧ h.Begun s) s.disk := by
  have err : ∀ (e : StoreErr) (h : RelocationImport), Except.error e = .ok h →
      h.request = r ∧ h.Begun s :=
    fun e h he => by cases he
  refine wp_require_bind (fun _ => err _) fun hc => wp_reading_bind (fun e _ => err e) fun _ hv =>
    wp_reading_bind (fun e _ => err e) fun digest hd =>
      wp_reading_bind (fun e _ => err e) fun found hl => ?_
  obtain rfl : digest = ⟨r.fencingToken, r.json⟩ := by
    unfold inputDigest at hd
    split at hd
    · cases hd
    · exact (Except.ok.inj hd).symm
  cases found with
  | some receipt =>
    refine Yields.wp_ok (R := fun h : RelocationImport => h.request = r ∧ h.Begun s)
      (.bind fun _ => ?_)
    exact ⟨rfl, ⟨rfl, hv, hc, nofun, nofun, nofun⟩, rfl, nofun⟩
  | none =>
    refine wp_lock_bind err fun hh => wp_asking_bind ?_
    have fresh : (∀ m ∈ s.disk.manifests.lookup r.workspaceID, m.image = r.image ∧
        m.generation = r.generation ∧ m.capacityBytes = r.capacityBytes) →
        RelocationImport.Begun s ⟨r, ⟨r.fencingToken, r.json⟩, true, true, [], 0, none, false⟩ :=
          fun hm =>
      ⟨⟨rfl, hv, hc, fun _ => rfl, fun _ _ => rfl, fun _ => rfl⟩, rfl,
        fun _ => ⟨hh, loadReceipt_none hl, hm⟩⟩
    split
    · rename_i m hm
      refine wp_require_bind (fun _ => err _) fun hsame =>
        Yields.wp_ok (R := fun h : RelocationImport => h.request = r ∧ h.Begun s)
          (.bind fun _ => .bind fun _ => ⟨rfl, fresh fun m' hm' => ?_⟩)
      cases (readCurrentManifest_ok hm).symm.trans hm'
      exact hsame
    · rename_i hm
      refine Yields.wp_ok (R := fun h : RelocationImport => h.request = r ∧ h.Begun s)
        (.bind fun _ => ⟨rfl, fresh fun m' hm' => ?_⟩)
      simp [readCurrentManifest_absent hm] at hm'
    · exact err _

/-- A call that succeeds leaves the handles as they were, but for the import it is about. -/
theorem Call.prog_imports (s : Store) (env : Env) (c : Call)
    (hc : ∀ r, c ≠ .beginRelocationImport r) :
    (c.prog s env).Yields fun f => ∀ (d : Disk) (i : Nat) (h' : RelocationImport),
      (f { s with disk := d }).imports[i]? = some h' →
      ∃ h, s.imports[i]? = some h ∧ h.Becomes h' := by
  have keep : ∀ {f : Store → Store}, (∀ s, (f s).imports = s.imports) → ∀ (d : Disk) (i : Nat) h',
      (f { s with disk := d }).imports[i]? = some h' → ∃ h, s.imports[i]? = some h ∧ h.Becomes h' :=
    fun hf d i h' hi => ⟨h', by rwa [hf] at hi, .refl h'⟩
  have set : ∀ {j : Nat} {h h'' : RelocationImport}, s.imports[j]? = some h → h.Becomes h'' →
      ∀ (d : Disk) (i : Nat) h',
      (Store.setImport j h'' { s with disk := d }).imports[i]? = some h' →
      ∃ h, s.imports[i]? = some h ∧ h.Becomes h' := by
    intro j h h'' hj hb d i h' hi
    rw [Store.setImport, List.getElem?_set] at hi
    split at hi
    · rename_i hji
      split at hi
      · cases hi
        exact ⟨h, hji ▸ hj, hb⟩
      · cases hi
    · exact ⟨h', hi, .refl h'⟩
  cases c with
  | beginRelocationImport r => exact absurd rfl (hc r)
  | guestWrite w i =>
    simp only [Call.prog]
    split
    · exact keep fun _ => rfl
    · refine .bind fun i => ?_
      split
      · exact keep fun _ => rfl
      · exact .bind fun _ => keep fun _ => rfl
  | writeChunk j offset c =>
    simp only [Call.prog]
    split
    · exact keep fun _ => rfl
    · rename_i h hj
      exact .bind_of (writeChunk_yields h offset c) fun h'' hb => set hj hb
  | complete j size checksum =>
    simp only [Call.prog]
    split
    · exact keep fun _ => rfl
    · rename_i h hj
      exact .bind_of (complete_yields env h size checksum) fun x hb => set hj hb
  | abortImport j =>
    simp only [Call.prog]
    split
    · exact keep fun _ => rfl
    · rename_i h hj
      exact .bind_of (abort_yields h) fun x hb => set hj hb
  | closeAttachment | closeExport => exact keep fun _ => rfl
  | _ => exact .bind fun _ => keep fun _ => rfl

theorem step_imports (s : Store) (c : Call) (t : Moment) (i : Nat) (h : RelocationImport)
    (hi : (s.step c t).imports[i]? = some h) : ImportMove s i c h := by
  revert i h
  by_cases hc : ∀ r, c ≠ .beginRelocationImport r
  · refine Store.step_of_wp (P := fun s' => ∀ (i : Nat) h, s'.imports[i]? = some h →
      ImportMove s i c h)
      (wp_crash_mono (fun d _ i h hi => by simp [Store.crash] at hi)
        (wp_mono (fun r d hr => ?_) ((c.prog_imports s (s.env t) hc).wp_ok)))
    cases r with
    | error e => exact fun i h hi => .moved hi (.refl h)
    | ok f =>
      intro i h hi
      obtain ⟨h0, hi0, hb⟩ := hr f rfl d i h hi
      exact .moved hi0 hb
  · push Not at hc
    obtain ⟨r, rfl⟩ := hc
    refine Store.step_of_wp (P := fun s' => ∀ (i : Nat) h, s'.imports[i]? = some h →
      ImportMove s i _ h) ?_
    refine (wp_bind _ _ _ _).2 (wp_crash_mono (fun d _ i h hi => by simp [Store.crash] at hi)
      (wp_mono (fun res d hr => ?_) (beginRelocationImport_begun s t r)))
    cases res with
    | error e => exact fun i h hi => .moved hi (.refl h)
    | ok h' =>
      intro i h hi
      change (s.imports ++ [h'])[i]? = some h at hi
      obtain ⟨hreq, hb⟩ := hr h' rfl
      rcases Nat.lt_trichotomy i s.imports.length with hlt | rfl | hgt
      · rw [List.getElem?_append_left hlt] at hi
        exact .moved hi (.refl h)
      · simp at hi
        subst hi
        exact .begun rfl hreq hb
      · rw [List.getElem?_append_right (Nat.le_of_lt hgt),
          List.getElem?_eq_none (by simp; omega)] at hi
        cases hi

/-! ## Calls that replace a manifest -/

/-- The operations that replace the manifest of a Workspace without looking at
    its seal or its rollback records, with what they ask of the manifest. -/
def Call.replacing (s : Store) : Call → Option (Mutation × ReceiptKind × (CurrentManifest → Bool))
  | .advanceGeneration r =>
      some (r.toMutation, .generationAdvance, fun m => m.generation = r.expectedGeneration ∧
      r.nextGeneration = r.expectedGeneration + 1 ∧
      stagedRestorePending r.workspaceID s.disk = false)
  | .swapRestore r =>
    some (r.toMutation, .restoreSwap, fun m => m.generation = r.expectedGeneration ∧
      (s.disk.staged.lookup (r.workspaceID, r.operationID)).isSome)
  | .beginRelocationImport r => some (r.toMutation, .relocationImport, fun m => m.image = r.image ∧
      m.generation = r.generation ∧ m.capacityBytes = r.capacityBytes)
  | _ => none

/-- The manifest such a call gets to, unless it is refused or answered from its receipt. -/
def Call.reached (s : Store) (c : Call) : Option CurrentManifest :=
  (c.replacing s).bind fun x =>
    if s.held x.1.workspaceID = false ∧ s.disk.receipts.lookup (x.1.workspaceID, x.1.operationID,
      x.2.1) = none then
      (s.disk.manifests.lookup x.1.workspaceID).filter x.2.2
    else none

theorem Call.reached_eq {s : Store} {c : Call}
    {x : Mutation × ReceiptKind × (CurrentManifest → Bool)} {m : CurrentManifest}
    (hx : c.replacing s = some x) (hh : s.held x.1.workspaceID = false)
    (hn : s.disk.receipts.lookup (x.1.workspaceID, x.1.operationID, x.2.1) = none)
    (hm : s.disk.manifests.lookup x.1.workspaceID = some m) (hf : x.2.2 m = true) :
    c.reached s = some m := by
  simp [Call.reached, hx, hh, hn, hm, hf]

/-! ## Locks -/

/-- The handles are sound, and at most one of them locks a Workspace. -/
structure Store.Handles (s : Store) : Prop where
  sound : ∀ (i : Nat) h, s.imports[i]? = some h → h.Sound
  exclusive : ∀ (i j : Nat) h h', s.imports[i]? = some h → s.imports[j]? = some h' →
    h.locked = true →
    h'.locked = true → h.request.workspaceID = h'.request.workspaceID → i = j

theorem Store.held_of_locked {s : Store} {i : Nat} {h : RelocationImport}
    (hi : s.imports[i]? = some h) (hl : h.locked = true) : s.held h.request.workspaceID = true := by
  have hany : (s.imports.any fun x => x.locked && x.request.workspaceID == h.request.workspaceID) =
      true :=
    List.any_eq_true.2 ⟨h, List.mem_of_getElem? hi, by simp [hl]⟩
  simp [Store.held, hany]

theorem Store.Handles.init : Store.init.Handles := ⟨by simp [Store.init], by simp [Store.init]⟩

theorem Store.Handles.step {s : Store} (hs : s.Handles) (c : Call) (t : Moment) :
    (s.step c t).Handles where
  sound i h hi := by
    cases step_imports s c t i h hi with
    | moved hi0 hb => exact hb.sound (hs.sound i _ hi0)
    | begun _ _ hb => exact hb.sound
  exclusive i j h h' hi hj hl hl' hw := by
    -- a fresh handle locks a Workspace nothing else held
    have fresh : ∀ {k : Nat} {f g : RelocationImport}, f.Begun s → f.locked = true →
        s.imports[k]? = some g → g.locked = true →
        f.request.workspaceID ≠ g.request.workspaceID := by
      intro k f g hf hfl hk hgl he
      have hheld := Store.held_of_locked hk hgl
      rw [← he, (hf.locked hfl).1] at hheld
      cases hheld
    cases step_imports s c t i h hi with
    | moved hi0 hb =>
      cases step_imports s c t j h' hj with
      | moved hj0 hb' =>
        exact hs.exclusive i j _ _ hi0 hj0 (hb.locked hl).1 (hb'.locked hl').1
          (by rw [← hb.request, ← hb'.request, hw])
      | begun _ _ hb' =>
        exact absurd (hw.symm.trans (by rw [hb.request])) (fresh hb' hl' hi0 (hb.locked hl).1)
    | begun hi0 _ hb =>
      cases step_imports s _ t j h' hj with
      | moved hj0 hb' =>
        exact absurd (hw.trans (by rw [hb'.request])) (fresh hb hl hj0 (hb'.locked hl').1)
      | begun hj0 _ hb' => exact hi0.trans hj0.symm

end SecondBox.WorkspaceStore
