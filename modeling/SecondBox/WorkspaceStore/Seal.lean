/-
  The relocation seal.

  `ErrRelocationSealed` promises that a Workspace is read-only while a
  relocation owns it.  Of the operations that move a manifest, only three do not
  look at the seal: AdvanceGeneration, SwapRestore and the tear-down in
  BeginRelocationImport.  In every history that keeps them away from sealed
  Workspaces the seal holds (`relocation_seal_kept`).
-/
import SecondBox.WorkspaceStore.Handles

namespace SecondBox.WorkspaceStore

open Crash Crash.Prog

/-- The Workspace is sealed. -/
def Store.isSealed (s : Store) (w : ID) : Bool :=
  (s.disk.manifests.lookup w).any (·.relocationSealed)

/-- The operations that may end the seal of `w`. -/
def Call.unseals (w : ID) : Call → Bool
  | .abortRelocation r => r.workspaceID = w
  | .deleteWorkspace r => r.workspaceID = w
  | _ => false

/-- The operations without a check of the seal do not reach a sealed manifest. -/
def Call.RespectsSeal (s : Store) (c : Call) : Prop := ∀ m ∈ c.reached s, m.relocationSealed = false

variable {s : Store} {c : Call}

instance (s : Store) (c : Call) : Decidable (c.RespectsSeal s) :=
  inferInstanceAs (Decidable (∀ m ∈ c.reached s, _))

/-- No import is under way on a sealed Workspace. -/
structure Store.SealInvariant (s : Store) : Prop where
  handles : s.Handles
  imports : ∀ (i : Nat) h, s.imports[i]? = some h → h.locked = true →
    s.isSealed h.request.workspaceID = false

variable {w : ID}

theorem Store.isSealed_iff :
    s.isSealed w = true ↔ ∃ m, s.disk.manifests.lookup w = some m ∧ m.relocationSealed = true := by
  simp [Store.isSealed, Option.any_eq_true]

/-- One step keeps a sealed manifest, unless the call may end the seal. -/
theorem Store.SealInvariant.step_sealed (hs : s.SealInvariant) {t : Moment}
    {m : CurrentManifest} (hm : s.disk.manifests.lookup w = some m)
    (hseal : m.relocationSealed = true)
    (hc : c.RespectsSeal s) (hu : c.unseals w = false) :
    (s.step c t).disk.manifests.lookup w = some m := by
  have hsealed : s.isSealed w = true := Store.isSealed_iff.2 ⟨m, hm, hseal⟩
  have hmove := step_manifest s c t w
  generalize (s.step c t).disk.manifests.lookup w = after at hmove ⊢
  cases hmove with
  | keep => exact hm
  | create _ _ hn | clone _ _ hn => rw [hn] at hm; cases hm
  | advance hw hh hm' hg hnext _ hp hn =>
    subst hw
    cases hm.symm.trans hm'
    exact absurd (hc m (Call.reached_eq rfl hh hn hm (by simp [hg, hnext, hp]))) (by simp [hseal])
  | swap hw hh hm' hg hst _ hn =>
    subst hw
    cases hm.symm.trans hm'
    exact absurd (hc m (Call.reached_eq rfl hh hn hm (by simp [hg, hst]))) (by simp [hseal])
  | tornDown hw hh hm' hi hg hcap hn =>
    subst hw
    cases hm.symm.trans hm'
    exact absurd (hc m (Call.reached_eq rfl hh hn hm (by simp [hi, hg, hcap]))) (by simp [hseal])
  | sealed _ _ hm' =>
    cases hm.symm.trans hm'
    rw [← hseal]
  | unsealed hw | deleted hw => simp [Call.unseals, hw] at hu
  | imported hi ho _ hw =>
    subst hw
    rw [hs.imports _ _ hi ((hs.handles.sound _ _ hi).fileOpen ho)] at hsealed
    cases hsealed
  | dropped hi hr hcr hw =>
    subst hw
    rw [hs.imports _ _ hi ((hs.handles.sound _ _ hi).created hr hcr)] at hsealed
    cases hsealed

/-- Only an export seals a Workspace, and only when nothing holds it. -/
theorem Store.step_isSealed {t : Moment} (h : s.isSealed w = false)
    (h' : (s.step c t).isSealed w = true) :
    s.held w = false ∧ ∃ r, c = .openRelocationExport r := by
  obtain ⟨m', hm', hseal⟩ := Store.isSealed_iff.1 h'
  have hsame : ∀ {m : CurrentManifest}, s.disk.manifests.lookup w = some m →
      m.relocationSealed = false := by
    intro m hm
    simpa [Store.isSealed, hm] using h
  have hmove := step_manifest s c t w
  rw [hm'] at hmove
  generalize hafter : some m' = after at hmove
  cases hmove with
  | keep => rw [hsame hafter.symm] at hseal; cases hseal
  | sealed _ hh => exact ⟨hh, _, rfl⟩
  | advance _ _ hm =>
    cases hafter
    rw [hsame hm] at hseal
    cases hseal
  | create | clone | swap | unsealed | imported =>
    cases hafter
    cases hseal
  | deleted | tornDown | dropped => cases hafter

theorem Store.SealInvariant.step (hs : s.SealInvariant) (t : Moment)
    (hc : c.RespectsSeal s) : (s.step c t).SealInvariant where
  handles := hs.handles.step c t
  imports i h hi hl := by
    cases step_imports s c t i h hi with
    | moved hi0 hb =>
      rw [hb.request]
      by_contra hne
      have hheld := Store.held_of_locked hi0 (hb.locked hl).1
      rw [(Store.step_isSealed (hs.imports i _ hi0 (hb.locked hl).1) (by simpa using hne)).1] at hheld
      cases hheld
    | begun _ hr hb =>
      subst hr
      by_contra hne
      obtain ⟨hh, hn, hsame⟩ := hb.locked hl
      have hopen : s.isSealed h.request.workspaceID = false := by
        by_contra hsealed
        obtain ⟨m, hm, hseal⟩ := Store.isSealed_iff.1 (by simpa using hsealed)
        exact absurd (hc m (Call.reached_eq rfl hh hn hm (by simp [hsame m hm]))) (by simp [hseal])
      obtain ⟨-, r, he⟩ := Store.step_isSealed hopen (by simpa using hne)
      cases he

theorem Store.SealInvariant.init : Store.init.SealInvariant := ⟨.init, by simp [Store.init]⟩

theorem openWorkspace_sealed (env : Env) (g : UInt64) {d : Disk} {m : CurrentManifest}
    (hm : d.manifests.lookup w = some m) (hseal : m.relocationSealed = true) :
    (openWorkspace env w g).wp (fun _ => True) (fun r _ => ∀ a, r ≠ .ok a) d := by
  have err : ∀ (e : StoreErr) (a : CurrentManifest), Except.error e ≠ .ok a := fun e a he => by
    cases he
  refine wp_reading_bind (fun e _ => err e) fun _ _ => wp_lock_bind err fun _ =>
    wp_reading_bind (fun e _ => err e) fun m' hm' => wp_require_bind (fun _ => err _) fun _ =>
      wp_require_bind (fun _ => err _) fun hsealed => ?_
  cases hm.symm.trans (readCurrentManifest_ok hm')
  rw [hseal] at hsealed
  cases hsealed

/-- While a Workspace is sealed, in a history that respects the seal, only
    AbortRelocation and DeleteWorkspace of it touch its manifest, whatever
    interrupts the calls, and `Open` does not succeed. -/
theorem relocation_seal_kept (hist : List (Call × Moment))
    (hh : Store.init.Along (fun s c => c.RespectsSeal s) hist) (w : ID) (m : CurrentManifest)
    (hm : (Store.init.after hist).disk.manifests.lookup w = some m)
    (hseal : m.relocationSealed = true) :
    (∀ c t, c.RespectsSeal (Store.init.after hist) → c.unseals w = false →
      ((Store.init.after hist).step c t).disk.manifests.lookup w = some m) ∧
    ∀ g t a, ((openWorkspace ((Store.init.after hist).env t) w g).exec t.fates
      (Store.init.after hist).disk).1 ≠ .done (.ok a) := by
  have hs : (Store.init.after hist).SealInvariant :=
    hh.invariant (fun s c t hs hc => hs.step t hc) .init
  refine ⟨fun c t hc hu => hs.step_sealed hm hseal hc hu, fun g t a he => ?_⟩
  have hx := wp_exec (openWorkspace_sealed ((Store.init.after hist).env t) g hm hseal) t.fates
  revert hx he
  generalize (openWorkspace _ w g).exec t.fates _ = res
  rcases res with ⟨_ | _, d⟩
  · intro he hx
    exact hx a (by simpa using he)
  · intro he
    cases he

/-- A Workspace with one Snapshot, sealed by an export whose reader was closed. -/
def sealedHistory : List (Call × Moment) :=
  [(.create { Mutation.plain "w" "a" with capacityBytes := minimumExt4Bytes }, .calm),
    (.createSnapshot { Mutation.plain "w" "b" with snapshotID := "s", expectedGeneration := 1 },
    .calm), (.openRelocationExport { Mutation.plain "w" "c" with expectedGeneration := 1 }, .calm),
    (.closeExport "w", .calm)]

/-- A second export publishes the sealed manifest again. -/
theorem relocation_seal_kept_sealedHistory :
    (((Store.init.after sealedHistory).step
      (.openRelocationExport { Mutation.plain "w" "d" with expectedGeneration := 1 })
      .calm).disk.manifests.lookup "w").map
      (fun m => (m.generation, m.relocationSealed)) = some (1, true) := by
  rw [(relocation_seal_kept sealedHistory (by decide) "w"
    { firstManifest "w" (generationImageName 1 .create) minimumExt4Bytes with relocationSealed := true }
    (by decide) rfl).1
      (.openRelocationExport { Mutation.plain "w" "d" with expectedGeneration := 1 }) .calm
    (by decide) (by decide)]
  rfl

/-- A restore prepared and swapped after the export clears the seal and selects another image. -/
theorem swapRestore_clears_seal :
    let r : PrepareRestoreRequest :=
      { Mutation.plain "w" "r" with snapshotID := "s", expectedGeneration := 1, nextGeneration := 2 }
    (Store.init.after sealedHistory).isSealed "w" = true ∧
    ((Store.init.after (sealedHistory ++ [(.prepareRestore r, .calm),
      (.swapRestore r, .calm)])).disk.manifests.lookup
      "w").map (fun m => (m.generation, m.image, m.relocationSealed)) =
      some (2, generationImageName 2 (.restore "r"), false) := by
  decide

end SecondBox.WorkspaceStore
