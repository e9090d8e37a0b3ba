/-
  Whole histories of the store, with failures and crashes at any step.
-/
import SecondBox.WorkspaceStore.Converge
import SecondBox.WorkspaceStore.Seal

namespace SecondBox.WorkspaceStore

open Crash Crash.Prog

variable {w : ID} {s : Store} {m : CurrentManifest} {hist : List (Call × Moment)}

/-- **Calls about other Workspaces leave a Workspace alone.** -/
theorem agree_after (h : s.Along (fun s c => c.workspace s ≠ some w) hist) :
    Agree w s.disk (s.after hist).disk := by
  refine h.invariant (P := fun s' => Agree w s.disk s'.disk) (fun s' c t ha hc => ?_)
    ⟨fun x _ => .refl _ x, fun _ _ => rfl, fun _ _ => Iff.rfl⟩
  have hstep := s'.step_agree c t hc
  exact ⟨fun x hx => (ha.records x hx).trans (hstep.records x hx),
    fun f hf => (hstep.images f hf).trans (ha.images f hf),
    fun p hp => (hstep.dirs p hp).trans (ha.dirs p hp)⟩

theorem agree_after_sealedHistory : Agree "w" (Store.init.after sealedHistory).disk
    ((Store.init.after sealedHistory).after [(.create ⟨.plain "v" "a", minimumExt4Bytes⟩, .calm),
      (.kill, .calm)]).disk :=
  agree_after (by decide)

/-- **Every file lies in a directory that is there, and no two imports lock one Workspace.** -/
theorem tree_and_locks (hist : List (Call × Moment)) :
    (Store.init.after hist).disk.Rooted (fun _ => False) ∧ (Store.init.after hist).Handles := by
  have handles : ∀ s : Store, s.Handles → (s.after hist).Handles := by
    induction hist with
    | nil => exact fun _ hs => hs
    | cons e hist ih => exact fun s hs => ih (s.step e.1 e.2) (hs.step e.1 e.2)
  exact ⟨Store.rooted_after hist, handles _ .init⟩

/-! ## Generations -/

/-- The call may remove or replace the Workspace: a deletion or a relocation import. -/
def Call.replaces (s : Store) (w : ID) (c : Call) : Bool :=
  decide (c.workspace s = some w) && match c with
    | .deleteWorkspace _ | .beginRelocationImport _ | .complete .. | .abortImport _ => true
    | _ => false

theorem le_next {g e n : UInt64} (hg : g = e) (hn : n = e + 1) (hpos : 1 ≤ n) : g ≤ n := by
  subst hg hn
  rw [UInt64.le_iff_toNat_le, UInt64.toNat_add] at *
  have := g.toNat_lt
  simp at *
  omega

theorem swapRestore_next (s : Store) (r : SwapRestoreRequest) (t : Moment) :
    (s.step (.swapRestore r) t).disk = s.disk ∨ r.nextGeneration = r.expectedGeneration + 1 := by
  cases hv : validateRestoreRequest r with
  | ok u => exact .inr (validRestoreRequest hv).nextGeneration
  | error e =>
    refine .inl (Store.step_disk_of_wp (P := (· = s.disk)) ?_)
    simp [Call.prog, swapRestore, hv, bind_eq, wp_bind]

/-- `w` still has its capacity, and its generation is not below that of `m`. -/
def Disk.Continues (w : ID) (m : CurrentManifest) (d : Disk) : Prop :=
  ∃ m', d.manifests.lookup w = some m' ∧ m.generation ≤ m'.generation ∧
    m'.capacityBytes = m.capacityBytes

theorem Disk.Continues.step {c : Call} {t : Moment} (h : s.disk.Continues w m)
    (hc : c.replaces s w = false) :
    (s.step c t).disk.Continues w m := by
  obtain ⟨m₁, hm, hle, hcap⟩ := h
  have hmove := step_manifest s c t w
  generalize hm' : (s.step c t).disk.manifests.lookup w = m' at hmove
  cases hmove with
  | keep => exact ⟨m₁, hm'.trans hm, hle, hcap⟩
  | create _ _ hnone | clone _ _ hnone => cases hm.symm.trans hnone
  | advance _ _ hm₀ hg hnext hpos =>
    cases hm.symm.trans hm₀
    exact ⟨_, hm', UInt64.le_trans hle (le_next hg hnext hpos), hcap⟩
  | @swap r _ _ _ _ hm₀ hg _ hpos =>
    cases hm.symm.trans hm₀
    obtain hsame | hnext := swapRestore_next s r t
    · exact ⟨m₁, hsame ▸ hm, hle, hcap⟩
    · exact ⟨_, hm', UInt64.le_trans hle (le_next hg hnext hpos), hcap⟩
  | sealed _ _ hm₀ | unsealed _ _ hm₀ =>
    cases hm.symm.trans hm₀
    exact ⟨_, hm', hle, hcap⟩
  | deleted hw | tornDown hw => simp [Call.replaces, Call.workspace, hw] at hc
  | imported hi _ _ hw | dropped hi _ _ hw => simp [Call.replaces, Call.workspace, hi, hw] at hc

/-- **Until it is deleted or imported anew, the generation of a Workspace never falls and its capacity stays.** -/
theorem generation_after (h : s.Along (fun s c => c.replaces s w = false) hist)
    (hm : s.disk.manifests.lookup w = some m) : (s.after hist).disk.Continues w m :=
  h.invariant (P := fun s => s.disk.Continues w m) (fun _ _ _ hs hc => hs.step hc) ⟨m, hm,
    UInt64.le_refl _, rfl⟩

theorem generation_after_advance :
    let hist :=
    [(.advanceGeneration { Mutation.plain "w" "g" with expectedGeneration := 1, nextGeneration := 2 }, .calm)]
    (((Store.init.after sealedHistory).after hist).disk.manifests.lookup "w").map (·.generation) =
    some 2 ∧ ((Store.init.after sealedHistory).after hist).disk.Continues "w"
      { firstManifest "w" (generationImageName 1 .create) minimumExt4Bytes with relocationSealed := true } :=
  ⟨by decide, generation_after (by decide) (by decide)⟩

end SecondBox.WorkspaceStore
