/-
  The resources of a Sandbox, resolved against its Profile revision
  (internal/store/sandbox_resources.go).

  The numbers are `int64` in the source and integers here; rounding a workspace
  size up to a power of two, the one computation that could leave their range,
  wraps around as in the source.
-/
import Mathlib.Data.Nat.Size
import Mathlib.Order.Bounds.Basic
import Mathlib.Tactic.NormNum
import Mathlib.Tactic.Positivity
import SecondBox.Base.Check

namespace SecondBox.Resources

open Check

/-- The resources of a Sandbox. -/
structure SandboxResources where
  vcpuCount : ℤ
  memoryBytes : ℤ
  workspaceBytes : ℤ
deriving DecidableEq

/-- Selects individual axes; as a ceiling, an axis that is left out is unbounded. -/
structure SandboxResourceRequest where
  vcpuCount : Option ℤ := none
  memoryBytes : Option ℤ := none
  workspaceBytes : Option ℤ := none
deriving DecidableEq

/-- How an Instance starts. -/
inductive StartupMode where
  | coldBoot
  | snapshotResume
deriving DecidableEq

/-- The part of `ProfileRevisionSpec` that resources depend on. -/
structure ProfileRevisionSpec where
  resources : SandboxResources
  resourceCeiling : Option SandboxResourceRequest := none
  startup : StartupMode

/-- Why resources are refused. -/
inductive ResourceError where
  | invalidField (field reason : String)
  | fixedByProfile (fixed : SandboxResourceRequest) (requested : SandboxResources)
  | exceedProfile (ceiling : SandboxResourceRequest) (requested : SandboxResources)
deriving DecidableEq

/-- The error for a fraction of a MiB. -/
def resourceAlignmentError (field : String) : ResourceError :=
  .invalidField field "must use whole MiB (multiples of 1048576 bytes)"

/-- The request that states all three axes. -/
def SandboxResources.request (r : SandboxResources) : SandboxResourceRequest :=
  ⟨some r.vcpuCount, some r.memoryBytes, some r.workspaceBytes⟩

/-- No more than the ceiling. -/
def SandboxResources.within (r : SandboxResources) (ceiling : SandboxResourceRequest) : Bool :=
  ceiling.vcpuCount.all (r.vcpuCount ≤ ·) && ceiling.memoryBytes.all (r.memoryBytes ≤ ·) &&
    ceiling.workspaceBytes.all (r.workspaceBytes ≤ ·)

/-- The ceiling outside `snapshot_resume`: the stated one, or the defaults. -/
def ProfileRevisionSpec.ceiling (spec : ProfileRevisionSpec) : SandboxResourceRequest :=
  spec.resourceCeiling.getD spec.resources.request

/-- `1 << 62`: the next power of two must remain representable. -/
def maximumWorkspaceBytes : ℤ := 4611686018427387904

/-- `int64(1) << bits.Len64(uint64(requested-1))` -/
def roundWorkspace (requested : ℤ) : ℤ :=
  ((2 : ℤ) ^ Nat.size ((requested - 1).bmod (2 ^ 64) % 2 ^ 64).toNat).bmod (2 ^ 64)

/-- The rounded size, or the ceiling if only rounding exceeds it. -/
def clampWorkspace (ceiling : Option ℤ) (requested : ℤ) : ℤ :=
  match ceiling with
  | some c => if requested ≤ c ∧ c < roundWorkspace requested then c else roundWorkspace requested
  | none => roundWorkspace requested

/-- `resolveSandboxResources` -/
def resolveSandboxResources (spec : ProfileRevisionSpec) (request : Option SandboxResourceRequest) :
    Except ResourceError SandboxResources := do
  let defaults := spec.resources
  let request := request.getD {}
  let resolved : SandboxResources := {
    vcpuCount := request.vcpuCount.getD defaults.vcpuCount
    memoryBytes := request.memoryBytes.getD defaults.memoryBytes
    workspaceBytes := request.workspaceBytes.getD defaults.workspaceBytes }
  require (1 ≤ resolved.vcpuCount && 67108864 ≤ resolved.memoryBytes &&
    1048576 ≤ resolved.workspaceBytes)
    (.invalidField "resources"
      "must resolve to at least 1 vcpuCount, 67108864 memoryBytes, and 1048576 workspaceBytes")
  require (resolved.memoryBytes.tmod (2 ^ 20) == 0) (resourceAlignmentError "resources.memoryBytes")
  require (resolved.workspaceBytes.tmod (2 ^ 20) == 0)
    (resourceAlignmentError "resources.workspaceBytes")
  if spec.startup = .snapshotResume then
    require (resolved == defaults) (.fixedByProfile defaults.request resolved)
    pure resolved
  else
    require (request.workspaceBytes.all (· ≤ maximumWorkspaceBytes))
      (.invalidField "resources.workspaceBytes" "must not exceed 4611686018427387904")
    let resolved := { resolved with
      workspaceBytes :=
        (request.workspaceBytes.map (clampWorkspace spec.ceiling.workspaceBytes)).getD
        resolved.workspaceBytes }
    require (resolved.workspaceBytes.tmod (2 ^ 20) == 0)
      (resourceAlignmentError "resources.workspaceBytes")
    require (resolved.within spec.ceiling) (.exceedProfile spec.ceiling resolved)
    pure resolved

/-- `sandboxResourcesFitProfile` -/
def sandboxResourcesFitProfile (spec : ProfileRevisionSpec) (resources : SandboxResources) : Bool :=
  if spec.startup = .snapshotResume then
    resources == spec.resources else resources.within spec.ceiling

/-! ## Rounding -/

/-- The powers of two not below `w`. -/
def powersFrom (w : ℤ) : Set ℤ := {n | w ≤ n ∧ ∃ k : ℕ, n = 2 ^ k}

section
variable {w w' c : ℤ}

theorem int64_eq (hlow : 0 ≤ w) (hhigh : w ≤ maximumWorkspaceBytes) : w.bmod (2 ^ 64) = w := by
  rw [maximumWorkspaceBytes] at hhigh
  exact Int.bmod_eq_of_le (by omega) (by omega)

theorem uint64_eq (hlow : 0 ≤ w) (hhigh : w ≤ maximumWorkspaceBytes) : w % 2 ^ 64 = w := by
  rw [maximumWorkspaceBytes] at hhigh
  exact Int.emod_eq_of_lt hlow (by omega)

theorem pow_size_le (hhigh : w ≤ maximumWorkspaceBytes) :
    (2 : ℤ) ^ Nat.size (w - 1).toNat ≤ maximumWorkspaceBytes := by
  rw [maximumWorkspaceBytes] at *
  have hsize : Nat.size (w - 1).toNat ≤ 62 := Nat.size_le.2 (by omega)
  exact_mod_cast Nat.pow_le_pow_right two_pos hsize

variable (hlow : 1 ≤ w) (hhigh : w ≤ maximumWorkspaceBytes)
include hlow hhigh

/-- Up to `maximumWorkspaceBytes` rounding stays within 64 bits. -/
theorem roundWorkspace_eq : roundWorkspace w = 2 ^ Nat.size (w - 1).toNat := by
  have hint : (w - 1).bmod (2 ^ 64) = w - 1 := int64_eq (by omega) (by omega)
  have huint : (w - 1) % 2 ^ 64 = w - 1 := uint64_eq (by omega) (by omega)
  unfold roundWorkspace
  rw [hint, huint]
  exact int64_eq (by positivity) (pow_size_le hhigh)

theorem roundWorkspace_isLeast : IsLeast (powersFrom w) (roundWorkspace w) := by
  rw [roundWorkspace_eq hlow hhigh]
  have hself : ((w - 1).toNat : ℤ) < 2 ^ Nat.size (w - 1).toNat := by
    exact_mod_cast Nat.lt_size_self _
  refine ⟨⟨by omega, _, rfl⟩, ?_⟩
  rintro n ⟨hn, k, rfl⟩
  refine pow_le_pow_right₀ (by norm_num) (Nat.size_le.2 ?_)
  have hk : ((w - 1).toNat : ℤ) < 2 ^ k := by omega
  exact_mod_cast hk

omit hhigh in
theorem roundWorkspace_mono (h : w ≤ w') (hhigh : w' ≤ maximumWorkspaceBytes) :
    roundWorkspace w ≤ roundWorkspace w' := by
  obtain ⟨hle, hpow⟩ := (roundWorkspace_isLeast (hlow.trans h) hhigh).1
  exact (roundWorkspace_isLeast hlow (h.trans hhigh)).2 ⟨h.trans hle, hpow⟩

/-- Anything up to the rounded size is rounded to it. -/
theorem roundWorkspace_between (hc : w ≤ c) (hle : c ≤ roundWorkspace w) :
    roundWorkspace c = roundWorkspace w := by
  have hround := roundWorkspace_eq hlow hhigh
  have hc₂ : c ≤ maximumWorkspaceBytes := hle.trans (hround ▸ pow_size_le hhigh)
  refine le_antisymm ?_ (roundWorkspace_mono hlow hc hc₂)
  exact (roundWorkspace_isLeast (hlow.trans hc) hc₂).2 ⟨hle, _, hround⟩

omit hlow in
theorem dvd_roundWorkspace (hlow : 2 ^ 20 ≤ w) : (2 : ℤ) ^ 20 ∣ roundWorkspace w := by
  obtain ⟨⟨hle, k, hk⟩, -⟩ := roundWorkspace_isLeast (by omega) hhigh
  rw [hk] at hle ⊢
  exact pow_dvd_pow 2 ((pow_le_pow_iff_right₀ (by norm_num)).1 (hlow.trans hle))

variable {ceiling : Option ℤ}

omit hlow hhigh in
theorem clampWorkspace_cases (ceiling : Option ℤ) (w : ℤ) :
    clampWorkspace ceiling w = roundWorkspace w ∨
    ceiling = some (clampWorkspace ceiling w) ∧ w ≤ clampWorkspace ceiling w ∧
      clampWorkspace ceiling w < roundWorkspace w := by
  cases ceiling with
  | none => exact .inl rfl
  | some c =>
    rw [clampWorkspace]
    split
    · next h => exact .inr ⟨rfl, h⟩
    · exact .inl rfl

theorem clampWorkspace_bounds (ceiling : Option ℤ) :
    w ≤ clampWorkspace ceiling w ∧ clampWorkspace ceiling w ≤ roundWorkspace w := by
  have hle := (roundWorkspace_isLeast hlow hhigh).1.1
  rcases clampWorkspace_cases ceiling w with h | ⟨-, h⟩
  · exact ⟨h ▸ hle, h.le⟩
  · exact ⟨h.1, h.2.le⟩

theorem clampWorkspace_clampWorkspace (hc : ceiling.all (clampWorkspace ceiling w ≤ ·) = true) :
    clampWorkspace ceiling (clampWorkspace ceiling w) = clampWorkspace ceiling w := by
  obtain ⟨hle, hround⟩ := clampWorkspace_bounds hlow hhigh ceiling
  have hsame := roundWorkspace_between hlow hhigh hle hround
  rcases clampWorkspace_cases ceiling w with h | ⟨h, -, hlt⟩
  · rw [h] at hc hsame ⊢
    cases ceiling with
    | none => exact hsame
    | some c =>
      simp only [Option.all_some, decide_eq_true_eq] at hc
      rw [clampWorkspace, hsame, if_neg fun hlt => hlt.2.not_ge hc]
  · generalize clampWorkspace ceiling w = c at *
    rw [h, clampWorkspace, hsame, if_pos ⟨le_rfl, hlt⟩]

omit hhigh in
theorem clampWorkspace_mono (h : w ≤ w') (hhigh : w' ≤ maximumWorkspaceBytes)
    (hc : ceiling.all (clampWorkspace ceiling w ≤ ·) = true) :
    clampWorkspace ceiling w ≤ clampWorkspace ceiling w' := by
  rcases clampWorkspace_cases ceiling w' with h' | ⟨h', -⟩
  · rw [h']
    exact (clampWorkspace_bounds hlow (h.trans hhigh) _).2.trans (roundWorkspace_mono hlow h hhigh)
  · generalize clampWorkspace ceiling w' = c at *
    rw [h'] at hc ⊢
    simpa using hc

end

/-! ## Resolution -/

/-- The values meet the minimums and use whole MiB. -/
def SandboxResources.WellFormed (r : SandboxResources) : Prop :=
  1 ≤ r.vcpuCount ∧ 67108864 ≤ r.memoryBytes ∧ 1048576 ≤ r.workspaceBytes ∧
    2 ^ 20 ∣ r.memoryBytes ∧ 2 ^ 20 ∣ r.workspaceBytes

/-- The values a request selects, before rounding. -/
def SandboxResourceRequest.select (request : SandboxResourceRequest) (defaults : SandboxResources) :
    SandboxResources where
  vcpuCount := request.vcpuCount.getD defaults.vcpuCount
  memoryBytes := request.memoryBytes.getD defaults.memoryBytes
  workspaceBytes := request.workspaceBytes.getD defaults.workspaceBytes

variable {spec : ProfileRevisionSpec} {request request' : Option SandboxResourceRequest}
  {r result result' : SandboxResources}

theorem select_request (r defaults : SandboxResources) : r.request.select defaults = r := rfl

/-- The workspace size an accepted request gets outside `snapshot_resume`. -/
def ProfileRevisionSpec.workspace (spec : ProfileRevisionSpec) (requested : Option ℤ) : ℤ :=
  (requested.map (clampWorkspace spec.ceiling.workspaceBytes)).getD spec.resources.workspaceBytes

/-- When a request is accepted, and what it is resolved to. -/
theorem resolve_eq_ok : resolveSandboxResources spec request = .ok result ↔
    ((request.getD {}).select spec.resources).WellFormed ∧
    if spec.startup = .snapshotResume then
      (request.getD {}).select spec.resources = spec.resources ∧ result = spec.resources
    else
      (∀ w, (request.getD {}).workspaceBytes = some w → w ≤ maximumWorkspaceBytes) ∧
      result = { (request.getD {}).select spec.resources with
        workspaceBytes := spec.workspace (request.getD {}).workspaceBytes } ∧
      2 ^ 20 ∣ result.workspaceBytes ∧ result.within spec.ceiling = true := by
  have hmod (n : ℤ) : n.tmod (2 ^ 20) = 0 ↔ 2 ^ 20 ∣ n := Int.dvd_iff_tmod_eq_zero.symm
  simp only [resolveSandboxResources, bind_eq_ok, require_eq_ok, Bool.and_eq_true,
    decide_eq_true_eq, beq_iff_eq, hmod, exists_const, SandboxResources.WellFormed, and_assoc]
  simp only [SandboxResourceRequest.select]
  refine and_congr_right fun _ => and_congr_right fun _ => and_congr_right fun _ =>
    and_congr_right fun _ =>
    and_congr_right fun _ => ?_
  split
  · simp only [bind_eq_ok, require_eq_ok, beq_iff_eq, pure_eq_ok, exists_const]
    exact and_congr_right fun h => by rw [h, eq_comm]
  · simp only [bind_eq_ok, require_eq_ok, beq_iff_eq, pure_eq_ok, exists_const, hmod]
    have hworkspace : ((request.getD {}).workspaceBytes.map (clampWorkspace spec.ceiling.workspaceBytes)).getD
        ((request.getD {}).workspaceBytes.getD spec.resources.workspaceBytes) =
          spec.workspace (request.getD {}).workspaceBytes := by
      rw [ProfileRevisionSpec.workspace]
      cases (request.getD {}).workspaceBytes <;> rfl
    rw [hworkspace, Option.all_eq_true]
    constructor
    · rintro ⟨hmax, hdvd, hwithin, rfl⟩
      exact ⟨fun w hw => of_decide_eq_true (hmax w hw), rfl, hdvd, hwithin⟩
    · rintro ⟨hmax, rfl, hdvd, hwithin⟩
      exact ⟨fun w hw => decide_eq_true (hmax w hw), hdvd, hwithin, rfl⟩

/-- The ceiling that applies to a resolved allocation. -/
def ProfileRevisionSpec.applicableCeiling (spec : ProfileRevisionSpec) : SandboxResourceRequest :=
  if spec.startup = .snapshotResume then spec.resources.request else spec.ceiling

/-- What a resolved allocation satisfies, whatever was asked for. -/
theorem resolve_sound (h : resolveSandboxResources spec request = .ok result) :
    result.WellFormed ∧ result.within spec.applicableCeiling = true ∧
      sandboxResourcesFitProfile spec result = true := by
  obtain ⟨hwf, h⟩ := resolve_eq_ok.1 h
  rw [ProfileRevisionSpec.applicableCeiling, sandboxResourcesFitProfile]
  by_cases hstartup : spec.startup = .snapshotResume
  · rw [if_pos hstartup] at h ⊢
    obtain ⟨hselect, rfl⟩ := h
    refine ⟨hselect ▸ hwf, ?_, by rw [if_pos hstartup, beq_self_eq_true]⟩
    simp [SandboxResources.within, SandboxResources.request]
  · rw [if_neg hstartup] at h ⊢
    obtain ⟨hmax, rfl, hdvd, hwithin⟩ := h
    refine ⟨⟨hwf.1, hwf.2.1, ?_, hwf.2.2.2.1, hdvd⟩, hwithin, by rw [if_neg hstartup, hwithin]⟩
    have hlow := hwf.2.2.1
    cases hw : (request.getD {}).workspaceBytes with
    | none =>
      rw [SandboxResourceRequest.select, hw] at hlow
      exact hlow
    | some w =>
      rw [SandboxResourceRequest.select, hw] at hlow
      exact le_trans hlow (clampWorkspace_bounds (le_trans (by norm_num) hlow) (hmax w hw) _).1

/-- An explicit workspace size outside `snapshot_resume`. -/
theorem resolve_workspace (hstartup : spec.startup ≠ .snapshotResume) {w : ℤ}
    (hw : (request.getD {}).workspaceBytes = some w)
    (h : resolveSandboxResources spec request = .ok result) :
    1 ≤ w ∧ w ≤ maximumWorkspaceBytes ∧ result.workspaceBytes = clampWorkspace
      spec.ceiling.workspaceBytes w ∧
      spec.ceiling.workspaceBytes.all (result.workspaceBytes ≤ ·) = true := by
  obtain ⟨hwf, h⟩ := resolve_eq_ok.1 h
  rw [if_neg hstartup] at h
  obtain ⟨hmax, rfl, -, hwithin⟩ := h
  have hlow := hwf.2.2.1
  rw [SandboxResourceRequest.select, hw] at hlow
  simp only [SandboxResources.within, Bool.and_eq_true] at hwithin
  refine ⟨le_trans (by norm_num) hlow, hmax w hw, ?_, hwithin.2⟩
  simp only [ProfileRevisionSpec.workspace, hw, Option.map_some, Option.getD_some]

/-- In `snapshot_resume` the result is what was asked for and what the Profile states. -/
theorem resolve_resume (hstartup : spec.startup = .snapshotResume)
    (h : resolveSandboxResources spec request = .ok result) :
    result = spec.resources ∧ (request.getD {}).select spec.resources = spec.resources := by
  obtain ⟨-, h⟩ := resolve_eq_ok.1 h
  rw [if_pos hstartup] at h
  exact h.symm

/-- The resolved workspace size is a fixed point of the resolution. -/
theorem resolve_idempotent {w : ℤ} (hw : (request.getD {}).workspaceBytes = some w)
    (h : resolveSandboxResources spec request = .ok result) :
    resolveSandboxResources spec (some result.request) = .ok result := by
  have hsound := resolve_sound h
  refine resolve_eq_ok.2 ⟨hsound.1, ?_⟩
  rw [Option.getD_some, select_request]
  split
  · next hstartup => exact ⟨(resolve_resume hstartup h).1, (resolve_resume hstartup h).1⟩
  · next hstartup =>
    obtain ⟨hlow, hhigh, heq, hceiling⟩ := resolve_workspace hstartup hw h
    have hround := roundWorkspace_eq hlow hhigh
    have hbounds := clampWorkspace_bounds hlow hhigh spec.ceiling.workspaceBytes
    have hsame := clampWorkspace_clampWorkspace hlow hhigh (heq ▸ hceiling)
    refine ⟨?_, ?_, hsound.1.2.2.2.2, ?_⟩
    · rintro _ ⟨⟩
      exact heq ▸ hbounds.2.trans (hround ▸ pow_size_le hhigh)
    · change result =
        { result with workspaceBytes := clampWorkspace spec.ceiling.workspaceBytes result.workspaceBytes }
      rw [heq, hsame, ← heq]
    · simpa only [ProfileRevisionSpec.applicableCeiling, if_neg hstartup] using hsound.2.1

/-- A stated allocation within an aligned ceiling is accepted as long as rounding can represent it. -/
theorem resolve_accepts (hstartup : spec.startup ≠ .snapshotResume)
    (hceiling : ∀ c ∈ spec.ceiling.workspaceBytes, 2 ^ 20 ∣ c) (hwf : r.WellFormed)
    (hwithin : r.within spec.ceiling = true) (hmax : r.workspaceBytes ≤ maximumWorkspaceBytes) :
    resolveSandboxResources spec (some r.request) =
      .ok { r with workspaceBytes := clampWorkspace spec.ceiling.workspaceBytes r.workspaceBytes } := by
  refine resolve_eq_ok.2 ⟨hwf, ?_⟩
  rw [if_neg hstartup]
  refine ⟨by rintro _ ⟨⟩; exact hmax, rfl, ?_, ?_⟩
  · change 2 ^ 20 ∣ clampWorkspace spec.ceiling.workspaceBytes r.workspaceBytes
    rcases clampWorkspace_cases spec.ceiling.workspaceBytes r.workspaceBytes with h | ⟨h, -⟩
    · rw [h]
      exact dvd_roundWorkspace hmax (le_trans (by norm_num) hwf.2.2.1)
    · exact hceiling _ h
  · simp only [SandboxResources.within, Bool.and_eq_true] at hwithin ⊢
    refine ⟨hwithin.1, ?_⟩
    cases hc : spec.ceiling.workspaceBytes with
    | none => rfl
    | some c =>
      rw [hc, Option.all_some, decide_eq_true_eq] at hwithin
      rw [Option.all_some, decide_eq_true_eq, clampWorkspace]
      split
      · exact le_rfl
      · next h => exact not_lt.1 fun hlt => h ⟨hwithin.2, hlt⟩

/-- Resolution is sound, idempotent and monotone, and accepts what fits the ceiling. -/
theorem sandbox_resources_resolution (spec : ProfileRevisionSpec) :
    (∀ request result, resolveSandboxResources spec request = .ok result →
      result.WellFormed ∧ result.within spec.applicableCeiling = true ∧
      sandboxResourcesFitProfile spec result = true ∧
      ∀ w, (request.getD {}).workspaceBytes = some w →
        w ≤ result.workspaceBytes ∧ resolveSandboxResources spec (some result.request) =
        .ok result ∧ (spec.startup ≠ .snapshotResume →
          (w - 1).bmod (2 ^ 64) = w - 1 ∧ 0 ≤ w - 1 ∧ roundWorkspace w = 2 ^ Nat.size
          (w - 1).toNat ∧ ∃ least, IsLeast (powersFrom w) least ∧ (result.workspaceBytes = least ∨
            spec.ceiling.workspaceBytes = some result.workspaceBytes ∧
              result.workspaceBytes < least))) ∧
    (∀ request request' result result' w w', resolveSandboxResources spec request = .ok result →
      resolveSandboxResources spec request' = .ok result' →
      (request.getD {}).workspaceBytes = some w →
      (request'.getD {}).workspaceBytes = some w' → w ≤ w' →
        result.workspaceBytes ≤ result'.workspaceBytes) ∧
    (spec.startup ≠ .snapshotResume → (∀ c ∈ spec.ceiling.workspaceBytes, 2 ^ 20 ∣ c) →
      ∀ r : SandboxResources, r.WellFormed → r.within spec.ceiling = true →
        ((∃ result, resolveSandboxResources spec (some r.request) = .ok result) ↔
          r.workspaceBytes ≤ maximumWorkspaceBytes)) := by
  refine ⟨fun request result h => ?_, ?_, fun hstartup hceiling r hwf hwithin => ?_⟩
  · have hsound := resolve_sound h
    refine ⟨hsound.1, hsound.2.1, hsound.2.2,
      fun w hw => ⟨?_, resolve_idempotent hw h, fun hstartup => ?_⟩⟩
    · by_cases hstartup : spec.startup = .snapshotResume
      · obtain ⟨rfl, hselect⟩ := resolve_resume hstartup h
        rw [← hselect, SandboxResourceRequest.select, hw]
        exact le_rfl
      · obtain ⟨hlow, hhigh, heq, -⟩ := resolve_workspace hstartup hw h
        exact heq ▸ (clampWorkspace_bounds hlow hhigh _).1
    · obtain ⟨hlow, hhigh, heq, -⟩ := resolve_workspace hstartup hw h
      refine ⟨int64_eq (by omega) (by omega), by
        omega, roundWorkspace_eq hlow hhigh, _, roundWorkspace_isLeast hlow hhigh, ?_⟩
      rw [heq]
      exact (clampWorkspace_cases _ w).imp id fun h => ⟨h.1, h.2.2⟩
  · intro request request' result result' w w' h h' hw hw' hle
    by_cases hstartup : spec.startup = .snapshotResume
    · rw [(resolve_resume hstartup h).1, (resolve_resume hstartup h').1]
    · obtain ⟨hlow, -, heq, hceiling⟩ := resolve_workspace hstartup hw h
      obtain ⟨-, hhigh, heq', -⟩ := resolve_workspace hstartup hw' h'
      rw [heq, heq']
      exact clampWorkspace_mono hlow hle hhigh (heq ▸ hceiling)
  · refine ⟨fun ⟨_, h⟩ => (resolve_workspace hstartup rfl h).2.1, fun hmax => ?_⟩
    exact ⟨_, resolve_accepts hstartup hceiling hwf hwithin hmax⟩

end SecondBox.Resources
