/-
  The home Runner of a new Sandbox: `selectRunnerForPlacement` of internal/store,
  against the placement of its starts by internal/scheduler.

  A Sandbox never leaves its home, so what its start will ask of the Runner has to
  be asked when the home is chosen.  The two sides check a Runner separately;
  `home_runner_placeable` says when they agree.

  Candidates are ranked on an earlier snapshot and checked again under the lock;
  `busy` tells which rows others have locked meanwhile.  The options of a
  relocation are left out.
-/
import Mathlib.Data.List.Sort
import SecondBox.Base.History
import SecondBox.Fleet.Placement

set_option synthInstance.maxSize 65536

namespace SecondBox.Fleet

open History (after after_invariant)
open Relational Relational.Tx

/-! ## Profiles -/

/-- How an Instance starts. -/
inductive StartupMode where
  | coldBoot
  | snapshotResume
deriving DecidableEq

/-- The resources of a Sandbox. -/
structure SandboxResources where
  vcpuCount : Int
  memoryBytes : Int
  workspaceBytes : Int

/-- The part of `ProfileRevisionSpec` that placement reads. -/
structure ProfileSpec where
  pool : ID
  architecture : String
  startup : StartupMode := .coldBoot
  /-- the Profile has an `AttributedExecution` policy -/
  attributedExecution : Bool := false
  resources : SandboxResources
  concurrentOperations : Int

/-- `sandboxPlacementSpec` -/
def sandboxPlacementSpec (spec : ProfileSpec) (resources : SandboxResources) : ProfileSpec :=
  { spec with resources }

/-! ## Choosing a home -/

/-- The relocation states. -/
inductive RelocationState where
  | queued
  | sourceSealed
  | aborting
  | succeeded
  | failed
deriving DecidableEq

/-- `state IN ('queued','source_sealed','aborting')` -/
def RelocationState.unfinished : RelocationState → Bool
  | queued | sourceSealed | aborting => true
  | _ => false

/-- A row of `workspace_relocations`. -/
structure Relocation where
  targetRunnerID : ID
  state : RelocationState
  logicalCapacityBytes : Int

/-- Restrictions on the Runner. -/
structure PlacementOptions where
  exactRunnerID : ID := ""
  excludedRunnerID : ID := ""
  requiredEgressContext : Option String := none

/-- `durableHomeReservation` -/
def DB.durableHomeReservation (d : DB) (relocations : Table ID Relocation) (runnerID : ID) :
    Capacity where
  diskBytes :=
    d.workspaces.total (fun _ w =>
      if w.homeRunnerID == runnerID && (d.sandboxes.get w.sandboxID).any (·.state != .deleted) then
        w.logicalCapacityBytes
      else 0) +
    relocations.total fun _ r =>
      if r.targetRunnerID == runnerID && r.state.unfinished then r.logicalCapacityBytes else 0

/-- What is left of the Runner beside `reserved` takes the Profile's resources. -/
def Runner.admits (r : Runner) (spec : ProfileSpec) (reserved : Capacity) : Bool :=
  decide (spec.resources.vcpuCount ≤ int64 (r.allocatable.vcpuCount - reserved.vcpuCount)) &&
    decide (spec.resources.memoryBytes ≤ int64 (r.allocatable.memoryBytes - reserved.memoryBytes)) &&
    (if r.capabilities.contains "physical-storage-admission" then
      decide (spec.resources.workspaceBytes ≤ r.individualDiskLimit)
     else decide (spec.resources.workspaceBytes ≤ int64 (r.allocatable.diskBytes - reserved.diskBytes))) &&
    decide (1 ≤ int64 (r.allocatable.instances - reserved.instances)) &&
    decide (spec.concurrentOperations ≤ int64 (r.allocatable.operations - reserved.operations))

/-- `runnerPlacementCompatible` -/
def Runner.placementCompatible (r : Runner) (spec : ProfileSpec) (egressContext : Option String)
    (reserved : Capacity) :
    Bool :=
  r.poolName == spec.pool && r.state == .ready && r.drainPhase == .active && r.activeConnectionID !=
    "" && r.architectures.contains spec.architecture && r.capabilities.contains "compute" &&
    r.capabilities.contains "local-workspace" &&
    egressContext.all r.supportedEgressContexts.contains &&
    (spec.startup != .snapshotResume || r.capabilities.contains "snapshot-resume") &&
    (!spec.attributedExecution || r.capabilities.contains "per-exec-attribution") &&
    (r.backendKind != "" && r.hasMaterialization spec.architecture) &&
    r.admits spec reserved

/-- What `lockRunnerPlacementCandidate` finds. -/
inductive Candidate where
  | absent
  | selected
  /-- only the egress context is missing -/
  | contextMismatch
  | incompatible
deriving DecidableEq

/-- The reservation a candidate is checked against under its lock. -/
def DB.effectiveReserved (d : DB) (relocations : Table ID Relocation) (runnerID : ID) (r : Runner) :
    Capacity :=
  r.reserved.max (if r.capabilities.contains "physical-storage-admission" then {}
    else d.durableHomeReservation relocations runnerID)

/-- `lockRunnerPlacementCandidate` -/
def DB.lockCandidate (d : DB) (relocations : Table ID Relocation) (spec : ProfileSpec)
    (options : PlacementOptions) (runnerID : ID) : Candidate :=
  match d.runners.get runnerID with
  | none => .absent
  | some r =>
    let reserved := d.effectiveReserved relocations runnerID r
    if r.placementCompatible spec options.requiredEgressContext reserved then .selected
    else if options.requiredEgressContext.isSome && r.placementCompatible spec none reserved then
      .contextMismatch
    else .incompatible

/-- The candidates in turn, those others have locked left out: the first that is compatible, or what the others were. -/
def DB.lockCandidates (d : DB) (relocations : Table ID Relocation) (busy : ID → Bool)
    (spec : ProfileSpec) (options : PlacementOptions) : List ID → Except (List Candidate) ID
  | [] => .error []
  | runnerID :: rest =>
    if busy runnerID then d.lockCandidates relocations busy spec options rest
    else match d.lockCandidate relocations spec options runnerID with
    | .absent => d.lockCandidates relocations busy spec options rest
    | .selected => .ok runnerID
    | found =>
      match d.lockCandidates relocations busy spec options rest with
      | .ok id => .ok id
      | .error others => .error (found :: others)

/-- The Runners the query returns, in the order of their identity. -/
def DB.placementRows (d : DB) (spec : ProfileSpec) (options : PlacementOptions) :
    List (ID × Runner) :=
  (d.runners.rows.filter fun x =>
    x.2.poolName == spec.pool && (options.exactRunnerID == "" || x.1 == options.exactRunnerID) &&
      (options.excludedRunnerID == "" || x.1 != options.excludedRunnerID)).insertionSort fun x y =>
      x.1 ≤ y.1

/-- `selectRunnerForPlacement`, with candidates from the snapshot `d₀`. -/
def DB.selectRunnerForPlacement (d₀ d : DB) (relocations : Table ID Relocation) (busy : ID → Bool)
    (spec : ProfileSpec) (options : PlacementOptions) : Except Err ID :=
  let rows := d₀.placementRows spec options
  if options.exactRunnerID != "" then
    match rows with
    | [] => .error .homeRunnerUnavailable
    | x :: _ =>
      match d.lockCandidate relocations spec options x.1 with
      | .selected => .ok x.1
      | .contextMismatch => .error .egressContextUnavailable
      | _ => .error .homeRunnerUnavailable
  else
    let compatible :=
      rows.filter fun x => x.2.placementCompatible spec options.requiredEgressContext x.2.reserved
    let mismatch := options.requiredEgressContext.isSome &&
      rows.any fun x => x.2.placementCompatible spec none x.2.reserved
    match d.lockCandidates relocations busy spec options (compatible.map Prod.fst) with
    | .ok id => .ok id
    | .error found =>
      -- every candidate was locked or gone: wait for the first
      let waited := match found, compatible with
        | [], x :: _ => d.lockCandidate relocations spec options x.1
        | _, _ => .absent
      match compatible, waited with
      | x :: _, .selected => .ok x.1
      | _, _ =>
        .error (if compatible.isEmpty && (mismatch || (waited :: found).contains .contextMismatch) then
          .egressContextUnavailable else .homeRunnerUnavailable)

/-! ## What a start asks -/

/-- `ExecutionImageDigestReference`: the tag and the digest of the reference give way to the digest. -/
def executionImageDigestReference (reference digest : String) : String :=
  let repository := reference.toList.takeWhile (· != '@')
  let untagged := match repository.reverse.dropWhile fun c => c != ':' && c != '/' with
    | ':' :: rest => rest.reverse
    | _ => repository
  String.ofList untagged ++ "@" ++ digest

/-- The reference a start boots, with the digest its preparation resolved. -/
def selectedReference (image digest : String) : String :=
  if image == "" then "" else executionImageDigestReference image digest

/-- The capabilities `scheduleAndStart` places a start with. -/
def placementCapabilities (spec : ProfileSpec) (reference : String) : List String :=
  ["network-policy", "storage", "cleanup", "local-workspace"] ++
    (if reference != "" then ["client-selected-image"] else []) ++
    (if spec.attributedExecution then ["per-exec-attribution"] else []) ++
    (if spec.startup == .snapshotResume then ["snapshot-resume"] else [])

/-- The Requirements of `scheduleAndStart`. -/
def startRequirements (spec : ProfileSpec) (resources : SandboxResources)
    (egressContext : Option String) (image digest : String) : Requirements where
  poolName := spec.pool
  architecture := spec.architecture
  requiredCapabilities := placementCapabilities spec (selectedReference image digest)
  capacity :=
    { vcpuCount := resources.vcpuCount, memoryBytes := resources.memoryBytes, diskBytes := resources.workspaceBytes
      instances := 1, operations := spec.concurrentOperations }
  egressContext := egressContext

/-! ## Runner rows -/

/-- What every Runner reports of itself when it registers. -/
structure Runner.Registered (r : Runner) : Prop where
  architecture : ∃ a, r.architectures = [a]
  ready : ∀ c ∈ ["compute", "network-policy", "storage", "cleanup", "local-workspace"],
    c ∈ r.capabilities

/-- The columns that only a registration writes. -/
def Runner.evidence (r : Runner) : List String × List String := (r.architectures, r.capabilities)

variable {r : Runner}

theorem Runner.Registered.of_evidence {r' : Runner} (h : r.Registered)
    (heq : r'.evidence = r.evidence) :
    r'.Registered := by
  simp only [Runner.evidence, Prod.mk.injEq] at heq
  exact ⟨heq.1 ▸ h.architecture, heq.2 ▸ h.ready⟩

theorem Registration.registered (m : Registration) (c : RunnerCapabilities)
    (allocatable reserved : Capacity) (now : Time) :
    (m.runner c allocatable reserved now).Registered := by
  refine ⟨⟨c.architecture, rfl⟩, fun name hname => ?_⟩
  simp only [Registration.runner, RunnerCapabilities.names, List.append_assoc, List.mem_append]
  left
  simp only [List.mem_cons, List.not_mem_nil, or_false] at hname ⊢
  rcases hname with rfl | rfl | rfl | rfl | rfl <;> decide

/-- Every Runner has registered. -/
def DB.RunnersRegistered (d : DB) : Prop := ∀ id r, d.runners.get id = some r → r.Registered

/-- A drain is requested, or its state reported. -/
def setDrainPhase (runnerID : ID) (state : RunnerState) (phase : DrainPhase) : Tx Unit :=
  modify fun d =>
    { d with runners := d.runners.updateAt runnerID fun r => { r with state, drainPhase := phase } }

/-- The transactions that write Runners; `surroundings` stands for all others. -/
inductive RunnerStep where
  | register (m : Registration) (now : Time)
  | heartbeat (m : Heartbeat) (now : Time)
  | disconnect (runnerID connectionID : ID)
  | expire (cutoff now : Time)
  | drain (runnerID : ID) (state : RunnerState) (phase : DrainPhase)
  | schedule (q : ScheduleRequest) (placementAt : Time)
  | surroundings (d : DB)

/-- What each step runs. -/
def RunnerStep.tx : RunnerStep → Tx Unit
  | register m now => recordRegistration m now
  | heartbeat m now => recordHeartbeat m now
  | disconnect runnerID connectionID => closeConnection runnerID connectionID
  | expire cutoff now => markExpiredRunners cutoff now
  | drain runnerID state phase => setDrainPhase runnerID state phase
  | schedule q placementAt => discard (Fleet.schedule q placementAt)
  | surroundings d => modify fun d' => { d with runners := d'.runners }

/-- A step, committed or rolled back. -/
def DB.runnerStep (d : DB) (t : RunnerStep) : DB := t.tx.commit d

section Preserves

instance {pn : Runner → ID} {st : Runner → RunnerState} {al re : Runner → Capacity}
    {dp : Runner → DrainPhase} {ls : Runner → Time} {ma : Runner → List Materialization}
    {ec : Runner → List String} {bk : Runner → String} {ac : Runner → ID} :
    Table.UpdateKeeps Runner.evidence fun r => Runner.mk (pn r) (st r) r.architectures
      r.capabilities (al r) (re r) (dp r) (ls r) (ma r) (ec r) (bk r) (ac r) :=
  ⟨fun _ => rfl⟩

/-- A write that leaves the evidence of the Runners alone. -/
instance registeredModify {sb : DB → Table ID Sandbox} {ws : DB → Table ID Workspace}
    {is : DB → Table ID Instance} {as : DB → Table ID Assignment} {cm : DB → Table ID Command}
    {ef : DB → Table ID Effect}
    {op : DB → Table ID Operation} {rn : DB → Table ID Runner} {pl : DB → Table ID Pool}
    {rv : DB → Table ID ProfileRevision} {cn : DB → Table ID Connection}
    {ms : DB → Table (ID × ID) Int} {te : DB → Table ID TerminalEvent}
    [hr : ∀ d : DB, Table.Keeps Runner.evidence (fun _ => False) d.runners (rn d)] :
    Preserves DB.RunnersRegistered (modify fun d => DB.mk (sb d) (ws d) (is d) (as d) (cm d) (ef d)
      (op d) (rn d) (pl d) (rv d) (cn d) (ms d) (te d) : Tx PUnit) := by
  refine ⟨fun d h id r' hr' => ?_⟩
  cases hold : d.runners.get id with
  | none => exact ((hr d).moves.new id r' hold hr').elim
  | some r =>
    obtain ⟨r'', hr'', heq⟩ := (hr d).moves.old id r hold
    cases hr'.symm.trans hr''
    exact (h id r hold).of_evidence heq

instance {κ ρ : Type} [DecidableEq κ] (t : DB → Table κ ρ) (k : κ) (context : String) :
    Preserves DB.RunnersRegistered (row t k context) := by
  unfold row
  infer_instance

instance (v : Envelope) (sandboxIDs : List ID) :
    Preserves DB.RunnersRegistered (beginOrderedMessage v sandboxIDs) := by
  unfold beginOrderedMessage lockSandboxQuotas recordMessage setLastSequence
  infer_instance

instance (poolName : ID) : Preserves DB.RunnersRegistered (refreshReadyRunnerCount poolName) := by
  unfold refreshReadyRunnerCount
  infer_instance

/-- A registration replaces the evidence, by evidence that passes its checks. -/
instance (m : Registration) (now : Time) :
    Preserves DB.RunnersRegistered (recordRegistration m now) := by
  have hwrite : ∀ c allocatable reserved,
    Preserves DB.RunnersRegistered (modify fun d : DB => { d with
      pools := d.pools.updateAt m.poolName fun p => { p with backendKind := m.backendKind }
      runners :=
        (d.runners.insertNew m.envelope.runnerID (m.runner c allocatable reserved now)).updateAt
        m.envelope.runnerID fun _ => m.runner c allocatable reserved now } : Tx PUnit) := by
    intro c allocatable reserved
    refine Preserves.modify fun d h id r hr => ?_
    have hr : (d.runners.put m.envelope.runnerID (m.runner c allocatable reserved now)).get
      id = some r := hr
    rw [Table.get_put] at hr
    split at hr
    · cases hr
      exact m.registered c allocatable reserved now
    · exact h id r hr
  unfold recordRegistration
  infer_instance

instance (homeRunnerID : ID) (q : ScheduleRequest) :
    Preserves DB.RunnersRegistered (selectHomeRunner homeRunnerID q) := by
  unfold selectHomeRunner
  refine Preserves.seq fun d => Preserves.seq fun r => ?_
  split <;> infer_instance

instance (q : ScheduleRequest) (placementAt : Time) :
    Preserves DB.RunnersRegistered (schedule q placementAt) := by
  unfold schedule lockSandboxWorkspace place insertCommand
  refine Preserves.seq fun _ => Preserves.seq fun _ => Preserves.bind inferInstance
    fun _ => Preserves.seq fun locked => ?_
  obtain ⟨s, w⟩ := locked
  refine Preserves.seq fun _ => Preserves.seq fun _ => Preserves.bind inferInstance
    fun _ => Preserves.seq fun _ => Preserves.seq fun d => ?_
  split <;> infer_instance

instance (t : RunnerStep) : Preserves DB.RunnersRegistered t.tx := by
  cases t with
  | register m now => exact inferInstanceAs (Preserves _ (recordRegistration m now))
  | heartbeat m now =>
    unfold RunnerStep.tx recordHeartbeat reconcileRunnerActiveAssignments
    infer_instance
  | disconnect runnerID connectionID =>
    unfold RunnerStep.tx closeConnection takeOffline
    infer_instance
  | expire cutoff now =>
    unfold RunnerStep.tx markExpiredRunners
    infer_instance
  | drain runnerID state phase =>
    unfold RunnerStep.tx setDrainPhase
    infer_instance
  | schedule q placementAt =>
    exact inferInstanceAs (Preserves _ (discard (Fleet.schedule q placementAt)))
  | surroundings d => exact Preserves.modify fun d' h => h

end Preserves

theorem runners_registered (steps : List RunnerStep) :
    (after DB.runnerStep {} steps).RunnersRegistered := by
  refine after_invariant (fun d t h => ?_) ?_ steps
  · exact Preserves.commit (m := t.tx) h
  · intro id r hr
    cases hr

/-! ## The two sides -/

section
variable {d₀ d : DB} {relocations : Table ID Relocation} {busy : ID → Bool} {spec : ProfileSpec}
  {options : PlacementOptions} {runnerID : ID}

theorem lockCandidates_selected {ids : List ID}
    (h : d.lockCandidates relocations busy spec options ids = .ok runnerID) :
    d.lockCandidate relocations spec options runnerID = .selected := by
  induction ids with
  | nil => cases h
  | cons id rest ih =>
    rw [DB.lockCandidates] at h
    split at h
    · exact ih h
    split at h
    · exact ih h
    next hselected =>
      cases h
      exact hselected
    next =>
      split at h
      next id' hrest =>
        cases h
        exact ih hrest
      next => cases h

/-- Whatever the snapshot and the locks, the Runner chosen was checked under its lock. -/
theorem selectRunnerForPlacement_selected
    (h : d₀.selectRunnerForPlacement d relocations busy spec options = .ok runnerID) :
    d.lockCandidate relocations spec options runnerID = .selected := by
  rw [DB.selectRunnerForPlacement] at h
  split at h
  · split at h
    · cases h
    split at h
    next hselected =>
      cases h
      exact hselected
    · cases h
    · cases h
  · dsimp only at h
    generalize List.filter _ (d₀.placementRows spec options) = compatible at h
    split at h
    next id hlocked =>
      cases h
      exact lockCandidates_selected hlocked
    next found hlocked =>
      split at h
      next x rest hwaited =>
        cases h
        split at hwaited
        next heq =>
          cases heq
          exact hwaited
        next => cases hwaited
      next => cases h

theorem lockCandidate_selected (h : d.lockCandidate relocations spec options runnerID = .selected) :
    ∃ r, d.runners.get runnerID = some r ∧ r.placementCompatible spec options.requiredEgressContext
      (d.effectiveReserved relocations runnerID r) = true := by
  rw [DB.lockCandidate] at h
  split at h
  · cases h
  next r hr =>
  dsimp only at h
  split at h
  next hcompatible => exact ⟨r, hr, hcompatible⟩
  next =>
    split at h <;> cases h

end

/-- Every number of the capacity is one that `int64` holds and that is not negative. -/
def Capacity.Exact (c : Capacity) : Prop :=
  ∀ n ∈ [c.vcpuCount, c.memoryBytes, c.diskBytes, c.instances, c.operations],
    0 ≤ n ∧ n < 9223372036854775808

instance (c : Capacity) : Decidable c.Exact := inferInstanceAs (Decidable (∀ n ∈ _, _))

/-- No capacity in which the Runner is checked was reported as `2^63` or more. -/
structure Runner.Exact (r : Runner) (reserved : Capacity) : Prop where
  allocatable : r.allocatable.Exact
  recorded : r.reserved.Exact
  reserved : reserved.Exact

theorem int64_sub {a b : Int} (ha : 0 ≤ a ∧ a < 9223372036854775808)
    (hb : 0 ≤ b ∧ b < 9223372036854775808) :
    int64 (a - b) = a - b :=
  Int.bmod_eq_of_le (by omega) (by omega)

/-- What is free beside a larger reservation is free beside the recorded one. -/
theorem Runner.fits_of_admits {spec : ProfileSpec} {resources : SandboxResources} {other : Capacity}
    (hexact : r.Exact (r.reserved.max other))
    (h : r.admits (sandboxPlacementSpec spec resources) (r.reserved.max other) = true)
    (egressContext : Option String)
    (image digest : String) :
    r.fits (startRequirements spec resources egressContext image digest).capacity = true := by
  simp only [Runner.admits, Bool.and_eq_true] at h
  obtain ⟨⟨⟨⟨hvcpu, hmemory⟩, hdisk⟩, hinstances⟩, hoperations⟩ := h
  obtain ⟨hallocatable, hrecorded, hreserved⟩ := hexact
  simp only [Capacity.Exact, Capacity.max, List.forall_mem_cons] at hallocatable hrecorded hreserved
  obtain ⟨ha₁, ha₂, ha₃, ha₄, ha₅, -⟩ := hallocatable
  obtain ⟨hb₁, hb₂, hb₃, hb₄, hb₅, -⟩ := hrecorded
  obtain ⟨hc₁, hc₂, hc₃, hc₄, hc₅, -⟩ := hreserved
  have hfree : ∀ {a b c n : Int}, 0 ≤ a ∧ a < 9223372036854775808 → 0 ≤ b ∧
      b < 9223372036854775808 →
      0 ≤ max b c ∧ max b c < 9223372036854775808 → decide (n ≤ int64 (a - max b c)) = true →
      decide (n ≤ int64 (a - b)) = true := by
    intro a b c n ha hb hc hn
    have hle := le_max_left b c
    have hn := of_decide_eq_true hn
    rw [int64_sub ha hc] at hn
    rw [int64_sub ha hb]
    exact decide_eq_true (by omega)
  simp only [Runner.fits, Bool.and_eq_true]
  refine ⟨⟨⟨⟨hfree ha₁ hb₁ hc₁ hvcpu, hfree ha₂ hb₂ hc₂ hmemory⟩, ?_⟩, hfree ha₄ hb₄ hc₄ hinstances⟩,
    hfree ha₅ hb₅ hc₅ hoperations⟩
  split at hdisk
  next hphysical =>
    rw [if_pos hphysical]
    exact hdisk
  next hphysical =>
    rw [if_neg hphysical]
    exact hfree ha₃ hb₃ hc₃ hdisk

theorem selectedReference_eq_empty {image digest : String} : selectedReference image digest = "" ↔
    image = "" := by
  rw [selectedReference]
  split
  next h => simpa using h
  next h =>
    refine ⟨fun hempty => ?_, fun hi => absurd hi (by simpa using h)⟩
    have hlength := congrArg String.length hempty
    simp [executionImageDigestReference] at hlength

/-- The Runner has what a start asks, but perhaps for a selected image. -/
theorem Runner.all_placementCapabilities (hregistered : r.Registered) (spec : ProfileSpec)
    (hresume : spec.startup = .snapshotResume → "snapshot-resume" ∈ r.capabilities)
    (hattributed : spec.attributedExecution = true → "per-exec-attribution" ∈ r.capabilities)
    (reference : String) :
    (placementCapabilities spec reference).all r.capabilities.contains = true ↔
      reference = "" ∨ "client-selected-image" ∈ r.capabilities := by
  simp only [List.all_eq_true, List.contains_iff_mem, placementCapabilities, List.mem_append]
  constructor
  · intro h
    by_cases hempty : reference = ""
    · exact .inl hempty
    · exact .inr (h _ (.inl (.inl (.inr (by simp [hempty])))))
  · rintro himage c (((hc | hc) | hc) | hc)
    · exact hregistered.ready c (List.mem_cons_of_mem _ hc)
    · split at hc
      next hne =>
        rw [List.mem_singleton] at hc
        subst hc
        exact himage.resolve_left (by simpa using hne)
      next => cases hc
    · split at hc
      next hpolicy =>
        rw [List.mem_singleton] at hc
        exact hc ▸ hattributed hpolicy
      next => cases hc
    · split at hc
      next hmode =>
        rw [List.mem_singleton] at hc
        exact hc ▸ hresume (by simpa using hmode)
      next => cases hc

/-- A start is placed on a Runner that was compatible when it was chosen as a home, but perhaps for a selected image. -/
theorem Runner.compatible_iff (hregistered : r.Registered) {spec : ProfileSpec}
    {resources : SandboxResources} {egressContext : Option String} {other : Capacity}
    (hexact : r.Exact (r.reserved.max other))
    (h : r.placementCompatible (sandboxPlacementSpec spec resources) egressContext (r.reserved.max other) = true)
    (image digest : String) {now : Time} {heartbeatTimeout : Int}
    (hfresh : now - heartbeatTimeout ≤ r.lastSeenAt) :
    r.compatible (startRequirements spec resources egressContext image digest) spec.architecture now
        heartbeatTimeout = true ↔ image = "" ∨ "client-selected-image" ∈ r.capabilities := by
  simp only [Runner.placementCompatible, Bool.and_eq_true] at h
  obtain ⟨⟨⟨⟨⟨⟨⟨⟨⟨⟨⟨hpool, -⟩, hdrain⟩, -⟩, -⟩, -⟩, -⟩, -⟩, hresume⟩, hattributed⟩, hbackend,
    hmaterialized⟩, hfits⟩ := h
  have hready : ∀ c ∈ ["compute", "network-policy", "storage", "cleanup", "local-workspace"],
      r.capabilities.contains c = true :=
        fun c hc => List.contains_iff_mem.2 (hregistered.ready c hc)
  have hcapabilities := Runner.all_placementCapabilities hregistered spec
    (fun hmode => by simpa [sandboxPlacementSpec, hmode] using hresume)
    (fun hpolicy => by simpa [sandboxPlacementSpec, hpolicy] using hattributed)
      (selectedReference image digest)
  rw [selectedReference_eq_empty] at hcapabilities
  rw [← hcapabilities]
  simp only [Runner.compatible, Bool.and_eq_true]
  constructor
  · exact fun hall => hall.1.1.2
  · intro hall
    refine ⟨⟨⟨⟨⟨⟨⟨⟨⟨hpool, ?_⟩, hdrain⟩, ?_⟩, hbackend⟩, hready _ (by decide)⟩, ?_⟩, hall⟩, ?_⟩, ?_⟩
    · exact beq_self_eq_true _
    · rw [Bool.not_eq_true', decide_eq_false_iff_not]
      exact Int.not_lt.2 hfresh
    · rw [Bool.or_eq_true]
      exact .inr hmaterialized
    · exact List.all_eq_true.2 fun c hc => hready c (List.mem_cons_of_mem _ hc)
    · exact Runner.fits_of_admits hexact hfits egressContext image digest

/-- `SelectHomeRunner` accepts the Runner for a request. -/
def DB.Placeable (d : DB) (runnerID : ID) (q : ScheduleRequest) : Prop :=
  (selectHomeRunner runnerID q).Commits d

theorem placeable_iff {d : DB} {runnerID : ID} (hr : d.runners.get runnerID = some r) {a : String}
    (ha : r.architectures = [a]) {q : ScheduleRequest}
    (hpool : r.poolName = q.requirements.poolName) (hstate : r.state = .ready) :
    d.Placeable runnerID q ↔ r.compatible q.requirements a q.now q.heartbeatTimeout = true ∧
      q.requirements.egressContext.all r.supportedEgressContexts.contains = true := by
  have hfilter : (d.runners.get runnerID).filter
      (fun r => r.poolName == q.requirements.poolName && r.state == .ready) = some r := by
    simp [hr, hpool, hstate, Option.filter]
  rw [DB.Placeable, commits_iff_succeeds, selectHomeRunner]
  simp only [succeeds_bind, succeeds_get, succeeds_expect, hfilter, Option.some.injEq,
    exists_eq_left', ha, succeeds_require, succeeds_pure, and_true]

/-- A Runner chosen as the home of a new Sandbox can be placed on, as long as the Sandbox boots no selected image that
    the Runner cannot fetch: `selectRunnerForPlacement` does not ask for that capability.  Both sides subtract in
    `int64`; a Runner that reports `2^63` bytes and more is left out. -/
theorem home_runner_placeable (steps : List RunnerStep) (d₀ : DB)
    (relocations : Table ID Relocation) (busy : ID → Bool) (spec : ProfileSpec)
    (resources : SandboxResources) (options : PlacementOptions) (runnerID : ID)
    (hselected : d₀.selectRunnerForPlacement (after DB.runnerStep {} steps) relocations busy
      (sandboxPlacementSpec spec resources) options = .ok runnerID)
    (image digest : String) (q : ScheduleRequest)
    (hrequirements : q.requirements = startRequirements spec resources options.requiredEgressContext image digest)
    (hfresh : ∀ r, (after DB.runnerStep {} steps).runners.get runnerID = some r →
      q.now - q.heartbeatTimeout ≤ r.lastSeenAt)
    (hexact : ∀ r, (after DB.runnerStep {} steps).runners.get runnerID = some r →
      r.Exact ((after DB.runnerStep {} steps).effectiveReserved relocations runnerID r)) :
    (after DB.runnerStep {} steps).Placeable runnerID q ↔
      image = "" ∨ ∃ r, (after DB.runnerStep {} steps).runners.get runnerID = some r ∧
        "client-selected-image" ∈ r.capabilities := by
  obtain ⟨r, hr, hcompatible⟩ :=
    lockCandidate_selected (selectRunnerForPlacement_selected hselected)
  have hregistered := runners_registered steps runnerID r hr
  have hchecked := hcompatible
  simp only [Runner.placementCompatible, Bool.and_eq_true, beq_iff_eq] at hchecked
  obtain ⟨⟨⟨⟨⟨⟨⟨⟨⟨⟨⟨hpool, hstate⟩, -⟩, -⟩, harchitecture⟩, -⟩, -⟩, hegress⟩, -⟩, -⟩, -⟩, -⟩ :=
    hchecked
  -- the one architecture of the Runner is the Profile's
  obtain ⟨a, ha⟩ := hregistered.architecture
  have hprofile : a = spec.architecture := by
    rw [ha, List.contains_iff_mem, List.mem_singleton] at harchitecture
    exact harchitecture.symm
  subst hprofile
  rw [placeable_iff hr ha (by rw [hpool, hrequirements]; rfl) hstate, hrequirements,
    Runner.compatible_iff hregistered (hexact r hr) hcompatible image digest (hfresh r hr)]
  constructor
  · rintro ⟨himage, -⟩
    exact himage.imp_right fun hmem => ⟨r, hr, hmem⟩
  · intro himage
    refine ⟨himage.imp_right ?_, hegress⟩
    rintro ⟨r', hr', hmem⟩
    rw [hr] at hr'
    cases hr'
    exact hmem

/-! ### A Runner that boots its installed bundle only -/

/-- A Runner registers without `client-selected-image`. -/
def fixedImageRunner : List RunnerStep :=
  [.surroundings { pools := .put .empty "pool" {}, connections := .put .empty "connection" ⟨"runner", true, 0⟩ },
    .register
      { envelope := ⟨"runner", "connection", "registration", 1⟩, poolName := "pool", protocolVersion := 5
        backendKind := "firecracker"
        capabilities := some
          { computeBackendVersion := "1", hypervisorReady := true, isolationReady := true, resourceLimitsReady := true
            networkPolicyReady := true, storageReady := true, cleanupReady := true, dataPlaneReady := true
            guestProtocols := some (1, 1), architecture := "amd64" }
        allocatable := some ⟨8, 16, 16, 4, 8⟩, reserved := some {}
        materializations := [⟨"firecracker", "amd64", "sha256:0"⟩] } 1000]

/-- A profile with the least resources. -/
def smallProfile : ProfileSpec where
  pool := "pool"
  architecture := "amd64"
  resources := ⟨1, 1, 1⟩
  concurrentOperations := 1

/-- The start of a Sandbox of that Profile. -/
def startOf (image digest : String) : ScheduleRequest where
  assignmentID := "assignment"
  assignmentCommandID := "command"
  instanceID := "instance"
  sandboxID := "sandbox"
  workspaceID := "workspace"
  startMutationID := "mutation"
  profileRevisionID := "revision"
  requirements := startRequirements smallProfile smallProfile.resources none image digest
  command := ⟨⟨"assignment", "sandbox", "instance", 1, []⟩, "revision", "workspace",
    { requestID := "request", operationID := "operation", sandboxID := "sandbox", sandboxGeneration := 1, runnerID := "" },
    1, "", "", false⟩
  fencingToken := []
  claimExpiresAt := 1
  operationDeadline := 1
  retryLimit := 0
  heartbeatTimeout := 10
  now := 1005
  lifecycleClaimOwner := "worker"

/-- The Runner becomes the home of a Sandbox that selects an image, and refuses its starts. -/
theorem fixed_image_home_not_placeable :
    (after DB.runnerStep {} fixedImageRunner).selectRunnerForPlacement
      (after DB.runnerStep {} fixedImageRunner) .empty
      (fun _ => false) (sandboxPlacementSpec smallProfile smallProfile.resources) {} =
        .ok "runner" ∧
    (∀ r, (after DB.runnerStep {} fixedImageRunner).runners.get "runner" = some r →
    1005 - 10 ≤ r.lastSeenAt) ∧
    ¬(after DB.runnerStep {} fixedImageRunner).Placeable "runner"
      (startOf "registry/app:1" "sha256:1") := by
  refine ⟨by decide +kernel, ?_, ?_⟩
  · decide +kernel
  · rintro ⟨r, d, h⟩
    have hanswer : (selectHomeRunner "runner" (startOf "registry/app:1" "sha256:1")).answer
        (after DB.runnerStep {} fixedImageRunner) = .error .homeRunnerUnavailable := by
          decide +kernel
    rw [Tx.answer, h] at hanswer
    cases hanswer

/-- Without an image the same Runner takes the start. -/
theorem fixed_image_home_placeable :
    (after DB.runnerStep {} fixedImageRunner).selectRunnerForPlacement
      (after DB.runnerStep {} fixedImageRunner) .empty
      (fun _ => false) (sandboxPlacementSpec smallProfile smallProfile.resources) {} =
        .ok "runner" ∧
    (after DB.runnerStep {} fixedImageRunner).Placeable "runner" (startOf "" "") := by
  have hselected : (after DB.runnerStep {} fixedImageRunner).selectRunnerForPlacement
      (after DB.runnerStep {} fixedImageRunner) .empty (fun _ => false)
      (sandboxPlacementSpec smallProfile smallProfile.resources) {} = .ok "runner" := by
        decide +kernel
  have hexact : ∀ r, (after DB.runnerStep {} fixedImageRunner).runners.get "runner" = some r →
      r.Exact ((after DB.runnerStep {} fixedImageRunner).effectiveReserved .empty "runner" r) := by
    intro r hr
    have hrow : (after DB.runnerStep {} fixedImageRunner).runners.get "runner" =
        ((after DB.runnerStep {} fixedImageRunner).runners.get "runner").filter fun r =>
          decide (r.allocatable.Exact ∧ r.reserved.Exact ∧
            ((after DB.runnerStep {} fixedImageRunner).effectiveReserved .empty "runner"
              r).Exact) := by decide +kernel
    rw [hrow, Option.filter_eq_some_iff, decide_eq_true_eq] at hr
    exact ⟨hr.2.1, hr.2.2.1, hr.2.2.2⟩
  exact ⟨hselected, (home_runner_placeable fixedImageRunner _ .empty _ smallProfile
    smallProfile.resources {} "runner"
    hselected "" "" (startOf "" "") rfl (by decide +kernel) hexact).2 (.inl rfl)⟩

end SecondBox.Fleet
