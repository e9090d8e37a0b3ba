/-
  What no step changes: the identity of Sandboxes, Workspaces, Instances and
  commands, and Profile revisions.

  Every transaction but `queueFence` also queues nothing that fences.  Those that
  leave the Assignments alone follow every relation that allows this much
  (`Lenient`): one instance each serves all invariants.
-/
import SecondBox.Fleet.System

set_option synthInstance.maxSize 65536

namespace SecondBox.Fleet

open Relational Relational.Tx

/-! ## Identities -/

/-- The columns of a Sandbox fixed at its creation. -/
def Sandbox.identity (s : Sandbox) : ID × ID × Int × Int × Int :=
  (s.workspaceID, s.profileRevisionID, s.vcpuCount, s.memoryBytes, s.workspaceBytes)

/-- What no evidence changes. -/
def Instance.identity (i : Instance) : ID × Int × String :=
  (i.sandboxID, i.generation, i.requestedImageReference)

/-- A command but for its delivery. -/
def Command.identity (c : Command) : Command := { c with state := .pending }

instance {ec : Sandbox → Option String} {st : Sandbox → SandboxState} {ds : Sandbox → DesiredState}
    {ge : Sandbox → Int} {ci : Sandbox → ID} {tr : Sandbox → TerminationReason}
    {ir : Sandbox → String} {im : Sandbox → String} {ro : Sandbox → ID} :
    Table.UpdateKeeps Sandbox.identity fun s => Sandbox.mk s.workspaceID s.profileRevisionID (ec s)
      (st s) (ds s) (ge s)
      (ci s) (tr s) (ir s) (im s) s.vcpuCount s.memoryBytes s.workspaceBytes (ro s) :=
  ⟨fun _ => rfl⟩

instance {hr : Workspace → ID} {st : Workspace → WorkspaceState} {cb : Workspace → Int}
    {ge : Workspace → Int} {mu : Workspace → Mutation} :
    Table.UpdateKeeps Workspace.sandboxID fun w => Workspace.mk w.sandboxID (hr w) (st w) (cb w)
      (ge w) (mu w) :=
  ⟨fun _ => rfl⟩

instance : Table.UpdateKeeps Workspace.sandboxID fun w => w.release := ⟨fun _ => rfl⟩

instance {st : Instance → InstanceState} {di : Instance → String}
    {tr : Instance → TerminationReason} :
    Table.UpdateKeeps Instance.identity fun i =>
      Instance.mk i.sandboxID i.generation (st i) i.requestedImageReference (di i) (tr i) :=
  ⟨fun _ => rfl⟩

instance {st : Command → CommandState} :
    Table.UpdateKeeps Command.identity fun c => Command.mk c.runnerID c.assignmentID c.kind
      c.payload (st c) :=
  ⟨fun _ => rfl⟩

/-- Rows keep their identity; only Instances, and commands that fence nothing, are new. -/
structure DB.Evolves (d d' : DB) : Prop where
  sandboxes : Table.Keeps Sandbox.identity (fun _ => False) d.sandboxes d'.sandboxes
  workspaces : Table.Keeps Workspace.sandboxID (fun _ => False) d.workspaces d'.workspaces
  instances : Table.Keeps Instance.identity (fun _ => True) d.instances d'.instances
  commands : Table.Keeps Command.identity (fun c => c.kind.fences = false) d.commands d'.commands
  revisions : d'.revisions = d.revisions

instance : IsPreorder DB DB.Evolves where
  refl _ := ⟨inferInstance, inferInstance, inferInstance, inferInstance, rfl⟩
  trans _ _ _ h h' :=
    ⟨h.sandboxes.trans h'.sandboxes, h.workspaces.trans h'.workspaces,
      h.instances.trans h'.instances, h.commands.trans h'.commands, h'.revisions.trans h.revisions⟩

/-- A relation that changes of what has no identity follow, if they leave the Assignments alone. -/
class Lenient (R : DB → DB → Prop) : Prop extends IsPreorder DB R where
  of_evolves : ∀ {d d' : DB}, d.Evolves d' → d'.assignments = d.assignments → R d d'

instance : Lenient DB.Evolves := { of_evolves := fun h _ => h }

instance : Lenient (Same DB.assignments) := { of_evolves := fun _ h => h }

/-! ## Writes -/

section Writes
variable {sb : DB → Table ID Sandbox} {ws : DB → Table ID Workspace} {is : DB → Table ID Instance}
  {as : DB → Table ID Assignment} {cm : DB → Table ID Command} {ef : DB → Table ID Effect}
  {op : DB → Table ID Operation} {rn : DB → Table ID Runner} {pl : DB → Table ID Pool}
  {cn : DB → Table ID Connection} {ms : DB → Table (ID × ID) Int} {te : DB → Table ID TerminalEvent}
  {R : DB → DB → Prop} [hR : Lenient R]
  [hs : ∀ d : DB, Table.Keeps Sandbox.identity (fun _ => False) d.sandboxes (sb d)]
  [hw : ∀ d : DB, Table.Keeps Workspace.sandboxID (fun _ => False) d.workspaces (ws d)]
  [hi : ∀ d : DB, Table.Keeps Instance.identity (fun _ => True) d.instances (is d)]
  [hc : ∀ d : DB, Table.Keeps Command.identity (fun c => c.kind.fences = false) d.commands (cm d)]

instance : Follows DB.Evolves (modify fun d => DB.mk (sb d) (ws d) (is d) (as d) (cm d) (ef d) (op d) (rn d) (pl d)
    d.revisions (cn d) (ms d) (te d) : Tx PUnit) :=
  ⟨fun d => ⟨hs d, hw d, hi d, hc d, rfl⟩⟩

instance : Follows R (modify fun d => DB.mk (sb d) (ws d) (is d) d.assignments (cm d) (ef d) (op d) (rn d) (pl d)
    d.revisions (cn d) (ms d) (te d) : Tx PUnit) :=
  ⟨fun d => hR.of_evolves ⟨hs d, hw d, hi d, hc d, rfl⟩ rfl⟩

end Writes

section Transactions
variable {R : DB → DB → Prop} [hR : Lenient R]

instance {κ ρ : Type} [DecidableEq κ] (t : DB → Table κ ρ) (k : κ) (context : String) :
    Follows R (row t k context) := by
  unfold row
  infer_instance

theorem insertCommand_follows {k : ID} {c : Command} {context : String}
    (hc : c.kind.fences = false) :
    Follows R (insertCommand k c context) := by
  have hkeeps : ∀ d : DB, Table.Keeps Command.identity (fun c => c.kind.fences = false) d.commands
      (d.commands.insertNew k c) := fun d => Table.Keeps.insertNew d.commands hc
  unfold insertCommand
  infer_instance

/-- Assignment and local Workspace commands fence nothing. -/
instance (k runnerID assignmentID : ID) (payload : Payload) (state : CommandState)
    (context : String) :
    Follows R (insertCommand k ⟨runnerID, assignmentID, .assignment, payload, state⟩ context) :=
  insertCommand_follows rfl

instance (k runnerID assignmentID : ID) (payload : Payload) (state : CommandState)
    (context : String) :
    Follows R (insertCommand k ⟨runnerID, assignmentID, .localWorkspace, payload, state⟩ context) :=
  insertCommand_follows rfl

instance (p : ID → Command → Bool) (state : CommandState) :
    Follows R (setCommandsWhere p state) := by
  unfold setCommandsWhere
  infer_instance

instance (sandboxID : ID) (context : String) :
    Follows R (lockSandboxWorkspace sandboxID context) := by
  unfold lockSandboxWorkspace
  infer_instance

variable (assignmentID : ID)

instance (f : Assignment → Assignment) :
    Follows DB.Evolves (updateAssignment assignmentID f) := by
  unfold updateAssignment
  infer_instance

variable (runnerID : ID)
variable (f : Fence)

instance : Follows R (lockAndValidateFence runnerID f) := by
  unfold lockAndValidateFence
  infer_instance

instance (c : Correlation) : Follows R (validateOperationCorrelation runnerID f c) := by
  unfold validateOperationCorrelation
  infer_instance

instance : Follows R (acknowledgeAssignmentCommands assignmentID) := by
  unfold acknowledgeAssignmentCommands
  infer_instance

instance : Follows R (wakeSandboxLifecycle f) := by
  unfold wakeSandboxLifecycle
  infer_instance

instance (c : FailureClass) (now : Time) : Follows DB.Evolves (failAssignment f c now) := by
  unfold failAssignment
  infer_instance

instance : Follows R (announceReady f) := by
  unfold announceReady projectReadySandbox DB.projectReadyOperations
  infer_instance

instance (m : AssignmentResult) : Follows R (pinReadySandboxExecutionImage m) := by
  unfold pinReadySandboxExecutionImage
  infer_instance

instance : Follows R (modify (·.stopFencedInstance f) : Tx PUnit) := by
  have hkeeps : ∀ d : DB, Table.UpdateKeeps Instance.identity fun i =>
      match d.sandboxes.get i.sandboxID, d.assignments.get f.assignmentID with
      | some s, some a =>
        if a.instanceID == f.instanceID && s.currentInstanceID == f.instanceID &&
          s.generation == i.generation then
          { i with state := .stopped, terminationReason := fencedReason i s a }
        else i
      | _, _ => i := by
    refine fun d => ⟨fun i => ?_⟩
    split
    · split <;> rfl
    · rfl
  unfold DB.stopFencedInstance
  infer_instance

variable (m : FenceResult)

instance : Follows R (acknowledgeMatchingFenceCommand runnerID m) := by
  refine ⟨fun d => ?_⟩
  simp only [acknowledgeMatchingFenceCommand, ensures_bind, ensures_get]
  split
  · exact refl_of R d
  · exact Follows.follows d

instance : Follows R (acknowledgeRedundantFenceResult runnerID m) := by
  unfold acknowledgeRedundantFenceResult
  infer_instance

instance (a : StopAuthority) : Follows R (queueGenerationAdvance runnerID m a) := by
  unfold queueGenerationAdvance
  infer_instance

instance : Follows DB.Evolves (recordFenceProof runnerID m) := by
  unfold recordFenceProof
  refine Follows.seq fun _ => Follows.seq fun d => ?_
  split <;> infer_instance

instance : Follows DB.Evolves (recordFenceEvent runnerID m) := by
  unfold recordFenceEvent
  refine Follows.seq fun d => ?_
  split <;> infer_instance

instance (m : InstanceTerminal) (i : Instance) (e : TerminalEvent)
    (recorded : Option TerminalEvent) :
    Follows R (recordTermination m i e recorded) := by
  cases recorded
  · unfold recordTermination insertTerminal
    infer_instance
  · unfold recordTermination
    infer_instance

instance (m : InstanceTerminal) : Follows R (recordInstanceTerminal runnerID m) := by
  unfold recordInstanceTerminal
  infer_instance

instance (e : Evidence) (now : Time) : Follows DB.Evolves (recordDurableEvent runnerID e now) := by
  unfold recordDurableEvent recordAssignmentAck recordAssignmentProgress recordAssignmentResult
    recordReadyResult
    AssignmentResult.checkImage validateAssignmentEvidenceState assignmentEvidenceState
  cases e <;> infer_instance

instance (v : Envelope) (sandboxIDs : List ID) : Follows R (beginOrderedMessage v sandboxIDs) := by
  unfold beginOrderedMessage lockSandboxQuotas recordMessage setLastSequence
  infer_instance

instance (m : InstanceTerminal) : Follows R (validatePersistedInstanceTerminal runnerID m) := by
  unfold validatePersistedInstanceTerminal
  infer_instance

instance (r : EventRecord) : Follows DB.Evolves (recordEvent r) := by
  unfold recordEvent
  refine Follows.seq fun duplicate => ?_
  obtain ⟨⟨v, e⟩, now⟩ := r
  cases e <;> infer_instance

instance (poolName : ID) : Follows R (refreshReadyRunnerCount poolName) := by
  unfold refreshReadyRunnerCount
  infer_instance

instance (m : Registration) (now : Time) : Follows R (recordRegistration m now) := by
  unfold recordRegistration
  infer_instance

instance (m : Heartbeat) (now : Time) : Follows DB.Evolves (recordHeartbeat m now) := by
  unfold recordHeartbeat reconcileRunnerActiveAssignments
  infer_instance

instance (runnerID connectionID : ID) : Follows R (closeConnection runnerID connectionID) := by
  unfold closeConnection takeOffline
  infer_instance

instance (a : Assignment) (workspaceID : ID) (w : Workspace) (now : Time) :
    Follows R (takeStopMutation assignmentID a workspaceID w now) := by
  unfold takeStopMutation queueRunnerLossStop
  infer_instance

instance (c : Claim) (workspaceID : ID) (w : Workspace) :
    Follows R (failTerminally c workspaceID w) := by
  unfold failTerminally releaseFailedStart
  infer_instance

instance (homeRunnerID : ID) (q : ScheduleRequest) :
    Follows R (selectHomeRunner homeRunnerID q) := by
  unfold selectHomeRunner
  refine Follows.seq fun d => Follows.seq fun r => ?_
  split <;> infer_instance

instance (q : ScheduleRequest) (placementAt : Time) :
    Follows DB.Evolves (schedule q placementAt) := by
  unfold schedule place
  refine Follows.seq fun _ => Follows.seq fun _ => Follows.seq fun _ => ?_
  refine Follows.seq fun x => ?_
  refine Follows.seq fun _ => Follows.seq fun _ => Follows.seq fun _ => ?_
  refine Follows.seq fun _ => Follows.seq fun d => ?_
  split <;> infer_instance

instance (workerID id : ID) (claimExpiresAt now : Time) :
    Follows DB.Evolves (claimNext workerID id claimExpiresAt now) := by
  unfold claimNext
  refine Follows.seq fun _ => Follows.seq fun d => ?_
  split
  · infer_instance
  · split
    · infer_instance
    · split <;> infer_instance

instance (c : Claim) (retryCount : Int) : Follows R (queueRetry c retryCount) := by
  have hkeeps : ∀ (payload : Payload) (d : DB),
    Table.Keeps Command.identity (fun c => c.kind.fences = false) d.commands
      (d.commands.insertNew (retryAssignmentCommandID c.assignmentID retryCount)
        ⟨c.runnerID, c.assignmentID, .assignment, payload, .pending⟩) :=
    fun payload d => Table.Keeps.insertNew d.commands rfl
  unfold queueRetry
  infer_instance

instance (expectedRevision : Int) (now : Time) :
    Follows DB.Evolves (advanceFencedGeneration assignmentID expectedRevision now) := by
  unfold advanceFencedGeneration DB.releaseFenced
  infer_instance

theorem applyDecision_evolves {c : Claim} {action : Action} {fence : Option (ID × FenceCommand)}
    {next now : Time} (h : action ≠ .fence) :
    Follows DB.Evolves (applyDecision c action fence next now) := by
  unfold applyDecision
  refine Follows.seq fun e => Follows.seq fun x => ?_
  refine Follows.seq fun _ => Follows.seq fun d => ?_
  refine Follows.seq fun _ => Follows.seq fun _ => ?_
  split
  · exact absurd rfl h
  · infer_instance
  · infer_instance
  · infer_instance

end Transactions

end SecondBox.Fleet
