/-
  Which operation a frame is given to.

  A later frame of a stream is matched to its operation by the key alone.  The
  key leaves out the Sandbox, the Instance and the fencing token, and joins
  free-form IDs with NUL, so it does not determine who a frame belongs to;
  `eq_of_key_eq` says what has to be added.
-/
import SecondBox.Base.Join
import SecondBox.Runner.AtMostOnce

namespace SecondBox.Runner

open Relational Once History Join

/-- The separator of keys. -/
def nul : Char := Char.ofNat 0

/-- How many NULs an ID holds. -/
def nuls (s : String) : ℕ := s.toList.count nul

theorem nuls_toString (n : ℕ) : (toString n).toList.count nul = 0 := by
  rw [List.count_eq_zero]
  intro hmem
  have hdigit : nul.isDigit = true := by
    refine Nat.isDigit_of_mem_toDigits (b := 10) (n := n) (by decide) (by decide) ?_
    simpa [toString, Nat.repr] using hmem
  exact absurd hdigit (by decide)

theorem toString_injective {m n : ℕ} (h : (toString m).toList = (toString n).toList) : m = n := by
  have hvalue := congrArg (fun digits => Nat.ofDigitChars 10 digits 0) h
  simpa [Nat.toString_eq_ofList_toDigits] using hvalue

theorem toList_key (i : Identity) : (runnerDataPlaneOperationKey i).toList =
    i.fence.assignmentId.toList ++ nul :: ((toString i.fence.sandboxGeneration).toList ++
      nul :: (i.operationId.toList ++ nul :: i.streamId.toList)) := by
  have hnul : ("\x00" : String).toList = [nul] := by decide
  simp only [runnerDataPlaneOperationKey, String.toList_append, hnul, List.append_assoc,
    List.cons_append, List.nil_append]

/-- What the key does not say about an identity. -/
structure AgreeBeyondKey (i j : Identity) : Prop where
  sandboxId : i.fence.sandboxId = j.fence.sandboxId
  instanceId : i.fence.instanceId = j.fence.instanceId
  fencingToken : i.fence.fencingToken = j.fence.fencingToken
  assignmentNuls : nuls i.fence.assignmentId = nuls j.fence.assignmentId
  operationNuls : nuls i.operationId = nuls j.operationId

theorem AgreeBeyondKey.refl (i : Identity) : AgreeBeyondKey i i := ⟨rfl, rfl, rfl, rfl, rfl⟩

variable {i : Identity}

theorem eq_of_key_eq {j : Identity}
    (h : runnerDataPlaneOperationKey i = runnerDataPlaneOperationKey j)
    (hagree : AgreeBeyondKey i j) : i = j := by
  have hlist := congrArg String.toList h
  rw [toList_key, toList_key] at hlist
  obtain ⟨hassignment, hlist⟩ := append_cons_inj_of_count hlist hagree.assignmentNuls
  obtain ⟨hgeneration, hlist⟩ :=
    append_cons_inj_of_count hlist (by rw [nuls_toString, nuls_toString])
  obtain ⟨hoperation, hstream⟩ := append_cons_inj_of_count hlist hagree.operationNuls
  obtain ⟨⟨a, sb, ins, g, tok⟩, op, st⟩ := i
  obtain ⟨⟨a', sb', ins', g', tok'⟩, op', st'⟩ := j
  obtain ⟨rfl, rfl, rfl, -, -⟩ := hagree
  have ha : a = a' := String.toList_injective hassignment
  have hg : g = g' := toString_injective hgeneration
  have ho : op = op' := String.toList_injective hoperation
  have hs : st = st' := String.toList_injective hstream
  rw [ha, hg, ho, hs]

/-- Two identities with one key are the same iff they agree in what the key leaves out. -/
theorem eq_iff_of_key_eq {j : Identity}
    (h : runnerDataPlaneOperationKey i = runnerDataPlaneOperationKey j) :
    i = j ↔ AgreeBeyondKey i j :=
  ⟨fun hij => hij ▸ .refl i, eq_of_key_eq h⟩

/-! ## The operation a frame changes -/

/-- An operation of any kind. -/
inductive Operation where
  | exec (op : ExecOperation)
  | file (op : FileOperationState)
  | port (op : PortOperation)
deriving DecidableEq

/-- The identity it was opened with. -/
def Operation.identity : Operation → Identity
  | .exec op => op.identity
  | .file op => op.identity
  | .port op => op.identity

/-- The operation under a key. -/
def Service.operationAt (s : Service) (kind : Kind) (key : String) : Option Operation :=
  match kind with
  | .exec => (s.execOperations.get key).map .exec
  | .file => (s.fileOperations.get key).map .file
  | .port => (s.portOperations.get key).map .port

/-- Whom a frame says it belongs to, with the kind of the operation it is meant for. -/
def Command.identity : Command → Option (Kind × Identity)
  | .exec frame => (validateRunnerDataPlaneFrameIdentity frame).map (Prod.mk .exec)
  | .pty frame => (validateRunnerDataPlaneFrameIdentity frame).map (Prod.mk .exec)
  | .file frame => (validateRunnerDataPlaneFrameIdentity frame).map (Prod.mk .file)
  | .port frame => (validateRunnerDataPlaneFrameIdentity frame).map (Prod.mk .port)
  | _ => none

/-- A frame of a data-plane stream. -/
def Command.isFrame : Command → Bool
  | .exec _ | .pty _ | .file _ | .port _ => true
  | _ => false

/-- What is in the second registry is what was in the first, but under one key. -/
def OnlyAt {σ : Type} (key : String) (r r' : Registry String σ) : Prop :=
  ∀ k op, r'.get k = some op → k = key ∨ r.get k = some op

namespace OnlyAt

variable {σ : Type} {key : String} {r : Registry String σ}

theorem refl : OnlyAt key r r := fun _ _ h => .inr h

theorem put (op : σ) : OnlyAt key r (r.put key op) := by
  intro k op' h
  by_cases hk : k = key
  · exact .inl hk
  · rw [Registry.get_put_of_ne _ _ hk] at h
    exact .inr h

theorem retain (op : σ) (limit : ℕ) (ended : σ → Bool) :
    OnlyAt key r ((r.put key op).retain limit ended key).1 :=
  fun k op' h => put op k op' (Registry.get_of_get_retain h)

end OnlyAt

section
variable {s : Service} {key : String}

variable (config : Config) (enabled : Features) (answers : PortAnswers) (stream : Stream)

theorem continueExec_onlyAt (op : ExecOperation) (frame : ExecFrame) :
    OnlyAt key s.execOperations (continueExec s stream key op frame).service.execOperations := by
  rw [continueExec]
  split
  · exact .refl
  split
  · exact .refl
  · exact .refl
  · dsimp only
    split
    · exact .put _
    split
    · split
      · exact .put _
      split <;> exact .put _
    · split <;> exact .put _
    · exact .put _
    · exact .put _

theorem handleExecFrame_onlyAt (frame : ExecFrame)
    (hi : validateRunnerDataPlaneFrameIdentity frame = some i) :
    OnlyAt (runnerDataPlaneOperationKey i) s.execOperations
      (handleExecFrame config enabled s stream frame).service.execOperations := by
  rw [handleExecFrame, hi]
  split
  · exact .refl
  dsimp only
  split
  · exact continueExec_onlyAt stream _ frame
  split
  · split
    · exact .refl
    split
    · exact .refl
    · exact .put _
  · exact .refl

theorem continuePTY_onlyAt (op : ExecOperation) (frame : PtyFrame) :
    OnlyAt key s.execOperations (continuePTY s stream key op frame).service.execOperations := by
  rw [continuePTY]
  split
  · exact .refl
  split
  · exact .refl
  · exact .refl
  · dsimp only
    split
    · exact .put _
    split
    · split <;> exact .put _
    · split <;> exact .put _
    · split <;> exact .put _
    · exact .put _

theorem attachPTYStream_onlyAt (reconnectId : String) (afterSequence : Int) (window : ℕ) :
    OnlyAt key s.execOperations
      (attachPTYStream s stream key reconnectId afterSequence window).service.execOperations := by
  rw [attachPTYStream]
  split
  · exact .refl
  split
  · exact .refl
  split
  · exact .refl
  split
  · exact .refl
  split
  · exact .refl
  split
  · exact .refl
  · exact .put _

theorem detachPTYAttachment_onlyAt (reconnectId : String) :
    OnlyAt key s.execOperations (detachPTYAttachment s key reconnectId).service.execOperations := by
  rw [detachPTYAttachment]
  split
  · exact .refl
  split
  · exact .refl
  split
  · exact .refl
  split
  · exact .refl
  split
  · exact .put _
  · exact .refl

theorem handlePTYFrame_onlyAt (frame : PtyFrame)
    (hi : validateRunnerDataPlaneFrameIdentity frame = some i) :
    OnlyAt (runnerDataPlaneOperationKey i) s.execOperations
      (handlePTYFrame enabled s stream frame).service.execOperations := by
  rw [handlePTYFrame, hi]
  split
  · exact .refl
  dsimp only
  split
  · exact attachPTYStream_onlyAt _ _ _ _
  · exact detachPTYAttachment_onlyAt _
  · split
    · exact .refl
    split
    · exact .refl
    · exact continuePTY_onlyAt stream _ frame

theorem continueFile_onlyAt (op : FileOperationState) (frame : FileFrame) :
    OnlyAt key s.fileOperations (continueFile s stream key op frame).service.fileOperations := by
  rw [continueFile]
  split
  · exact .refl
  split
  · exact .refl
  · exact .refl
  · dsimp only
    split
    · exact .put _
    split
    · split <;> exact .put _
    · exact .put _
    · split
      · exact .put _
      split
      · exact .put _
      split
      · exact .put _
      split
      · exact .put _
      split
      · split <;> exact .put _
      · exact .put _
    · exact .put _

theorem handleFileFrame_onlyAt (frame : FileFrame)
    (hi : validateRunnerDataPlaneFrameIdentity frame = some i) :
    OnlyAt (runnerDataPlaneOperationKey i) s.fileOperations
      (handleFileFrame config enabled s stream frame).service.fileOperations := by
  rw [handleFileFrame, hi]
  split
  · exact .refl
  dsimp only
  split
  · exact continueFile_onlyAt stream _ frame
  split
  · split
    · exact .refl
    split
    · exact .refl
    split
    · exact .refl
    · exact .put _
  · exact .refl

theorem sendPortTerminal_onlyAt (op : PortOperation) (t : PortTerminal) (closes : Bool) :
    OnlyAt key s.portOperations (sendPortTerminal s stream key op t closes).service.portOperations := by
  rw [sendPortTerminal]
  split
  · split <;> exact .refl
  · exact .retain _ _ _

theorem continuePort_onlyAt (op : PortOperation) (frame : PortFrame) :
    OnlyAt key s.portOperations (continuePort answers s stream key op frame).service.portOperations := by
  rw [continuePort]
  split
  · exact .refl
  · exact .refl
  · dsimp only
    split
    · exact .put _
    split
    · split
      · exact .put _
      split
      · rw [sendPortCredit]
        split <;> exact .put _
      · exact sendPortTerminal_onlyAt _ _ _ _
    · split <;> exact .put _
    · exact sendPortTerminal_onlyAt _ _ _ _
    · exact .put _

theorem openPort_onlyAt (i : Identity) (frame : PortFrame) :
    OnlyAt key s.portOperations (openPort config answers s stream key i frame).service.portOperations := by
  rw [openPort]
  dsimp only
  split
  · exact .put _
  split
  · exact .put _
  split
  · exact .put _
  · exact .put _

theorem trackPortFrame_onlyAt (i : Identity) (frame : PortFrame) :
    OnlyAt key s.portOperations (trackPortFrame config answers s stream key i frame).service.portOperations := by
  rw [trackPortFrame]
  split
  · exact continuePort_onlyAt answers stream _ frame
  split
  · split
    · exact .refl
    split
    · exact .refl
    · exact openPort_onlyAt config answers stream i frame
  · exact .refl

theorem handlePortFrame_onlyAt (listenerReady : Bool)
    (stream : Stream) (frame : PortFrame)
    (hi : validateRunnerDataPlaneFrameIdentity frame = some i) :
    OnlyAt (runnerDataPlaneOperationKey i) s.portOperations
      (handlePortFrame config enabled answers listenerReady s stream frame).service.portOperations := by
  rw [handlePortFrame, hi]
  split
  · exact .refl
  dsimp only
  split
  · split
    · exact .refl
    · exact trackPortFrame_onlyAt config answers stream i frame
  · split
    · exact .refl
    split
    · exact .refl
    split
    · exact .refl
    split
    · exact .refl
    split
    · exact .refl
    · rw [registerDirectPortSession]
      split <;> exact .refl
  · exact trackPortFrame_onlyAt config answers stream i frame

theorem continuePort_directPorts (op : PortOperation) (frame : PortFrame) :
    (continuePort answers s stream key op frame).service.directPorts = s.directPorts := by
  have hterminal : ∀ op t, (sendPortTerminal s stream key op t answers.closes).service.directPorts =
      s.directPorts := by
    intro op t
    rw [sendPortTerminal]
    split
    · split <;> rfl
    · rfl
  rw [continuePort]
  split
  · rfl
  · rfl
  · dsimp only
    split
    · rfl
    split
    · split
      · rfl
      split
      · rw [sendPortCredit]
        split <;> rfl
      · exact hterminal _ _
    · split <;> rfl
    · exact hterminal _ _
    · rfl

theorem trackPortFrame_directPorts (i : Identity)
    (frame : PortFrame) : (trackPortFrame config answers s stream key i frame).service.directPorts =
    s.directPorts := by
  rw [trackPortFrame]
  split
  · exact continuePort_directPorts answers stream _ frame
  split
  · split
    · rfl
    split
    · rfl
    · rw [openPort]
      dsimp only
      split
      · rfl
      split
      · rfl
      split <;> rfl
  · rfl

theorem operationId_of_identity {P : Type} {frame : Frame P}
    (h : validateRunnerDataPlaneFrameIdentity frame = some i) :
    i.operationId = frame.operationId := by
  rw [validateRunnerDataPlaneFrameIdentity] at h
  split at h
  · cases h
  dsimp only at h
  split at h
  · cases h
    rfl
  · cases h

/-- A Port frame takes the direct sessions with its operation ID out of the registry, and no other. -/
theorem handlePortFrame_revokes (listenerReady : Bool)
    (stream : Stream) (frame : PortFrame) {digest : Bytes} {x : DirectPortSession}
    (hx : s.directPorts.get digest = some x)
    (hgone : (handlePortFrame config enabled answers listenerReady s stream
    frame).service.directPorts.get digest = none) :
    ∃ i, validateRunnerDataPlaneFrameIdentity frame = some i ∧
      i.operationId = x.identity.operationId := by
  have hkept : ∀ {s' : Service}, s'.directPorts = s.directPorts → s'.directPorts.get digest = none →
      False := by
    intro s' heq hnone
    rw [heq, hx] at hnone
    cases hnone
  rw [handlePortFrame] at hgone
  split at hgone
  · exact (hkept rfl hgone).elim
  split at hgone
  · exact (hkept rfl hgone).elim
  next i hi =>
  have htracked : (trackPortFrame config answers s stream (runnerDataPlaneOperationKey i) i
    frame).service.directPorts =
      s.directPorts := trackPortFrame_directPorts config answers stream i frame
  dsimp only at hgone
  split at hgone
  · split at hgone
    · refine ⟨i, hi, ?_⟩
      have hdeleted : (s.directPorts.deleteWhere fun _ x => x.identity.operationId ==
          frame.operationId).get digest = none :=
        hgone
      rw [Table.get_deleteWhere, hx, Option.filter_some] at hdeleted
      split at hdeleted
      · cases hdeleted
      · next hselected =>
        have heq : (x.identity.operationId == frame.operationId) = true := by simpa using hselected
        rw [operationId_of_identity hi, eq_of_beq heq]
    · exact (hkept htracked hgone).elim
  · split at hgone
    · exact (hkept rfl hgone).elim
    split at hgone
    · exact (hkept rfl hgone).elim
    split at hgone
    · exact (hkept rfl hgone).elim
    split at hgone
    · exact (hkept rfl hgone).elim
    split at hgone
    · exact (hkept rfl hgone).elim
    · next o _ _ _ _ _ _ =>
      rw [registerDirectPortSession] at hgone
      split at hgone
      · exact (hkept rfl hgone).elim
      · have hinserted : (s.directPorts.insertNew o.credentialDigest ⟨i, frame.correlation,
          false⟩).get digest = none := hgone
        rw [Table.get_insertNew] at hinserted
        split at hinserted
        · next heq =>
          rw [heq] at hx
          simp [hx] at hinserted
        · rw [hx] at hinserted
          cases hinserted
  · exact (hkept htracked hgone).elim

end

/-! ## Fence binding -/

section
variable {s : Service}

variable {op : Operation} {key : String}

theorem stands (hs : s.Sound fun _ => True) {kind : Kind}
    (h : s.operationAt kind key = some op) : runnerDataPlaneOperationKey op.identity = key := by
  cases kind with
  | exec =>
    obtain ⟨op, hop, rfl⟩ := Option.map_eq_some_iff.1 h
    exact (hs.exec.ok key op hop).stands
  | file =>
    obtain ⟨op, hop, rfl⟩ := Option.map_eq_some_iff.1 h
    exact (hs.file.ok key op hop).stands
  | port =>
    obtain ⟨op, hop, rfl⟩ := Option.map_eq_some_iff.1 h
    exact (hs.port.sound.ok key op hop).stands

/-- A map that changes under the key of a frame only, seen as operations. -/
theorem operation_changes {P σ : Type} {frame : Frame P} {r r' : Registry String σ}
    (f : σ → Operation) (hnone : validateRunnerDataPlaneFrameIdentity frame = none → r' = r)
    (honly : ∀ {i}, validateRunnerDataPlaneFrameIdentity frame = some i →
    OnlyAt (runnerDataPlaneOperationKey i) r r')
    (hop : (r'.get key).map f = some op) (kind : Kind) :
    (r.get key).map f = some op ∨ ∃ i, (validateRunnerDataPlaneFrameIdentity frame).map
      (Prod.mk kind) = some (kind, i) ∧ key = runnerDataPlaneOperationKey i := by
  cases hi : validateRunnerDataPlaneFrameIdentity frame with
  | none => exact .inl (hnone hi ▸ hop)
  | some i =>
    obtain ⟨e, he, rfl⟩ := Option.map_eq_some_iff.1 hop
    rcases honly hi key e he with hk | hold
    · exact .inr ⟨i, rfl, hk⟩
    · rw [hold]
      exact .inl rfl

theorem operation_kept {σ : Type} {r r' : Registry String σ} {f : σ → Operation} {q : Prop}
    (h : r' = r) (hop : (r'.get key).map f = some op) : (r.get key).map f = some op ∨ q :=
    .inl (h ▸ hop)

/-- A frame changes only the operation under its own key. -/
theorem frame_changes (config : Config) (enabled : Features) (answers : Answers)
    (hs : s.Sound fun _ => True) (stream : Stream) {command : Command}
    (hframe : command.isFrame = true) {kind : Kind}
    (hop : (handleCommand config enabled answers s stream command).service.operationAt kind key = some op) :
    s.operationAt kind key = some op ∨ ∃ i, command.identity = some (kind, i) ∧
      key = runnerDataPlaneOperationKey i := by
  cases command with
  | exec frame =>
    have hrefines := handleExecFrame_refines config enabled hs.exec stream frame
    cases kind with
    | exec =>
      -- a frame without an identity changes nothing
      refine operation_changes _ (fun hi => ?_) (handleExecFrame_onlyAt config enabled stream frame)
        hop _
      rw [handleExecFrame, hi]
      split <;> rfl
    | file => exact operation_kept hrefines.file hop
    | port => exact operation_kept hrefines.port hop
  | pty frame =>
    have hrefines := handlePTYFrame_refines enabled hs.exec stream frame
    cases kind with
    | exec =>
      refine operation_changes _ (fun hi => ?_) (handlePTYFrame_onlyAt enabled stream frame) hop _
      rw [handlePTYFrame, hi]
      split <;> rfl
    | file => exact operation_kept hrefines.file hop
    | port => exact operation_kept hrefines.port hop
  | file frame =>
    have hrefines := handleFileFrame_refines config enabled hs.file stream frame
    cases kind with
    | file =>
      refine operation_changes _ (fun hi => ?_) (handleFileFrame_onlyAt config enabled stream frame)
        hop _
      rw [handleFileFrame, hi]
      split <;> rfl
    | exec => exact operation_kept hrefines.exec hop
    | port => exact operation_kept hrefines.port hop
  | port frame =>
    have hrefines := handlePortFrame_refines config enabled answers.port answers.listenerReady
      hs.port stream frame
      fun _ _ _ _ => trivial
    cases kind with
    | port =>
      refine operation_changes _ (fun hi => ?_) (handlePortFrame_onlyAt config enabled answers.port
        answers.listenerReady stream frame) hop _
      rw [handlePortFrame, hi]
      split <;> rfl
    | exec => exact operation_kept hrefines.exec hop
    | file => exact operation_kept hrefines.file hop
  | _ => cases hframe

/-- A frame revokes only direct Ports with its operation ID. -/
theorem frame_revokes (config : Config) (enabled : Features) (answers : Answers)
    (hs : s.Sound fun _ => True) (stream : Stream) {command : Command}
    (hframe : command.isFrame = true) {digest : Bytes} {x : DirectPortSession}
    (hx : s.directPorts.get digest = some x)
    (hgone : (handleCommand config enabled answers s stream command).service.directPorts.get digest = none) :
    ∃ i, command.identity = some (.port, i) ∧ i.operationId = x.identity.operationId := by
  have hkept : ∀ {s' : Service}, s'.directPorts = s.directPorts → s'.directPorts.get digest = none →
      False := by
    intro s' heq hnone
    rw [heq, hx] at hnone
    cases hnone
  cases command with
  | exec frame =>
    exact (hkept (handleExecFrame_refines config enabled hs.exec stream frame).direct hgone).elim
  | pty frame =>
    exact (hkept (handlePTYFrame_refines enabled hs.exec stream frame).direct hgone).elim
  | file frame =>
    exact (hkept (handleFileFrame_refines config enabled hs.file stream frame).direct hgone).elim
  | port frame =>
    obtain ⟨i, hi, hoperation⟩ := handlePortFrame_revokes config enabled answers.port
      answers.listenerReady stream frame hx hgone
    exact ⟨i, by rw [Command.identity, hi]; rfl, hoperation⟩
  | _ => cases hframe

end

/-- Fence binding of frames, and exactly when it holds.  In every run, an
    operation that a frame changes has the identity of the frame iff the two
    agree in the Sandbox, the Instance, the fencing token and the number of NULs
    in the Assignment ID and in the operation ID.  A direct Port that a frame
    revokes is the frame's own iff fence and stream are the same.  Different
    identities have different keys under the same condition. -/
theorem frame_binds_fence_iff (config : Config) (steps : List Step) (stream : Stream)
    (enabled : Features) (answers : Answers) (command : Command) (hframe : command.isFrame = true) :
    (∀ kind key op op', (after (World.step config) {} steps).service.operationAt kind key = some op →
      (handleCommand config enabled answers (after (World.step config) {} steps).service stream command
        ).service.operationAt kind key = some op' → op' ≠ op →
      ∃ i, command.identity = some (kind, i) ∧ key = runnerDataPlaneOperationKey i ∧
        (i = op.identity ↔ AgreeBeyondKey i op.identity)) ∧
    (∀ digest x, (after (World.step config) {} steps).service.directPorts.get digest = some x →
      (handleCommand config enabled answers (after (World.step config) {} steps).service stream command
        ).service.directPorts.get digest = none →
      ∃ i, command.identity = some (.port, i) ∧
        (i = x.identity ↔ i.fence = x.identity.fence ∧ i.streamId = x.identity.streamId)) ∧
    ∀ i j : Identity, runnerDataPlaneOperationKey i = runnerDataPlaneOperationKey j →
      (i = j ↔ AgreeBeyondKey i j) := by
  have hs := (World.run_ok config (fun _ => True) steps fun _ _ _ _ => trivial).sound
  refine ⟨?_, ?_, fun i j => eq_iff_of_key_eq⟩
  · intro kind key op op' hop hop' hne
    obtain ⟨i, hi, hkey⟩ := (frame_changes config enabled answers hs stream hframe
        hop').resolve_left fun hsame => hne (by
      rw [hop] at hsame
      exact (Option.some.inj hsame).symm)
    exact ⟨i, hi, hkey, eq_iff_of_key_eq (hkey.symm.trans (stands hs hop).symm)⟩
  · intro digest x hx hgone
    obtain ⟨i, hi, hoperation⟩ := frame_revokes config enabled answers hs stream hframe hx hgone
    refine ⟨i, hi, fun h => by rw [h]; exact ⟨rfl, rfl⟩, ?_⟩
    rintro ⟨hfence, hstream⟩
    obtain ⟨f, o, st⟩ := i
    cases hfence
    cases hstream
    cases hoperation
    rfl

/-- A frame of the sample Exec under a fence with another token. -/
def foreignInput : ExecFrame :=
  { Sample.frame "exec" 2 (.input [104] false) with fence := some { Sample.fence with fencingToken := [8] } }

/-- The run in which the Exec is opened under the first token. -/
def execOpened : List Step :=
  [ Sample.command (.assignment Sample.fence),
    Sample.command (.exec (Sample.frame "exec" 1 (.opens ⟨[], 16, false, false, none⟩))) ]

/-- A second frame is taken as input of the Exec. -/
def inputTaken (frame : ExecFrame) : Bool :=
  let s := (after (World.step Sample.config) {} execOpened).service
  let key := runnerDataPlaneOperationKey ⟨Sample.fence, "exec", "stream"⟩
  (s.operationAt .exec key).any fun op =>
    ((handleCommand Sample.config ⟨true, true, true, true, true⟩ Sample.answers s (.control 0)
      (.exec frame)).service.operationAt .exec key).any fun op' =>
        decide (op' ≠ op) && decide (op.identity = ⟨Sample.fence, "exec", "stream"⟩)

theorem inputTaken_spec (frame : ExecFrame) (h : inputTaken frame = true) :
    let s := (after (World.step Sample.config) {} execOpened).service
    let key := runnerDataPlaneOperationKey ⟨Sample.fence, "exec", "stream"⟩
    ∃ op op', s.operationAt .exec key = some op ∧
      (handleCommand Sample.config ⟨true, true, true, true, true⟩ Sample.answers s (.control 0)
        (.exec frame)).service.operationAt .exec key = some op' ∧ op' ≠ op ∧
      op.identity = ⟨Sample.fence, "exec", "stream"⟩ := by
  rw [inputTaken] at h
  obtain ⟨op, hop, htaken⟩ := (Option.any_eq_true _ _).1 h
  obtain ⟨op', hop', htaken⟩ := (Option.any_eq_true _ _).1 htaken
  rw [Bool.and_eq_true, decide_eq_true_iff, decide_eq_true_iff] at htaken
  exact ⟨op, op', hop, hop', htaken⟩

/-- A frame with another fencing token is taken as input of an Exec, and two
    identities that differ in where the operation ID ends share one key. -/
theorem key_does_not_bind_fence :
    (∃ config steps stream enabled answers command kind i op op', command.isFrame = true ∧
      command.identity = some (kind, i) ∧
      (after (World.step config) {} steps).service.operationAt kind
      (runnerDataPlaneOperationKey i) = some op ∧
      (handleCommand config enabled answers (after (World.step config) {} steps).service stream command
        ).service.operationAt kind (runnerDataPlaneOperationKey i) = some op' ∧ op' ≠ op ∧
          i ≠ op.identity) ∧
    ∃ i j : Identity, i.complete = true ∧ j.complete = true ∧ i ≠ j ∧
      runnerDataPlaneOperationKey i = runnerDataPlaneOperationKey j := by
  constructor
  · obtain ⟨op, op', hop, hop', hne, hidentity⟩ :=
      inputTaken_spec foreignInput (by decide +kernel)
    refine ⟨Sample.config, execOpened, .control 0, ⟨true, true, true, true, true⟩, Sample.answers,
      .exec foreignInput, .exec, ⟨{ Sample.fence with fencingToken := [8] }, "exec", "stream"⟩, op,
      op', rfl, by decide +kernel, hop, hop', hne, ?_⟩
    rw [hidentity]
    decide
  · exact ⟨⟨Sample.fence, "exec", "a\x00b"⟩, ⟨Sample.fence, "exec\x00a", "b"⟩, by decide +kernel, by decide +kernel,
      by decide, by decide +kernel⟩

/-- Input for the Exec itself. -/
def ownInput : ExecFrame := Sample.frame "exec" 2 (.input [104] false)

/-- An input under the fence of the Open changes the operation, and is its own. -/
theorem own_input_binds_fence :
    let s := (after (World.step Sample.config) {} execOpened).service
    let key := runnerDataPlaneOperationKey ⟨Sample.fence, "exec", "stream"⟩
    ∃ op op', s.operationAt .exec key = some op ∧
      (handleCommand Sample.config ⟨true, true, true, true, true⟩ Sample.answers s (.control 0)
        (.exec ownInput)).service.operationAt .exec key = some op' ∧ op' ≠ op ∧
      Command.identity (.exec ownInput) = some (.exec, op.identity) := by
  obtain ⟨op, op', hop, hop', hne, hidentity⟩ :=
    inputTaken_spec ownInput (by decide +kernel)
  obtain ⟨i, hi, -, hown⟩ :=
    (frame_binds_fence_iff Sample.config execOpened (.control 0) ⟨true, true, true, true, true⟩
    Sample.answers (.exec ownInput) rfl).1 .exec _ op op' hop hop' hne
  have hi' : Command.identity (.exec ownInput) = some (.exec,
    ⟨Sample.fence, "exec", "stream"⟩) := by decide +kernel
  cases hi.symm.trans hi'
  refine ⟨op, op', hop, hop', hne, ?_⟩
  rw [hi', hown.2 (hidentity ▸ .refl _)]

end SecondBox.Runner
