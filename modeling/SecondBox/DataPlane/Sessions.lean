/-
  The life of an admitted session: start, completion, cancellation, expiry and
  the confirmation of a cancellation (postgres_live_data_plane.go,
  postgres_data_plane_cancellation.go, postgres_session_cancellation.go,
  `applyDataPlaneProjection`), and the Terminal attachment
  (postgres_terminal_sessions.go).
-/
import SecondBox.DataPlane.Admission

namespace SecondBox.DataPlane

open Relational Relational.Tx

/-! ## Shared writes -/

/-- Update a session. -/
def DB.setSession (d : DB) (id : ID) (f : Session → Session) : DB :=
  { d with sessions := d.sessions.updateAt id f }

/-- Update a session. -/
def setSession (id : ID) (f : Session → Session) : Tx Unit := modify (·.setSession id f)

/-- A session by its owner and id. -/
def ownSession (tenantRef subjectRef id : ID) : Tx Session := do
  let d ← get
  expect ((d.sessions.get id).filter fun s => s.tenantRef == tenantRef &&
    s.subjectRef == subjectRef)
    .dataPlaneNotFound

/-- `lockDataPlaneSessionQuota` -/
def lockDataPlaneSessionQuota (id : ID) (absent : Err) : Tx Unit := do
  let d ← get
  let s ← expect (d.sessions.get id) absent
  let _ ← quotaLedgers s.tenantRef s.subjectRef

/-- The id of a session's cancel command. -/
def cancelCommandID (kind : SessionKind) (id : ID) : CommandID :=
  if kind == .port then .portCancel id else .cancel id

variable (s : Session)

/-- The row of a session whose cancellation was requested. -/
def Session.cancelled (kind : TerminalKind) (detail : String) (now : Time) (row : Session) :
    Session :=
  { row with
    state := .cancelling, terminalKind := kind, terminalDetail := detail
    elapsedMilliseconds := max 0 (now - s.createdAt)
    limitBytes := if kind = .exec .outputExhausted then s.maximumResponseBytes else 0 }

/-- Queue the Runner's cancel command and record the outcome. -/
def DB.enqueueCancellation (d : DB) (id : ID) (s : Session) (kind : TerminalKind) (detail : String)
    (now : Time) :
    DB :=
  { d with
    commands := d.commands.insertNew (cancelCommandID s.kind id) {
      runnerID := s.runnerID, assignmentID := s.assignmentID
      payload := .cancel s.fence id s.streamID s.kind detail }
    sessions := d.sessions.updateAt id (s.cancelled kind detail now) }

/-- `enqueueCancellation` -/
def enqueueCancellation (id : ID) (s : Session) (kind : TerminalKind) (detail : String)
    (now : Time) : Tx Unit :=
  modify (·.enqueueCancellation id s kind detail now)

variable (c : Config)

/-- The row of a session whose cancellation is done: the recorded outcome stays. -/
def Session.completeCancelled (now : Time) : Session :=
  { s with state := .completed, completedAt := s.completedAt.or (some now), retainUntil := now + c.retention }

/-- Complete the session, close its PortSession. -/
def DB.completeCancelledSession (d : DB) (c : Config) (id : ID) (now : Time) : DB :=
  { d with
    sessions := d.sessions.updateAt id (·.completeCancelled c now)
    ports :=
      d.ports.updateWhere (fun _ p => p.dataPlaneSessionID == id && p.state.unfinished) fun p =>
      { p with state := .closed, closedAt := p.closedAt.or (some now) } }

/-- `completeCancelledSession` -/
def completeCancelledSession (id : ID) (now : Time) : Tx Unit :=
  modify (·.completeCancelledSession c id now)

/-! ## Outcomes -/

/-- `dataPlaneProjection` with the terminals its callers pass. -/
inductive Projection where
  /-- a buffered Exec result -/
  | execResult (stdout stderr : Bytes) (terminal : ExecTerminal)
  | execTerm (terminal : ExecTerminal)
  | ptyTerm (terminal : ExecTerminal)
  /-- a File result -/
  | fileResult (content : Bytes) (terminal : FileTerminal)
  | fileTerm (terminal : FileTerminal)

/-- The Exec terminals that complete a session. -/
def ExecTerminalKind.completes : ExecTerminalKind → Bool
  | exited | deadlineExceeded | cancelled | outputExhausted => true
  | _ => false

/-- A terminal that completes its session. -/
def FileTerminalKind.completes : FileTerminalKind → Bool
  | completed | notFound => true
  | _ => false

/-- The session has recorded the outcome its cancellation will have. -/
def Session.recorded : Bool := s.state == .cancelling && s.terminalKind != .none

/-- `CASE WHEN new = '' THEN old ELSE new END` -/
def orElseText (new old : String) : String := if new == "" then old else new

/-- `new` unless it is 0. -/
def orElseInt (new old : Int) : Int := if new == 0 then old else new

/-- What an Exec terminal makes of the row; `s` is the session as it was read. -/
def Session.finishExec (t : ExecTerminal) (row : Session) : Session :=
  { row with
    state := if t.kind.completes then .completed else .failed
    terminalKind := if s.recorded then s.terminalKind else .exec t.kind
    terminalDetail :=
      orElseText (if s.recorded then s.terminalDetail else t.safeDetail) row.terminalDetail
    exitCode := t.exitCode
    signal := t.signal
    spawnFailureReason := some t.spawnFailureReason
    elapsedMilliseconds :=
      orElseInt (if s.recorded then s.elapsedMilliseconds else t.elapsedMilliseconds)
        row.elapsedMilliseconds
    limitBytes := orElseInt (if s.recorded then s.limitBytes else t.limitBytes) row.limitBytes
    infrastructureReason := some t.infrastructureFailureReason
    retryable := t.retryable
    terminalMessage := orElseText t.message row.terminalMessage }

/-- What a File terminal makes of the row. -/
def Session.finishFile (t : FileTerminal) (row : Session) : Session :=
  { row with
    state := if s.recorded || t.kind.completes then .completed else .failed
    terminalKind := if s.recorded then s.terminalKind else .file t.kind
    terminalDetail :=
      orElseText (if s.recorded then s.terminalDetail else t.safeDetail) row.terminalDetail
    exitCode := 0
    signal := 0
    retryable := false }

/-- The row of `s` after a terminal. -/
def Projection.finish (p : Projection) (s row : Session) : Session :=
  match p with
  | .execResult stdout stderr t => { s.finishExec t row with result := { stdout, stderr } }
  | .execTerm t | .ptyTerm t => { s.finishExec t row with result := s.result }
  | .fileResult content t => { s.finishFile t row with result := { content } }
  | .fileTerm t => { s.finishFile t row with result := s.result }

/-- The row a projection leaves. -/
def Projection.row (p : Projection) (s : Session) (now : Time) (row : Session) : Session :=
  { p.finish s row with
    nextInboundSequence := row.nextInboundSequence + 1
    completedAt := some now
    retainUntil := now + c.retention }

/-- `applyDataPlaneProjection` -/
def applyDataPlaneProjection (id : ID) (s : Session) (p : Projection) (now : Time) : Tx Unit :=
  setSession id (p.row c s now)

/-! ## Start and completion -/

/-- `validateDirectDataPlaneAuthority` -/
def validateDirectDataPlaneAuthority (now : Time) : Tx Unit := do
  let d ← get
  let a ← expect (d.auth.assignments.get s.assignmentID) .authorizationDenied
  let sandbox ← expect (d.auth.sandboxes.get a.sandboxID) .authorizationDenied
  require (a.state == .ready && sandbox.state == .ready && sandbox.generation == s.generation &&
    a.fencingToken == s.fencingToken) .authorizationDenied
  require (s.leaseID == "" || (d.auth.leases.get s.leaseID).any fun l =>
    l.tenantRef == s.tenantRef && l.subjectRef == s.subjectRef && l.sandboxID == s.sandboxID &&
      l.generation == s.generation && l.state == .active && now < l.expiresAt) .leaseInactive

/-- `UPDATE ... SET state='running' WHERE id=$1 AND state='pending'` -/
def DB.startPending (d : DB) (id : ID) : DB :=
  { d with
    sessions := d.sessions.updateWhere (fun k s => k == id && s.state == .pending) fun s =>
      { s with state := .running } }

/-- A pending session starts. -/
def startPending (id : ID) : Tx Unit := modify (·.startPending id)

/-- `StartDataPlaneSession` -/
def startDataPlaneSession (tenantRef subjectRef id : ID) (now : Time) : Tx Unit := do
  require (tenantRef != "" && subjectRef != "" && id != "" && now != 0)
    (.invalid "SecondBox proxied data-plane start is incomplete")
  let _ ← quotaLedgers tenantRef subjectRef
  let s ← ownSession tenantRef subjectRef id
  let transport ← hydrateDataPlaneTransport s
  require (transport == some .proxied && s.state == .pending && now < s.deadlineAt)
    .authorizationDenied
  validateDirectDataPlaneAuthority s now
  startPending id

/-- `DirectDataPlaneConsumption` -/
structure DirectConsumption where
  runnerID : ID
  sessionID : ID
  assignmentID : ID
  generation : Int
  fencingToken : Bytes
  credentialDigest : Bytes
  now : Time

/-- `ConsumeDirectDataPlaneSession` -/
def consumeDirectDataPlaneSession (i : DirectConsumption) : Tx Unit := do
  require (i.sessionID != "" && i.assignmentID != "" && 1 ≤ i.generation &&
    !i.fencingToken.isEmpty && i.credentialDigest.length == digestSize && i.now != 0)
    (.invalid "SecondBox direct data-plane consumption is incomplete")
  lockDataPlaneSessionQuota i.sessionID .database
  let d ← get
  let s ← expect (d.sessions.get i.sessionID) .dataPlaneNotFound
  let transport ← hydrateDataPlaneTransport s
  require (transport == some .direct && s.assignmentID == i.assignmentID && s.generation ==
    i.generation && s.fencingToken == i.fencingToken && s.state == .pending && i.now < s.deadlineAt)
    .authorizationDenied
  validateDirectDataPlaneAuthority s i.now
  startPending i.sessionID

/-- A result that ends an Exec or a File operation. -/
inductive Completion where
  | exec (r : ExecBufferedResult)
  | file (r : FileCompletion)

/-- The projection of a completion, if it fits the session. -/
def Completion.projection : Completion → Except Err Projection
  | .exec r =>
    match r.terminal with
    | some t =>
      if s.kind == .exec && ((r.stdout.length + r.stderr.length : Nat) : Int) ≤
        s.maximumResponseBytes then
        .ok (.execResult r.stdout r.stderr t)
      else .error .dataPlaneSessionLimit
    | none => .error .dataPlaneSessionLimit
  | .file r =>
    match r.terminal with
    | some t =>
      if s.kind == .file && (r.content.length : Int) ≤ s.maximumResponseBytes then
        .ok (.fileResult r.content t)
      else .error .dataPlaneSessionLimit
    | none => .error .dataPlaneSessionLimit

/-- `CompleteDataPlaneSession` -/
def completeDataPlaneSession (tenantRef subjectRef id : ID) (completion : Completion) (now : Time) :
    Tx Unit := do
  require (tenantRef != "" && subjectRef != "" && id != "" && now != 0)
    (.invalid "SecondBox live data-plane completion is incomplete")
  let _ ← quotaLedgers tenantRef subjectRef
  let s ← ownSession tenantRef subjectRef id
  if s.state.active then
    let p ← liftM (completion.projection s)
    applyDataPlaneProjection c id s p now

/-! ## Cancellation -/

/-- The terminal a cancellation records. -/
def SessionKind.cancelledTerminal : SessionKind → TerminalKind
  | exec | terminal => .exec .cancelled
  | file => .file .cancelled
  | port => .port .cancelled

/-- `dataPlaneDeadlineTerminal` -/
def SessionKind.deadlineTerminal : SessionKind → TerminalKind
  | exec | terminal => .exec .deadlineExceeded
  | file | port => .file .cancelled

/-- `completeUnstartedCancellation`: the session as it was read is still pending. -/
def completeUnstartedCancellation (id : ID) (s : Session) (detail : String) (now : Time) :
    Tx Unit :=
  match s.kind with
  | .exec | .terminal =>
    applyDataPlaneProjection c id s (.execTerm { kind := .cancelled, safeDetail := detail }) now
  | .file =>
    applyDataPlaneProjection c id s (.fileTerm { kind := .cancelled, safeDetail := detail }) now
  | .port => throw (.invalid "SecondBox unstarted data-plane cancellation kind is invalid")

/-- Request a cancellation; a session that never started and whose kind `completes` ends at once. -/
def requestCancellation (id : ID) (s : Session) (kind : TerminalKind) (reason : String) (now : Time)
    (completes : Bool) : Tx Unit := do
  enqueueCancellation id s kind reason now
  if s.state == .pending && completes then completeUnstartedCancellation c id s reason now

/-- `cancelDataPlaneSession`: whether the session was cancelled. -/
def cancelDataPlaneSession (tenantRef subjectRef id : ID) (reason : String) (now : Time) :
    Tx Bool := do
  let _ ← quotaLedgers tenantRef subjectRef
  let s ← ownSession tenantRef subjectRef id
  if s.state.live then
    requestCancellation c id s s.kind.cancelledTerminal reason now (s.kind != .port)
    return true
  else return false

/-- `ExpireDataPlaneSession` -/
def expireDataPlaneSession (tenantRef subjectRef id : ID) (now : Time) : Tx Unit := do
  let _ ← quotaLedgers tenantRef subjectRef
  let s ← ownSession tenantRef subjectRef id
  if s.state.live then
    enqueueCancellation id s s.kind.deadlineTerminal "operation deadline exceeded" now

/-- `PublicDataPlaneCancellation` -/
structure PublicCancellation where
  tenantRef : ID
  subjectRef : ID
  sandboxID : ID
  sessionID : ID
  sessionKind : SessionKind
  sessionOperation : String
  idempotencyKey : String
  requestHash : String
  reason : String
  generation : Int
  now : Time
  idempotencyEnds : Time

/-- The key of its idempotency record. -/
def PublicCancellation.record (i : PublicCancellation) : IdempotencyKey :=
  ⟨i.tenantRef, i.subjectRef,
    if i.sessionKind == .exec then "exec-stream-cancel" else "terminal-cancel", i.sessionID,
    i.idempotencyKey⟩

/-- `validatePublicDataPlaneCancellation` -/
def PublicCancellation.valid (i : PublicCancellation) : Bool :=
  i.tenantRef != "" && i.subjectRef != "" && i.sandboxID != "" && i.sessionID != "" &&
    i.idempotencyKey != "" &&
    i.requestHash != "" && i.reason != "" && 1 ≤ i.generation && i.now != 0 &&
    i.now < i.idempotencyEnds && (i.sessionKind == .exec && i.sessionOperation == "exec-stream" ||
      i.sessionKind == .terminal && i.sessionOperation == "terminal")

/-- Keep the session as the answer to the cancellation's key. -/
def DB.recordCancellation (d : DB) (i : PublicCancellation) : DB :=
  { d with
    idempotency := (d.idempotency.deleteWhere fun k _ => k == i.record).insertNew i.record
      ⟨i.requestHash, i.sessionID, d.sessions.get i.sessionID, i.idempotencyEnds⟩ }

/-- `CancelPublicDataPlaneSession`: whether the answer is a replay. -/
def cancelPublicDataPlaneSession (i : PublicCancellation) : Tx Bool := do
  require i.valid (.invalid "SecondBox public session cancellation authority is incomplete")
  let _ ← quotaLedgers i.tenantRef i.subjectRef
  let d ← get
  match (d.idempotency.get i.record).filter (i.now < ·.expiresAt) with
  | some r =>
    require (r.requestHash == i.requestHash) .idempotencyConflict
    require (r.responseResourceID == i.sessionID && r.response.isSome)
      (.invalid "SecondBox public session cancellation response is invalid")
    return true
  | none =>
    let s ← ownSession i.tenantRef i.subjectRef i.sessionID
    require (s.sandboxID == i.sandboxID && s.kind == i.sessionKind &&
      s.operation == i.sessionOperation)
      .dataPlaneNotFound
    require (s.generation == i.generation) .generationFenced
    if s.state.live then
      requestCancellation c i.sessionID s (.exec .cancelled) i.reason i.now (s.kind == .exec ||
        s.kind == .terminal)
    modify (·.recordCancellation i)
    return false

/-! ## Confirmation and retention -/

/-- `finalizeUnconfirmedCancellation`, for a session the sweep found without a Runner to confirm it. -/
def finalizeUnconfirmedCancellation (id : ID) (now : Time) : Tx Unit := do
  lockDataPlaneSessionQuota id .database
  let d ← get
  let s ← expect (d.sessions.get id) .database
  if s.state == .cancelling then completeCancelledSession c id now

/-- A terminal frame of the Runner's control connection. -/
structure ConfirmationFrame where
  runnerID : ID
  kind : SessionKind
  fence : Fence
  operationID : ID
  streamID : ID

/-- The frame ends this session's cancellation. -/
def ConfirmationFrame.confirms (f : ConfirmationFrame) (s : Session) : Bool :=
  s.state == .cancelling && s.kind == f.kind && s.runnerID == f.runnerID &&
    s.streamID == f.streamID && f.fence == s.fence

/-- `ConfirmDataPlaneCancellation` -/
def confirmDataPlaneCancellation (f : ConfirmationFrame) (now : Time) : Tx Unit := do
  require (f.operationID != "" && f.runnerID != "")
    (.invalid "SecondBox Runner cancellation confirmation is incomplete")
  let d ← get
  if let some s := d.sessions.get f.operationID then
    let _ ← quotaLedgers s.tenantRef s.subjectRef
    if f.confirms s then completeCancelledSession c f.operationID now

/-- A finished session whose retention ended. -/
def Session.sweepable (now : Time) : Bool := !s.state.active && s.retainUntil ≤ now

/-- Delete those of `ids` that may go. -/
def DB.sweep (d : DB) (ids : List ID) (now : Time) : DB :=
  { d with sessions := d.sessions.deleteWhere fun id s => ids.contains id && s.sweepable now }

/-- `sweepDataPlaneSessions`, for the sessions `ids` it selected. -/
def sweepDataPlaneSessions (ids : List ID) (now : Time) : Tx Unit := modify (·.sweep ids now)

/-! ## Terminal attachments -/

/-- The current authority of a Terminal: its Sandbox, Assignment and Lease agree with the session. -/
def DB.terminalAuthority (d : DB) (s : Session) (tenantRef subjectRef sandboxID : ID) (now : Time) :
    Except Err Unit :=
  match d.sandbox? tenantRef subjectRef sandboxID with
  | none => .error .generationFenced
  | some sandbox =>
    match d.currentAssignment sandboxID sandbox, d.auth.leases.get s.leaseID with
    | some (assignmentID, a), some l =>
      if sandbox.generation != s.generation ||
          !(l.tenantRef == tenantRef && l.subjectRef == subjectRef && l.sandboxID == sandboxID) then
        .error .generationFenced
      else if !(sandbox.state == .ready && sandbox.currentInstanceID == s.instanceID &&
          assignmentID == s.assignmentID && a.runnerID == s.runnerID &&
          a.fencingToken == s.fencingToken && a.state == .ready) then
        .error .generationFenced
      else if !(l.generation == s.generation && l.subjectRef == subjectRef && l.state == .active &&
          now < l.expiresAt) then
        .error .leaseInactive
      else .ok ()
    | _, _ => .error .generationFenced

/-- A client attaches. -/
def Session.attach (attachmentID : ID) : Session := { s with attachmentID, detachExpiresAt := none }

/-- `AcquireTerminalAttachment`: whether the attachment was granted; an expired
    detach interval commits a cancellation instead. -/
def acquireTerminalAttachment (tenantRef subjectRef sandboxID id : ID) (generation : Int)
    (attachmentID : ID) (now : Time) : Tx Bool := do
  require (tenantRef != "" && subjectRef != "" && sandboxID != "" && id != "" && 1 ≤ generation &&
    attachmentID != "") (.invalid "SecondBox Terminal attachment authority is incomplete")
  let _ ← quotaLedgers tenantRef subjectRef
  let s ← ownSession tenantRef subjectRef id
  let _ ← hydrateDataPlaneTransport s
  require (s.kind == .terminal && s.operation == "terminal" && s.sandboxID == sandboxID &&
    s.generation == generation) .dataPlaneNotFound
  require s.state.live .terminalDetached
  require (s.attachmentID == "") .terminalAttached
  if s.detachExpiresAt.any (· ≤ now) then
    enqueueCancellation id s (.exec .cancelled) "Terminal detach interval expired" now
    return false
  else
    let d ← get
    liftM (d.terminalAuthority s tenantRef subjectRef sandboxID now)
    setSession id (·.attach attachmentID)
    return true

/-- Its client leaves. -/
def Session.detach : Session := { s with attachmentID := "" }

/-- It may be left alone until `t`. -/
def Session.detachUntil (t : Time) : Session := { s.detach with detachExpiresAt := some t }

/-- `DetachTerminalAttachment` -/
def detachTerminalAttachment (tenantRef subjectRef id attachmentID : ID) (now : Time) :
    Tx Unit := do
  let _ ← quotaLedgers tenantRef subjectRef
  let s ← ownSession tenantRef subjectRef id
  require (s.kind == .terminal && s.operation == "terminal") .dataPlaneNotFound
  require (s.attachmentID == attachmentID && attachmentID != "") .terminalDetached
  if !s.state.live then setSession id (·.detach)
  else if !s.detachable || s.terminalDetachSeconds == 0 then
    setSession id (·.detach)
    enqueueCancellation id s (.exec .cancelled) "public Terminal client disconnected" now
  else
    setSession id (·.detachUntil (now + s.terminalDetachSeconds * 1000))

/-- `TerminalCheckpoint` -/
structure TerminalCheckpoint where
  attachmentID : ID
  nextClientSequence : Int
  requestBytes : Int
  responseCredit : Int
  inboundBytes : Int
  nextInboundSequence : Int
  recoveryAllowance : Int := 0
  cancel : Bool := false
  terminal : Option ExecTerminal := none

/-- The greatest client sequence a checkpoint may record. -/
def maximumClientSequence : Int := 9223372036854775805

/-- The counters of a checkpoint move forward and stay inside the session's bounds. -/
def TerminalCheckpoint.check (k : TerminalCheckpoint) (s : Session) : Except Err Unit :=
  if k.nextClientSequence < s.nextClientSequence || k.requestBytes < s.requestStreamBytes ||
      k.responseCredit < s.responseCreditBytes || k.inboundBytes < s.inboundBytes ||
      k.nextInboundSequence < s.nextInboundSequence then
    .error .dataPlaneSequence
  else if s.maximumRequestBytes < k.requestBytes || s.maximumResponseBytes < k.inboundBytes ||
      k.responseCredit < k.inboundBytes ||
      (k.recoveryAllowance != 0 && k.recoveryAllowance != s.streamWindowBytes) ||
      s.streamWindowBytes + k.recoveryAllowance < k.responseCredit - k.inboundBytes ||
      maximumClientSequence < k.nextClientSequence || k.nextInboundSequence < 1 then
    .error .dataPlaneSessionLimit
  else if k.terminal.isSome && k.nextInboundSequence ≤ s.nextInboundSequence then
    .error .dataPlaneSequence
  else .ok ()

/-- The row with the checkpoint's counters; the projection of a terminal counts its own frame. -/
def TerminalCheckpoint.counted (k : TerminalCheckpoint) (row : Session) : Session :=
  { row with
    requestStreamBytes := k.requestBytes, responseCreditBytes := k.responseCredit
    inboundBytes := k.inboundBytes, nextOutboundSequence := k.nextClientSequence + 2
    nextInboundSequence :=
      if k.terminal.isSome then k.nextInboundSequence - 1 else k.nextInboundSequence }

/-- The outcome of a client's cancellation. -/
def clientCancellation : String := "public Terminal client cancellation"

/-- The session with a client's cancellation recorded.  Unlike
    `enqueueCancellation` this queues no command. -/
def Session.checkpointCancel (cancel : Bool) : Session :=
  if cancel then
    { s with state := .cancelling, terminalKind := .exec .cancelled, terminalDetail := clientCancellation }
  else s

/-- `applyTerminalCheckpoint` -/
def applyTerminalCheckpoint (id : ID) (s : Session) (k : TerminalCheckpoint) (now : Time) :
    Tx Unit := do
  require (s.kind == .terminal && s.operation == "terminal") .dataPlaneNotFound
  require (k.attachmentID == s.attachmentID && (k.attachmentID != "" || k.terminal.isSome))
    .terminalDetached
  if !s.state.active then require (k.terminal.isSome && s.completedAt.isSome) .dataPlaneSequence
  else
    liftM (k.check s)
    setSession id fun row => (k.counted row).checkpointCancel k.cancel
    if let some t := k.terminal then
      applyDataPlaneProjection c id (s.checkpointCancel k.cancel) (.ptyTerm t) now

/-- `CheckpointTerminal` -/
def checkpointTerminal (tenantRef subjectRef id : ID) (k : TerminalCheckpoint) (now : Time) :
    Tx Unit := do
  require (tenantRef != "" && subjectRef != "" && id != "" &&
    (k.attachmentID != "" || k.terminal.isSome) &&
    now != 0) (.invalid "SecondBox Terminal checkpoint identity is incomplete")
  let _ ← quotaLedgers tenantRef subjectRef
  let s ← ownSession tenantRef subjectRef id
  applyTerminalCheckpoint c id s k now

end SecondBox.DataPlane
