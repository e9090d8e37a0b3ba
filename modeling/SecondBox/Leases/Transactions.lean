/-
  The transactions that write Leases: `AcquireLease`, `RenewLease`,
  `ReleaseLease` and the expiry of the lifecycle worker, statement by statement
  at READ COMMITTED.

  An `UPDATE` takes its snapshot when it starts and then goes through the rows it
  found; it waits for a row that another transaction has locked, and looks at the
  row again once it has it.  So does `SELECT ... FOR UPDATE`.  Between two
  statements and between two rows any other transaction may run.

  `AcquireLease` holds an advisory lock on the scope, and it and `RenewLease` hold
  the row of the Sandbox.  The advisory locks of `RenewLease` and `ReleaseLease`
  are left out, which only allows more.  Every request brings its own time.
-/
import SecondBox.Base.ReadCommitted
import SecondBox.Base.History

namespace SecondBox.Leases

open Relational (Table)
open ReadCommitted (Store)

/-- The Lease states. -/
inductive LeaseState where
  | active | expired | fenced | released
deriving DecidableEq

/-- Whose Lease it is, and of which Sandbox. -/
structure Scope where
  tenantRef : String
  subjectRef : String
  sandboxId : String
deriving DecidableEq

/-- A row of `secondbox.leases`. -/
structure Lease where
  scope : Scope
  generation : ℕ
  state : LeaseState
  expiresAt : Int
  revision : ℕ
  createdAt : Int
  updatedAt : Int
deriving DecidableEq

/-- The input of a Lease request. -/
structure LeaseInput where
  scope : Scope
  leaseId : String
  generation : ℕ
  now : Int
  expiresAt : Int
  replaceActive : Bool := false

/-- The transactions. -/
inductive Request where
  | acquire (input : LeaseInput)
  | renew (input : LeaseInput)
  | release (input : LeaseInput)
  /-- `expireLifecycleLeases`, or the Leases of the Sandboxes that `ClaimLifecycleBatch` has claimed -/
  | expire (now : Int)

/-- How far a transaction is. -/
inductive Stage where
  | begun
  /-- it has the advisory lock -/
  | identified
  /-- it has the row of the Sandbox -/
  | guarded
  /-- it sets the rows of its snapshot that have run out to `expired` -/
  | expiring (todo : List String)
  /-- it asks whether a Lease is active -/
  | checking
  | superseding
  /-- it sets the rows of its snapshot that are active to `fenced` -/
  | fencing (todo : List String)
  | inserting
  | done
deriving DecidableEq

/-- A transaction under way. -/
structure Tx where
  request : Request
  stage : Stage := .begun

/-- The Leases, and the transactions under way. -/
structure State where
  db : Store String Lease := .empty
  txs : Table ℕ Tx := .empty

/-- What happens next. -/
inductive Action where
  | start (t : ℕ) (request : Request)
  /-- the next step of a transaction, at the row `row` if it has a choice; `ok` is what the idempotency
      records and the Sandbox say -/
  | run (t : ℕ) (row : String) (ok : Bool)
  /-- an error or a lost connection -/
  | abort (t : ℕ)

/-! ## Locks -/

/-- `lockKey` of `AcquireLease`. -/
def lockKey (scope : Scope) : String :=
  scope.tenantRef ++ "\x1f" ++ scope.subjectRef ++ "\x1flease.acquire\x1f" ++ scope.sandboxId

/-- The advisory lock a transaction holds. -/
def Tx.advisory (hash : String → Int) (tx : Tx) : Option Int :=
  match tx.request with
  | .acquire input => if tx.stage = .begun then none else some (hash (lockKey input.scope))
  | _ => none

/-- The Sandbox whose row a transaction holds. -/
def Tx.sandbox (tx : Tx) : Option String :=
  match tx.request with
  | .acquire input =>
    if tx.stage = .begun ∨ tx.stage = .identified then none else some input.scope.sandboxId
  | .renew input => if tx.stage = .begun then none else some input.scope.sandboxId
  | _ => none

variable (hash : String → Int)
variable (s : State)

namespace State

/-- Another transaction holds the advisory lock. -/
def advisoryTaken (t : ℕ) (key : Int) : Bool :=
  s.txs.any fun t' tx => decide (t' ≠ t) && decide (tx.advisory hash = some key)

/-- Another transaction holds the Sandbox's row. -/
def sandboxTaken (t : ℕ) (sandboxId : String) : Bool :=
  s.txs.any fun t' tx => decide (t' ≠ t) && decide (tx.sandbox = some sandboxId)

/-! ## Steps -/

/-- `t` goes on to `stage`. -/
def setStage (t : ℕ) (tx : Tx) (stage : Stage) : State :=
  { s with txs := s.txs.put t { tx with stage } }

/-- `t` commits. -/
def commit (t : ℕ) : State := ⟨s.db.commit t, s.txs.delete t⟩

/-- `t` rolls back. -/
def rollback (t : ℕ) : State := ⟨s.db.rollback t, s.txs.delete t⟩

/-- An `UPDATE` has the row `k` and looks at it again. -/
def updateRow (t : ℕ) (k : String) (p : Lease → Bool) (f : Lease → Lease) : State :=
  match s.db.visible t k with
  | some lease => if p lease then { s with db := s.db.write t k (f lease) } else s
  | none => s

end State

/-- Active in the scope of the request, and run out at its time. -/
def dueIn (input : LeaseInput) (lease : Lease) : Bool :=
  decide (lease.scope = input.scope) && decide (lease.state = .active) &&
    decide (lease.expiresAt ≤ input.now)

/-- Active in the scope of the request, and not run out. -/
def liveIn (input : LeaseInput) (lease : Lease) : Bool :=
  decide (lease.scope = input.scope) && decide (lease.state = .active) &&
    decide (input.now < lease.expiresAt)

/-- The row of a Lease that is over. -/
def Lease.leave (lease : Lease) (state : LeaseState) (now : Int) : Lease :=
  { lease with state, revision := lease.revision + 1, updatedAt := now }

/-- `AcquireLease`. -/
def acquireLease (t : ℕ) (tx : Tx) (input : LeaseInput) (row : String) (ok : Bool) : State :=
  match tx.stage with
  | .begun =>
    if s.advisoryTaken hash t (hash (lockKey input.scope)) then s else s.setStage t tx .identified
  | .identified =>
    -- a replay is answered from its record
    if !ok then s.commit t
    else if s.sandboxTaken t input.scope.sandboxId then s
    else s.setStage t tx .guarded
  | .guarded =>
    if !ok then s.rollback t else s.setStage t tx (.expiring (s.db.select t fun _ => dueIn input))
  | .expiring todo =>
    if todo = [] then s.setStage t tx .checking
    else if row ∈ todo ∧ s.db.free t row then
      (s.updateRow t row (dueIn input) (·.leave .expired input.now)).setStage t tx
        (.expiring (todo.erase row))
    else s
  | .checking =>
    if s.db.select t (fun _ => liveIn input) = [] then s.setStage t tx .inserting
    else if input.replaceActive then s.setStage t tx .superseding
    else s.rollback t
  | .superseding => s.setStage t tx (.fencing (s.db.select t fun _ => liveIn input))
  | .fencing todo =>
    if todo = [] then s.setStage t tx .inserting
    else if row ∈ todo ∧ s.db.free t row then
      (s.updateRow t row (liveIn input) (·.leave .fenced input.now)).setStage t tx
        (.fencing (todo.erase row))
    else s
  | .inserting =>
    if !s.db.free t input.leaseId then s
    else if (s.db.visible t input.leaseId).isSome then s.rollback t
    else
      { s with
        db := s.db.write t input.leaseId
          ⟨input.scope, input.generation, .active, input.expiresAt, 1, input.now,
            input.now⟩ }.setStage t tx .done
  | .done => s.commit t

/-- `RenewLease`. -/
def renewLease (t : ℕ) (tx : Tx) (input : LeaseInput) (ok : Bool) : State :=
  match tx.stage with
  | .begun =>
    if !ok then s.commit t
    else if s.sandboxTaken t input.scope.sandboxId then s
    else s.setStage t tx .guarded
  | .guarded =>
    if !ok then s.rollback t
    else if !s.db.free t input.leaseId then s
    else match s.db.visible t input.leaseId with
    | none => s.rollback t
    | some lease =>
      if lease.scope = input.scope ∧ lease.generation = input.generation ∧ lease.state = .active ∧
          input.now < lease.expiresAt then
        { s with
          db := s.db.write t input.leaseId { lease with
            expiresAt := input.expiresAt, updatedAt := input.now, revision := lease.revision + 1 } }.setStage t tx .done
      else s.rollback t
  | _ => s.commit t

/-- `ReleaseLease`; it takes no row but the Lease's. -/
def releaseLease (t : ℕ) (tx : Tx) (input : LeaseInput) (ok : Bool) : State :=
  match tx.stage with
  | .begun =>
    if !ok then s.commit t
    else if !s.db.free t input.leaseId then s
    else match s.db.visible t input.leaseId with
    | none => s.rollback t
    | some lease =>
      if lease.scope = input.scope ∧ lease.generation = input.generation then
        if lease.state = .active then
          { s with db := s.db.write t input.leaseId (lease.leave .released input.now) }.setStage t
            tx .done
        else s.setStage t tx .done
      else s.rollback t
  | _ => s.commit t

/-- Expiry skips the rows that others have locked, so it may leave out any row and stop at any. -/
def expireLeases (t : ℕ) (now : Int) (row : String) (ok : Bool) : State :=
  if !ok then s.commit t
  else if s.db.free t row then
    s.updateRow t row (fun lease => decide (lease.state = .active) &&
      decide (lease.expiresAt ≤ now)) (·.leave .expired now)
  else s

/-- One step. -/
def next : Action → State
  | .start t request =>
    match s.txs.get t with
    | some _ => s
    | none => { s with txs := s.txs.put t { request } }
  | .run t row ok =>
    match s.txs.get t with
    | none => s
    | some tx =>
      match tx.request with
      | .acquire input => acquireLease hash s t tx input row ok
      | .renew input => renewLease s t tx input ok
      | .release input => releaseLease s t tx input ok
      | .expire now => expireLeases s t now row ok
  | .abort t => s.rollback t

end SecondBox.Leases
