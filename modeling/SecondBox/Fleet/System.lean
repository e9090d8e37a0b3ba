/-
  The fleet as a state machine.  Transactions run at READ COMMITTED and lock the
  rows they decide on before they read them, so they are taken one at a time, in
  commit order; an Assignment worker runs several of them for one claim, so the
  claims handed out are part of the state.

  A worker may act on a claim as late and as often as it likes: nothing here
  retires one.  `surroundings` stands for the components not modelled: it
  replaces every table but the Assignments, all of whose writers are steps.
-/
import SecondBox.Base.History
import SecondBox.Fleet.Placement

namespace SecondBox.Fleet

open Relational Relational.Tx

/-- A claim and the time at which its worker took it. -/
structure Work where
  claim : Claim
  now : Time

/-- The database, and the claims workers hold. -/
structure World where
  db : DB
  claims : List Work := []

/-- The row of a restored fence. -/
def Assignment.restore (a : Assignment) (now : Time) : Assignment :=
  { a with state := .fenced, reconcileOwner := "", reconcileClaimExpiresAt := now
           failureClass := if a.failureClass == .none then .fencing else a.failureClass
           revision := a.revision + 1 }

/-- The Assignments of `fenceGenerationAuthority`, which a restore runs over the
    generation it replaces. -/
def fenceGenerationAuthority (sandboxID : ID) (generation : Int) (now : Time) : Tx Unit :=
  modify fun d => { d with
    assignments := d.assignments.updateWhere (fun _ a => a.sandboxID == sandboxID &&
      a.generation == generation && a.state != .fenced && a.state != .released) (·.restore now) }

/-- The steps. -/
inductive Step where
  | record (r : EventRecord)
  | expire (cutoff now : Time)
  | register (m : Registration) (now : Time)
  | heartbeat (m : Heartbeat) (now : Time)
  | disconnect (runnerID connectionID : ID)
  | schedule (q : ScheduleRequest) (placementAt : Time)
  | claim (workerID id : ID) (claimExpiresAt now : Time)
  /-- the worker of the claim at `k` acts on it -/
  | work (k : Nat) (commandID : ID)
  /-- the worker of the claim at `k` puts it off -/
  | defer (k : Nat)
  | fenceGeneration (sandboxID : ID) (generation : Int) (now : Time)
  | surroundings (d : DB)

/-- The transaction of a step that hands out no claim. -/
def Step.tx (cfg : WorkerConfig) (w : World) : Step → Tx Unit
  | record r => recordEvent r
  | expire cutoff now => markExpiredRunners cutoff now
  | register m now => recordRegistration m now
  | heartbeat m now => recordHeartbeat m now
  | disconnect runnerID connectionID => closeConnection runnerID connectionID
  | schedule q placementAt => discard (Fleet.schedule q placementAt)
  | claim .. => pure ()
  | work k commandID =>
    match w.claims[k]? with
    | some x => workClaim cfg x.claim commandID x.now
    | none => pure ()
  | defer k =>
    match w.claims[k]? with
    | some x => deferClaim cfg x.claim x.now
    | none => pure ()
  | fenceGeneration sandboxID generation now => fenceGenerationAuthority sandboxID generation now
  | surroundings d => modify fun d' => { d with assignments := d'.assignments }

/-- One step. -/
def World.step (cfg : WorkerConfig) (w : World) (t : Step) : World :=
  match t with
  | .claim workerID id claimExpiresAt now =>
    match perform (claimNext workerID id claimExpiresAt now) w.db with
    | (.ok (some c), d) => ⟨d, w.claims ++ [⟨c, now⟩]⟩
    | (_, d) => { w with db := d }
  | t => { w with db := (t.tx cfg w).commit w.db }

end SecondBox.Fleet
