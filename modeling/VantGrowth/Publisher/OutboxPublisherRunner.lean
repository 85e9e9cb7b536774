import VantGrowth.Lib.Leases
import VantGrowth.Publisher.OutboxPublisher

namespace VantGrowth.Publisher
open Lib Leases

/-- What a process does around the calls of its publisher: sessions of its own
and the flags of its runners. -/
abbrev Process := Prog (LeaseRes Res PublisherError) Empty

def awaitLease (op : LeaseOp Op) : Process (LeaseRes Res PublisherError op) := Prog.perform op

/-- `cycleLeaseConfigFromEnv` has this key where the environment names none. -/
structure CycleLeaseConfig where
  advisoryLockKey : Nat := 1104021
deriving DecidableEq

/-- The end of a transaction whose body threw, unless ending it throws. -/
def rollBack (session : Nat) (e : PublisherError) : Process (Except PublisherError α) := do
  match ← awaitLease (.rollback session) with
  | .ok _ => return .error e
  | .error e' => return .error e'

def endTransaction (session : Nat) : Except PublisherError α → Process (Except PublisherError α)
  | .error e => rollBack session e
  | .ok a => do
    match ← awaitLease (.commit session) with
    | .ok _ => return .ok a
    | .error e => rollBack session e

/-- `db.transaction` -/
def transaction (operation : Nat → Process (Except PublisherError α)) : Process (Except PublisherError α) := do
  let session ← awaitLease .begin
  let result ← operation session
  endTransaction session result

/-- The operation, where the lock was acquired. -/
def ifAcquired (operation : Process (Except PublisherError α)) :
    Except PublisherError Bool → Process (Except PublisherError (Option α))
  | .ok true => do
    let result ← operation
    return result.map some
  | .ok false => return .ok none
  | .error e => return .error e

/-- `PostgresCycleLeaseGuard.runWithLease` -/
def runWithLease (config : CycleLeaseConfig) (operation : Process (Except PublisherError α)) :
    Process (Except PublisherError (Option α)) :=
  transaction fun session => do
    let acquired ← awaitLease (.tryLock session config.advisoryLockKey)
    ifAcquired operation acquired

/-- A runner within its process. -/
structure OutboxPublisherRunner where
  id : Nat
  publisher : OutboxPublisher
  tenantIds : List String
  batchSizePerTenant : Nat
  onCycleSuccess : PublishCycleResult → Except PublisherError Unit := fun _ => .ok ()
  leaseGuard : Option CycleLeaseConfig

/-- What a cycle tells the callbacks of its runner. -/
inductive CycleReport where
  | success (result : PublishCycleResult)
  | error (error : PublisherError)

section
variable (d : Deployment) (r : OutboxPublisherRunner)

def publishingCycle : Handler PublishCycleResult :=
  publishCycle d r.publisher r.tenantIds r.batchSizePerTenant

/-- The guarded cycle, or the bare one. -/
def guardedCycle : Process (Except PublisherError (Option PublishCycleResult)) :=
  match r.leaseGuard with
  | some config => runWithLease config (owned (publishingCycle d r))
  | none => do
    let result ← freed (publishingCycle d r)
    return result.map some

/-- A callback that throws is told to the other. -/
def reportCycle : Except PublisherError (Option PublishCycleResult) → List CycleReport
  | .error e => [.error e]
  | .ok none => []
  | .ok (some result) =>
    match r.onCycleSuccess result with
    | .ok () => [.success result]
    | .error e => [.success result, .error e]

/-- The body of `runCycle` and its `finally`. -/
def leadCycle : Process (List CycleReport) := do
  let result ← guardedCycle d r
  awaitLease (.leave r.id)
  return reportCycle r result

def runCycle : Process (List CycleReport) := do
  let cycleInFlight ← awaitLease (.enter r.id)
  if cycleInFlight = true then return [] else leadCycle d r

end

/-- Everything that runs next to each other: a tick of a runner's interval or a
notification, and direct calls of the external actions by other processes. -/
inductive FleetStart where
  | runCycle (r : OutboxPublisherRunner)
  | call (s : Start)

/-- No cycle runs but through a runner. -/
def Start.direct : Start → Bool
  | .publishCycle _ _ _ => false
  | _ => true

/-- Every runner of a fleet has the same guard. -/
def launch (d : Deployment) (config : CycleLeaseConfig) (w : Faulty World) :
    FleetStart → Option (Process (List CycleReport))
  | .runCycle r => if r.leaseGuard = some config then some (runCycle d r) else none
  | .call s =>
    if s.direct = true ∧ s.timely w.state.clock = true then some (freed (s.handler d) >>= fun _ => pure [])
    else none

def fleet (d : Deployment) (config : CycleLeaseConfig) :
    Machine (LeaseRes Res PublisherError) Empty (Leased (Faulty World)) FleetStart (List CycleReport) :=
  Leases.machine (PublisherError.lost "Connection terminated unexpectedly") (exec d) (launch d config) outside

end VantGrowth.Publisher
