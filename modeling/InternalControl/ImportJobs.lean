import InternalControl.Interleaving
import InternalControl.Table
import Mathlib.Data.Int.Notation
import Mathlib.Order.Basic

/-!
# Import jobs

An import is a job in a table. A worker claims it with a lease of its own and
writes the rows, the movements and the result in separate transactions, each of
which first locks the job and looks whether the lease is still there. A worker
may stop at any point, and another takes the job up again where it is. Instants
are the milliseconds of `NOW()`.
-/

namespace InternalControl.ImportJobs

open Interleaving

abbrev Uuid := String

inductive ImportTarget
  | assets
  | costCenters
  | persons
  deriving DecidableEq, Repr

inductive ImportJobStatus
  | queued
  | running
  | succeeded
  | failed
  deriving DecidableEq, Repr

inductive ImportJobPhase
  | queued
  | rows
  | movements
  | finalizing
  | done
  deriving DecidableEq, Repr

def importJobStaleMinutes : ℕ := 10

def importJobMaxAttempts : ℕ := 3

/-- The counts of a cost center structure. -/
structure StructureCounts where
  parentChanges : ℕ
  unitChanges : ℕ
  movementChanges : ℕ
  unitsToCreate : ℕ
  nameDifferences : ℕ
  deriving DecidableEq, Repr

/-- What the transaction that writes the rows leaves behind. -/
structure ImportRowsResult where
  inserted : ℕ
  skippedAlreadyPresent : ℕ
  quarantined : List (String × ℕ)
  costCentersCreated : ℕ
  pendingMovements : ℕ
  costCenterStructure : Option StructureCounts
  deriving DecidableEq, Repr

structure ImportResult where
  inserted : ℕ
  skippedAlreadyPresent : ℕ
  quarantined : List (String × ℕ)
  costCentersCreated : ℕ
  registrationMovements : ℕ
  costCenterStructure : Option StructureCounts
  deriving DecidableEq, Repr

def ImportRowsResult.result (rows : ImportRowsResult) (movementsDone : ℕ) : ImportResult :=
  ⟨rows.inserted, rows.skippedAlreadyPresent, rows.quarantined, rows.costCentersCreated,
    movementsDone, rows.costCenterStructure⟩

/-- A row of `staging_import_job`. -/
structure JobRow where
  id : Uuid
  importId : Uuid
  target : ImportTarget
  status : ImportJobStatus
  phase : ImportJobPhase
  attempts : ℕ
  leaseId : Option Uuid
  heartbeatAt : Option ℤ
  rowsResult : Option ImportRowsResult
  movementsTotal : Option ℕ
  movementsDone : ℕ
  result : Option ImportResult
  lastError : Option String
  requestedBy : Uuid
  createdAt : ℤ
  startedAt : Option ℤ
  finishedAt : Option ℤ
  deriving DecidableEq, Repr

/-- What a worker keeps of the job it has claimed. -/
structure Claim where
  id : Uuid
  importId : Uuid
  target : ImportTarget
  requestedBy : Uuid
  lease : Uuid
  deriving DecidableEq, Repr

/-! ### What the statements write -/

namespace JobRow

/-- A job as it is enqueued. -/
def enqueued (id importId : Uuid) (target : ImportTarget) (actorId : Uuid) (now : ℤ) : JobRow where
  id := id
  importId := importId
  target := target
  status := .queued
  phase := .queued
  attempts := 0
  leaseId := none
  heartbeatAt := none
  rowsResult := none
  movementsTotal := none
  movementsDone := 0
  result := none
  lastError := none
  requestedBy := actorId
  createdAt := now
  startedAt := none
  finishedAt := none

/-- No worker has been heard of for too long. -/
def IsStale (job : JobRow) (now : ℤ) : Prop :=
  ∃ heartbeat ∈ job.heartbeatAt, heartbeat < now - importJobStaleMinutes * 60000

instance (job : JobRow) (now : ℤ) : Decidable (job.IsStale now) :=
  decidable_of_iff
    (job.heartbeatAt.any (fun heartbeat => heartbeat < now - importJobStaleMinutes * 60000) = true)
    (by simp [IsStale, Option.any_eq_true])

/-- A job that can be claimed, by its id or as the next one. Only the next one may be stale. -/
def IsNext (job : JobRow) (wanted : Option Uuid) (now : ℤ) : Prop :=
  (∀ id ∈ wanted, job.id = id) ∧ (job.status = .queued ∨
    wanted = none ∧ job.status = .running ∧ job.attempts < importJobMaxAttempts ∧ job.IsStale now)

instance (job : JobRow) (wanted : Option Uuid) (now : ℤ) : Decidable (job.IsNext wanted now) := by
  unfold IsNext
  infer_instance

def IsAbandoned (job : JobRow) (now : ℤ) : Prop :=
  job.status = .running ∧ importJobMaxAttempts ≤ job.attempts ∧ job.IsStale now

instance (job : JobRow) (now : ℤ) : Decidable (job.IsAbandoned now) := by
  unfold IsAbandoned
  infer_instance

/-- The row belongs to the worker that has the lease. -/
def HeldBy (job : JobRow) (lease : Uuid) : Prop := job.leaseId = some lease ∧ job.status = .running

instance (job : JobRow) (lease : Uuid) : Decidable (job.HeldBy lease) := by
  unfold HeldBy
  infer_instance

def retried (job : JobRow) : JobRow :=
  { job with
    status := .queued
    phase := .queued
    lastError := none
    finishedAt := none
    leaseId := none
    heartbeatAt := none }

def claimed (job : JobRow) (lease : Uuid) (now : ℤ) : JobRow :=
  { job with
    status := .running
    leaseId := some lease
    heartbeatAt := some now
    startedAt := some now
    attempts := job.attempts + 1
    finishedAt := none
    lastError := none
    phase :=
      if job.rowsResult = none then .rows
      else if job.target = .assets then .movements else .finalizing }

/-- The rows are written. Only assets have movements to register. -/
def withRows (job : JobRow) (written : ImportRowsResult) (now : ℤ) : JobRow :=
  { job with
    rowsResult := some written
    movementsTotal := if job.target = .assets then some written.pendingMovements else none
    phase := if job.target = .assets then .movements else .finalizing
    heartbeatAt := some now }

def withMovements (job : JobRow) (written : ℕ) (now : ℤ) : JobRow :=
  { job with movementsDone := job.movementsDone + written, heartbeatAt := some now }

def finalizing (job : JobRow) (now : ℤ) : JobRow :=
  { job with phase := .finalizing, heartbeatAt := some now }

def finished (job : JobRow) (result : ImportResult) (now : ℤ) : JobRow :=
  { job with
    status := .succeeded
    phase := .done
    result := some result
    finishedAt := some now
    leaseId := none
    heartbeatAt := some now }

def stopped (job : JobRow) (message : String) (now : ℤ) : JobRow :=
  { job with
    status := .failed
    lastError := some message
    finishedAt := some now
    leaseId := none }

def claim (job : JobRow) (lease : Uuid) : Claim :=
  ⟨job.id, job.importId, job.target, job.requestedBy, lease⟩

theorem id_retried (job : JobRow) : job.retried.id = job.id := rfl

theorem id_claimed (job : JobRow) (lease : Uuid) (now : ℤ) : (job.claimed lease now).id = job.id :=
  rfl

theorem id_withRows (job : JobRow) (written : ImportRowsResult) (now : ℤ) :
    (job.withRows written now).id = job.id := rfl

theorem id_withMovements (job : JobRow) (written : ℕ) (now : ℤ) :
    (job.withMovements written now).id = job.id := rfl

theorem id_finalizing (job : JobRow) (now : ℤ) : (job.finalizing now).id = job.id := rfl

theorem id_finished (job : JobRow) (result : ImportResult) (now : ℤ) :
    (job.finished result now).id = job.id := rfl

theorem id_stopped (job : JobRow) (message : String) (now : ℤ) :
    (job.stopped message now).id = job.id := rfl

end JobRow

/-! ### The workers -/

/-- What a transaction of a worker writes. -/
inductive Written
  | rows (result : ImportRowsResult)
  | movements (count : ℕ)
  | result (result : ImportResult)
  | failure (message : String)
  deriving DecidableEq, Repr

/-- A transaction of a worker that has committed. -/
structure Commit where
  job : Uuid
  importId : Uuid
  lease : Uuid
  written : Written
  deriving DecidableEq, Repr

inductive NotificationType
  | importFinished
  | importFailed
  deriving DecidableEq, Repr

structure Notification where
  recipientUserId : Uuid
  type : NotificationType
  title : String
  entityId : Uuid
  deriving DecidableEq, Repr

def targetLabel : ImportTarget → String
  | .assets => "activos"
  | .costCenters => "centros de costo"
  | .persons => "personas"

def Claim.notification (claim : Claim) (type : NotificationType) : Notification where
  recipientUserId := claim.requestedBy
  type := type
  title := "Importación de " ++ targetLabel claim.target ++
    (match type with | .importFinished => " terminada" | .importFailed => " fallida")
  entityId := claim.id

/-- The jobs, who has each of them locked, and the notifications. The leases given out and what
was committed are kept beside them. -/
structure Store (ι : Type) where
  jobs : Table JobRow.id
  lockedBy : Uuid → Option ι
  notifications : List Notification
  leases : List Uuid
  commits : List Commit

/-- The transaction that a worker comes to next. -/
inductive Task
  | writeRows
  | movements (rows : ImportRowsResult)
  | finish (rows : ImportRowsResult)
  deriving DecidableEq, Repr

/-- How far a worker has come. -/
inductive Worker
  | idle
  | next (task : Task) (claim : Claim)
  /-- In the transaction, with the row of the job locked. -/
  | inside (task : Task) (claim : Claim)
  | registered (rows : ImportRowsResult) (claim : Claim)
  /-- The jobs whose failure it has still to store. -/
  | failing (failures : List (Claim × String))
  deriving DecidableEq, Repr

/-- Once the rows are there, assets go on with their movements. -/
def Claim.afterRows (claim : Claim) (rows : ImportRowsResult) : Worker :=
  .next (if claim.target = .assets then .movements rows else .finish rows) claim

/-- Where a worker takes a job up. -/
def Claim.begin (claim : Claim) : Option ImportRowsResult → Worker
  | none => .next .writeRows claim
  | some rows => claim.afterRows rows

def Worker.stop : List (Claim × String) → Worker
  | [] => .idle
  | failures => .failing failures

/-- A statement of a service. -/
inductive Statement
  | enqueue (id importId actorId : Uuid) (now : ℤ)
  | retry (id : Uuid)
  | claim (wanted : Option Uuid) (id lease : Uuid) (now : ℤ)
  | failAbandoned (now : ℤ)
  | hold
  | writeRows (written : ImportRowsResult) (now : ℤ)
  | registerMovements (written : ℕ) (now : ℤ)
  /-- No movement is left to register. -/
  | noMovement
  | finalize (now : ℤ)
  | finish (now : ℤ)
  | fail (now : ℤ)
  /-- A statement raises. Its transaction is rolled back. -/
  | raise_ (message : String)
  /-- The process ends. Its transaction is rolled back. -/
  | crash
  deriving DecidableEq, Repr

section Program

variable {ι : Type}

namespace Store

def lock (store : Store ι) (id : Uuid) (i : ι) : Store ι :=
  { store with lockedBy := Function.update store.lockedBy id (some i) }

def unlock (store : Store ι) (id : Uuid) : Store ι :=
  { store with lockedBy := Function.update store.lockedBy id none }

/-- Write a change of one job. -/
def updateJob (store : Store ι) (id : Uuid) (change : JobRow → JobRow)
    (hid : ∀ job, (change job).id = job.id) : Store ι :=
  { store with jobs := store.jobs.update (fun job => job.id = id) change hid }

/-- Commit a transaction of a worker, with the notification that it creates. -/
def commit (store : Store ι) (claim : Claim) (written : Written)
    (notifications : List Notification) : Store ι :=
  { store with
    commits := store.commits ++ [⟨claim.id, claim.importId, claim.lease, written⟩]
    notifications := store.notifications ++ notifications }

def retry (store : Store ι) (id : Uuid) : Store ι :=
  store.updateJob id JobRow.retried JobRow.id_retried

def claim (store : Store ι) (id lease : Uuid) (now : ℤ) : Store ι :=
  { store.updateJob id (fun job => job.claimed lease now) fun job => job.id_claimed lease now with
    leases := lease :: store.leases }

def writeRows (store : Store ι) (claim : Claim) (written : ImportRowsResult) (now : ℤ) : Store ι :=
  (store.updateJob claim.id (fun job => job.withRows written now)
    fun job => job.id_withRows written now).commit claim (.rows written) []

def registerMovements (store : Store ι) (claim : Claim) (written : ℕ) (now : ℤ) : Store ι :=
  (store.updateJob claim.id (fun job => job.withMovements written now)
    fun job => job.id_withMovements written now).commit claim (.movements written) []

def finalize (store : Store ι) (claim : Claim) (now : ℤ) : Store ι :=
  store.updateJob claim.id (fun job => job.finalizing now) fun job => job.id_finalizing now

def finish (store : Store ι) (claim : Claim) (result : ImportResult) (now : ℤ) : Store ι :=
  (store.updateJob claim.id (fun job => job.finished result now)
    fun job => job.id_finished result now).commit claim (.result result)
      [claim.notification .importFinished]

def fail (store : Store ι) (claim : Claim) (message : String) (now : ℤ) : Store ι :=
  (store.updateJob claim.id (fun job => job.stopped message now)
    fun job => job.id_stopped message now).commit claim (.failure message)
      [claim.notification .importFailed]

/-- The jobs that nobody goes on with. One without a lease would not be found again. -/
def abandoned (store : Store ι) (now : ℤ) : List Claim :=
  (store.jobs.rows.filter fun job => job.IsAbandoned now).filterMap fun job =>
    job.leaseId.map job.claim

end Store

def abandonedMessage : String :=
  s!"La importación se interrumpió {importJobMaxAttempts} veces sin terminar."

/-- The statements of the service, over the targets of the imports. A statement that changes or
locks a job waits while another transaction has it locked. -/
def program (targetOf : Uuid → Option ImportTarget) : Program ι (Store ι) Worker Statement
  | _, .enqueue id importId actorId now, store, .idle =>
    match targetOf importId with
    | none => some (store, .idle)
    | some target =>
      if ∃ job ∈ store.jobs.rows, job.importId = importId then some (store, .idle)
      else (store.jobs.insert (JobRow.enqueued id importId target actorId now)).map fun jobs =>
        ({ store with jobs := jobs }, .idle)
  | _, .retry id, store, .idle =>
    if (store.lockedBy id).isSome then none
    else match store.jobs.find? id with
      | none => some (store, .idle)
      | some job => if job.status = .failed then some (store.retry id, .idle) else some (store, .idle)
  -- which of the jobs the query comes to first depends on what it sees, and locked ones are skipped
  | _, .claim wanted id lease now, store, .idle =>
    if (store.lockedBy id).isSome ∨ lease ∈ store.leases then none
    else match store.jobs.find? id with
      | none => none
      | some job =>
        if job.IsNext wanted now then
          some (store.claim id lease now, (job.claim lease).begin job.rowsResult)
        else none
  | _, .failAbandoned now, store, .idle =>
    some (store, .stop ((store.abandoned now).map fun claim => (claim, abandonedMessage)))
  | i, .hold, store, .next task claim =>
    if (store.lockedBy claim.id).isSome then none
    else match store.jobs.find? claim.id with
      | none => some (store, .idle)
      | some job =>
        if job.HeldBy claim.lease then some (store.lock claim.id i, .inside task claim)
        else some (store, .idle)
  | _, .writeRows written now, store, .inside .writeRows claim =>
    some ((store.writeRows claim written now).unlock claim.id, claim.afterRows written)
  | _, .registerMovements written now, store, .inside (.movements rows) claim =>
    some ((store.registerMovements claim written now).unlock claim.id, .next (.movements rows) claim)
  | _, .noMovement, store, .inside (.movements rows) claim =>
    some (store.unlock claim.id, .registered rows claim)
  | _, .finalize now, store, .registered rows claim =>
    if (store.lockedBy claim.id).isSome then none
    else match store.jobs.find? claim.id with
      | none => some (store, .next (.finish rows) claim)
      | some job =>
        if job.leaseId = some claim.lease then
          some (store.finalize claim now, .next (.finish rows) claim)
        else some (store, .next (.finish rows) claim)
  | _, .finish now, store, .inside (.finish rows) claim =>
    match store.jobs.find? claim.id with
    | none => none
    | some job =>
      some ((store.finish claim (rows.result job.movementsDone) now).unlock claim.id, .idle)
  | _, .fail now, store, .failing ((claim, message) :: rest) =>
    if (store.lockedBy claim.id).isSome then none
    else match store.jobs.find? claim.id with
      | none => some (store, .stop rest)
      | some job =>
        if job.leaseId = some claim.lease then some (store.fail claim message now, .stop rest)
        else some (store, .stop rest)
  | _, .raise_ message, store, .next _ claim => some (store, .failing [(claim, message)])
  | _, .raise_ message, store, .inside _ claim =>
    some (store.unlock claim.id, .failing [(claim, message)])
  | _, .raise_ message, store, .registered _ claim => some (store, .failing [(claim, message)])
  | _, .crash, store, .inside _ claim => some (store.unlock claim.id, .idle)
  | _, .crash, store, _ => some (store, .idle)
  | _, _, _, _ => none

/-- No jobs yet, and workers with nothing to do. -/
def start (ι : Type) : Interleaving ι (Store ι) Worker :=
  ⟨⟨Table.empty, fun _ => none, [], [], []⟩, fun _ => .idle⟩

end Program

end InternalControl.ImportJobs
