import InternalControl.DocumentEngine
import InternalControl.Fallible

/-!
# What a process comes to

The act that completed a handover, a transfer or a write-off, and whether a
process was cancelled, as each callback of the engine and each cancellation
leaves them. A loan is not completed by one act: the act of its delivery makes
it active.
-/

namespace InternalControl.DocumentEngine

open Assets AssetProcesses Documents Fallible

/-- What a process has come to. -/
structure ProcessState where
  /-- The act that completed it. -/
  completedBy : Option RowId
  cancelled : Bool
  deriving DecidableEq

def handoverState (handover : AssetHandover) : ProcessState where
  completedBy := if handover.status = .signed then handover.documentId else none
  cancelled := handover.status = .cancelled

def transferState (transfer : AssetTransfer) : ProcessState where
  completedBy := if transfer.status = .completed then transfer.documentId else none
  cancelled := transfer.status = .cancelled

def writeOffState (writeOff : AssetWriteOff) : ProcessState where
  completedBy := if writeOff.status = .completed then writeOff.documentId else none
  cancelled := writeOff.status = .cancelled

def loanState (loan : AssetLoan) : ProcessState where
  completedBy := none
  cancelled := loan.status = .cancelled

/-- What the process with an id has come to. -/
def processState (system : System) (process : Process) (id : RowId) : Option ProcessState :=
  match process with
  | .handover => (Handovers.find system id).map handoverState
  | .transfer => (system.transfers.find? fun transfer => transfer.id = id).map transferState
  | .writeOff => (system.writeOffs.find? fun writeOff => writeOff.id = id).map writeOffState
  | .loan => (system.loans.find? fun loan => loan.id = id).map loanState

/-- The act that completed the process with an id. -/
def completedBy (system : System) (process : Process) (id : RowId) : Option RowId :=
  (processState system process id).bind ProcessState.completedBy

/-- The process with an id was cancelled. -/
def isCancelled (system : System) (process : Process) (id : RowId) : Bool :=
  (processState system process id).any ProcessState.cancelled

/-- Every process is as it was. -/
def ProcessesKept (system after : System) : Prop :=
  ∀ process id, processState after process id = processState system process id

/-- The process with an id is left in a state, and every other is as it was. -/
def Leaves (system after : System) (process : Process) (id : RowId) (state : ProcessState) :
    Prop :=
  ∀ other otherId, processState after other otherId =
    if other = process ∧ otherId = id then some state else processState system other otherId

theorem ProcessesKept.refl (system : System) : ProcessesKept system system := fun _ _ => rfl

theorem ProcessesKept.completedBy {system after : System} (h : ProcessesKept system after)
    (process : Process) (id : RowId) :
    DocumentEngine.completedBy after process id =
      DocumentEngine.completedBy system process id := by
  unfold DocumentEngine.completedBy
  rw [h process id]

theorem ProcessesKept.isCancelled {system after : System} (h : ProcessesKept system after)
    (process : Process) (id : RowId) :
    DocumentEngine.isCancelled after process id =
      DocumentEngine.isCancelled system process id := by
  unfold DocumentEngine.isCancelled
  rw [h process id]

/-! ### Rows that are written back -/

/-- A row that is written back is found in the place of the one it had. -/
theorem find?_replaced {β : Type} (key : β → RowId) {rows : List β} {row : β} (changed : β)
    (hfound : (rows.find? fun other => key other = key changed) = some row) (id : RowId) :
    ((rows.map fun other => if key other = key changed then changed else other).find?
        fun other => key other = id) =
      if id = key changed then some changed else rows.find? fun other => key other = id := by
  have hkeys : (fun other => decide (key other = id)) ∘
      (fun other => if key other = key changed then changed else other) =
      fun other => decide (key other = id) := by
    funext other
    by_cases hother : key other = key changed
    · simp [hother]
    · simp [hother]
  rw [List.find?_map, hkeys]
  by_cases hid : id = key changed
  · subst hid
    have hrow : key row = key changed := by simpa using List.find?_some hfound
    rw [hfound, if_pos rfl, Option.map_some, if_pos hrow]
  · rw [if_neg hid]
    cases hother : rows.find? fun other => key other = id with
    | none => rfl
    | some other =>
      have hkey : key other = id := by simpa using List.find?_some hother
      rw [Option.map_some, if_neg fun h => hid (hkey.symm.trans h)]

section Saves

variable {system : System} {assets : List Asset}

/-- A process that is left as it was leaves every process as it was. -/
theorem Leaves.kept {after : System} {process : Process} {id : RowId} {state : ProcessState}
    (h : Leaves system after process id state)
    (hbefore : processState system process id = some state) : ProcessesKept system after := by
  intro other otherId
  rw [h other otherId]
  split
  · next hsame => rw [hsame.1, hsame.2, hbefore]
  · rfl

/-- A process that is already in a state is left in it. -/
theorem Leaves.of_state {process : Process} {id : RowId} {state : ProcessState}
    (h : processState system process id = some state) : Leaves system system process id state := by
  intro other otherId
  split
  · next hsame => rw [hsame.1, hsame.2, h]
  · rfl

theorem handoverSave_leaves {handover changed : AssetHandover} {state : ProcessState}
    (hfound : Handovers.find system changed.id = some handover)
    (hstate : handoverState changed = state) :
    Leaves system (Handovers.save { system with assets := assets } changed) .handover changed.id
      state := by
  subst hstate
  intro other otherId
  cases other with
  | handover =>
    have hfind : Handovers.find (Handovers.save { system with assets := assets } changed) otherId =
        if otherId = changed.id then some changed else Handovers.find system otherId :=
      find?_replaced AssetHandover.id changed hfound otherId
    unfold processState
    simp only [hfind, true_and]
    split <;> rfl
  | _ => exact (if_neg nofun).symm

theorem handoverSave_stays {handover changed : AssetHandover}
    (hfound : Handovers.find system changed.id = some handover)
    (hstate : handoverState changed = handoverState handover) :
    ProcessesKept system (Handovers.save system changed) := by
  have hleaves : Leaves system (Handovers.save system changed) .handover changed.id
      (handoverState handover) := handoverSave_leaves hfound hstate
  exact hleaves.kept (congrArg (Option.map handoverState) hfound)

theorem transferSave_leaves {transfer changed : AssetTransfer} {state : ProcessState}
    (hfound : (system.transfers.find? fun other => other.id = changed.id) = some transfer)
    (hstate : transferState changed = state) :
    Leaves system (Transfers.save { system with assets := assets } changed) .transfer changed.id
      state := by
  subst hstate
  intro other otherId
  cases other with
  | transfer =>
    have hfind := find?_replaced AssetTransfer.id changed hfound otherId
    unfold processState Transfers.save
    simp only [hfind, true_and]
    split <;> rfl
  | _ => exact (if_neg nofun).symm

theorem transferSave_stays {transfer changed : AssetTransfer}
    (hfound : (system.transfers.find? fun other => other.id = changed.id) = some transfer)
    (hstate : transferState changed = transferState transfer) :
    ProcessesKept system (Transfers.save system changed) := by
  have hleaves : Leaves system (Transfers.save system changed) .transfer changed.id
      (transferState transfer) := transferSave_leaves hfound hstate
  exact hleaves.kept (congrArg (Option.map transferState) hfound)

theorem writeOffSave_leaves {writeOff changed : AssetWriteOff} {state : ProcessState}
    (hfound : (system.writeOffs.find? fun other => other.id = changed.id) = some writeOff)
    (hstate : writeOffState changed = state) :
    Leaves system (WriteOffs.save { system with assets := assets } changed) .writeOff changed.id
      state := by
  subst hstate
  intro other otherId
  cases other with
  | writeOff =>
    have hfind := find?_replaced AssetWriteOff.id changed hfound otherId
    unfold processState WriteOffs.save
    simp only [hfind, true_and]
    split <;> rfl
  | _ => exact (if_neg nofun).symm

theorem writeOffSave_stays {writeOff changed : AssetWriteOff}
    (hfound : (system.writeOffs.find? fun other => other.id = changed.id) = some writeOff)
    (hstate : writeOffState changed = writeOffState writeOff) :
    ProcessesKept system (WriteOffs.save system changed) := by
  have hleaves : Leaves system (WriteOffs.save system changed) .writeOff changed.id
      (writeOffState writeOff) := writeOffSave_leaves hfound hstate
  exact hleaves.kept (congrArg (Option.map writeOffState) hfound)

theorem loanSave_leaves {loan changed : AssetLoan} {id : RowId} {eventType : LoanEventType}
    {state : ProcessState}
    (hfound : (system.loans.find? fun other => other.id = changed.id) = some loan)
    (hstate : loanState changed = state) :
    Leaves system
      (Loans.addEvent (Loans.saveLoan { system with assets := assets } changed) id eventType)
      .loan changed.id state := by
  subst hstate
  intro other otherId
  cases other with
  | loan =>
    have hfind := find?_replaced AssetLoan.id changed hfound otherId
    unfold processState Loans.addEvent Loans.saveLoan
    simp only [hfind, true_and]
    split <;> rfl
  | _ => exact (if_neg nofun).symm

theorem loanSave_stays {loan changed : AssetLoan} {id : RowId} {eventType : LoanEventType}
    (hfound : (system.loans.find? fun other => other.id = changed.id) = some loan)
    (hstate : loanState changed = loanState loan) :
    ProcessesKept system (Loans.addEvent (Loans.saveLoan system changed) id eventType) := by
  have hleaves : Leaves system (Loans.addEvent (Loans.saveLoan system changed) id eventType) .loan
      changed.id (loanState loan) := loanSave_leaves hfound hstate
  exact hleaves.kept (congrArg (Option.map loanState) hfound)

end Saves

/-! ### Rows that are locked -/

section Locks

variable {system : System} {id : RowId}

theorem find?_of_transferLock {transfer : AssetTransfer}
    (h : Transfers.lock system id = .ok transfer) :
    (system.transfers.find? fun other => other.id = id) = some transfer ∧ transfer.id = id := by
  unfold Transfers.lock at h
  split at h
  · next found hfound =>
    obtain rfl := Except.ok.inj h
    exact ⟨hfound, by simpa using List.find?_some hfound⟩
  · cases h

theorem find?_of_writeOffLock {writeOff : AssetWriteOff}
    (h : WriteOffs.lock system id = .ok writeOff) :
    (system.writeOffs.find? fun other => other.id = id) = some writeOff ∧ writeOff.id = id := by
  unfold WriteOffs.lock at h
  split at h
  · next found hfound =>
    obtain rfl := Except.ok.inj h
    exact ⟨hfound, by simpa using List.find?_some hfound⟩
  · cases h

theorem find?_of_lockLoan {loan : AssetLoan} (h : Loans.lockLoan system id = .ok loan) :
    (system.loans.find? fun other => other.id = id) = some loan ∧ loan.id = id := by
  unfold Loans.lockLoan at h
  split at h
  · next found hfound =>
    obtain rfl := Except.ok.inj h
    exact ⟨hfound, by simpa using List.find?_some hfound⟩
  · cases h

theorem find_of_handoverLockFor {handover : AssetHandover} {event : DocumentLifecycleEvent}
    (h : Handovers.lockFor system event = .ok handover) :
    event.entityId = some handover.id ∧ Handovers.find system handover.id = some handover := by
  unfold Handovers.lockFor at h
  split at h
  · cases h
  split at h
  · next found hfound =>
    obtain rfl := Except.ok.inj h
    obtain ⟨id, hid, hfind⟩ := Option.bind_eq_some_iff.mp hfound
    have hrow : found.id = id := by simpa using List.find?_some hfind
    subst hrow
    exact ⟨hid, hfind⟩
  · cases h

theorem find?_of_transferLockFor {transfer : AssetTransfer} {event : DocumentLifecycleEvent}
    (h : Transfers.lockFor system event = .ok transfer) :
    event.entityId = some transfer.id ∧
      (system.transfers.find? fun other => other.id = transfer.id) = some transfer := by
  unfold Transfers.lockFor at h
  split at h
  · cases h
  split at h
  · cases h
  · next id hid =>
    obtain ⟨hfind, hrow⟩ := find?_of_transferLock h
    subst hrow
    exact ⟨hid, hfind⟩

theorem find?_of_writeOffLockFor {writeOff : AssetWriteOff} {event : DocumentLifecycleEvent}
    (h : WriteOffs.lockFor system event = .ok writeOff) :
    event.entityId = some writeOff.id ∧
      (system.writeOffs.find? fun other => other.id = writeOff.id) = some writeOff := by
  unfold WriteOffs.lockFor at h
  split at h
  · cases h
  split at h
  · cases h
  · next id hid =>
    obtain ⟨hfind, hrow⟩ := find?_of_writeOffLock h
    subst hrow
    exact ⟨hid, hfind⟩

theorem find?_of_lockActLoan {loan : AssetLoan} {event : DocumentLifecycleEvent}
    (h : lockActLoan system event = .ok loan) :
    event.entityId = some loan.id ∧
      (system.loans.find? fun other => other.id = loan.id) = some loan := by
  unfold lockActLoan at h
  split at h
  · cases h
  split at h
  · next found hfound =>
    obtain rfl := Except.ok.inj h
    obtain ⟨id, hid, hfind⟩ := Option.bind_eq_some_iff.mp hfound
    have hrow : found.id = id := by simpa using List.find?_some hfind
    subst hrow
    exact ⟨hid, hfind⟩
  · cases h

theorem expectedDocument_eq_ok {handover : AssetHandover} {event : DocumentLifecycleEvent}
    {result : Unit} (h : Handovers.assertExpectedDocument handover event = .ok result) :
    handover.documentId = some event.documentId ∧ handover.status = .pendingSignature := by
  unfold Handovers.assertExpectedDocument at h
  split_ifs at h with hdocument hstatus
  exact ⟨not_not.mp hdocument, not_not.mp hstatus⟩

theorem transferOwnAct_eq_ok {transfer : AssetTransfer} {event : DocumentLifecycleEvent}
    {result : Unit} (h : Transfers.assertOwnAct transfer event = .ok result) :
    transfer.documentId = some event.documentId := by
  unfold Transfers.assertOwnAct at h
  split_ifs at h with hdocument
  exact not_not.mp hdocument

theorem transferPending_eq_ok {transfer : AssetTransfer} {result : Unit}
    (h : Transfers.assertPending transfer = .ok result) :
    transfer.status = .pendingSignatures := by
  unfold Transfers.assertPending at h
  split_ifs at h with hstatus
  exact not_not.mp hstatus

theorem writeOffOwnAct_eq_ok {writeOff : AssetWriteOff} {event : DocumentLifecycleEvent}
    {result : Unit} (h : WriteOffs.assertOwnAct writeOff event = .ok result) :
    writeOff.documentId = some event.documentId := by
  unfold WriteOffs.assertOwnAct at h
  split_ifs at h with hdocument
  exact not_not.mp hdocument

theorem writeOffPending_eq_ok {writeOff : AssetWriteOff} {result : Unit}
    (h : WriteOffs.assertPending writeOff = .ok result) :
    writeOff.status = .pendingSignatures := by
  unfold WriteOffs.assertPending at h
  split_ifs at h with hstatus
  exact not_not.mp hstatus

end Locks

/-! ### Callbacks -/

/-- What a callback leaves of the process of its act: the act that is signed
completes it, unless it is a loan. -/
inductive Heard (system after : System) (process : Process) (id documentId : RowId) :
    DocumentLifecyclePhase → Prop
  | kept {phase : DocumentLifecyclePhase} (hphase : phase = .onSigned → process = .loan)
      (hkept : ProcessesKept system after) : Heard system after process id documentId phase
  | completed (state : ProcessState) (hbefore : processState system process id = some state)
      (hopen : state.completedBy = none ∨ state.completedBy = some documentId)
      (hcancelled : state.cancelled = false) (hloan : process ≠ .loan)
      (hleaves : Leaves system after process id ⟨some documentId, false⟩) :
      Heard system after process id documentId .onSigned

section Callbacks

variable {system after : System} {input : CallbackInput} {phase : DocumentLifecyclePhase}
  {event : DocumentLifecycleEvent}

theorem handoverCallback_heard (h : handoverCallback input phase system event = .ok after) :
    ∃ id, event.entityId = some id ∧
      Heard system after .handover id event.documentId phase := by
  cases phase with
  | onGenerated =>
    unfold handoverCallback Handovers.onGenerated at h
    obtain ⟨handover, hlock, h⟩ := bind_eq_ok h
    obtain ⟨hid, hfind⟩ := find_of_handoverLockFor hlock
    obtain ⟨hwaiting, h⟩ := check_eq_ok h
    obtain rfl := Except.ok.inj h
    have hstatus : handover.status = .awaitingDocument := by
      by_contra hother
      exact hwaiting (Or.inl hother)
    refine ⟨handover.id, hid, .kept nofun (handoverSave_stays hfind ?_)⟩
    simp [handoverState, hstatus]
  | onSigned =>
    unfold handoverCallback Handovers.onSigned at h
    obtain ⟨handover, hlock, h⟩ := bind_eq_ok h
    obtain ⟨hid, hfind⟩ := find_of_handoverLockFor hlock
    obtain ⟨_, hexpected, h⟩ := bind_eq_ok h
    obtain ⟨_, _, h⟩ := bind_eq_ok h
    obtain ⟨_, _, h⟩ := bind_eq_ok h
    obtain ⟨table, _, h⟩ := bind_eq_ok h
    obtain rfl := Except.ok.inj h
    obtain ⟨hdocument, hstatus⟩ := expectedDocument_eq_ok hexpected
    have hbefore : processState system .handover handover.id = some ⟨none, false⟩ := by
      simp [processState, hfind, handoverState, hstatus]
    refine ⟨handover.id, hid, .completed _ hbefore (Or.inl rfl) rfl nofun ?_⟩
    exact handoverSave_leaves hfind (by simp [handoverState, hdocument])
  | onRejected =>
    unfold handoverCallback Handovers.onRejected at h
    obtain ⟨handover, hlock, h⟩ := bind_eq_ok h
    obtain ⟨hid, hfind⟩ := find_of_handoverLockFor hlock
    obtain ⟨_, hexpected, h⟩ := bind_eq_ok h
    obtain rfl := Except.ok.inj h
    obtain ⟨_, hstatus⟩ := expectedDocument_eq_ok hexpected
    refine ⟨handover.id, hid, .kept nofun (handoverSave_stays hfind ?_)⟩
    simp [handoverState, hstatus]

theorem transferCallback_heard (h : transferCallback input phase system event = .ok after) :
    ∃ id, event.entityId = some id ∧
      Heard system after .transfer id event.documentId phase := by
  cases phase with
  | onGenerated =>
    unfold transferCallback Transfers.onGenerated at h
    obtain ⟨transfer, hlock, h⟩ := bind_eq_ok h
    obtain ⟨hid, hfind⟩ := find?_of_transferLockFor hlock
    obtain ⟨hwaiting, h⟩ := check_eq_ok h
    obtain rfl := Except.ok.inj h
    have hstatus : transfer.status = .pendingSignatures := by
      by_contra hother
      exact hwaiting (Or.inl hother)
    refine ⟨transfer.id, hid, .kept nofun (transferSave_stays hfind ?_)⟩
    simp [transferState, hstatus]
  | onSigned =>
    unfold transferCallback Transfers.onSigned at h
    obtain ⟨transfer, hlock, h⟩ := bind_eq_ok h
    obtain ⟨hid, hfind⟩ := find?_of_transferLockFor hlock
    obtain ⟨_, hown, h⟩ := bind_eq_ok h
    have hdocument := transferOwnAct_eq_ok hown
    split at h
    · next hstatus =>
      -- the transfer was completed by this act before
      obtain rfl := Except.ok.inj h
      have hbefore : processState system .transfer transfer.id =
          some ⟨some event.documentId, false⟩ := by
        simp [processState, hfind, transferState, hstatus, hdocument]
      refine ⟨transfer.id, hid, .completed _ hbefore (Or.inr rfl) rfl nofun ?_⟩
      exact Leaves.of_state hbefore
    · obtain ⟨_, hpending, h⟩ := bind_eq_ok h
      obtain ⟨_, _, h⟩ := bind_eq_ok h
      have hstatus := transferPending_eq_ok hpending
      unfold Transfers.complete at h
      obtain ⟨_, _, h⟩ := bind_eq_ok h
      obtain ⟨_, _, h⟩ := bind_eq_ok h
      obtain ⟨table, _, h⟩ := bind_eq_ok h
      obtain rfl := Except.ok.inj h
      have hbefore : processState system .transfer transfer.id = some ⟨none, false⟩ := by
        simp [processState, hfind, transferState, hstatus]
      refine ⟨transfer.id, hid, .completed _ hbefore (Or.inl rfl) rfl nofun ?_⟩
      exact transferSave_leaves hfind (by simp [transferState, hdocument])
  | onRejected =>
    unfold transferCallback Transfers.onRejected at h
    obtain ⟨transfer, hlock, h⟩ := bind_eq_ok h
    obtain ⟨hid, hfind⟩ := find?_of_transferLockFor hlock
    obtain ⟨_, _, h⟩ := bind_eq_ok h
    split at h
    · obtain rfl := Except.ok.inj h
      exact ⟨transfer.id, hid, .kept nofun (ProcessesKept.refl system)⟩
    · obtain ⟨_, hpending, h⟩ := bind_eq_ok h
      obtain rfl := Except.ok.inj h
      have hstatus := transferPending_eq_ok hpending
      refine ⟨transfer.id, hid, .kept nofun (transferSave_stays hfind ?_)⟩
      simp [transferState, hstatus]

theorem writeOffCallback_heard (h : writeOffCallback input phase system event = .ok after) :
    ∃ id, event.entityId = some id ∧
      Heard system after .writeOff id event.documentId phase := by
  cases phase with
  | onGenerated =>
    unfold writeOffCallback WriteOffs.onGenerated at h
    obtain ⟨writeOff, hlock, h⟩ := bind_eq_ok h
    obtain ⟨hid, hfind⟩ := find?_of_writeOffLockFor hlock
    obtain ⟨hwaiting, h⟩ := check_eq_ok h
    obtain rfl := Except.ok.inj h
    have hstatus : writeOff.status = .pendingSignatures := by
      by_contra hother
      exact hwaiting (Or.inl hother)
    refine ⟨writeOff.id, hid, .kept nofun (writeOffSave_stays hfind ?_)⟩
    simp [writeOffState, hstatus]
  | onSigned =>
    unfold writeOffCallback WriteOffs.onSigned at h
    obtain ⟨writeOff, hlock, h⟩ := bind_eq_ok h
    obtain ⟨hid, hfind⟩ := find?_of_writeOffLockFor hlock
    obtain ⟨_, hown, h⟩ := bind_eq_ok h
    have hdocument := writeOffOwnAct_eq_ok hown
    split at h
    · next hstatus =>
      -- the write-off was completed by this act before
      obtain rfl := Except.ok.inj h
      have hbefore : processState system .writeOff writeOff.id =
          some ⟨some event.documentId, false⟩ := by
        simp [processState, hfind, writeOffState, hstatus, hdocument]
      refine ⟨writeOff.id, hid, .completed _ hbefore (Or.inr rfl) rfl nofun ?_⟩
      exact Leaves.of_state hbefore
    · obtain ⟨_, hpending, h⟩ := bind_eq_ok h
      have hstatus := writeOffPending_eq_ok hpending
      unfold WriteOffs.complete at h
      obtain ⟨table, _, h⟩ := bind_eq_ok h
      obtain rfl := Except.ok.inj h
      have hbefore : processState system .writeOff writeOff.id = some ⟨none, false⟩ := by
        simp [processState, hfind, writeOffState, hstatus]
      refine ⟨writeOff.id, hid, .completed _ hbefore (Or.inl rfl) rfl nofun ?_⟩
      exact writeOffSave_leaves hfind (by simp [writeOffState, hdocument])
  | onRejected =>
    unfold writeOffCallback WriteOffs.onRejected at h
    obtain ⟨writeOff, hlock, h⟩ := bind_eq_ok h
    obtain ⟨hid, hfind⟩ := find?_of_writeOffLockFor hlock
    obtain ⟨_, _, h⟩ := bind_eq_ok h
    split at h
    · obtain rfl := Except.ok.inj h
      exact ⟨writeOff.id, hid, .kept nofun (ProcessesKept.refl system)⟩
    · obtain ⟨_, hpending, h⟩ := bind_eq_ok h
      obtain rfl := Except.ok.inj h
      have hstatus := writeOffPending_eq_ok hpending
      refine ⟨writeOff.id, hid, .kept nofun (writeOffSave_stays hfind ?_)⟩
      simp [writeOffState, hstatus]

/-- A note in the history of loans leaves every process as it was. -/
theorem addEvent_kept (system : System) (id : RowId) (eventType : LoanEventType) :
    ProcessesKept system (Loans.addEvent system id eventType) := by
  intro other otherId
  cases other <;> rfl

theorem actGenerated_kept {id documentId : RowId} {previousReplaceable : Bool}
    (h : Loans.actGenerated system id documentId previousReplaceable = .ok after) :
    ProcessesKept system after := by
  unfold Loans.actGenerated at h
  obtain ⟨loan, hlock, h⟩ := bind_eq_ok h
  obtain ⟨hfind, hrow⟩ := find?_of_lockLoan hlock
  subst hrow
  obtain ⟨_, h⟩ := check_eq_ok h
  obtain ⟨_, h⟩ := check_eq_ok h
  obtain rfl := Except.ok.inj h
  exact loanSave_stays hfind rfl

theorem actSigned_kept {id documentId : RowId}
    (h : Loans.actSigned system id documentId = .ok after) : ProcessesKept system after := by
  unfold Loans.actSigned at h
  obtain ⟨loan, hlock, h⟩ := bind_eq_ok h
  obtain ⟨hfind, hrow⟩ := find?_of_lockLoan hlock
  subst hrow
  obtain ⟨_, h⟩ := check_eq_ok h
  obtain rfl := Except.ok.inj h
  by_cases hstatus : loan.status = .pendingSignatures
  · rw [if_pos hstatus]
    exact loanSave_stays hfind (by simp [loanState, hstatus])
  · rw [if_neg hstatus]
    exact loanSave_stays hfind rfl

theorem actRejected_kept {id documentId : RowId}
    (h : Loans.actRejected system id documentId = .ok after) : ProcessesKept system after := by
  unfold Loans.actRejected at h
  obtain ⟨loan, _, h⟩ := bind_eq_ok h
  obtain ⟨_, h⟩ := check_eq_ok h
  obtain rfl := Except.ok.inj h
  exact addEvent_kept system id .deliveryActRejected

theorem loanCallback_heard (h : loanCallback input phase system event = .ok after) :
    ∃ id, event.entityId = some id ∧ Heard system after .loan id event.documentId phase := by
  unfold loanCallback at h
  obtain ⟨loan, hlock, h⟩ := bind_eq_ok h
  have hid := (find?_of_lockActLoan hlock).1
  refine ⟨loan.id, hid, .kept (fun _ => rfl) ?_⟩
  split at h
  · obtain rfl := Except.ok.inj h
    exact addEvent_kept system loan.id (returnActEvent phase)
  · cases phase with
    | onGenerated => exact actGenerated_kept h
    | onSigned => exact actSigned_kept h
    | onRejected => exact actRejected_kept h

end Callbacks

/-! ### The process of an act -/

/-- The handler of the documents of a process. -/
def Process.handler : Process → Handler
  | .handover => .handover
  | .transfer => .transfer
  | .writeOff => .writeOff
  | .loan => .loan

theorem handlerOf_entityType (process : Process) :
    handlerOf process.entityType = some process.handler := by
  cases process <;> decide

theorem entityType_of_handlerOf {entityType : String} {process : Process}
    (h : handlerOf entityType = some process.handler) : entityType = process.entityType := by
  unfold handlerOf at h
  split_ifs at h with hhandover htransfer hwriteOff hloan hinventory
  all_goals cases process
  all_goals first
    | assumption
    | exact nomatch h

theorem isOf_iff {document : Document} {entityType : String} {id : RowId} :
    Document.isOf document entityType id = true ↔
      document.entityType = some entityType ∧ document.entityId = some id := by
  simp [Document.isOf]

/-- A document is of one process. -/
theorem isOf_unique {document : Document} {process other : Process} {id otherId : RowId}
    (h : Document.isOf document process.entityType id = true)
    (hother : Document.isOf document other.entityType otherId = true) :
    other = process ∧ otherId = id := by
  obtain ⟨htype, hid⟩ := isOf_iff.mp h
  obtain ⟨hotherType, hotherId⟩ := isOf_iff.mp hother
  have htypes : other.entityType = process.entityType :=
    Option.some.inj (hotherType.symm.trans htype)
  have hhandlers : other.handler = process.handler := by
    have hboth := handlerOf_entityType other
    rw [htypes, handlerOf_entityType process] at hboth
    exact (Option.some.inj hboth).symm
  refine ⟨?_, Option.some.inj (hotherId.symm.trans hid)⟩
  cases other <;> cases process <;> first | rfl | exact nomatch hhandlers

/-- The process of an act hears of it, and when it has none nothing changes. -/
theorem dispatch_heard {input : CallbackInput} {phase : DocumentLifecyclePhase}
    {system after : System} {document : Document}
    (h : dispatch input phase system document = .ok after) :
    (∃ process id, Document.isOf document process.entityType id = true ∧
      Heard system after process id document.id phase) ∨
    (ProcessesKept system after ∧
      ∀ process id, Document.isOf document (Process.entityType process) id = false) := by
  unfold dispatch at h
  cases hhandler : document.entityType.bind handlerOf with
  | none =>
    rw [hhandler] at h
    obtain rfl := Except.ok.inj h
    refine Or.inr ⟨ProcessesKept.refl system, fun process id => ?_⟩
    by_contra hof
    obtain ⟨htype, _⟩ := isOf_iff.mp (Bool.not_eq_false _ ▸ hof)
    rw [htype, Option.bind_some, handlerOf_entityType] at hhandler
    exact nomatch hhandler
  | some handler =>
    rw [hhandler] at h
    obtain ⟨result, hcallback, h⟩ := bind_eq_ok h
    obtain ⟨_, _, h⟩ := bind_eq_ok h
    obtain rfl := Except.ok.inj h
    obtain ⟨entityType, htype, hhandler⟩ := Option.bind_eq_some_iff.mp hhandler
    have hheard : ∀ process : Process, handler = process.handler →
        (∃ id, document.event.entityId = some id ∧
          Heard system result process id document.event.documentId phase) →
        ∃ process id, Document.isOf document (Process.entityType process) id = true ∧
          Heard system result process id document.id phase := by
      rintro process rfl ⟨id, hid, hheard⟩
      have hof := isOf_iff.mpr ⟨entityType_of_handlerOf hhandler ▸ htype, hid⟩
      exact ⟨process, id, hof, hheard⟩
    cases handler with
    | handover => exact Or.inl (hheard .handover rfl (handoverCallback_heard hcallback))
    | transfer => exact Or.inl (hheard .transfer rfl (transferCallback_heard hcallback))
    | writeOff => exact Or.inl (hheard .writeOff rfl (writeOffCallback_heard hcallback))
    | loan => exact Or.inl (hheard .loan rfl (loanCallback_heard hcallback))
    | inventoryAct =>
      obtain ⟨_, _, hsame⟩ := bind_eq_ok hcallback
      obtain rfl := Except.ok.inj hsame
      refine Or.inr ⟨ProcessesKept.refl system, fun process id => ?_⟩
      by_contra hof
      obtain ⟨hprocess, _⟩ := isOf_iff.mp (Bool.not_eq_false _ ▸ hof)
      obtain rfl := Option.some.inj (hprocess.symm.trans htype)
      rw [handlerOf_entityType] at hhandler
      cases process <;> exact nomatch hhandler

/-! ### Cancellations -/

section Cancellations

variable {system after : System} {id : RowId} {signed : Bool} {voided : Except Failure Unit}

/-- A cancellation finds its process not completed, and leaves it cancelled. -/
def Cancels (system after : System) (process : Process) (id : RowId) : Prop :=
  completedBy system process id = none ∧ Leaves system after process id ⟨none, true⟩

theorem handoverCancel_cancels (h : Handovers.cancel system id voided = .ok after) :
    Cancels system after .handover id := by
  unfold Handovers.cancel at h
  split at h
  · cases h
  next handover hfind =>
  have hrow : handover.id = id := by simpa using List.find?_some hfind
  subst hrow
  split at h
  · cases h
  next hsigned =>
  split at h
  · cases h
  split at h
  · cases h
  · obtain rfl := Except.ok.inj h
    refine ⟨?_, handoverSave_leaves hfind (by simp [handoverState])⟩
    simp [completedBy, processState, hfind, handoverState, hsigned]

theorem transferCancel_cancels (h : Transfers.cancel system id signed voided = .ok after) :
    Cancels system after .transfer id := by
  unfold Transfers.cancel at h
  obtain ⟨transfer, hlock, h⟩ := bind_eq_ok h
  obtain ⟨hfind, hrow⟩ := find?_of_transferLock hlock
  obtain ⟨hallowed, h⟩ := check_eq_ok h
  obtain ⟨_, h⟩ := check_eq_ok h
  obtain ⟨_, _, h⟩ := bind_eq_ok h
  obtain rfl := Except.ok.inj h
  subst hrow
  have hstatus : transfer.status ≠ .completed := by
    intro hcompleted
    rw [hcompleted] at hallowed
    exact hallowed (by decide)
  refine ⟨?_, transferSave_leaves hfind (by simp [transferState])⟩
  simp [completedBy, processState, hfind, transferState, hstatus]

theorem writeOffCancel_cancels (h : WriteOffs.cancel system id signed voided = .ok after) :
    Cancels system after .writeOff id := by
  unfold WriteOffs.cancel at h
  obtain ⟨writeOff, hlock, h⟩ := bind_eq_ok h
  obtain ⟨hfind, hrow⟩ := find?_of_writeOffLock hlock
  obtain ⟨hallowed, h⟩ := check_eq_ok h
  obtain ⟨_, h⟩ := check_eq_ok h
  obtain ⟨_, _, h⟩ := bind_eq_ok h
  obtain rfl := Except.ok.inj h
  subst hrow
  have hstatus : writeOff.status ≠ .completed := by
    intro hcompleted
    rw [hcompleted] at hallowed
    exact hallowed (by decide)
  refine ⟨?_, writeOffSave_leaves hfind (by simp [writeOffState])⟩
  simp [completedBy, processState, hfind, writeOffState, hstatus]

theorem undoDelivery_cancels (h : Loans.undoDelivery system id voided = .ok after) :
    Cancels system after .loan id := by
  unfold Loans.undoDelivery at h
  obtain ⟨_, _, h⟩ := bind_eq_ok h
  obtain ⟨loan, hlock, h⟩ := bind_eq_ok h
  obtain ⟨hfind, hrow⟩ := find?_of_lockLoan hlock
  obtain ⟨_, h⟩ := check_eq_ok h
  obtain ⟨_, _, h⟩ := bind_eq_ok h
  obtain ⟨table, _, h⟩ := bind_eq_ok h
  obtain rfl := Except.ok.inj h
  subst hrow
  refine ⟨?_, loanSave_leaves hfind (by simp [loanState])⟩
  simp [completedBy, processState, hfind, loanState]

/-- A process is cancelled with its documents, none of which is signed. -/
theorem cancelProcess_eq_ok {engine result : Engine} {process : Process}
    (h : cancelProcess engine process id = .ok result) :
    ∃ voided, voidForEntity engine process.entityType id = .ok voided ∧
      Cancels engine.system result.system process id ∧
      result = { voided with system := result.system } := by
  unfold cancelProcess at h
  cases process with
  | handover =>
    obtain ⟨system, hcancel, h⟩ := bind_eq_ok h
    obtain ⟨voided, hvoid, h⟩ := bind_eq_ok h
    obtain rfl := Except.ok.inj h
    exact ⟨voided, hvoid, handoverCancel_cancels hcancel, rfl⟩
  | transfer =>
    obtain ⟨system, hcancel, h⟩ := bind_eq_ok h
    obtain ⟨voided, hvoid, h⟩ := bind_eq_ok h
    obtain rfl := Except.ok.inj h
    exact ⟨voided, hvoid, transferCancel_cancels hcancel, rfl⟩
  | writeOff =>
    obtain ⟨system, hcancel, h⟩ := bind_eq_ok h
    obtain ⟨voided, hvoid, h⟩ := bind_eq_ok h
    obtain rfl := Except.ok.inj h
    exact ⟨voided, hvoid, writeOffCancel_cancels hcancel, rfl⟩
  | loan =>
    obtain ⟨system, hcancel, h⟩ := bind_eq_ok h
    obtain ⟨voided, hvoid, h⟩ := bind_eq_ok h
    obtain rfl := Except.ok.inj h
    exact ⟨voided, hvoid, undoDelivery_cancels hcancel, rfl⟩

end Cancellations

end InternalControl.DocumentEngine
