import InternalControl.ImportJobs

/-!
# Import jobs over runs of workers

Each transaction of a worker finds its lease in the job it has locked, and no
lease is given out twice. So one worker at most writes the rows, one finishes
the job, and one whose lease is gone writes nothing more.
-/

namespace InternalControl.ImportJobs

open Interleaving

/-! ### What was committed -/

def Written.rows? : Written → Option ImportRowsResult
  | .rows written => some written
  | _ => none

def Written.result? : Written → Option ImportResult
  | .result written => some written
  | _ => none

/-- The rows of an import, each time they were written. -/
def rowsOf (commits : List Commit) (importId : Uuid) : List ImportRowsResult :=
  commits.filterMap fun commit => if commit.importId = importId then commit.written.rows? else none

/-- The results of a job, each time it succeeded. -/
def resultsOf (commits : List Commit) (id : Uuid) : List ImportResult :=
  commits.filterMap fun commit => if commit.job = id then commit.written.result? else none

def finishedOf (notifications : List Notification) (id : Uuid) : List Notification :=
  notifications.filter fun notification =>
    notification.entityId = id ∧ notification.type = .importFinished

/-- What was committed for a job under a lease. -/
def commitsOf (commits : List Commit) (id lease : Uuid) : List Commit :=
  commits.filter fun commit => commit.job = id ∧ commit.lease = lease

/-! ### What a statement does to a job -/

/-- What a statement writes into a job, what it commits and notifies, and the lease it gives out. -/
inductive JobStep (leases : List Uuid) (job : JobRow) :
    JobRow → List Commit → List Notification → List Uuid → Prop
  | retry (hfailed : job.status = .failed) : JobStep leases job job.retried [] [] leases
  | claim (wanted : Option Uuid) (lease : Uuid) (now : ℤ) (hnext : job.IsNext wanted now)
      (hfresh : lease ∉ leases) : JobStep leases job (job.claimed lease now) [] [] (lease :: leases)
  | writeRows (lease : Uuid) (written : ImportRowsResult) (now : ℤ) (hheld : job.HeldBy lease)
      (hnone : job.rowsResult = none) :
      JobStep leases job (job.withRows written now) [⟨job.id, job.importId, lease, .rows written⟩] []
        leases
  | registerMovements (lease : Uuid) (written : ℕ) (now : ℤ) (hheld : job.HeldBy lease) :
      JobStep leases job (job.withMovements written now)
        [⟨job.id, job.importId, lease, .movements written⟩] [] leases
  | finalize (lease : Uuid) (now : ℤ) (hlease : job.leaseId = some lease) :
      JobStep leases job (job.finalizing now) [] [] leases
  | finish (claim : Claim) (result : ImportResult) (now : ℤ) (hid : claim.id = job.id)
      (hheld : job.HeldBy claim.lease) :
      JobStep leases job (job.finished result now)
        [⟨job.id, job.importId, claim.lease, .result result⟩] [claim.notification .importFinished]
        leases
  | fail (claim : Claim) (message : String) (now : ℤ) (hid : claim.id = job.id)
      (hlease : job.leaseId = some claim.lease) :
      JobStep leases job (job.stopped message now)
        [⟨job.id, job.importId, claim.lease, .failure message⟩] [claim.notification .importFailed]
        leases

namespace JobStep

variable {leases leases' : List Uuid} {job job' : JobRow} {commits : List Commit}
  {notifications : List Notification}

theorem id_eq (h : JobStep leases job job' commits notifications leases') : job'.id = job.id := by
  cases h <;> rfl

theorem importId_eq (h : JobStep leases job job' commits notifications leases') :
    job'.importId = job.importId := by
  cases h <;> rfl

theorem leases_subset (h : JobStep leases job job' commits notifications leases') :
    leases ⊆ leases' := by
  cases h with
  | claim => exact List.subset_cons_self _ _
  | _ => exact List.Subset.refl _

/-- What is committed is committed for the job, under the lease that it has. -/
theorem commit_eq (h : JobStep leases job job' commits notifications leases') {commit : Commit}
    (hin : commit ∈ commits) : commit.job = job.id ∧ commit.importId = job.importId ∧
      job.leaseId = some commit.lease := by
  cases h with
  | retry => cases hin
  | claim => cases hin
  | finalize => cases hin
  | writeRows lease written now hheld =>
    cases List.mem_singleton.mp hin
    exact ⟨rfl, rfl, hheld.1⟩
  | registerMovements lease written now hheld =>
    cases List.mem_singleton.mp hin
    exact ⟨rfl, rfl, hheld.1⟩
  | finish claim result now hid hheld =>
    cases List.mem_singleton.mp hin
    exact ⟨rfl, rfl, hheld.1⟩
  | fail claim message now hid hlease =>
    cases List.mem_singleton.mp hin
    exact ⟨rfl, rfl, hlease⟩

theorem entityId_eq (h : JobStep leases job job' commits notifications leases')
    {notification : Notification} (hin : notification ∈ notifications) :
    notification.entityId = job.id := by
  cases h with
  | finish claim result now hid hheld =>
    cases List.mem_singleton.mp hin
    exact hid
  | fail claim message now hid hlease =>
    cases List.mem_singleton.mp hin
    exact hid
  | _ => cases hin

/-- A lease that was given out before is in the job only if it was. -/
theorem leaseId_of (h : JobStep leases job job' commits notifications leases') {lease : Uuid}
    (hlease : job'.leaseId = some lease) (hin : lease ∈ leases) : job.leaseId = some lease := by
  cases h with
  | retry => cases hlease
  | claim wanted fresh now hnext hfresh =>
    cases hlease
    exact absurd hin hfresh
  | finish => cases hlease
  | fail => cases hlease
  | _ => exact hlease

end JobStep

/-! ### Invariants -/

/-- A job and what was committed for it tell the same. -/
structure JobSound (job : JobRow) (commits : List Commit) (notifications : List Notification)
    (leases : List Uuid) : Prop where
  held : ∀ lease ∈ job.leaseId, job.status = .running ∧ lease ∈ leases
  rows : rowsOf commits job.importId = job.rowsResult.toList
  results : resultsOf commits job.id = job.result.toList
  succeeded : job.status = .succeeded ↔ job.result.isSome
  notified : (finishedOf notifications job.id).length = job.result.toList.length

section JobSound

variable {leases leases' : List Uuid} {job job' : JobRow} {commits commits' : List Commit}
  {notifications notifications' : List Notification}

theorem rowsOf_append (importId : Uuid) :
    rowsOf (commits ++ commits') importId = rowsOf commits importId ++ rowsOf commits' importId :=
  List.filterMap_append

theorem resultsOf_append (id : Uuid) :
    resultsOf (commits ++ commits') id = resultsOf commits id ++ resultsOf commits' id :=
  List.filterMap_append

theorem finishedOf_append (id : Uuid) : finishedOf (notifications ++ notifications') id =
    finishedOf notifications id ++ finishedOf notifications' id :=
  List.filter_append ..

theorem rowsOf_singleton (id importId lease : Uuid) (written : Written) :
    rowsOf [⟨id, importId, lease, written⟩] importId = written.rows?.toList := by
  cases hwritten : written.rows? <;> simp [rowsOf, hwritten]

theorem resultsOf_singleton (id importId lease : Uuid) (written : Written) :
    resultsOf [⟨id, importId, lease, written⟩] id = written.result?.toList := by
  cases hwritten : written.result? <;> simp [resultsOf, hwritten]

/-- A job that a worker holds has not succeeded. -/
theorem JobSound.result_eq_none (h : JobSound job commits notifications leases)
    (hstatus : job.status ≠ .succeeded) : job.result = none := by
  cases hresult : job.result with
  | none => rfl
  | some result => exact absurd (h.succeeded.mpr (by rw [hresult]; rfl)) hstatus

/-- Nothing is committed: a job that has neither rows nor a result more is sound as before. -/
theorem JobSound.of_same (h : JobSound job commits notifications leases)
    (hheld : ∀ lease ∈ job'.leaseId, job'.status = .running ∧ lease ∈ leases')
    (hsame : job'.importId = job.importId ∧ job'.id = job.id ∧ job'.rowsResult = job.rowsResult ∧
      job'.result = job.result) (hsucceeded : job'.status = .succeeded ↔ job'.result.isSome)
    (hrows : rowsOf commits' job.importId = []) (hresults : resultsOf commits' job.id = [])
    (hnotified : finishedOf notifications' job.id = []) :
    JobSound job' (commits ++ commits') (notifications ++ notifications') leases' := by
  obtain ⟨himport, hid, hrowsResult, hresult⟩ := hsame
  refine ⟨hheld, ?_, ?_, hsucceeded, ?_⟩
  · rw [rowsOf_append, himport, hrowsResult, hrows, List.append_nil]
    exact h.rows
  · rw [resultsOf_append, hid, hresult, hresults, List.append_nil]
    exact h.results
  · rw [finishedOf_append, hid, hresult, hnotified, List.append_nil]
    exact h.notified

theorem JobSound.step (h : JobSound job commits notifications leases)
    (hstep : JobStep leases job job' commits' notifications' leases') :
    JobSound job' (commits ++ commits') (notifications ++ notifications') leases' := by
  cases hstep with
  | retry hfailed =>
    have hresult := h.result_eq_none (by rw [hfailed]; decide)
    exact h.of_same (fun _ hnone => by cases hnone) ⟨rfl, rfl, rfl, rfl⟩
      (by simp [JobRow.retried, hresult]) rfl rfl rfl
  | claim wanted lease now hnext hfresh =>
    have hresult : job.result = none := by
      refine h.result_eq_none ?_
      rcases hnext.2 with hqueued | ⟨-, hrunning, -⟩
      · rw [hqueued]
        decide
      · rw [hrunning]
        decide
    refine h.of_same ?_ ⟨rfl, rfl, rfl, rfl⟩ (by simp [JobRow.claimed, hresult]) rfl rfl rfl
    rintro _ ⟨⟩
    exact ⟨rfl, List.mem_cons_self ..⟩
  | writeRows lease written now hheld hnone =>
    refine ⟨h.held, ?_, ?_, h.succeeded, ?_⟩
    · have hrows := h.rows
      rw [hnone] at hrows
      rw [rowsOf_append]
      exact congrArg₂ _ hrows (rowsOf_singleton _ _ _ _)
    · rw [resultsOf_append]
      exact (congrArg₂ _ h.results (resultsOf_singleton _ _ _ _)).trans (List.append_nil _)
    · rw [List.append_nil]
      exact h.notified
  | registerMovements lease written now hheld =>
    exact h.of_same h.held ⟨rfl, rfl, rfl, rfl⟩ h.succeeded (rowsOf_singleton _ _ _ _)
      (resultsOf_singleton _ _ _ _) rfl
  | finalize lease now hlease =>
    exact h.of_same h.held ⟨rfl, rfl, rfl, rfl⟩ h.succeeded rfl rfl rfl
  | finish claim result now hid hheld =>
    have hresult := h.result_eq_none (by rw [hheld.2]; decide)
    refine ⟨fun _ hnone => (by cases hnone), ?_, ?_, ?_, ?_⟩
    · rw [rowsOf_append]
      exact (congrArg₂ _ h.rows (rowsOf_singleton _ _ _ _)).trans (List.append_nil _)
    · have hresults := h.results
      rw [hresult] at hresults
      rw [resultsOf_append]
      exact congrArg₂ _ hresults (resultsOf_singleton _ _ _ _)
    · simp [JobRow.finished]
    · have hnotified := h.notified
      rw [hresult] at hnotified
      have hone : finishedOf [claim.notification .importFinished] job.id =
          [claim.notification .importFinished] := by
        simp [finishedOf, Claim.notification, hid]
      rw [finishedOf_append, List.length_append, JobRow.id_finished, hnotified, hone]
      rfl
  | fail claim message now hid hlease =>
    have hrunning := (h.held _ hlease).1
    have hresult := h.result_eq_none (by rw [hrunning]; decide)
    exact h.of_same (fun _ hnone => by cases hnone) ⟨rfl, rfl, rfl, rfl⟩
      (by simp [JobRow.stopped, hresult]) (rowsOf_singleton _ _ _ _) (resultsOf_singleton _ _ _ _)
      (by simp [finishedOf, Claim.notification])

end JobSound

section Workers

variable {ι : Type}

/-- Jobs are told apart by their imports, each is sound, and nothing is committed or notified
for a job that is not there. -/
structure Sound (store : Store ι) : Prop where
  imports : ∀ id other job job', store.jobs.find? id = some job → store.jobs.find? other = some job' →
    job.importId = job'.importId → id = other
  job : ∀ id job, store.jobs.find? id = some job →
    JobSound job store.commits store.notifications store.leases
  committed : ∀ commit ∈ store.commits,
    ∃ job, store.jobs.find? commit.job = some job ∧ job.importId = commit.importId
  notified : ∀ notification ∈ store.notifications,
    (store.jobs.find? notification.entityId).isSome

/-- The lease with which a worker works. One that only stores failures writes no rows. -/
def leaseOf : Worker → Option Uuid
  | .idle => none
  | .next _ claim => some claim.lease
  | .inside _ claim => some claim.lease
  | .registered _ claim => some claim.lease
  | .failing _ => none

/-- The lease of a claim was given out, and its job is there. -/
def Known (store : Store ι) (claim : Claim) : Prop :=
  claim.lease ∈ store.leases ∧
    ∃ job, store.jobs.find? claim.id = some job ∧ job.importId = claim.importId

/-- The rows are still to be written as long as the lease is there. -/
def Unwritten (store : Store ι) (claim : Claim) : Prop :=
  ∀ job, store.jobs.find? claim.id = some job → job.leaseId = some claim.lease →
    job.rowsResult = none

/-- A worker in a transaction has the job locked, under its lease. -/
def Holding (i : ι) (store : Store ι) (claim : Claim) : Prop :=
  store.lockedBy claim.id = some i ∧
    ∃ job, store.jobs.find? claim.id = some job ∧ job.HeldBy claim.lease

/-- What holds of a worker at each point. -/
def Working (i : ι) (store : Store ι) : Worker → Prop
  | .idle => True
  | .next task claim => Known store claim ∧ (task = .writeRows → Unwritten store claim)
  | .inside task claim =>
    Known store claim ∧ (task = .writeRows → Unwritten store claim) ∧ Holding i store claim
  | .registered _ claim => Known store claim
  | .failing failures => ∀ failure ∈ failures, Known store failure.1

/-- No two workers have one lease. -/
def Apart (p q : Worker) : Prop := ∀ lease ∈ leaseOf p, lease ∉ leaseOf q

/-- What a statement of a worker does to the store. -/
inductive Effect (i : ι) (worker : Worker) (store store' : Store ι) : Prop
  | wait (hjobs : store'.jobs = store.jobs) (hcommits : store'.commits = store.commits)
      (hnotifications : store'.notifications = store.notifications)
      (hleases : store'.leases = store.leases)
  | enqueue (job : JobRow) (hjobs : store.jobs.insert job = some store'.jobs)
      (hnew : ∀ other ∈ store.jobs.rows, other.importId ≠ job.importId)
      (hblank : job.status = .queued ∧ job.leaseId = none ∧ job.rowsResult = none ∧ job.result = none)
      (hcommits : store'.commits = store.commits)
      (hnotifications : store'.notifications = store.notifications)
      (hleases : store'.leases = store.leases)
  | job (job job' : JobRow) (commits : List Commit) (notifications : List Notification)
      (hfound : store.jobs.find? job.id = some job)
      (hstep : JobStep store.leases job job' commits notifications store'.leases)
      (hfind : ∀ id, store'.jobs.find? id = if job.id = id then some job' else store.jobs.find? id)
      (hcommits : store'.commits = store.commits ++ commits)
      (hnotifications : store'.notifications = store.notifications ++ notifications)
      (hlocked : ∀ k ∈ store.lockedBy job.id, k = i)
      (hwritten : job'.rowsResult = job.rowsResult ∨ leaseOf worker = job.leaseId)

/-- The locks of the others stay, and a lease of a worker is its own or new. -/
structure Frame (i : ι) (store store' : Store ι) (worker worker' : Worker) : Prop where
  locks : ∀ id k, k ≠ i → store.lockedBy id = some k → store'.lockedBy id = some k
  lease : ∀ lease ∈ leaseOf worker', lease ∈ leaseOf worker ∨ lease ∉ store.leases

section Steps

variable {i : ι} {store store' : Store ι} {worker worker' : Worker}

theorem find?_updateJob {id : Uuid} {job : JobRow} {change : JobRow → JobRow}
    (hid : ∀ job, (change job).id = job.id) (hfound : store.jobs.find? id = some job) (other : Uuid) :
    (store.updateJob id change hid).jobs.find? other =
      if job.id = other then some (change job) else store.jobs.find? other := by
  have hkey := Table.key_of_find? hfound
  unfold Store.updateJob
  by_cases hother : job.id = other
  · rw [if_pos hother]
    have hsame : store.jobs.find? other = some job := hother ▸ hkey ▸ hfound
    exact @Table.find?_update_of_picked _ _ _ _ store.jobs job other _ _ change hid hsame hkey
  · rw [if_neg hother]
    refine @Table.find?_update_of_not _ _ _ _ store.jobs other _ _ change hid
      fun row hrow hpicked => hother ?_
    rw [hkey, ← hpicked]
    exact Table.key_of_find? hrow

theorem Sound.effect (h : Sound store) (heffect : Effect i worker store store') : Sound store' := by
  cases heffect with
  | wait hjobs hcommits hnotifications hleases =>
    refine ⟨?_, ?_, ?_, ?_⟩
    · rw [hjobs]
      exact h.imports
    · rw [hjobs, hcommits, hnotifications, hleases]
      exact h.job
    · rw [hcommits, hjobs]
      exact h.committed
    · rw [hnotifications, hjobs]
      exact h.notified
  | enqueue job hjobs hnew hblank hcommits hnotifications hleases =>
    obtain ⟨hstatus, hlease, hrows, hresult⟩ := hblank
    have hnone := (Table.insert_eq_some hjobs).1
    have hfind := Table.find?_insert hjobs
    have hother : ∀ id row, store.jobs.find? id = some row → store'.jobs.find? id = some row := by
      intro id row hrow
      rw [hfind, if_neg]
      · exact hrow
      · rintro rfl
        rw [hrow] at hnone
        cases hnone
    have hold : ∀ id row, store'.jobs.find? id = some row →
        job.id = id ∧ row = job ∨ store.jobs.find? id = some row := by
      intro id row hrow
      rw [hfind] at hrow
      split at hrow
      · next hid => exact .inl ⟨hid, (Option.some.inj hrow).symm⟩
      · exact .inr hrow
    refine ⟨fun id other row row' hrow hrow' hsame => ?_, fun id row hrow => ?_, fun commit hin => ?_,
      fun notification hin => ?_⟩
    · rcases hold id row hrow with ⟨rfl, rfl⟩ | hrow <;>
        rcases hold other row' hrow' with ⟨rfl, rfl⟩ | hrow'
      · rfl
      · exact absurd hsame.symm (hnew row' (Table.mem_of_find? hrow'))
      · exact absurd hsame (hnew row (Table.mem_of_find? hrow))
      · exact h.imports id other row row' hrow hrow' hsame
    · rw [hcommits, hnotifications, hleases]
      rcases hold id row hrow with ⟨rfl, rfl⟩ | hrow
      · have hrowsNil : rowsOf store.commits row.importId = [] := by
          refine List.filterMap_eq_nil_iff.mpr fun commit hin => if_neg fun himport => ?_
          obtain ⟨other, hfound, hsame⟩ := h.committed commit hin
          exact hnew other (Table.mem_of_find? hfound) (hsame.trans himport)
        have hresultsNil : resultsOf store.commits row.id = [] := by
          refine List.filterMap_eq_nil_iff.mpr fun commit hin => if_neg fun hid => ?_
          obtain ⟨other, hfound, -⟩ := h.committed commit hin
          rw [hid] at hfound
          exact absurd (hnone.symm.trans hfound) (by simp)
        have hfinishedNil : finishedOf store.notifications row.id = [] := by
          refine List.filter_eq_nil_iff.mpr fun notification hin hpicked => ?_
          have hid := (of_decide_eq_true hpicked).1
          have hsome := h.notified notification hin
          rw [hid, hnone] at hsome
          cases hsome
        refine ⟨fun lease hin => ?_, ?_, ?_, ?_, ?_⟩
        · rw [hlease] at hin
          cases hin
        · rw [hrowsNil, hrows]
          rfl
        · rw [hresultsNil, hresult]
          rfl
        · simp [hstatus, hresult]
        · rw [hfinishedNil, hresult]
          rfl
      · exact h.job id row hrow
    · rw [hcommits] at hin
      obtain ⟨row, hrow, hsame⟩ := h.committed commit hin
      exact ⟨row, hother _ row hrow, hsame⟩
    · rw [hnotifications] at hin
      exact Table.isSome_find?_insert hjobs (h.notified notification hin)
  | job job job' commits notifications hfound hstep hfind hcommits hnotifications hlocked hwritten =>
    have hold : ∀ id row, store'.jobs.find? id = some row →
        job.id = id ∧ row = job' ∨ job.id ≠ id ∧ store.jobs.find? id = some row := by
      intro id row hrow
      rw [hfind] at hrow
      split at hrow
      · next hid => exact .inl ⟨hid, (Option.some.inj hrow).symm⟩
      · next hid => exact .inr ⟨hid, hrow⟩
    have hkept : ∀ id row, store.jobs.find? id = some row →
        ∃ row', store'.jobs.find? id = some row' ∧ row'.importId = row.importId := by
      intro id row hrow
      by_cases hid : job.id = id
      · refine ⟨job', by rw [hfind, if_pos hid], ?_⟩
        rw [← hid, hfound] at hrow
        cases hrow
        exact hstep.importId_eq
      · exact ⟨row, by rw [hfind, if_neg hid]; exact hrow, rfl⟩
    refine ⟨fun id other row row' hrow hrow' hsame => ?_, fun id row hrow => ?_, fun commit hin => ?_,
      fun notification hin => ?_⟩
    · rcases hold id row hrow with ⟨rfl, rfl⟩ | ⟨-, hrow⟩ <;>
        rcases hold other row' hrow' with ⟨rfl, rfl⟩ | ⟨-, hrow'⟩
      · rfl
      · exact h.imports _ _ _ _ hfound hrow' (hstep.importId_eq.symm.trans hsame)
      · exact h.imports _ _ _ _ hrow hfound (hsame.trans hstep.importId_eq)
      · exact h.imports id other row row' hrow hrow' hsame
    · rw [hcommits, hnotifications]
      rcases hold id row hrow with ⟨rfl, rfl⟩ | ⟨hid, hrow⟩
      · exact (h.job _ job hfound).step hstep
      · have hrowId := Table.key_of_find? hrow
        have hsound := h.job id row hrow
        refine hsound.of_same (fun lease hin => ?_) ⟨rfl, rfl, rfl, rfl⟩ hsound.succeeded ?_ ?_ ?_
        · exact ⟨(hsound.held lease hin).1, hstep.leases_subset (hsound.held lease hin).2⟩
        · refine List.filterMap_eq_nil_iff.mpr fun commit hin => if_neg fun himport => hid ?_
          exact h.imports _ _ _ _ hfound hrow ((hstep.commit_eq hin).2.1.symm.trans himport)
        · refine List.filterMap_eq_nil_iff.mpr fun commit hin => if_neg fun hjob => hid ?_
          exact (hstep.commit_eq hin).1.symm.trans (hjob.trans hrowId)
        · refine List.filter_eq_nil_iff.mpr fun notification hin hpicked => hid ?_
          have hentity := (of_decide_eq_true hpicked).1
          exact (hstep.entityId_eq hin).symm.trans (hentity.trans hrowId)
    · rw [hcommits] at hin
      rcases List.mem_append.mp hin with hin | hin
      · obtain ⟨row, hrow, hsame⟩ := h.committed commit hin
        obtain ⟨row', hrow', hsame'⟩ := hkept _ row hrow
        exact ⟨row', hrow', hsame'.trans hsame⟩
      · obtain ⟨hjob, himport, -⟩ := hstep.commit_eq hin
        refine ⟨job', by rw [hfind, if_pos hjob.symm], ?_⟩
        exact hstep.importId_eq.trans himport.symm
    · rw [hnotifications] at hin
      rcases List.mem_append.mp hin with hin | hin
      · obtain ⟨row, hrow⟩ := Option.isSome_iff_exists.mp (h.notified notification hin)
        obtain ⟨row', hrow', -⟩ := hkept _ row hrow
        rw [hrow']
        rfl
      · rw [hfind, if_pos (hstep.entityId_eq hin).symm]
        rfl

/-- What is known of a claim stays known. -/
theorem Known.effect {claim : Claim} (h : Known store claim)
    (heffect : Effect i worker store store') : Known store' claim := by
  obtain ⟨hlease, job, hfound, himport⟩ := h
  cases heffect with
  | wait hjobs hcommits hnotifications hleases =>
    exact ⟨hleases ▸ hlease, job, hjobs ▸ hfound, himport⟩
  | enqueue new hjobs hnew hblank hcommits hnotifications hleases =>
    refine ⟨hleases ▸ hlease, job, ?_, himport⟩
    have hnone := (Table.insert_eq_some hjobs).1
    rw [Table.find?_insert hjobs, if_neg]
    · exact hfound
    · intro hid
      rw [hid, hfound] at hnone
      cases hnone
  | job old job' commits notifications hold hstep hfind hcommits hnotifications hlocked hwritten =>
    refine ⟨hstep.leases_subset hlease, ?_⟩
    by_cases hid : old.id = claim.id
    · refine ⟨job', by rw [hfind, if_pos hid], ?_⟩
      rw [← hid, hold] at hfound
      cases hfound
      exact hstep.importId_eq.trans himport
    · exact ⟨job, by rw [hfind, if_neg hid]; exact hfound, himport⟩

/-- Only a worker with the lease writes the rows. -/
theorem Unwritten.effect {claim : Claim} (h : Unwritten store claim) (hknown : Known store claim)
    (heffect : Effect i worker store store') (hother : claim.lease ∉ leaseOf worker) :
    Unwritten store' claim := by
  intro row hrow hlease
  cases heffect with
  | wait hjobs hcommits hnotifications hleases =>
    rw [hjobs] at hrow
    exact h row hrow hlease
  | enqueue new hjobs hnew hblank hcommits hnotifications hleases =>
    rw [Table.find?_insert hjobs] at hrow
    split at hrow
    · cases hrow
      exact hblank.2.2.1
    · exact h row hrow hlease
  | job old job' commits notifications hold hstep hfind hcommits hnotifications hlocked hwritten =>
    rw [hfind] at hrow
    split at hrow
    · next hid =>
      cases hrow
      have hbefore := hstep.leaseId_of hlease hknown.1
      rcases hwritten with hsame | hworker
      · rw [hsame]
        exact h old (hid ▸ hold) hbefore
      · exact absurd (hworker.trans hbefore) hother
    · exact h row hrow hlease

/-- A job that one worker has locked is not changed by another. -/
theorem Holding.effect {k : ι} {claim : Claim} (h : Holding k store claim) (hik : k ≠ i)
    (heffect : Effect i worker store store')
    (hlocks : ∀ id k, k ≠ i → store.lockedBy id = some k → store'.lockedBy id = some k) :
    Holding k store' claim := by
  obtain ⟨hlock, row, hrow, hheld⟩ := h
  refine ⟨hlocks _ k hik hlock, row, ?_, hheld⟩
  cases heffect with
  | wait hjobs hcommits hnotifications hleases => exact hjobs ▸ hrow
  | enqueue new hjobs hnew hblank hcommits hnotifications hleases =>
    have hnone := (Table.insert_eq_some hjobs).1
    rw [Table.find?_insert hjobs, if_neg]
    · exact hrow
    · intro hid
      rw [hid, hrow] at hnone
      cases hnone
  | job old job' commits notifications hold hstep hfind hcommits hnotifications hlocked hwritten =>
    rw [hfind, if_neg]
    · exact hrow
    · intro hid
      exact hik (hlocked k (hid ▸ hlock))

theorem Working.lease_mem (h : Working i store worker) :
    ∀ lease ∈ leaseOf worker, lease ∈ store.leases := by
  intro lease hlease
  cases worker with
  | idle => cases hlease
  | failing failures => cases hlease
  | next task claim =>
    cases hlease
    exact h.1.1
  | inside task claim =>
    cases hlease
    exact h.1.1
  | registered rows claim =>
    cases hlease
    exact h.1

/-- What a statement of one worker leaves of what holds of another. -/
theorem Working.other {k : ι} {other : Worker} (h : Working k store other) (hik : i ≠ k)
    (heffect : Effect i worker store store') (hframe : Frame i store store' worker worker')
    (hapart : Apart worker other) : Working k store' other ∧ Apart worker' other := by
  refine ⟨?_, fun lease hlease hother => ?_⟩
  · have hforeign : ∀ lease ∈ leaseOf other, lease ∉ leaseOf worker :=
      fun lease hother hlease => hapart lease hlease hother
    cases other with
    | idle => trivial
    | failing failures => exact fun failure hin => (h failure hin).effect heffect
    | registered rows claim => exact Known.effect h heffect
    | next task claim =>
      obtain ⟨hknown, hunwritten⟩ := h
      exact ⟨hknown.effect heffect, fun htask =>
        (hunwritten htask).effect hknown heffect (hforeign claim.lease rfl)⟩
    | inside task claim =>
      obtain ⟨hknown, hunwritten, hholding⟩ := h
      exact ⟨hknown.effect heffect, fun htask =>
        (hunwritten htask).effect hknown heffect (hforeign claim.lease rfl),
        hholding.effect (Ne.symm hik) heffect hframe.locks⟩
  · rcases hframe.lease lease hlease with hown | hnew
    · exact hapart lease hown hother
    · exact hnew (h.lease_mem lease hother)

/-- What a statement of a worker does, to the store and to the worker itself. -/
structure Advance (i : ι) (store store' : Store ι) (worker worker' : Worker) : Prop where
  effect : Effect i worker store store'
  frame : Frame i store store' worker worker'
  working : Working i store' worker'

/-- A statement that changes nothing but how far the worker has come. -/
theorem Advance.still (hworking : Working i store worker')
    (hlease : ∀ lease ∈ leaseOf worker', lease ∈ leaseOf worker) :
    Advance i store store worker worker' :=
  ⟨.wait rfl rfl rfl rfl, ⟨fun _ _ _ h => h, fun lease hin => .inl (hlease lease hin)⟩, hworking⟩

theorem Advance.lock {task : Task} {claim : Claim} {job : JobRow}
    (hworking : Working i store (.next task claim)) (hfree : store.lockedBy claim.id = none)
    (hfound : store.jobs.find? claim.id = some job) (hheld : job.HeldBy claim.lease) :
    Advance i store (store.lock claim.id i) (.next task claim) (.inside task claim) := by
  refine ⟨.wait rfl rfl rfl rfl, ⟨fun id k _ hlocked => ?_, fun lease hin => .inl hin⟩,
    hworking.1, hworking.2, Function.update_self .., job, hfound, hheld⟩
  by_cases hid : id = claim.id
  · rw [hid, hfree] at hlocked
    cases hlocked
  · exact (Function.update_of_ne hid _ _).trans hlocked

/-- The lock that a transaction gives back was its own. -/
theorem locks_unlock {id : Uuid} (hlock : store.lockedBy id = some i)
    (hsame : store'.lockedBy = store.lockedBy) (other : Uuid) (k : ι) (hk : k ≠ i)
    (hother : store.lockedBy other = some k) : (store'.unlock id).lockedBy other = some k := by
  unfold Store.unlock
  rw [hsame]
  by_cases hid : other = id
  · rw [hid, hlock] at hother
    exact absurd (Option.some.inj hother).symm hk
  · exact (Function.update_of_ne hid _ _).trans hother

/-- A transaction that writes nothing gives its lock back. -/
theorem Advance.unlock {task : Task} {claim : Claim} (hholding : Holding i store claim)
    (hnext : Working i (store.unlock claim.id) worker')
    (hlease : ∀ lease ∈ leaseOf worker', lease ∈ some claim.lease) :
    Advance i store (store.unlock claim.id) (.inside task claim) worker' :=
  ⟨.wait rfl rfl rfl rfl, ⟨locks_unlock hholding.1 rfl, fun lease hin => .inl (hlease lease hin)⟩,
    hnext⟩

/-- A transaction commits what it writes into the job that it has locked, and gives its lock
back. -/
theorem Advance.commit {task : Task} {claim : Claim} {job : JobRow} {change : JobRow → JobRow}
    {hid : ∀ job, (change job).id = job.id} {written : Written} {notifications : List Notification}
    (hknown : Known store claim) (hlock : store.lockedBy claim.id = some i)
    (hfound : store.jobs.find? claim.id = some job)
    (hstep : JobStep store.leases job (change job) [⟨job.id, job.importId, claim.lease, written⟩]
      notifications store.leases)
    (hwritten : (change job).rowsResult = job.rowsResult ∨ some claim.lease = job.leaseId)
    (hnext : ∀ after, Known after claim → Working i after worker')
    (hlease : ∀ lease ∈ leaseOf worker', lease ∈ some claim.lease) :
    Advance i store (((store.updateJob claim.id change hid).commit claim written
      notifications).unlock claim.id) (.inside task claim) worker' := by
  obtain ⟨-, row, hrow, himport⟩ := id hknown
  rw [hfound] at hrow
  cases hrow
  have hkey := Table.key_of_find? hfound
  have heffect : Effect i (.inside task claim) store (((store.updateJob claim.id change hid).commit
      claim written notifications).unlock claim.id) := by
    refine .job job (change job) _ _ (hkey.symm ▸ hfound) hstep (find?_updateJob hid hfound) ?_ rfl
      (fun k hk => ?_) hwritten
    · rw [hkey, himport]
      rfl
    · rw [hkey, hlock] at hk
      exact (Option.some.inj hk).symm
  exact ⟨heffect, ⟨locks_unlock hlock rfl, fun lease hin => .inl (hlease lease hin)⟩,
    hnext _ (hknown.effect heffect)⟩

/-- A statement of its own writes into a job that nobody has locked. -/
theorem Advance.update {id : Uuid} {job : JobRow} (change : JobRow → JobRow)
    (hid : ∀ job, (change job).id = job.id) {commits : List Commit}
    {notifications : List Notification} {leases : List Uuid}
    (hfree : store.lockedBy id = none) (hfound : store.jobs.find? id = some job)
    (hstep : JobStep store.leases job (change job) commits notifications leases)
    (hwritten : (change job).rowsResult = job.rowsResult)
    (hafter : store' = { store.updateJob id change hid with
      commits := store.commits ++ commits
      notifications := store.notifications ++ notifications
      leases := leases })
    (hnext : Effect i worker store store' → Working i store' worker')
    (hlease : ∀ lease ∈ leaseOf worker', lease ∈ leaseOf worker ∨ lease ∉ store.leases) :
    Advance i store store' worker worker' := by
  subst hafter
  have hkey := Table.key_of_find? hfound
  have heffect : Effect i worker store { store.updateJob id change hid with
      commits := store.commits ++ commits
      notifications := store.notifications ++ notifications
      leases := leases } := by
    refine .job job (change job) _ _ (hkey.symm ▸ hfound) hstep (find?_updateJob hid hfound) rfl rfl
      (fun k hk => ?_) (.inl hwritten)
    rw [hkey, hfree] at hk
    cases hk
  exact ⟨heffect, ⟨fun _ _ _ hlocked => hlocked, hlease⟩, hnext heffect⟩

/-- Once the rows are there, the worker has no more to write of them. -/
theorem working_afterRows {claim : Claim} (hknown : Known store claim) (rows : ImportRowsResult) :
    Working i store (claim.afterRows rows) := by
  refine ⟨hknown, fun htask => ?_⟩
  split at htask <;> cases htask

theorem working_begin {claim : Claim} {job : JobRow} (hknown : Known store claim)
    (hfound : store.jobs.find? claim.id = some job) : Working i store (claim.begin job.rowsResult) := by
  cases hrows : job.rowsResult with
  | none =>
    refine ⟨hknown, fun _ row hrow _ => ?_⟩
    rw [hfound] at hrow
    cases hrow
    exact hrows
  | some rows => exact working_afterRows hknown rows

theorem leaseOf_begin (claim : Claim) (rows : Option ImportRowsResult) :
    leaseOf (claim.begin rows) = some claim.lease := by
  cases rows <;> rfl

theorem leaseOf_stop (failures : List (Claim × String)) : leaseOf (.stop failures) = none := by
  cases failures <;> rfl

theorem working_stop {failures : List (Claim × String)}
    (h : ∀ failure ∈ failures, Known store failure.1) : Working i store (.stop failures) := by
  cases failures with
  | nil => trivial
  | cons failure failures => exact h

/-- An abandoned job has a lease that was given out. -/
theorem Sound.known_of_abandoned (h : Sound store) {now : ℤ} {claim : Claim}
    (hin : claim ∈ store.abandoned now) : Known store claim := by
  obtain ⟨job, hjob, hmap⟩ := List.mem_filterMap.mp hin
  obtain ⟨lease, hlease, rfl⟩ := Option.map_eq_some_iff.mp hmap
  have hfound := Table.find?_of_mem (List.mem_of_mem_filter hjob)
  exact ⟨((h.job _ job hfound).held lease hlease).2, job, hfound, rfl⟩

/-- What is known of a worker in the middle of a job is enough to store a failure of it. -/
theorem working_failing {claim : Claim} (hknown : Known store claim) (message : String) :
    Working i store (.failing [(claim, message)]) := by
  intro failure hin
  cases List.mem_singleton.mp hin
  exact hknown

theorem program_advances {targetOf : Uuid → Option ImportTarget} {statement : Statement}
    (h : program targetOf i statement store worker = some (store', worker'))
    (hsound : Sound store) (hworking : Working i store worker) :
    Advance i store store' worker worker' := by
  unfold program at h
  split at h
  · next id importId actorId now =>
    split at h
    · cases h
      exact .still hworking fun _ hin => hin
    · next target htarget =>
      split at h
      · cases h
        exact .still hworking fun _ hin => hin
      · next hnew =>
        obtain ⟨jobs, hinsert, heq⟩ := Option.map_eq_some_iff.mp h
        cases heq
        exact ⟨.enqueue _ hinsert (fun other hother hsame => hnew ⟨other, hother, hsame⟩)
          ⟨rfl, rfl, rfl, rfl⟩ rfl rfl rfl, ⟨fun _ _ _ hlocked => hlocked, fun _ hin => .inl hin⟩,
          trivial⟩
  · next id =>
    split at h
    · cases h
    · next hfree =>
      have hnone := Option.not_isSome_iff_eq_none.mp hfree
      split at h
      · cases h
        exact .still hworking fun _ hin => hin
      · next job hfound =>
        split at h
        · next hfailed =>
          cases h
          exact .update _ JobRow.id_retried hnone hfound (.retry hfailed) rfl
            (by simp [Store.retry, Store.updateJob]) (fun _ => trivial) fun _ hin => .inl hin
        · cases h
          exact .still hworking fun _ hin => hin
  · next wanted id lease now =>
    split at h
    · cases h
    · next hready =>
      obtain ⟨hfree, hfresh⟩ := not_or.mp hready
      have hnone := Option.not_isSome_iff_eq_none.mp hfree
      split at h
      · cases h
      · next job hfound =>
        split at h
        · next hnext =>
          cases h
          have hlater : (store.claim id lease now).jobs.find? (job.claim lease).id =
              some (job.claimed lease now) :=
            (find?_updateJob (fun job => job.id_claimed lease now) hfound _).trans (if_pos rfl)
          refine .update (fun job => job.claimed lease now) (fun job => job.id_claimed lease now) hnone
            hfound (.claim wanted lease now hnext hfresh) rfl
            (by simp [Store.claim, Store.updateJob]) (fun _ => ?_) (fun other hin => .inr ?_)
          · have hrows : job.rowsResult = (job.claimed lease now).rowsResult := rfl
            rw [hrows]
            exact working_begin ⟨List.mem_cons_self .., _, hlater, rfl⟩ hlater
          · rw [leaseOf_begin] at hin
            cases hin
            exact hfresh
        · cases h
  · next now =>
    cases h
    refine .still (working_stop fun failure hin => ?_) fun lease hin => ?_
    · obtain ⟨claim, hclaim, rfl⟩ := List.mem_map.mp hin
      exact hsound.known_of_abandoned hclaim
    · rw [leaseOf_stop] at hin
      cases hin
  · next task claim =>
    split at h
    · cases h
    · next hfree =>
      have hnone := Option.not_isSome_iff_eq_none.mp hfree
      split at h
      · cases h
        exact .still trivial fun _ hin => by cases hin
      · next job hfound =>
        split at h
        · next hheld =>
          cases h
          exact .lock hworking hnone hfound hheld
        · cases h
          exact .still trivial fun _ hin => by cases hin
  · next written now claim =>
    cases h
    obtain ⟨hknown, hunwritten, hlock, job, hfound, hheld⟩ := hworking
    have hnone := hunwritten rfl job hfound hheld.1
    exact .commit hknown hlock hfound (.writeRows claim.lease written now hheld hnone)
      (.inr hheld.1.symm) (fun _ hafter => working_afterRows hafter written) fun _ hin => hin
  · next written now rows claim =>
    cases h
    obtain ⟨hknown, -, hlock, job, hfound, hheld⟩ := hworking
    exact .commit hknown hlock hfound (.registerMovements claim.lease written now hheld) (.inl rfl)
      (fun _ hafter => ⟨hafter, fun htask => by cases htask⟩) fun _ hin => hin
  · next rows claim =>
    cases h
    exact .unlock hworking.2.2 hworking.1 fun _ hin => hin
  · next now rows claim =>
    split at h
    · cases h
    · next hfree =>
      have hnone := Option.not_isSome_iff_eq_none.mp hfree
      split at h
      · cases h
        exact .still ⟨hworking, fun htask => by cases htask⟩ fun _ hin => hin
      · next job hfound =>
        split at h
        · next hlease =>
          cases h
          exact .update (fun job => job.finalizing now) (fun job => job.id_finalizing now) hnone hfound
            (.finalize claim.lease now hlease) rfl
            (by simp [Store.finalize, Store.updateJob])
            (fun heffect => ⟨Known.effect hworking heffect, fun htask => by cases htask⟩)
            fun _ hin => .inl hin
        · cases h
          exact .still ⟨hworking, fun htask => by cases htask⟩ fun _ hin => hin
  · next now rows claim =>
    obtain ⟨hknown, -, hlock, job, hfound, hheld⟩ := hworking
    rw [hfound] at h
    cases h
    have hkey := Table.key_of_find? hfound
    exact .commit hknown hlock hfound
      (.finish claim (rows.result job.movementsDone) now hkey.symm hheld) (.inl rfl)
      (fun _ _ => trivial) fun _ hin => by cases hin
  · next now claim message rest =>
    have hrest : ∀ failure ∈ rest, Known store failure.1 :=
      fun failure hin => hworking failure (List.mem_cons_of_mem _ hin)
    have hnoLease : ∀ lease ∈ leaseOf (.stop rest), False := fun lease hin => by
      rw [leaseOf_stop] at hin
      cases hin
    split at h
    · cases h
    · next hfree =>
      have hnone := Option.not_isSome_iff_eq_none.mp hfree
      split at h
      · cases h
        exact .still (working_stop hrest) fun lease hin => (hnoLease lease hin).elim
      · next job hfound =>
        split at h
        · next hlease =>
          cases h
          have hkey := Table.key_of_find? hfound
          obtain ⟨-, row, hrow, himport⟩ := hworking _ (List.mem_cons_self ..)
          rw [hfound] at hrow
          cases hrow
          refine .update (fun job => job.stopped message now) (fun job => job.id_stopped message now)
            hnone hfound (.fail claim message now hkey.symm hlease) rfl ?_
            (fun heffect => working_stop fun failure hin => (hrest failure hin).effect heffect)
            fun lease hin => (hnoLease lease hin).elim
          simp [Store.fail, Store.commit, Store.updateJob, hkey, himport]
        · cases h
          exact .still (working_stop hrest) fun lease hin => (hnoLease lease hin).elim
  · next message task claim =>
    cases h
    exact .still (working_failing hworking.1 message) fun _ hin => by cases hin
  · next message task claim =>
    cases h
    have hknown : Known (store.unlock claim.id) claim := hworking.1
    exact .unlock hworking.2.2 (working_failing hknown message) fun _ hin => by cases hin
  · next message rows claim =>
    cases h
    exact .still (working_failing hworking message) fun _ hin => by cases hin
  · next task claim =>
    cases h
    exact .unlock hworking.2.2 trivial fun _ hin => by cases hin
  · cases h
    exact .still trivial fun _ hin => by cases hin
  · cases h

end Steps

/-! ### Runs -/

/-- A job that succeeded stays as it is, and a lease that was given out and is not in a job does
not come to it again, nor anything committed under it. -/
structure Stays (before after : Store ι) : Prop where
  leases : before.leases ⊆ after.leases
  succeeded : ∀ id job, before.jobs.find? id = some job → job.status = .succeeded →
    after.jobs.find? id = some job
  fenced : ∀ id lease job, before.jobs.find? id = some job → lease ∈ before.leases →
    job.leaseId ≠ some lease →
      (∃ job', after.jobs.find? id = some job' ∧ job'.leaseId ≠ some lease) ∧
        commitsOf after.commits id lease = commitsOf before.commits id lease

theorem Stays.refl (store : Store ι) : Stays store store :=
  ⟨List.Subset.refl _, fun _ _ h _ => h, fun _ _ job h _ hlease => ⟨⟨job, h, hlease⟩, rfl⟩⟩

theorem Stays.trans {first second third : Store ι} (h : Stays first second)
    (h' : Stays second third) : Stays first third := by
  refine ⟨List.Subset.trans h.leases h'.leases, fun id job hfound hsucceeded => ?_,
    fun id lease job hfound hgiven hlease => ?_⟩
  · exact h'.succeeded id job (h.succeeded id job hfound hsucceeded) hsucceeded
  · obtain ⟨⟨job', hfound', hlease'⟩, hsame⟩ := h.fenced id lease job hfound hgiven hlease
    obtain ⟨hlater, hsame'⟩ := h'.fenced id lease job' hfound' (h.leases hgiven) hlease'
    exact ⟨hlater, hsame'.trans hsame⟩

/-- Nothing is done to a job that succeeded. -/
theorem JobStep.not_succeeded {leases leases' : List Uuid} {job job' : JobRow}
    {commits : List Commit} {notifications : List Notification}
    (h : JobStep leases job job' commits notifications leases')
    (hheld : ∀ lease ∈ job.leaseId, job.status = .running ∧ lease ∈ leases) :
    job.status ≠ .succeeded := by
  intro hsucceeded
  have hnoLease : ∀ lease, job.leaseId ≠ some lease := by
    intro lease hlease
    rw [(hheld lease hlease).1] at hsucceeded
    cases hsucceeded
  cases h with
  | retry hfailed =>
    rw [hfailed] at hsucceeded
    cases hsucceeded
  | claim wanted lease now hnext hfresh =>
    rcases hnext.2 with hqueued | ⟨-, hrunning, -⟩
    · rw [hqueued] at hsucceeded
      cases hsucceeded
    · rw [hrunning] at hsucceeded
      cases hsucceeded
  | writeRows lease written now hheld => exact hnoLease lease hheld.1
  | registerMovements lease written now hheld => exact hnoLease lease hheld.1
  | finalize lease now hlease => exact hnoLease lease hlease
  | finish claim result now hid hheld => exact hnoLease claim.lease hheld.1
  | fail claim message now hid hlease => exact hnoLease claim.lease hlease

theorem Stays.effect {i : ι} {store store' : Store ι} {worker : Worker} (hsound : Sound store)
    (heffect : Effect i worker store store') : Stays store store' := by
  cases heffect with
  | wait hjobs hcommits hnotifications hleases =>
    refine ⟨hleases ▸ List.Subset.refl _, fun id job hfound _ => hjobs ▸ hfound,
      fun id lease job hfound _ hlease => ⟨⟨job, hjobs ▸ hfound, hlease⟩, ?_⟩⟩
    rw [hcommits]
  | enqueue new hjobs hnew hblank hcommits hnotifications hleases =>
    have hnone := (Table.insert_eq_some hjobs).1
    have hkept : ∀ id job, store.jobs.find? id = some job → store'.jobs.find? id = some job := by
      intro id job hfound
      rw [Table.find?_insert hjobs, if_neg]
      · exact hfound
      · rintro rfl
        rw [hfound] at hnone
        cases hnone
    refine ⟨hleases ▸ List.Subset.refl _, fun id job hfound _ => hkept id job hfound,
      fun id lease job hfound _ hlease => ⟨⟨job, hkept id job hfound, hlease⟩, ?_⟩⟩
    rw [hcommits]
  | job old job' commits notifications hold hstep hfind hcommits hnotifications hlocked hwritten =>
    refine ⟨hstep.leases_subset, fun id job hfound hsucceeded => ?_,
      fun id lease job hfound hgiven hlease => ⟨?_, ?_⟩⟩
    · rw [hfind, if_neg]
      · exact hfound
      · rintro rfl
        rw [hold] at hfound
        cases hfound
        exact hstep.not_succeeded (hsound.job _ old hold).held hsucceeded
    · by_cases hid : old.id = id
      · refine ⟨job', by rw [hfind, if_pos hid], fun hlater => hlease ?_⟩
        rw [← hid, hold] at hfound
        cases hfound
        exact hstep.leaseId_of hlater hgiven
      · exact ⟨job, by rw [hfind, if_neg hid]; exact hfound, hlease⟩
    · have hnone : commitsOf commits id lease = [] := by
        refine List.filter_eq_nil_iff.mpr fun commit hin hpicked => hlease ?_
        obtain ⟨hjob, rfl⟩ := of_decide_eq_true hpicked
        obtain ⟨hid, -, hheld⟩ := hstep.commit_eq hin
        rw [← hjob, hid, hold] at hfound
        cases hfound
        exact hheld
      rw [hcommits]
      exact (List.filter_append ..).trans ((congrArg _ hnone).trans (List.append_nil _))

variable {targetOf : Uuid → Option ImportTarget}

theorem program_keeps : Keeps (@program ι targetOf) Anyhow Sound Working (fun p q => Apart p q) where
  symm := fun _ _ h lease hq hp => h lease hp hq
  own := fun _ _ _ _ _ _ _ h hsound hworking =>
    have hadvance := program_advances h hsound hworking
    ⟨hsound.effect hadvance.effect, hadvance.working⟩
  other := fun _ _ _ _ _ _ _ _ hik _ h hsound hworking hother hapart =>
    have hadvance := program_advances h hsound hworking
    hother.other hik hadvance.effect hadvance.frame hapart

theorem holds_start : Holds Sound Working Apart (start ι) := by
  refine ⟨⟨?_, ?_, ?_, ?_⟩, fun _ => trivial, fun _ _ _ lease hin => by cases hin⟩
  · intro id other job job' hfound
    cases hfound
  · intro id job hfound
    cases hfound
  · intro commit hin
    cases hin
  · intro notification hin
    cases hin

/-- The rows of an import are written by those transactions only that store them in its job, so
once at most. -/
theorem Sound.rowsOf_length_le {store : Store ι} (h : Sound store) (importId : Uuid) :
    (rowsOf store.commits importId).length ≤ 1 := by
  by_cases hjob : ∃ id job, store.jobs.find? id = some job ∧ job.importId = importId
  · obtain ⟨id, job, hfound, rfl⟩ := hjob
    rw [(h.job id job hfound).rows]
    cases job.rowsResult <;> simp
  · have hnil : rowsOf store.commits importId = [] := by
      refine List.filterMap_eq_nil_iff.mpr fun commit hin => if_neg fun himport => hjob ?_
      obtain ⟨job, hfound, hsame⟩ := h.committed commit hin
      exact ⟨_, job, hfound, hsame.trans himport⟩
    rw [hnil]
    exact Nat.zero_le 1

/-- In every run of workers the rows of an import are written once at most, by the transaction
that stores them in its job. A job succeeds once at most, with one notification, and stays so. A
worker whose lease is no longer in the job commits nothing for it afterwards. -/
theorem job_runs_once [DecidableEq ι] {c c' c'' : Interleaving ι (Store ι) Worker}
    (hrun : Run (program targetOf) Anyhow (start ι) c) (hlater : Run (program targetOf) Anyhow c c')
    (hlast : Run (program targetOf) Anyhow c' c'') :
    (∀ importId, (rowsOf c.shared.commits importId).length ≤ 1) ∧
      ∀ id job, c.shared.jobs.find? id = some job →
        rowsOf c.shared.commits job.importId = job.rowsResult.toList ∧
        (resultsOf c.shared.commits id).length = (if job.status = .succeeded then 1 else 0) ∧
        (finishedOf c.shared.notifications id).length = (if job.status = .succeeded then 1 else 0) ∧
        (job.status = .succeeded → c'.shared.jobs.find? id = some job) ∧
        ∀ lease, job.leaseId = some lease → ∀ job', c'.shared.jobs.find? id = some job' →
          job'.leaseId ≠ some lease →
            commitsOf c''.shared.commits id lease = commitsOf c'.shared.commits id lease := by
  have hbefore := program_keeps.run hrun holds_start
  have hmiddle := program_keeps.run hlater hbefore
  have hstays : ∀ {c c' : Interleaving ι (Store ι) Worker}, Run (program targetOf) Anyhow c c' →
      Holds Sound Working Apart c → Stays c.shared c'.shared := fun hrun hc =>
    program_keeps.run_related Stays.refl (fun _ _ _ => Stays.trans)
      (fun _ _ _ _ _ _ _ h hsound hworking =>
        Stays.effect hsound (program_advances h hsound hworking).effect) hrun hc
  refine ⟨hbefore.shared.rowsOf_length_le, fun id job hfound => ?_⟩
  have hjob := hbefore.shared.job id job hfound
  have hkey := Table.key_of_find? hfound
  have hresult : job.result.toList.length = if job.status = .succeeded then 1 else 0 := by
    cases hresult : job.result with
    | none => rw [if_neg fun hstatus => by simpa [hresult] using hjob.succeeded.mp hstatus]; rfl
    | some result => rw [if_pos (hjob.succeeded.mpr (by rw [hresult]; rfl))]; rfl
  refine ⟨hjob.rows, ?_, ?_, (hstays hlater hbefore).succeeded id job hfound,
    fun lease hlease job' hfound' hlost => ?_⟩
  · rw [← hkey, hjob.results, hresult]
  · rw [← hkey, hjob.notified, hresult]
  · have hgiven := (hstays hlater hbefore).leases (hjob.held lease hlease).2
    exact ((hstays hlast hmiddle).fenced id lease job' hfound' hgiven hlost).2

end Workers

section Samples

def fourRows : ImportRowsResult := ⟨4, 1, [], 0, 0, none⟩

/-- A worker claims the import of persons and writes its rows. -/
def writeFirst : List (Bool × Statement) :=
  [(false, .enqueue "job" "import" "ana" 0), (false, .claim none "job" "first" 0), (false, .hold),
    (false, .writeRows fourRows 1000)]

/-- It is not heard of for an hour, and another worker claims the job. -/
def takeOver : List (Bool × Statement) := [(true, .claim none "job" "second" 3600000)]

/-- The other worker finishes the job after the first one has come back. -/
def finishSecond : List (Bool × Statement) :=
  [(false, .hold), (true, .hold), (true, .finish 3601000)]

/-- The job is in a status, under a lease. -/
def hasLease (status : ImportJobStatus) (lease : Option Uuid)
    (c : Interleaving Bool (Store Bool) Worker) : Bool :=
  (c.shared.jobs.find? "job").any fun job => job.status = status ∧ job.leaseId = lease

theorem job_runs_once_takeOver : ∃ c c' c'' : Interleaving Bool (Store Bool) Worker,
    hasLease .running (some "first") c = true ∧ hasLease .running (some "second") c' = true ∧
      hasLease .succeeded none c'' = true ∧
      (∀ importId, (rowsOf c.shared.commits importId).length ≤ 1) ∧
      ∀ id job, c.shared.jobs.find? id = some job →
        rowsOf c.shared.commits job.importId = job.rowsResult.toList ∧
        (resultsOf c.shared.commits id).length = (if job.status = .succeeded then 1 else 0) ∧
        (finishedOf c.shared.notifications id).length = (if job.status = .succeeded then 1 else 0) ∧
        (job.status = .succeeded → c'.shared.jobs.find? id = some job) ∧
        ∀ lease, job.leaseId = some lease → ∀ job', c'.shared.jobs.find? id = some job' →
          job'.leaseId ≠ some lease →
            commitsOf c''.shared.commits id lease = commitsOf c'.shared.commits id lease := by
  obtain ⟨c, c', hrun, hlater, hfirst, hmiddle⟩ : ∃ c c' : Interleaving Bool (Store Bool) Worker,
      Run (program fun _ => some .persons) Anyhow (start Bool) c ∧
        Run (program fun _ => some .persons) Anyhow c c' ∧
        hasLease .running (some "first") c = true ∧
        (hasLease .running (some "second") c' &&
          (runAll (program fun _ => some .persons) Anyhow c' finishSecond).any
            (hasLease .succeeded none)) = true :=
    exists_run_run writeFirst takeOver (by decide +kernel)
  obtain ⟨hsecond, hend⟩ := Bool.and_eq_true_iff.mp hmiddle
  obtain ⟨c'', hlast, hsucceeded⟩ := exists_run finishSecond hend
  exact ⟨c, c', c'', hfirst, hsecond, hsucceeded, job_runs_once hrun hlater hlast⟩

end Samples

end InternalControl.ImportJobs
