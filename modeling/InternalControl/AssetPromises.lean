import InternalControl.AssetExclusion

/-!
# One process at a time

Which processes may hold one asset at once, over every interleaving of the
transactions that take assets with all that advances or closes a process. The
write-offs look for all the others, and all the others look for them. The loans
and the transfers do not look for all that the rest look for.
-/

namespace InternalControl.AssetPromises

open Assets AssetProcesses Fallible Loans RowLocks AssetHolds AssetPrograms AssetExclusion

/-- The transactions of the services: `permitted` is when a request may commit. -/
def workload (calendar : Calendar) (permitted : Opening → List (Row × Mode) → System → Prop) :
    Workload System Row Failure Opening where
  program := Opening.program
  permitted := permitted
  background := Advance calendar

/-- Whenever a request comes, it may commit. -/
def always : Opening → List (Row × Mode) → System → Prop := fun _ _ _ => True

/-- The holds of a state that nothing has yet taken apart from what is proved of it. -/
theorem background_kept {calendar : Calendar} {excludes : Hold → Hold → Prop}
    {symm : ∀ {hold other}, excludes hold other → excludes other hold} (system after : System)
    (h : Advance calendar system after) (hold : Hold) (row : Row)
    (hheld : (assetExclusion excludes symm).held hold row after) :
    (assetExclusion excludes symm).held hold row system := by
  cases row with
  | asset assetId => exact h.kept hold assetId hheld
  | _ => exact hheld.elim

/-! ### Write-offs -/

/-- A write-off and another process. -/
def WriteOffRival : Hold → Hold → Prop
  | .writeOff, .loan _ | .writeOff, .transfer _ | .writeOff, .handover
  | .writeOff, .reservation _ => True
  | .loan _, .writeOff | .transfer _, .writeOff | .handover, .writeOff
  | .reservation _, .writeOff => True
  | _, _ => False

theorem WriteOffRival.symm {hold other : Hold} (h : WriteOffRival hold other) :
    WriteOffRival other hold := by
  cases hold <;> cases other <;> exact h

/-- What is not held by a write-off is covered by whoever looks for write-offs. -/
theorem covers_writeOff {permitted : List (Row × Mode) → System → Prop} {sees : Hold → Prop}
    {opened : System → Hold → Prop} (hopened : ∀ system hold, opened system hold → hold ≠ .writeOff)
    (hsees : sees .writeOff) : Covers WriteOffRival permitted sees opened := by
  intro locks system hold other _ hhold hrival
  have hother : other = .writeOff := by
    cases hold with
    | writeOff => exact absurd rfl (hopened system _ hhold)
    | _ => cases other with
      | writeOff => rfl
      | _ => exact hrival.elim
  subst hother
  exact ⟨fun hother => hopened system _ hother rfl, Or.inl hsees⟩

/-- A write-off covers all the others, for it looks for them all. -/
theorem covers_others {permitted : List (Row × Mode) → System → Prop} :
    Covers WriteOffRival permitted writeOffSees fun _ hold => hold = .writeOff := by
  rintro locks system hold other _ rfl hrival
  cases other with
  | writeOff => exact hrival.elim
  | missing => exact hrival.elim
  | _ => exact ⟨nofun, Or.inl trivial⟩

/-- Every request is careful about write-offs. -/
theorem program_careful (opening : Opening) :
    (assetExclusion WriteOffRival WriteOffRival.symm).Safe (always opening) []
      (fun _ _ => False) opening.program := by
  cases opening with
  | loan input actorId loanId itemId sourceScope outside =>
    exact createLoan_safe view_id HoldsKept.refl
      (covers_writeOff (fun _ _ hhold => hhold ▸ nofun) trivial)
  | transfer transferId target items unavailable persons targetOf =>
    exact createTransfer_safe (covers_writeOff (fun _ _ hhold => hhold ▸ nofun) trivial)
  | transferItems transferId items unavailable =>
    refine updateTransferItems_safe (covers_writeOff (fun system hold hhold => ?_) trivial)
    obtain ⟨transfer, _, _, rfl⟩ := hhold
    exact nofun
  | handover handoverId costCenterId assetIds centerCode outside enqueued =>
    refine createHandover_safe fun other hrival => ?_
    cases other with
    | writeOff => trivial
    | _ => exact hrival.elim
  | acceptance requestId assetIds viewer =>
    exact acceptRequest_safe (covers_writeOff (fun _ _ hhold => hhold ▸ nofun) trivial)
  | conversion requestId dto viewer personOf outside conversion =>
    exact convertRequest_safe (covers_writeOff (fun _ _ hhold => hhold ▸ nofun) trivial)
      (covers_writeOff (fun _ _ hhold => hhold ▸ nofun) trivial)
  | writeOff writeOffId assetIds => exact createWriteOff_safe covers_others
  | writeOffItems writeOffId items => exact updateWriteOff_safe covers_others

/-- A hold of some kind is what the services look for. -/
theorem exists_loan_iff {system : System} {assetId : RowId} :
    inOpenLoan system assetId = true ↔ ∃ origin, Holds system assetId (.loan origin) := by
  simp [inOpenLoan, Holds, List.any_eq_true]

theorem exists_transfer_iff {system : System} {assetId : RowId} :
    inOpenTransfer system none assetId = true ↔
      ∃ origin, Holds system assetId (.transfer origin) := by
  simp [inOpenTransfer, Holds, List.any_eq_true]

theorem handover_iff {system : System} {assetId : RowId} :
    inOpenHandover system assetId = true ↔ Holds system assetId .handover := by
  simp [inOpenHandover, Holds, List.any_eq_true]

theorem exists_reservation_iff {system : System} {exceptRequest : Option RowId} {assetId : RowId} :
    isReserved system exceptRequest assetId = true ↔
      ∃ requestId, some requestId ≠ exceptRequest ∧ Holds system assetId (.reservation requestId) := by
  simp [isReserved, Holds, List.any_eq_true]
  tauto

theorem writeOff_iff {system : System} {assetId : RowId} :
    inOpenWriteOff system none assetId = true ↔ Holds system assetId .writeOff := by
  simp [inOpenWriteOff, Holds, List.any_eq_true]

/-- No asset in an open write-off is in another open process. -/
def WriteOffsApart (system : System) : Prop :=
  ∀ assetId, inOpenWriteOff system none assetId = true →
    inOpenLoan system assetId = false ∧ inOpenTransfer system none assetId = false ∧
      inOpenHandover system assetId = false ∧ isReserved system none assetId = false

theorem apart_iff_writeOffsApart {system : System} :
    (assetExclusion WriteOffRival WriteOffRival.symm).Apart system ↔ WriteOffsApart system := by
  rw [apart_iff]
  constructor
  · intro h assetId hwriteOff
    have hheld := writeOff_iff.mp hwriteOff
    have hnone : ∀ other, WriteOffRival .writeOff other → ¬Holds system assetId other :=
      fun other hrival => h .writeOff other assetId hrival hheld
    refine ⟨?_, ?_, ?_, ?_⟩ <;> rw [← Bool.not_eq_true]
    · intro hloan
      obtain ⟨origin, hother⟩ := exists_loan_iff.mp hloan
      exact hnone (.loan origin) trivial hother
    · intro htransfer
      obtain ⟨origin, hother⟩ := exists_transfer_iff.mp htransfer
      exact hnone (.transfer origin) trivial hother
    · intro hhandover
      exact hnone .handover trivial (handover_iff.mp hhandover)
    · intro hreserved
      obtain ⟨requestId, _, hother⟩ := exists_reservation_iff.mp hreserved
      exact hnone (.reservation requestId) trivial hother
  · intro h
    have hnone : ∀ assetId other, WriteOffRival .writeOff other → Holds system assetId .writeOff →
        ¬Holds system assetId other := by
      intro assetId other hrival hwriteOff
      obtain ⟨hloan, htransfer, hhandover, hreserved⟩ := h assetId (writeOff_iff.mpr hwriteOff)
      cases other with
      | loan origin => exact not_loan_of hloan origin
      | transfer origin => exact not_transfer_of htransfer origin
      | handover => exact not_handover_of hhandover
      | reservation requestId => exact not_reserved_of hreserved nofun
      | _ => exact hrival.elim
    intro hold other assetId hrival hhold hother
    cases hold with
    | writeOff => exact hnone assetId other hrival hhold hother
    | _ => cases other with
      | writeOff => exact hnone assetId _ hrival.symm hother hhold
      | _ => exact hrival.elim

/-- In every interleaving of the requests that take assets with all that
advances or closes a process, no asset is in an open write-off and in another
open process. -/
theorem writeOffsApart_of_run {calendar : Calendar} {start : System}
    {db : Database System Row Failure Opening} (hstart : WriteOffsApart start)
    (hrun : Relation.ReflTransGen (Step (workload calendar always)) (idle start) db) :
    WriteOffsApart db.store :=
  apart_iff_writeOffsApart.mp (apart_of_run program_careful background_kept
    (apart_iff_writeOffsApart.mpr hstart) hrun)

/-- What a request leaves when nothing else goes on. -/
def leave (opening : Opening) (system : System) : System :=
  attempt (fun system => opening.alone system) system

/-- A request that goes through alone takes the database to what it leaves. -/
theorem run_leave {calendar : Calendar}
    {permitted : Opening → List (Row × Mode) → System → Prop} (opening : Opening) {system : System}
    (hpermitted : ∀ locks, permitted opening locks system)
    (h : (opening.alone system).isOk = true) :
    Relation.ReflTransGen (Step (workload calendar permitted)) (idle system)
      (idle (leave opening system)) :=
  run_alone hpermitted ((program_run opening system).trans
    (eq_ok_attempt (fun system => opening.alone system) h))

def scrapping : RowId := ⟨"w1", by decide⟩

/-- The scanner is to be written off. -/
def scrapScanner : Opening := .writeOff scrapping [scanner]

/-- The projector is asked for. -/
def borrowProjector : Opening :=
  .loan ⟨[projector], borrower, asker, 30, none⟩ asker twoThings id (fun _ => true) (.ok ())

/-- The scanner waits for its write-off, and the projector for its loan. -/
theorem writeOffsApart_of_run_scanner :
    inOpenWriteOff (leave borrowProjector (leave scrapScanner twoAssets)) none scanner = true ∧
      inOpenLoan (leave borrowProjector (leave scrapScanner twoAssets)) projector = true ∧
      WriteOffsApart (leave borrowProjector (leave scrapScanner twoAssets)) := by
  have hstart : WriteOffsApart twoAssets := fun _ hwriteOff => Bool.noConfusion hwriteOff
  have hscrapped : Relation.ReflTransGen (Step (workload plainCalendar always)) (idle twoAssets)
      (idle (leave scrapScanner twoAssets)) :=
    run_leave scrapScanner (fun _ => trivial) (by decide +kernel)
  have hborrowed : Relation.ReflTransGen (Step (workload plainCalendar always))
      (idle (leave scrapScanner twoAssets))
      (idle (leave borrowProjector (leave scrapScanner twoAssets))) :=
    run_leave borrowProjector (fun _ => trivial) (by decide +kernel)
  exact ⟨by decide +kernel, by decide +kernel,
    writeOffsApart_of_run hstart (hscrapped.trans hborrowed)⟩

/-! ### Loans, transfers, handovers and requests -/

/-- Two processes that an asset is not promised to at once: a request goes with
its own loan and its own transfer. -/
def Rival : Hold → Hold → Prop
  | .loan _, .transfer _ | .transfer _, .loan _ => True
  | .loan _, .handover | .handover, .loan _ => True
  | .transfer _, .handover | .handover, .transfer _ => True
  | .loan origin, .reservation requestId | .reservation requestId, .loan origin =>
    origin ≠ some requestId
  | .transfer origin, .reservation requestId | .reservation requestId, .transfer origin =>
    origin ≠ some requestId
  | _, _ => False

theorem Rival.symm {hold other : Hold} (h : Rival hold other) : Rival other hold := by
  cases hold <;> cases other <;> exact h

/-- The asset is in no open handover, and no request has reserved it besides one. -/
def Unpromised (system : System) (exceptRequest : Option RowId) (assetId : RowId) : Prop :=
  inOpenHandover system assetId = false ∧ isReserved system exceptRequest assetId = false

/-- A loan commits when its assets are in no open transfer, in no open handover
and reserved by no other request; a transfer when they are in no open handover
and reserved by no other request. The other requests commit whenever they come. -/
def unpromised : Opening → List (Row × Mode) → System → Prop
  | .loan .., locks, system => ∀ assetId, (.asset assetId, .update) ∈ locks →
    inOpenTransfer system none assetId = false ∧ Unpromised system none assetId
  | .conversion id .., locks, system => ∀ assetId, (.asset assetId, .update) ∈ locks →
    inOpenTransfer system none assetId = false ∧ Unpromised system (some id) assetId
  | .transfer .., locks, system => ∀ assetId, (.asset assetId, .update) ∈ locks →
    Unpromised system none assetId
  | .transferItems id .., locks, system => ∀ assetId, (.asset assetId, .update) ∈ locks →
    ∀ transfer ∈ system.transfers, transfer.id = id →
      Unpromised system transfer.assetRequestId assetId
  | _, _, _ => True

/-- An asset that is not promised is held by no handover and no other request. -/
theorem Unpromised.not_holds {system : System} {exceptRequest : Option RowId} {assetId : RowId}
    (h : Unpromised system exceptRequest assetId) {other : Hold}
    (hother : other = .handover ∨
      ∃ requestId, other = .reservation requestId ∧ exceptRequest ≠ some requestId) :
    ¬Holds system assetId other := by
  rcases hother with rfl | ⟨requestId, rfl, hne⟩
  · exact not_handover_of h.1
  · exact not_reserved_of h.2 hne.symm

theorem covers_loan {permitted : List (Row × Mode) → System → Prop} {origin : Option RowId}
    (hpermitted : ∀ locks system, permitted locks system → ∀ assetId,
      (Row.asset assetId, .update) ∈ locks →
        inOpenTransfer system none assetId = false ∧ Unpromised system origin assetId) :
    Covers Rival permitted loanSees fun _ hold => hold = .loan origin := by
  rintro locks system hold other hcommit rfl hrival
  cases other with
  | transfer target =>
    refine ⟨nofun, Or.inr fun assetId hlocked => ?_⟩
    exact not_transfer_of (hpermitted locks system hcommit assetId hlocked).1 target
  | handover =>
    refine ⟨nofun, Or.inr fun assetId hlocked => ?_⟩
    exact (hpermitted locks system hcommit assetId hlocked).2.not_holds (Or.inl rfl)
  | reservation requestId =>
    refine ⟨nofun, Or.inr fun assetId hlocked => ?_⟩
    exact (hpermitted locks system hcommit assetId hlocked).2.not_holds
      (Or.inr ⟨requestId, rfl, hrival⟩)
  | _ => exact hrival.elim

theorem covers_transfer {permitted : List (Row × Mode) → System → Prop}
    {opened : System → Hold → Prop}
    (hopened : ∀ locks system hold, permitted locks system → opened system hold →
      ∃ origin, hold = .transfer origin ∧ ∀ assetId, (Row.asset assetId, .update) ∈ locks →
        Unpromised system origin assetId) :
    Covers Rival permitted transferSees opened := by
  intro locks system hold other hcommit hhold hrival
  obtain ⟨origin, rfl, hunpromised⟩ := hopened locks system hold hcommit hhold
  have hnot : opened system other → ∃ target, other = .transfer target := by
    intro hother
    obtain ⟨target, hsame, _⟩ := hopened locks system other hcommit hother
    exact ⟨target, hsame⟩
  cases other with
  | loan target =>
    refine ⟨fun hother => ?_, Or.inl trivial⟩
    obtain ⟨_, hsame⟩ := hnot hother
    cases hsame
  | handover =>
    refine ⟨fun hother => ?_, Or.inr fun assetId hlocked => ?_⟩
    · obtain ⟨_, hsame⟩ := hnot hother
      cases hsame
    · exact (hunpromised assetId hlocked).not_holds (Or.inl rfl)
  | reservation requestId =>
    refine ⟨fun hother => ?_, Or.inr fun assetId hlocked => ?_⟩
    · obtain ⟨_, hsame⟩ := hnot hother
      cases hsame
    · exact (hunpromised assetId hlocked).not_holds (Or.inr ⟨requestId, rfl, hrival⟩)
  | _ => exact hrival.elim

/-- Every request that commits when its assets are not promised is careful. -/
theorem unpromised_careful (opening : Opening) :
    (assetExclusion Rival Rival.symm).Safe (unpromised opening) [] (fun _ _ => False)
      opening.program := by
  cases opening with
  | loan input actorId loanId itemId sourceScope outside =>
    exact createLoan_safe view_id HoldsKept.refl
      (covers_loan fun locks system hcommit assetId hlocked => hcommit assetId hlocked)
  | transfer transferId target items unavailable persons targetOf =>
    refine createTransfer_safe (covers_transfer fun locks system hold hcommit hhold => ?_)
    exact ⟨none, hhold, fun assetId hlocked => hcommit assetId hlocked⟩
  | transferItems transferId items unavailable =>
    refine updateTransferItems_safe (covers_transfer fun locks system hold hcommit hhold => ?_)
    obtain ⟨transfer, hmem, hid, rfl⟩ := hhold
    exact ⟨transfer.assetRequestId, rfl, fun assetId hlocked =>
      hcommit assetId hlocked transfer hmem hid⟩
  | handover handoverId costCenterId assetIds centerCode outside enqueued =>
    refine createHandover_safe fun other hrival => ?_
    cases other with
    | loan origin => trivial
    | transfer origin => trivial
    | _ => exact hrival.elim
  | acceptance requestId assetIds viewer =>
    refine acceptRequest_safe ?_
    rintro locks system hold other _ rfl hrival
    cases other with
    | loan origin => exact ⟨nofun, Or.inl trivial⟩
    | transfer origin => exact ⟨nofun, Or.inl trivial⟩
    | _ => exact hrival.elim
  | conversion requestId dto viewer personOf outside conversion =>
    refine convertRequest_safe
      (covers_loan fun locks system hcommit assetId hlocked => hcommit assetId hlocked)
      (covers_transfer fun locks system hold hcommit hhold => ?_)
    exact ⟨some requestId, hhold, fun assetId hlocked => (hcommit assetId hlocked).2⟩
  | writeOff writeOffId assetIds =>
    refine createWriteOff_safe ?_
    rintro locks system hold other _ rfl hrival
    cases other <;> exact hrival.elim
  | writeOffItems writeOffId items =>
    refine updateWriteOff_safe ?_
    rintro locks system hold other _ rfl hrival
    cases other <;> exact hrival.elim

/-- Every asset is promised to one process at a time. -/
structure OnePromise (system : System) : Prop where
  loanTransfer : ∀ assetId, inOpenLoan system assetId = true →
    inOpenTransfer system none assetId = false
  loanHandover : ∀ assetId, inOpenLoan system assetId = true →
    inOpenHandover system assetId = false
  transferHandover : ∀ assetId, inOpenTransfer system none assetId = true →
    inOpenHandover system assetId = false
  loanRequest : ∀ loan ∈ system.loans, ∀ assetId, loan.holds assetId = true →
    isReserved system loan.assetRequestId assetId = false
  transferRequest : ∀ transfer ∈ system.transfers, ∀ assetId,
    heldIn transfer.items assetId = true →
      isReserved system transfer.assetRequestId assetId = false

theorem onePromise_of_apart {system : System}
    (h : (assetExclusion Rival Rival.symm).Apart system) : OnePromise system where
  loanTransfer assetId hloan := by
    rw [← Bool.not_eq_true]
    intro htransfer
    obtain ⟨origin, hhold⟩ := exists_loan_iff.mp hloan
    obtain ⟨target, hother⟩ := exists_transfer_iff.mp htransfer
    exact apart_iff.mp h (.loan origin) (.transfer target) assetId trivial hhold hother
  loanHandover assetId hloan := by
    rw [← Bool.not_eq_true]
    intro hhandover
    obtain ⟨origin, hhold⟩ := exists_loan_iff.mp hloan
    exact apart_iff.mp h (.loan origin) .handover assetId trivial hhold (handover_iff.mp hhandover)
  transferHandover assetId htransfer := by
    rw [← Bool.not_eq_true]
    intro hhandover
    obtain ⟨origin, hhold⟩ := exists_transfer_iff.mp htransfer
    exact apart_iff.mp h (.transfer origin) .handover assetId trivial hhold
      (handover_iff.mp hhandover)
  loanRequest loan hloan assetId hholds := by
    rw [← Bool.not_eq_true]
    intro hreserved
    obtain ⟨requestId, hne, hother⟩ := exists_reservation_iff.mp hreserved
    exact apart_iff.mp h (.loan loan.assetRequestId) (.reservation requestId) assetId hne.symm
      ⟨loan, hloan, rfl, hholds⟩ hother
  transferRequest transfer htransfer assetId hheld := by
    rw [← Bool.not_eq_true]
    intro hreserved
    obtain ⟨requestId, hne, hother⟩ := exists_reservation_iff.mp hreserved
    exact apart_iff.mp h (.transfer transfer.assetRequestId) (.reservation requestId) assetId hne.symm
      ⟨transfer, htransfer, rfl, hheld⟩ hother

theorem apart_of_onePromise {system : System} (h : OnePromise system) :
    (assetExclusion Rival Rival.symm).Apart system := by
  have hloan : ∀ assetId origin other, Rival (.loan origin) other →
      Holds system assetId (.loan origin) → ¬Holds system assetId other := by
    intro assetId origin other hrival hhold
    have hopen := exists_loan_iff.mpr ⟨origin, hhold⟩
    obtain ⟨loan, hmem, rfl, hholds⟩ := hhold
    cases other with
    | transfer target => exact not_transfer_of (h.loanTransfer assetId hopen) target
    | handover => exact not_handover_of (h.loanHandover assetId hopen)
    | reservation requestId =>
      exact not_reserved_of (h.loanRequest loan hmem assetId hholds)
        (Ne.symm hrival)
    | _ => exact hrival.elim
  have htransfer : ∀ assetId origin other, Rival (.transfer origin) other →
      Holds system assetId (.transfer origin) → ¬Holds system assetId other := by
    intro assetId origin other hrival hhold hother
    have hopen := exists_transfer_iff.mpr ⟨origin, hhold⟩
    cases other with
    | loan target => exact hloan assetId target (.transfer origin) trivial hother hhold
    | handover => exact not_handover_of (h.transferHandover assetId hopen) hother
    | reservation requestId =>
      obtain ⟨transfer, hmem, rfl, hheld⟩ := hhold
      exact not_reserved_of (h.transferRequest transfer hmem assetId hheld)
        (Ne.symm hrival) hother
    | _ => exact hrival.elim
  rw [apart_iff]
  intro hold other assetId hrival hhold hother
  cases hold with
  | loan origin => exact hloan assetId origin other hrival hhold hother
  | transfer origin => exact htransfer assetId origin other hrival hhold hother
  | _ => cases other with
    | loan origin => exact hloan assetId origin _ hrival.symm hother hhold
    | transfer origin => exact htransfer assetId origin _ hrival.symm hother hhold
    | _ => exact hrival.elim

/-- In every run whose loans and transfers commit when their assets are not
promised, every asset stays promised to one process at a time. -/
theorem onePromise_of_run {calendar : Calendar} {start : System}
    {db : Database System Row Failure Opening} (hstart : OnePromise start)
    (hrun : Relation.ReflTransGen (Step (workload calendar unpromised)) (idle start) db) :
    OnePromise db.store :=
  onePromise_of_apart (apart_of_run unpromised_careful background_kept
    (apart_of_onePromise hstart) hrun)

/-- Two assets that no process holds are promised to none. -/
theorem onePromise_twoAssets : OnePromise twoAssets where
  loanTransfer _ _ := rfl
  loanHandover _ _ := rfl
  transferHandover _ _ := rfl
  loanRequest _ _ _ _ := rfl
  transferRequest _ _ _ _ := rfl

/-- The projector is lent to one centre. -/
theorem onePromise_of_run_projector :
    inOpenLoan (leave borrowProjector twoAssets) projector = true ∧
      OnePromise (leave borrowProjector twoAssets) := by
  have hrun : Relation.ReflTransGen (Step (workload plainCalendar unpromised)) (idle twoAssets)
      (idle (leave borrowProjector twoAssets)) :=
    run_leave borrowProjector (fun _ _ _ => ⟨rfl, rfl, rfl⟩) (by decide +kernel)
  exact ⟨by decide +kernel, onePromise_of_run onePromise_twoAssets hrun⟩

def moving : RowId := ⟨"t1", by decide⟩

def reorganisation : RowId := ⟨"r1", by decide⟩

/-- The projector is to move to another centre. -/
def moveProjector : Opening :=
  .transfer moving borrower [⟨projector, reorganisation⟩] (fun _ => false) (.ok ()) fun _ => .ok ()

/-- The projector is in a transfer, and is asked for and lent all the same: a loan
does not look for transfers. -/
theorem projector_promised_twice :
    OnePromise twoAssets ∧ ∃ db,
      Relation.ReflTransGen (Step (workload plainCalendar always)) (idle twoAssets) db ∧
        ¬OnePromise db.store := by
  have hmoving : Relation.ReflTransGen (Step (workload plainCalendar always)) (idle twoAssets)
      (idle (leave moveProjector twoAssets)) :=
    run_leave moveProjector (fun _ => trivial) (by decide +kernel)
  have hborrowed : Relation.ReflTransGen (Step (workload plainCalendar always))
      (idle (leave moveProjector twoAssets))
      (idle (leave borrowProjector (leave moveProjector twoAssets))) :=
    run_leave borrowProjector (fun _ => trivial) (by decide +kernel)
  refine ⟨onePromise_twoAssets, _, hmoving.trans hborrowed, fun hone => ?_⟩
  have hfree := hone.loanTransfer projector (by decide +kernel)
  exact absurd hfree (by decide +kernel)

end InternalControl.AssetPromises
