import InternalControl.SeparationOfDuties
import InternalControl.UsersService

/-!
# Creating a user step by step

The person, the user and the assignment are written one after the other, each
in a transaction of its own, and then the invitation is mailed and the creation
is recorded. Other requests come in between. A step that fails leaves what the
steps before it wrote.
-/

namespace InternalControl.UserCreation

open Fallible Rbac

/-- An id as a uuid column writes it. -/
abbrev Uuid := Rbac.Uuid

/-- The steps of a creation behind its checks. -/
inductive CreateStep where
  | person
  | user
  | role
  | invitation
  | audit
  deriving DecidableEq

/-- What create throws. -/
inductive CreateFailure where
  | api (code : ErrorCode)
  | sodViolation
  | database (error : DbError)
  /-- The step could not be carried out: no connection, a mail that is not taken. -/
  | unavailable (step : CreateStep)
  deriving DecidableEq

/-- What is thrown for an error of the database. -/
def thrown : CreateStep → DbError → CreateFailure
  | .role, .sodViolation => .sodViolation
  | .role, .uniqueViolation => .api .invalidState
  | _, .roleMaxUsersReached => .api .roleMaxUsersReached
  | _, .uniqueViolation => .api .usernameAlreadyExists
  | _, error => .database error

/-- The ids that the database gives the rows of a creation. -/
structure CreatedIds where
  personId : Uuid
  userId : Uuid
  userRoleId : Uuid

/-- No row of a creation is in the tables. -/
structure Untouched (store : Store) (ids : CreatedIds) : Prop where
  person : store.persons.find? ids.personId = none
  user : store.users.find? ids.userId = none
  userRole : store.userRoles.find? ids.userRoleId = none

/-- What surrounds a creation: the other requests before each step, and the steps
that cannot be carried out. The ids are new, so nobody else writes rows under
them, and no request deletes a person. -/
structure Surroundings (ids : CreatedIds) where
  others : CreateStep → Store → Store
  fails : CreateStep → Bool
  untouched : ∀ step store, Untouched store ids → Untouched (others step store) ids
  person_stays : ∀ step store, (store.persons.find? ids.personId).isSome →
    ((others step store).persons.find? ids.personId).isSome

variable {ids : CreatedIds}

/-- Steps one after the other, up to the first that fails. -/
def runSteps (around : Surroundings ids) :
    List (CreateStep × Statement) → Store → Except CreateFailure Unit × Store
  | [], store => (.ok (), store)
  | (step, statement) :: rest, store =>
    let found := around.others step store
    if around.fails step then (.error (.unavailable step), found)
    else
      match statement found with
      | .error error => (.error (thrown step error), found)
      | .ok after => runSteps around rest after

/-- The steps of a creation: three statements, the mail and the record of it. -/
def createSteps (statements : List Statement) : List (CreateStep × Statement) :=
  [CreateStep.person, .user, .role].zip statements ++ [(.invitation, .ok), (.audit, .ok)]

section Create

variable (around : Surroundings ids) (store : Store) (now : Timestamp) (actor : AuthenticatedUser)
  (dto : CreateUserDto)

/-- create: what it answers, and the tables after it. -/
def create : Except CreateFailure Unit × Store :=
  match createUser store now actor ids.personId ids.userId ids.userRoleId dto with
  | .error code => (.error (.api code), store)
  | .ok statements => runSteps around (createSteps statements) store

/-- The creation is refused by its checks, or its person cannot be stored. -/
def StopsBeforePerson : Prop :=
  match createUser store now actor ids.personId ids.userId ids.userRoleId dto with
  | .error _ => True
  | .ok statements => around.fails .person = true ∨
    ∀ statement ∈ statements.head?, ∃ error, statement (around.others .person store) = .error error

end Create

/-! ### What each statement does to the persons -/

theorem persons_insertUser {user : AppUser} {store after : Store}
    (h : insertUser user store = .ok after) : after.persons = store.persons := by
  unfold insertUser at h
  split at h
  · cases h
  split at h
  · cases h
  · cases h
    rfl

theorem persons_insertUserRole {record : UserRole} {store after : Store}
    (h : insertUserRole store record = .ok after) : after.persons = store.persons := by
  unfold insertUserRole at h
  split at h
  · cases h
  split at h
  · cases h
  split at h
  · cases h
  split at h
  · cases h
  · split at h
    · cases h
      rfl
    · cases h

theorem persons_insertUserRoleWithinLimit {now : Timestamp} {record : UserRole} {limit : Option ℕ}
    {store after : Store} (h : insertUserRoleWithinLimit now record limit store = .ok after) :
    after.persons = store.persons := by
  unfold insertUserRoleWithinLimit at h
  dsimp only at h
  split at h
  · cases h
  · exact persons_insertUserRole h

/-- A person that is stored is there. -/
theorem isSome_insertPerson {person : Person} {store after : Store}
    (h : insertPerson person store = .ok after) : (after.persons.find? person.id).isSome := by
  unfold insertPerson at h
  split at h
  · cases h
  · next persons hinsert =>
    cases h
    rw [Table.find?_insert hinsert, if_pos rfl]
    rfl

/-! ### What a run leaves -/

/-- What other requests and every statement keep holds wherever the run stops. -/
theorem runSteps_keeps (kept : Store → Prop) {around : Surroundings ids}
    {steps : List (CreateStep × Statement)} {store : Store} (hstart : kept store)
    (hothers : ∀ step store, kept store → kept (around.others step store))
    (hsteps : ∀ step ∈ steps, ∀ before after, kept before → step.2 before = .ok after → kept after) :
    kept (runSteps around steps store).2 := by
  induction steps generalizing store with
  | nil => exact hstart
  | cons entry rest ih =>
    obtain ⟨step, statement⟩ := entry
    have hfound : kept (around.others step store) := hothers step store hstart
    simp only [runSteps]
    split
    · exact hfound
    · cases hrun : statement (around.others step store) with
      | error error => exact hfound
      | ok after =>
        have hafter : kept after := hsteps _ List.mem_cons_self _ after hfound hrun
        exact ih hafter fun other hother => hsteps other (List.mem_cons_of_mem _ hother)

section Decided

variable {around : Surroundings ids} {store : Store} {now : Timestamp} {actor : AuthenticatedUser}
  {dto : CreateUserDto}

/-- The statements of a creation that passes its checks. -/
theorem createUser_eq_ok {statements : List Statement}
    (h : createUser store now actor ids.personId ids.userId ids.userRoleId dto = .ok statements) :
    ∃ person user record limit, statements =
        [insertPerson person, insertUser user, insertUserRoleWithinLimit now record limit] ∧
      person.id = ids.personId := by
  unfold createUser at h
  dsimp only at h
  split at h
  · cases h
  split at h
  · cases h
  obtain ⟨affiliation, _, h⟩ := bind_eq_ok h
  obtain ⟨role, _, h⟩ := bind_eq_ok h
  cases h
  exact ⟨_, _, _, _, rfl, rfl⟩

/-- A creation that gets past its person leaves the person, wherever it stops. -/
theorem person_stays_of_stored {person : Person} {user : AppUser} {record : UserRole}
    {limit : Option ℕ} {after : Store} (hid : person.id = ids.personId)
    (h : insertPerson person (around.others .person store) = .ok after)
    (havailable : around.fails .person = false) :
    ((runSteps around (createSteps [insertPerson person, insertUser user,
      insertUserRoleWithinLimit now record limit]) store).2.persons.find? ids.personId).isSome := by
  have hstored : (after.persons.find? ids.personId).isSome := hid ▸ isSome_insertPerson h
  have hrest := @runSteps_keeps ids (fun store => (store.persons.find? ids.personId).isSome) around
    [(.user, insertUser user), (.role, insertUserRoleWithinLimit now record limit),
      (.invitation, .ok), (.audit, .ok)] after hstored around.person_stays
    (by
      intro step hstep before next hbefore hnext
      simp only [List.mem_cons, List.not_mem_nil, or_false] at hstep
      rcases hstep with rfl | rfl | rfl | rfl
      · rw [persons_insertUser hnext]
        exact hbefore
      · rw [persons_insertUserRoleWithinLimit hnext]
        exact hbefore
      · cases hnext
        exact hbefore
      · cases hnext
        exact hbefore)
  have hsteps : createSteps [insertPerson person, insertUser user,
      insertUserRoleWithinLimit now record limit] =
      (.person, insertPerson person) :: [(.user, insertUser user),
        (.role, insertUserRoleWithinLimit now record limit), (.invitation, .ok), (.audit, .ok)] := rfl
  rw [hsteps, runSteps]
  simp only [havailable, h, Bool.false_eq_true, if_false]
  exact hrest

/-- When a creation throws, it leaves no row exactly when it stopped before it stored
the person. -/
theorem create_untouched_iff {failure : CreateFailure} {after : Store}
    (hfresh : Untouched store ids) (h : create around store now actor dto = (.error failure, after)) :
    Untouched after ids ↔ StopsBeforePerson around store now actor dto := by
  unfold create at h
  unfold StopsBeforePerson
  cases hdecided : createUser store now actor ids.personId ids.userId ids.userRoleId dto with
  | error code =>
    rw [hdecided] at h
    obtain ⟨_, rfl⟩ := Prod.mk.inj h
    exact iff_of_true hfresh trivial
  | ok statements =>
    rw [hdecided] at h
    obtain ⟨person, user, record, limit, rfl, hid⟩ := createUser_eq_ok hdecided
    dsimp only at h ⊢
    have hfound := around.untouched .person store hfresh
    constructor
    · intro huntouched
      by_contra hlater
      rw [not_or] at hlater
      obtain ⟨havailable, hstored⟩ := hlater
      cases hinsert : insertPerson person (around.others .person store) with
      | error error =>
        refine hstored fun statement hstatement => ?_
        cases hstatement
        exact ⟨error, hinsert⟩
      | ok stored =>
        have hstays := @person_stays_of_stored ids around store now person user record limit stored
          hid hinsert (by simpa using havailable)
        rw [h] at hstays
        rw [huntouched.person] at hstays
        exact absurd hstays (by decide)
    · intro hstops
      have hsteps : createSteps [insertPerson person, insertUser user,
          insertUserRoleWithinLimit now record limit] =
          (.person, insertPerson person) :: [(.user, insertUser user),
            (.role, insertUserRoleWithinLimit now record limit), (.invitation, .ok),
            (.audit, .ok)] := rfl
      rw [hsteps, runSteps] at h
      by_cases havailable : around.fails .person = true
      · rw [if_pos havailable] at h
        obtain ⟨_, rfl⟩ := Prod.mk.inj h
        exact hfound
      · obtain ⟨error, herror⟩ := (hstops.resolve_left havailable) _ rfl
        simp only [havailable, herror, Bool.false_eq_true, if_false] at h
        obtain ⟨_, rfl⟩ := Prod.mk.inj h
        exact hfound

end Decided

/-! ### An invitation that is not taken -/

/-- The ids of the rows of a new user. -/
def newIds : CreatedIds := ⟨"luz-person", "luz", "luz-role"⟩

/-- A director, a role below and a unit. -/
def hiring : Store :=
  attempt (insertUserRole · (heldBy "h1" "ana" "director"))
    (attempt (insertRole · (roleOf "clerk" "CLERK" 2))
      (attempt (insertRole · (roleOf "director" "DIRECTOR" 1))
        { twoUsers with units := ⟨[⟨"unit", true⟩], by decide⟩ }))

/-- A clerk of the unit. -/
def newClerk : CreateUserDto where
  email := "luz@unac.edu.co"
  username := none
  organizationalUnitId := some "unit"
  costCenterId := none
  roleId := "clerk"

/-- Nobody else is at work, and one step cannot be carried out. -/
def alone (failing : CreateStep) : Surroundings newIds where
  others := fun _ store => store
  fails := fun step => step = failing
  untouched := fun _ _ h => h
  person_stays := fun _ _ h => h

/-- The mail server does not take the invitation: the person, the user and the role
stay, and the same request is refused from then on. -/
theorem creation_stays_without_invitation :
    Untouched hiring newIds ∧
      (create (alone .invitation) hiring 5 ⟨"ana", []⟩ newClerk).1 =
        .error (.unavailable .invitation) ∧
      ¬Untouched (create (alone .invitation) hiring 5 ⟨"ana", []⟩ newClerk).2 newIds ∧
      (create (alone .audit) (create (alone .invitation) hiring 5 ⟨"ana", []⟩ newClerk).2 5
        ⟨"ana", []⟩ newClerk).1 = .error (.api .usernameAlreadyExists) := by
  refine ⟨⟨by decide +kernel, by decide +kernel, by decide +kernel⟩, by decide +kernel,
    fun h => ?_, by decide +kernel⟩
  exact absurd (congrArg Option.isSome h.person) (by decide +kernel)

/-- Without a connection for the person nothing is written. -/
theorem create_untouched_iff_unconnected :
    Untouched (create (alone .person) hiring 5 ⟨"ana", []⟩ newClerk).2 newIds ↔
      StopsBeforePerson (alone .person) hiring 5 ⟨"ana", []⟩ newClerk := by
  have hrun : (create (alone .person) hiring 5 ⟨"ana", []⟩ newClerk).1 =
      .error (.unavailable .person) := by decide +kernel
  exact create_untouched_iff
    ⟨by decide +kernel, by decide +kernel, by decide +kernel⟩ (Prod.ext hrun rfl)

end InternalControl.UserCreation
