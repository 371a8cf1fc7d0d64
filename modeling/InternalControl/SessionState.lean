import InternalControl.Interleaving
import InternalControl.KeyedMap
import InternalControl.RefreshTokens

/-!
# The live state of sessions

Every request asks whether its session is still live. Each instance of the
server keeps the answer for a few seconds, counted from the start of the
request, and counts what it keeps. The families and the users change in the
database in the meantime.
-/

namespace InternalControl.SessionState

open Interleaving RefreshTokens

abbrev Uuid := RefreshTokens.Uuid

structure LiveSessionState where
  mustChangePassword : Bool
  deriving DecidableEq

structure SessionRow where
  status : UserStatus
  mustChangePassword : Bool
  invitationExpiresAt : Option ℤ
  sessionActive : Bool
  deriving DecidableEq

structure CacheEntry where
  state : LiveSessionState
  expiresAt : ℤ
  deriving DecidableEq

def sessionStateTtlMs : ℤ := 5000

def maxEntries : ℤ := 10000

/-- The tables that the query reads. -/
structure Database where
  users : Table AppUser.id
  families : Families

/-- The row of the query, at an instant of the database. -/
def sessionRow (database : Database) (databaseNow : ℤ) (userId sessionId : Uuid) :
    Option SessionRow :=
  (database.users.find? userId).map fun user =>
    { status := user.status
      mustChangePassword := user.mustChangePassword
      invitationExpiresAt := user.invitationExpiresAt
      sessionActive := (database.families.find? sessionId).any fun family =>
        family.userId = user.id ∧ family.status = .active ∧ databaseNow < family.expiresAt }

def isUsable (row : SessionRow) (now : ℤ) : Bool :=
  (row.status = .active ∨ (row.status = .pendingActivation ∧ row.mustChangePassword)) ∧
    ¬(row.mustChangePassword ∧ isInvitationExpired row.invitationExpiresAt now)

/-- The state that a row stands for, when the session is active and its user usable. -/
def liveState (row : Option SessionRow) (now : ℤ) : Option LiveSessionState :=
  match row with
  | none => none
  | some row => if row.sessionActive ∧ isUsable row now then some ⟨row.mustChangePassword⟩ else none

/-! ### What an instance keeps -/

/-- The entries of each user by session, and how many there should be. -/
structure SessionStates where
  entries : KeyedMap Uuid (KeyedMap Uuid CacheEntry)
  size : ℤ

namespace SessionStates

def empty : SessionStates := ⟨.empty, 0⟩

def cached (states : SessionStates) (userId sessionId : Uuid) : Option CacheEntry :=
  (states.entries.get? userId).bind fun sessions => sessions.get? sessionId

def invalidate (states : SessionStates) (userId : Uuid) : SessionStates :=
  match states.entries.get? userId with
  | none => states
  | some sessions => ⟨states.entries.erase userId, states.size - sessions.size⟩

/-- A full cache is cleared as a whole. -/
def cleared (states : SessionStates) : SessionStates :=
  if maxEntries ≤ states.size then empty else states

def remember (states : SessionStates) (userId sessionId : Uuid) (entry : CacheEntry) :
    SessionStates :=
  let states := states.cleared
  let sessions := (states.entries.get? userId).getD .empty
  { entries := states.entries.set userId (sessions.set sessionId entry)
    size := if sessions.has sessionId then states.size else states.size + 1 }

def forget (states : SessionStates) (userId sessionId : Uuid) : SessionStates :=
  match states.entries.get? userId with
  | none => states
  | some sessions =>
    if sessions.has sessionId then
      let rest := sessions.erase sessionId
      { entries := if rest.size = 0 then states.entries.erase userId
          else states.entries.set userId rest
        size := states.size - 1 }
    else states

/-- How many entries are kept. -/
def count (states : SessionStates) : ℤ := states.entries.total fun sessions => sessions.size

/-- The counter is right and within its bound. -/
structure Counted (states : SessionStates) : Prop where
  size : states.size = states.count
  bound : states.count ≤ maxEntries

section Entries

variable {states : SessionStates} {userId sessionId : Uuid} {entry : CacheEntry}

/-- What is there after an entry was kept is that entry, or was there before. -/
theorem cached_remember {userId' sessionId' : Uuid} {entry' : CacheEntry}
    (h : (states.remember userId sessionId entry).cached userId' sessionId' = some entry') :
    (userId' = userId ∧ sessionId' = sessionId ∧ entry' = entry) ∨
      states.cached userId' sessionId' = some entry' := by
  have hcleared : ∀ {sessions}, states.cleared.entries.get? userId' = some sessions →
      states.entries.get? userId' = some sessions := by
    intro sessions hsessions
    unfold cleared at hsessions
    split at hsessions
    · cases hsessions
    · exact hsessions
  unfold remember cached at h
  dsimp only at h
  rw [KeyedMap.get?_set] at h
  by_cases huser : userId' = userId
  · rw [if_pos huser, Option.bind_some, KeyedMap.get?_set] at h
    by_cases hsession : sessionId' = sessionId
    · rw [if_pos hsession] at h
      exact .inl ⟨huser, hsession, (Option.some.inj h).symm⟩
    · rw [if_neg hsession] at h
      cases hsessions : states.cleared.entries.get? userId with
      | none =>
        rw [hsessions] at h
        cases h
      | some sessions =>
        rw [hsessions, Option.getD_some] at h
        subst huser
        exact .inr (by unfold cached; rw [hcleared hsessions, Option.bind_some, h])
  · rw [if_neg huser] at h
    obtain ⟨sessions, hsessions, hentry⟩ := Option.bind_eq_some_iff.mp h
    exact .inr (by unfold cached; rw [hcleared hsessions, Option.bind_some, hentry])

/-- What is there after an entry was forgotten was there before. -/
theorem cached_forget {userId' sessionId' : Uuid} {entry' : CacheEntry}
    (h : (states.forget userId sessionId).cached userId' sessionId' = some entry') :
    states.cached userId' sessionId' = some entry' := by
  unfold forget at h
  split at h
  · exact h
  · next sessions hsessions =>
    split at h
    · unfold cached at h ⊢
      dsimp only at h
      by_cases huser : userId' = userId
      · subst huser
        rw [hsessions, Option.bind_some]
        split at h
        · rw [KeyedMap.get?_erase_self] at h
          cases h
        · rw [KeyedMap.get?_set_self, Option.bind_some, KeyedMap.get?_erase] at h
          split at h
          · cases h
          · exact h
      · split at h
        · rw [KeyedMap.get?_erase_of_ne _ huser] at h
          exact h
        · rw [KeyedMap.get?_set_of_ne _ _ huser] at h
          exact h
    · exact h

/-- What is there after a user was invalidated was there before. -/
theorem cached_invalidate {userId' sessionId' : Uuid} {entry' : CacheEntry}
    (h : (states.invalidate userId).cached userId' sessionId' = some entry') :
    states.cached userId' sessionId' = some entry' := by
  unfold invalidate at h
  split at h
  · exact h
  · unfold cached at h ⊢
    dsimp only at h
    rw [KeyedMap.get?_erase] at h
    split at h
    · cases h
    · exact h

theorem Counted.empty : Counted empty := ⟨rfl, by decide⟩

theorem Counted.invalidate (h : Counted states) (userId : Uuid) :
    Counted (states.invalidate userId) := by
  unfold SessionStates.invalidate
  split
  · exact h
  · next sessions hsessions =>
    have hcount := states.entries.total_erase userId fun sessions => (sessions.size : ℤ)
    rw [hsessions, Option.elim_some] at hcount
    have hsize := h.size
    have hbound := h.bound
    unfold count at hsize hbound
    constructor
    · unfold count
      dsimp only
      omega
    · unfold count
      dsimp only
      omega

/-- After clearing there is room for one more entry. -/
theorem Counted.cleared (h : Counted states) :
    states.cleared.size = states.cleared.count ∧ states.cleared.count < maxEntries := by
  unfold SessionStates.cleared
  split
  · exact ⟨rfl, by decide⟩
  · next hroom =>
    have hsize := h.size
    exact ⟨hsize, by omega⟩

theorem Counted.remember (h : Counted states) (userId sessionId : Uuid) (entry : CacheEntry) :
    Counted (states.remember userId sessionId entry) := by
  obtain ⟨hsize, hroom⟩ := h.cleared
  have hcount : (states.remember userId sessionId entry).count = states.cleared.count +
      if ((states.cleared.entries.get? userId).getD .empty).has sessionId then 0 else 1 := by
    unfold SessionStates.remember count
    dsimp only
    rw [KeyedMap.total_set, KeyedMap.size_set]
    cases states.cleared.entries.get? userId with
    | none =>
      simp only [Option.elim_none, Option.getD_none, KeyedMap.size_empty]
      split <;> omega
    | some sessions =>
      simp only [Option.elim_some, Option.getD_some]
      split <;> omega
  have hcounter : (states.remember userId sessionId entry).size =
      if ((states.cleared.entries.get? userId).getD .empty).has sessionId then states.cleared.size
      else states.cleared.size + 1 := rfl
  constructor
  · rw [hcounter, hcount]
    split <;> omega
  · rw [hcount]
    split <;> omega

theorem Counted.forget (h : Counted states) (userId sessionId : Uuid) :
    Counted (states.forget userId sessionId) := by
  unfold SessionStates.forget
  split
  · exact h
  · next sessions hsessions =>
    split
    · next hhas =>
      have hrest := sessions.size_erase sessionId
      rw [if_pos hhas] at hrest
      have hsize := h.size
      have hbound := h.bound
      have hcount : ∀ entries : KeyedMap Uuid (KeyedMap Uuid CacheEntry),
          entries = (if (sessions.erase sessionId).size = 0 then states.entries.erase userId
            else states.entries.set userId (sessions.erase sessionId)) →
          (entries.total fun sessions => (sessions.size : ℤ)) = states.count - 1 := by
        rintro entries rfl
        unfold count
        split
        · rw [KeyedMap.total_erase, hsessions, Option.elim_some]
          omega
        · rw [KeyedMap.total_set, hsessions, Option.elim_some]
          omega
      have hafter := hcount _ rfl
      constructor
      · unfold count
        dsimp only
        rw [hafter]
        omega
      · unfold count
        dsimp only
        rw [hafter]
        omega
    · exact h

end Entries

end SessionStates

/-! ### The service -/

/-- What a resolve returned. -/
structure Answer where
  userId : Uuid
  sessionId : Uuid
  startedAt : ℤ
  state : Option LiveSessionState
  deriving DecidableEq

/-- The clock, the database, what each instance keeps, and the answers so far. -/
structure Store (κ : Type) where
  clock : ℤ
  database : Database
  instances : κ → SessionStates
  answers : List Answer

/-- How far a call has come. -/
inductive Phase (κ : Type)
  | idle
  | querying (instance_ : κ) (userId sessionId : Uuid) (now : ℤ)
  | found (instance_ : κ) (userId sessionId : Uuid) (now : ℤ) (row : Option SessionRow)

inductive Statement (κ : Type)
  | tick (time : ℤ)
  | commit (database : Database)
  | resolve (instance_ : κ) (userId sessionId : Uuid)
  | query (databaseNow : ℤ)
  | finish
  | invalidate (instance_ : κ) (userId : Uuid)
  | fail

section Program

variable {ι κ : Type} [DecidableEq κ]

namespace Store

def keep (store : Store κ) (instance_ : κ) (states : SessionStates) : Store κ :=
  { store with instances := Function.update store.instances instance_ states }

def answer (store : Store κ) (userId sessionId : Uuid) (startedAt : ℤ)
    (state : Option LiveSessionState) : Store κ :=
  { store with answers := store.answers ++ [⟨userId, sessionId, startedAt, state⟩] }

/-- The part of a resolve before its query. -/
def resolve (store : Store κ) (instance_ : κ) (userId sessionId : Uuid) : Store κ × Phase κ :=
  match (store.instances instance_).cached userId sessionId with
  | none => (store, .querying instance_ userId sessionId store.clock)
  | some entry =>
    if store.clock < entry.expiresAt then
      (store.answer userId sessionId store.clock (some entry.state), .idle)
    else (store, .querying instance_ userId sessionId store.clock)

/-- The part of a resolve after its query. -/
def finish (store : Store κ) (instance_ : κ) (userId sessionId : Uuid) (now : ℤ)
    (row : Option SessionRow) : Store κ :=
  match liveState row now with
  | none => (store.keep instance_ ((store.instances instance_).forget userId sessionId)).answer
      userId sessionId now none
  | some state => (store.keep instance_ ((store.instances instance_).remember userId sessionId
      ⟨state, now + sessionStateTtlMs⟩)).answer userId sessionId now (some state)

end Store

/-- The statements of the service on every instance, of the database and of the clock. -/
def program : Program ι (Store κ) (Phase κ) (Statement κ)
  | _, .tick time, store, phase =>
    if store.clock ≤ time then some ({ store with clock := time }, phase) else none
  | _, .commit database, store, phase => some ({ store with database := database }, phase)
  | _, .resolve instance_ userId sessionId, store, .idle =>
    some (store.resolve instance_ userId sessionId)
  | _, .query databaseNow, store, .querying instance_ userId sessionId now =>
    some (store, .found instance_ userId sessionId now
      (sessionRow store.database databaseNow userId sessionId))
  | _, .finish, store, .found instance_ userId sessionId now row =>
    some (store.finish instance_ userId sessionId now row, .idle)
  | _, .invalidate instance_ userId, store, .idle =>
    some (store.keep instance_ ((store.instances instance_).invalidate userId), .idle)
  | _, .fail, store, _ => some (store, .idle)
  | _, _, _, _ => none

/-- Instances that have just started. -/
def start (ι κ : Type) (clock : ℤ) (database : Database) :
    Interleaving ι (Store κ) (Phase κ) :=
  ⟨⟨clock, database, fun _ => .empty, []⟩, fun _ => .idle⟩

end Program

end InternalControl.SessionState
