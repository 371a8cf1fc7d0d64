import InternalControl.Interleaving
import InternalControl.KeyedMap
import InternalControl.SeparationOfDuties
import InternalControl.UsersService

/-!
# The cache of permissions

An instance of the server keeps what it reads of a user's permissions for a
minute. A change of the user's roles is committed first, and the user is then
deleted from the cache. A lookup that misses the cache waits for the database
in between, and writes the cache when it has its answer.
-/

namespace InternalControl.PermissionsCache

open Interleaving Rbac

abbrev Uuid := Rbac.Uuid

structure EffectivePermission where
  permissionCode : String
  userScopeType : ScopeType
  userScopeId : Option Uuid
  deriving DecidableEq

structure CostCenterHead where
  costCenterId : Uuid
  personId : Uuid
  validFrom : Timestamp
  validUntil : Option Timestamp

/-- The tables that the lookups read. -/
structure Database where
  rbac : Rbac.Store
  costCenterHeads : List CostCenterHead

def findEffectivePermissions (database : Database) (now : Timestamp) (userId : Uuid) :
    List EffectivePermission :=
  (userEffectivePermissions database.rbac now userId).map fun row =>
    ⟨row.permission.code, row.userScopeType, row.userScopeId⟩

def findHeadedCostCenterIds (database : Database) (now : Timestamp) (userId : Uuid) : List Uuid :=
  match database.rbac.users.find? userId with
  | none => []
  | some user =>
    (((database.costCenterHeads.filter fun head => head.personId = user.personId ∧
      head.validFrom ≤ now ∧ ∀ validUntil ∈ head.validUntil, now < validUntil).map
        CostCenterHead.costCenterId).dedup).mergeSort fun left right => decide (left ≤ right)

def cacheTtlSeconds : ℤ := 60

/-- An entry of the cache. The number of commits that its value was read after is not in the
code. -/
structure CacheEntry (α : Type) where
  value : α
  expiresAt : ℤ
  version : ℕ

/-- The two maps of the cache, by user. -/
structure Cache where
  entries : KeyedMap Uuid (CacheEntry (List EffectivePermission))
  headed : KeyedMap Uuid (CacheEntry (List Uuid))

section Cache

variable {α : Type}

/-- Look a user up in a map. An entry that has expired is deleted. -/
def read (map : KeyedMap Uuid (CacheEntry α)) (userId : Uuid) (now : ℤ) :
    Option (CacheEntry α) × KeyedMap Uuid (CacheEntry α) :=
  match map.get? userId with
  | none => (none, map)
  | some entry => if entry.expiresAt ≤ now then (none, map.erase userId) else (some entry, map)

/-- Put a value in a map, for as long as values are kept. -/
def write (map : KeyedMap Uuid (CacheEntry α)) (userId : Uuid) (value : α) (version : ℕ) (now : ℤ) :
    KeyedMap Uuid (CacheEntry α) :=
  map.set userId ⟨value, now + cacheTtlSeconds * 1000, version⟩

def Cache.delete (cache : Cache) (userId : Uuid) : Cache :=
  ⟨cache.entries.erase userId, cache.headed.erase userId⟩

def Cache.deleteMany (cache : Cache) (userIds : List Uuid) : Cache :=
  userIds.foldl Cache.delete cache

end Cache

/-- What a lookup of permissions returned: how many commits the user had been invalidated for
when it started, how many it was read after, and the permissions. -/
structure Answer where
  userId : Uuid
  since : ℕ
  version : ℕ
  permissions : List EffectivePermission
  deriving DecidableEq

/-- An instance of the server and the database, with the history of both. -/
structure Store where
  initial : Database
  /-- The state of the database after each commit. -/
  commits : List Database
  cache : Cache
  /-- The last commit that an invalidation of the user has returned for. -/
  invalidated : Uuid → ℕ
  answers : List Answer

def Store.database (store : Store) : Database := store.commits.getLast?.getD store.initial

/-- How far a call has come. -/
inductive Phase
  | idle
  | querying (userId : Uuid) (since : ℕ)
  | found (userId : Uuid) (since version : ℕ) (permissions : List EffectivePermission)
  | queryingHeads (userId : Uuid)
  | foundHeads (userId : Uuid) (version : ℕ) (costCenterIds : List Uuid)
  /-- The change of these users' roles is the commit of that number. -/
  | committed (userIds : List Uuid) (version : ℕ)

/-- A statement of a call. What happens between two of its awaits is one statement. -/
inductive Statement
  | getEffectivePermissions (userId : Uuid) (now : ℤ)
  | findEffectivePermissions (now : Timestamp)
  | set (now : ℤ)
  | getHeadedCostCenterIds (userId : Uuid) (now : ℤ)
  | findHeadedCostCenterIds (now : Timestamp)
  | setHeadedCostCenters (now : ℤ)
  | commit (userIds : List Uuid) (database : Database)
  | invalidateMany
  | fail

namespace Store

/-- A lookup returns permissions. -/
def answer (store : Store) (cache : Cache) (userId : Uuid) (since version : ℕ)
    (permissions : List EffectivePermission) : Store :=
  { store with cache := cache, answers := store.answers ++ [⟨userId, since, version, permissions⟩] }

def getEffectivePermissions (store : Store) (userId : Uuid) (now : ℤ) : Store × Phase :=
  let seen := read store.cache.entries userId now
  let cache := { store.cache with entries := seen.2 }
  match seen.1 with
  | some entry =>
    (store.answer cache userId (store.invalidated userId) entry.version entry.value, .idle)
  | none => ({ store with cache := cache }, .querying userId (store.invalidated userId))

def getHeadedCostCenterIds (store : Store) (userId : Uuid) (now : ℤ) : Store × Phase :=
  let seen := read store.cache.headed userId now
  ({ store with cache := { store.cache with headed := seen.2 } },
    match seen.1 with
    | some _ => .idle
    | none => .queryingHeads userId)

def invalidateMany (store : Store) (userIds : List Uuid) (version : ℕ) : Store :=
  { store with
    cache := store.cache.deleteMany userIds
    invalidated := fun userId =>
      if userId ∈ userIds then max (store.invalidated userId) version else store.invalidated userId }

end Store

/-- The statements of lookups and of changes of roles. -/
def program {ι : Type} : Program ι Store Phase Statement
  | _, .getEffectivePermissions userId now, store, .idle =>
    some (store.getEffectivePermissions userId now)
  | _, .findEffectivePermissions now, store, .querying userId since =>
    some (store, .found userId since store.commits.length
      (findEffectivePermissions store.database now userId))
  | _, .set now, store, .found userId since version permissions =>
    some (store.answer { store.cache with
      entries := write store.cache.entries userId permissions version now }
      userId since version permissions, .idle)
  | _, .getHeadedCostCenterIds userId now, store, .idle =>
    some (store.getHeadedCostCenterIds userId now)
  | _, .findHeadedCostCenterIds now, store, .queryingHeads userId =>
    some (store, .foundHeads userId store.commits.length
      (findHeadedCostCenterIds store.database now userId))
  | _, .setHeadedCostCenters now, store, .foundHeads userId version costCenterIds =>
    some ({ store with cache := { store.cache with
      headed := write store.cache.headed userId costCenterIds version now } }, .idle)
  | _, .commit userIds database, store, .idle =>
    some ({ store with commits := store.commits ++ [database] },
      .committed userIds (store.commits.length + 1))
  | _, .invalidateMany, store, .committed userIds version =>
    some (store.invalidateMany userIds version, .idle)
  | _, .fail, store, _ => some (store, .idle)
  | _, _, _, _ => none

/-- A server that has just started. -/
def start (ι : Type) (database : Database) : Interleaving ι Store Phase :=
  ⟨⟨database, [], ⟨.empty, .empty⟩, fun _ => 0, []⟩, fun _ => .idle⟩

/-- A lookup caches what it read after every commit that its user was invalidated for. -/
def SetsCurrent {ι : Type} : ι → Statement → Store → Phase → Prop
  | _, .set _, store, .found userId _ version _ => store.invalidated userId ≤ version
  | _, _, _, _ => True

instance {ι : Type} (i : ι) (statement : Statement) (store : Store) (phase : Phase) :
    Decidable (SetsCurrent i statement store phase) := by
  unfold SetsCurrent
  split <;> infer_instance

/-! ### What is cached and answered -/

namespace Store

/-- The database state of a version. -/
def databaseAt (store : Store) (version : ℕ) : Option Database :=
  (store.initial :: store.commits)[version]?

/-- The permissions are those of a user in the database state of a version. -/
def ReadAt (store : Store) (userId : Uuid) (version : ℕ) (permissions : List EffectivePermission) :
    Prop :=
  ∃ database now, store.databaseAt version = some database ∧
    permissions = PermissionsCache.findEffectivePermissions database now userId

/-- A lookup was answered with permissions of a database state that includes every change its
user had been invalidated for when it started. -/
def Current (store : Store) (answer : Answer) : Prop :=
  answer.since ≤ answer.version ∧ store.ReadAt answer.userId answer.version answer.permissions

/-- The database only moves on. -/
structure Grows (before after : Store) : Prop where
  initial : after.initial = before.initial
  commits : before.commits <+: after.commits

theorem Grows.refl (store : Store) : store.Grows store := ⟨rfl, List.prefix_rfl⟩

theorem Grows.length {before after : Store} (h : before.Grows after) :
    before.commits.length ≤ after.commits.length := h.commits.length_le

theorem ReadAt.grows {before after : Store} (h : before.Grows after) {userId : Uuid} {version : ℕ}
    {permissions : List EffectivePermission} (hread : before.ReadAt userId version permissions) :
    after.ReadAt userId version permissions := by
  obtain ⟨database, now, hat, hpermissions⟩ := hread
  obtain ⟨more, hmore⟩ := h.commits
  refine ⟨database, now, ?_, hpermissions⟩
  unfold databaseAt at hat ⊢
  rw [h.initial, ← hmore, ← List.cons_append, List.getElem?_append_left]
  · exact hat
  · exact (List.getElem?_eq_some_iff.mp hat).1

theorem databaseAt_length (store : Store) :
    store.databaseAt store.commits.length = some store.database := by
  unfold databaseAt database
  cases hcommits : store.commits using List.reverseRecOn with
  | nil => rfl
  | append_singleton before last => simp

end Store

/-- What holds of the cache and of the answers. -/
structure Sound (store : Store) : Prop where
  known : ∀ userId, store.invalidated userId ≤ store.commits.length
  cached : ∀ userId entry, store.cache.entries.get? userId = some entry →
    store.invalidated userId ≤ entry.version ∧ store.ReadAt userId entry.version entry.value
  answered : ∀ answer ∈ store.answers, store.Current answer

/-- What holds of a call at each point. -/
def Working (store : Store) : Phase → Prop
  | .querying _ since => since ≤ store.commits.length
  | .found userId since version permissions =>
    since ≤ version ∧ store.ReadAt userId version permissions
  | .committed _ version => version ≤ store.commits.length
  | _ => True

theorem Working.grows {before after : Store} (h : before.Grows after) {phase : Phase}
    (hworking : Working before phase) : Working after phase := by
  cases phase with
  | querying userId since => exact Nat.le_trans hworking h.length
  | found userId since version permissions => exact ⟨hworking.1, hworking.2.grows h⟩
  | committed userIds version => exact Nat.le_trans hworking h.length
  | _ => trivial

/-- A user that is deleted is not cached, and the others stay as they were. -/
theorem get?_deleteMany (cache : Cache) (userIds : List Uuid) (userId : Uuid) :
    (cache.deleteMany userIds).entries.get? userId =
      if userId ∈ userIds then none else cache.entries.get? userId := by
  unfold Cache.deleteMany
  induction userIds generalizing cache with
  | nil => rfl
  | cons first rest ih =>
    rw [List.foldl_cons, ih]
    simp only [Cache.delete, KeyedMap.get?_erase, List.mem_cons]
    by_cases hfirst : userId = first
    · simp [hfirst]
    · simp [hfirst]

/-- What a read leaves in a map was there before, and what it returns was under the user. -/
theorem get?_read {α : Type} (map : KeyedMap Uuid (CacheEntry α)) (userId : Uuid) (now : ℤ) :
    (∀ entry, (read map userId now).1 = some entry → map.get? userId = some entry) ∧
      ∀ other entry, (read map userId now).2.get? other = some entry →
        map.get? other = some entry := by
  unfold read
  cases hfound : map.get? userId with
  | none => exact ⟨fun _ h => (by cases h), fun _ _ h => h⟩
  | some found =>
    dsimp only
    split
    · refine ⟨fun _ h => (by cases h), fun other entry h => ?_⟩
      rw [KeyedMap.get?_erase] at h
      split at h
      · cases h
      · exact h
    · exact ⟨fun _ h => h, fun _ _ h => h⟩

section Steps

variable {store : Store}

theorem Sound.start (database : Database) :
    Sound ⟨database, [], ⟨.empty, .empty⟩, fun _ => 0, []⟩ :=
  ⟨fun _ => Nat.zero_le _, fun _ _ h => (by cases h), fun _ h => (by cases h)⟩

/-- Entries that were cached before may go, and one answer may come. -/
theorem Sound.answer (h : Sound store) {cache : Cache} {userId : Uuid} {since version : ℕ}
    {permissions : List EffectivePermission} (hsince : since ≤ version)
    (hread : store.ReadAt userId version permissions)
    (hcache : ∀ other entry, cache.entries.get? other = some entry →
      store.invalidated other ≤ entry.version ∧ store.ReadAt other entry.version entry.value) :
    Sound (store.answer cache userId since version permissions) := by
  refine ⟨h.known, hcache, fun answer hanswer => ?_⟩
  rcases List.mem_append.mp hanswer with hbefore | hlast
  · exact h.answered answer hbefore
  · cases List.mem_singleton.mp hlast
    exact ⟨hsince, hread⟩

theorem Sound.getEffectivePermissions (h : Sound store) (userId : Uuid) (now : ℤ) :
    Sound (store.getEffectivePermissions userId now).1 ∧
      store.Grows (store.getEffectivePermissions userId now).1 ∧
      Working (store.getEffectivePermissions userId now).1
        (store.getEffectivePermissions userId now).2 := by
  have hread := get?_read store.cache.entries userId now
  unfold Store.getEffectivePermissions
  dsimp only
  split
  · next entry hentry =>
    have hcached := h.cached userId entry (hread.1 entry hentry)
    refine ⟨h.answer hcached.1 hcached.2 fun other found hfound => ?_, ⟨rfl, List.prefix_rfl⟩, trivial⟩
    exact h.cached other found (hread.2 other found hfound)
  · refine ⟨⟨h.known, fun other found hfound => ?_, h.answered⟩, ⟨rfl, List.prefix_rfl⟩, h.known userId⟩
    exact h.cached other found (hread.2 other found hfound)

theorem Sound.set (h : Sound store) {userId : Uuid} {since version : ℕ}
    {permissions : List EffectivePermission} (now : ℤ)
    (hworking : Working store (.found userId since version permissions))
    (hcurrent : store.invalidated userId ≤ version) :
    Sound (store.answer { store.cache with
      entries := write store.cache.entries userId permissions version now }
      userId since version permissions) := by
  refine h.answer hworking.1 hworking.2 fun other entry hentry => ?_
  have hset : (write store.cache.entries userId permissions version now).get? other = some entry :=
    hentry
  rw [write, KeyedMap.get?_set] at hset
  split at hset
  · next hsame =>
    cases hset
    rw [hsame]
    exact ⟨hcurrent, hworking.2⟩
  · exact h.cached other entry hset

theorem Store.grows_commit (store : Store) (database : Database) :
    store.Grows { store with commits := store.commits ++ [database] } :=
  ⟨rfl, List.prefix_append _ _⟩

theorem Sound.commit (h : Sound store) (database : Database) :
    Sound { store with commits := store.commits ++ [database] } := by
  have hgrows := store.grows_commit database
  refine ⟨fun userId => Nat.le_trans (h.known userId) hgrows.length, fun userId entry hentry => ?_,
    fun answer hanswer => ?_⟩
  · have hcached := h.cached userId entry hentry
    exact ⟨hcached.1, hcached.2.grows hgrows⟩
  · have hanswered := h.answered answer hanswer
    exact ⟨hanswered.1, hanswered.2.grows hgrows⟩

/-- The users of a change are not cached once they are invalidated. -/
theorem Sound.invalidateMany (h : Sound store) (userIds : List Uuid) {version : ℕ}
    (hversion : version ≤ store.commits.length) : Sound (store.invalidateMany userIds version) := by
  refine ⟨fun userId => ?_, fun userId entry hentry => ?_, h.answered⟩
  · have hknown := h.known userId
    unfold Store.invalidateMany
    dsimp only
    split
    · exact Nat.max_le.mpr ⟨hknown, hversion⟩
    · exact hknown
  · have hdeleted : (store.cache.deleteMany userIds).entries.get? userId = some entry := hentry
    rw [get?_deleteMany] at hdeleted
    split at hdeleted
    · cases hdeleted
    · next hother =>
      have hcached := h.cached userId entry hdeleted
      unfold Store.invalidateMany
      dsimp only
      rw [if_neg hother]
      exact hcached

end Steps

/-! ### Runs -/

section Runs

variable {ι : Type}

/-- A statement keeps the cache sound and moves its call on. -/
theorem program_advances {i : ι} {statement : Statement} {store store' : Store}
    {phase phase' : Phase} (hmeets : SetsCurrent i statement store phase)
    (h : program i statement store phase = some (store', phase')) (hsound : Sound store)
    (hworking : Working store phase) :
    Sound store' ∧ store.Grows store' ∧ Working store' phase' := by
  unfold program at h
  split at h
  · next userId now =>
    have hget := hsound.getEffectivePermissions userId now
    rw [Option.some.inj h] at hget
    exact hget
  · next userId since =>
    cases h
    exact ⟨hsound, .refl store, hworking, store.database, _, store.databaseAt_length, rfl⟩
  · cases h
    exact ⟨hsound.set _ hworking hmeets, ⟨rfl, List.prefix_rfl⟩, trivial⟩
  · next userId now =>
    unfold Store.getHeadedCostCenterIds at h
    cases h
    refine ⟨⟨hsound.known, hsound.cached, hsound.answered⟩, ⟨rfl, List.prefix_rfl⟩, ?_⟩
    split <;> trivial
  · cases h
    exact ⟨hsound, .refl store, trivial⟩
  · cases h
    exact ⟨⟨hsound.known, hsound.cached, hsound.answered⟩, ⟨rfl, List.prefix_rfl⟩, trivial⟩
  · next database =>
    cases h
    refine ⟨hsound.commit database, store.grows_commit database, ?_⟩
    simp [Working]
  · cases h
    exact ⟨hsound.invalidateMany _ hworking, ⟨rfl, List.prefix_rfl⟩, trivial⟩
  · cases h
    exact ⟨hsound, .refl store, trivial⟩
  · cases h

theorem program_keeps : Keeps (@program ι) SetsCurrent Sound (fun _ store phase => Working store phase)
    (fun _ _ => True) where
  symm := fun _ _ _ => trivial
  own := fun _ _ _ _ _ _ hmeets h hsound hworking =>
    have hadvances := program_advances hmeets h hsound hworking
    ⟨hadvances.1, hadvances.2.2⟩
  other := fun _ _ _ _ _ _ _ _ _ hmeets h hsound hworking hother _ =>
    have hadvances := program_advances hmeets h hsound hworking
    ⟨Working.grows hadvances.2.1 hother, trivial⟩

variable [DecidableEq ι]

/-- In a run whose lookups cache what they read after the commits that their user was
invalidated for, no lookup that starts after an invalidation misses its change. -/
theorem invalidated_permissions_are_current (database : Database) {c : Interleaving ι Store Phase}
    (hrun : Run program SetsCurrent (start ι database) c) :
    ∀ answer ∈ c.shared.answers, c.shared.Current answer := by
  have hstart : Holds Sound (fun _ store phase => Working store phase) (fun _ _ => True)
      (start ι database) := ⟨Sound.start database, fun _ => trivial, fun _ _ _ => trivial⟩
  exact (program_keeps.run hrun hstart).shared.answered

end Runs

section Samples

def signAssets : Permission :=
  ⟨"p1", "transfer:sign_accounting:global", "ASSET", "transfer", "sign_accounting", .global⟩

/-- A user holds a role that grants one permission. -/
def granted : Database :=
  ⟨Fallible.attempt (assignPermission "director" "p1")
    (Fallible.attempt (insertUserRole · (heldBy "h1" "ana" "director"))
      (Fallible.attempt (insertRole · (roleOf "director" "DIRECTOR" 1))
        { twoUsers with permissions := ⟨[signAssets], by decide⟩ })), []⟩

/-- The role is revoked. -/
def revoked : Database :=
  { granted with rbac := granted.rbac.revoke (fun assignment => assignment.id = "h1") 5 }

/-- A lookup is over before the role is revoked, and another one starts after. -/
theorem invalidated_permissions_are_current_revoked :
    ∃ c, Run program SetsCurrent (start Bool granted) c ∧
      (∀ answer ∈ c.shared.answers, c.shared.Current answer) ∧
      c.shared.answers.map (fun answer => (answer.since, answer.permissions.length)) =
        [(0, 1), (0, 1), (1, 0)] := by
  have hcheck := @exists_run Bool _ _ _ _ (@program Bool) SetsCurrent (start Bool granted) _
    [(false, .getEffectivePermissions "ana" 0), (false, .findEffectivePermissions 0), (false, .set 1),
      (true, .commit ["ana"] revoked), (false, .getEffectivePermissions "ana" 2),
      (true, .invalidateMany), (false, .getEffectivePermissions "ana" 3),
      (false, .findEffectivePermissions 6), (false, .set 4)]
    (fun c => decide (c.shared.answers.map
      (fun answer => (answer.since, answer.permissions.length)) = [(0, 1), (0, 1), (1, 0)]))
    (by decide +kernel)
  obtain ⟨c, hrun, hseen⟩ := hcheck
  exact ⟨c, hrun, invalidated_permissions_are_current granted hrun, of_decide_eq_true hseen⟩

/-- A lookup that has read the permissions caches them after the user was invalidated, and the
next one returns them. -/
theorem revoked_permissions_are_served :
    ¬∀ c, Run program Anyhow (start Bool granted) c →
      ∀ answer ∈ c.shared.answers, c.shared.Current answer := by
  intro hcurrent
  have hcheck := @exists_run Bool _ _ _ _ (@program Bool) Anyhow (start Bool granted) _
    [(false, .getEffectivePermissions "ana" 0), (false, .findEffectivePermissions 0),
      (true, .commit ["ana"] revoked), (true, .invalidateMany), (false, .set 1),
      (true, .getEffectivePermissions "ana" 2)]
    (fun c => c.shared.answers.any fun answer =>
      decide (answer.since = 1 ∧ answer.version = 0 ∧ answer.permissions ≠ []))
    (by decide +kernel)
  obtain ⟨c, hrun, hseen⟩ := hcheck
  obtain ⟨answer, hanswer, hstale⟩ := List.any_eq_true.mp hseen
  obtain ⟨hsince, hversion, -⟩ := of_decide_eq_true hstale
  have hle := (hcurrent c hrun answer hanswer).1
  omega

end Samples

end InternalControl.PermissionsCache
