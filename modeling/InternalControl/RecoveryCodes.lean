import InternalControl.Interleaving
import InternalControl.OrgChartTypes
import InternalControl.Table
import Mathlib.Data.List.Sort

/-!
# Recovery codes

A user with a second factor has a set of recovery codes, of which only hashes
are stored. A code that a request presents is matched against the unused hashes
one by one, and the row that matches is then used up by a conditional update. A
set is replaced or deleted in a transaction that first locks the user's row, and
its deletion locks the rows of the set until it ends.
-/

namespace InternalControl.RecoveryCodes

open Interleaving

variable {Hash : Type}

/-! ### Codes -/

def alphabet : List Char := "0123456789ABCDEFGHJKMNPQRSTVWXYZ".toList

def groups : ℕ := 3

def groupLength : ℕ := 4

def codeLength : ℕ := groups * groupLength

/-- A code as it is hashed: upper case, without spaces and hyphens, and with digits for the
letters that look like them. -/
def normalizeRecoveryCode (toUpperCase : String → String) (input : String) : Option String :=
  let kept := (toUpperCase input).toList.filter fun c => !(OrgChart.isSpace c || c == '-')
  let canonical := kept.map fun c =>
    if c = 'O' then '0' else if c = 'I' ∨ c = 'L' then '1' else c
  if canonical.length = codeLength ∧ canonical.all alphabet.contains then
    some (String.ofList canonical)
  else none

/-! ### Rows -/

/-- A row of `mfa_recovery_code`. -/
structure MfaRecoveryCode (Hash : Type) where
  id : ℕ
  codeHash : Hash
  usedAt : Option ℤ
  createdAt : ℤ
  deriving DecidableEq, Repr

/-- What is listed of a row. -/
structure StoredRecoveryCode (Hash : Type) where
  id : ℕ
  codeHash : Hash
  deriving DecidableEq, Repr

/-- The rows of the user. -/
abbrev Codes (Hash : Type) := Table (@MfaRecoveryCode.id Hash)

/-- A code that authorised an operation, and the row it used up. -/
structure Authorization where
  id : ℕ
  code : String
  deriving DecidableEq, Repr

/-- The codes of the user as they are committed. The request that holds the user's row is kept
beside them, whether it has deleted the codes, every row that was ever inserted, and what the
codes authorised. -/
structure Store (ι Hash : Type) where
  codes : Codes Hash
  lockedBy : Option ι
  deleting : Bool
  inserted : List (MfaRecoveryCode Hash)
  authorized : List Authorization

/-- The order of a listing. -/
def listedBefore (a b : MfaRecoveryCode Hash) : Prop :=
  a.createdAt < b.createdAt ∨ a.createdAt = b.createdAt ∧ a.id ≤ b.id

instance (a b : MfaRecoveryCode Hash) : Decidable (listedBefore a b) :=
  inferInstanceAs (Decidable (_ ∨ _))

def findUnusedRecoveryCodes (codes : Codes Hash) : List (StoredRecoveryCode Hash) :=
  ((codes.rows.filter fun row => row.usedAt.isNone).insertionSort listedBefore).map fun row =>
    ⟨row.id, row.codeHash⟩

/-- The condition of the update that uses a code up. -/
def consumable (id : ℕ) (row : MfaRecoveryCode Hash) : Prop := row.id = id ∧ row.usedAt = none

instance (id : ℕ) : DecidablePred (@consumable Hash id) :=
  fun _ => inferInstanceAs (Decidable (_ ∧ _))

def consumeRecoveryCode (codes : Codes Hash) (id : ℕ) (now : ℤ) : Codes Hash :=
  codes.update (consumable id) (fun row => { row with usedAt := some now }) fun _ => rfl

/-- The rows of a new set. -/
def newRecoveryCodes (codeHashes : List Hash) (ids : List ℕ) (now : ℤ) :
    List (MfaRecoveryCode Hash) :=
  List.zipWith (fun id codeHash => ⟨id, codeHash, none, now⟩) ids codeHashes

/-! ### Requests -/

/-- What a recovery code is presented for. -/
inductive Purpose
  | login
  | reenroll
  | disable
  deriving DecidableEq, Repr

/-- What a transaction makes of the codes. An enrolment that is confirmed, the end of a setup and
a regeneration replace them. Disabling and resetting delete them. -/
inductive Change (Hash : Type)
  | replace (codeHashes : List Hash)
  | delete

/-- How far a request has come. -/
inductive Phase (Hash : Type)
  | idle
  /-- The candidates that are still to be verified. -/
  | matching (purpose : Purpose) (canonical : String) (candidates : List (StoredRecoveryCode Hash))
  | matched (purpose : Purpose) (canonical : String) (id : ℕ)
  | accepted (purpose : Purpose)
  | changing (change : Change Hash)
  | locked (change : Change Hash)
  | deleted (change : Change Hash)
  /-- The transaction sees its own rows. -/
  | issued (codes : Codes Hash)

/-- A statement of a request. -/
inductive Statement (Hash : Type)
  | findUnusedRecoveryCodes (purpose : Purpose) (rawCode : String)
  | verify
  | consumeRecoveryCode (now : ℤ)
  /-- A time-based code proves it instead. -/
  | acceptTotp (purpose : Purpose)
  /-- New codes are generated and hashed. -/
  | hashCodes (codeHashes : List Hash)
  | disable
  | resetByAdmin
  | lockUser
  | deleteRecoveryCodes
  | insertRecoveryCodes (ids : List ℕ) (now : ℤ)
  | commit
  /-- The request ends: with its answer, with an error or with the process. -/
  | leave

section Program

variable {ι : Type}

/-- Whether an update by id waits for a transaction that has deleted the row. -/
def Store.waits (store : Store ι Hash) (id : ℕ) : Prop :=
  store.deleting = true ∧ 0 < store.codes.affected (consumable id)

instance (store : Store ι Hash) (id : ℕ) : Decidable (store.waits id) :=
  inferInstanceAs (Decidable (_ ∧ _))

/-- A code authorises an operation. -/
def Store.consume (store : Store ι Hash) (id : ℕ) (canonical : String) (now : ℤ) : Store ι Hash :=
  { store with
    codes := consumeRecoveryCode store.codes id now
    authorized := store.authorized ++ [⟨id, canonical⟩] }

def Store.lockUser (store : Store ι Hash) (i : ι) : Store ι Hash := { store with lockedBy := some i }

def Store.deleteRecoveryCodes (store : Store ι Hash) : Store ι Hash := { store with deleting := true }

def Store.insertRecoveryCodes (store : Store ι Hash) (rows : List (MfaRecoveryCode Hash)) :
    Store ι Hash :=
  { store with inserted := store.inserted ++ rows }

/-- The transaction ends, and its codes are those of the user. -/
def Store.commit (store : Store ι Hash) (codes : Codes Hash) : Store ι Hash :=
  { store with codes := codes, lockedBy := none, deleting := false }

def Store.rollback (store : Store ι Hash) : Store ι Hash :=
  { store with lockedBy := none, deleting := false }

/-- The statements of the services. Whether the user's second factor and pending secret let a
request go on is left open: where they do not, it leaves. -/
def program [DecidableEq ι] (toUpperCase : String → String) (verify : Hash → String → Bool) :
    Program ι (Store ι Hash) (Phase Hash) (Statement Hash)
  | _, .findUnusedRecoveryCodes purpose rawCode, store, .idle =>
    some (store, match normalizeRecoveryCode toUpperCase rawCode with
      | none => .idle
      | some canonical => .matching purpose canonical (findUnusedRecoveryCodes store.codes))
  | _, .verify, store, .matching purpose canonical (candidate :: candidates) =>
    some (store, if verify candidate.codeHash canonical then .matched purpose canonical candidate.id
      else .matching purpose canonical candidates)
  | _, .verify, store, .matching _ _ [] => some (store, .idle)
  | _, .consumeRecoveryCode now, store, .matched purpose canonical id =>
    if store.waits id then none
    else if store.codes.affected (consumable id) = 1 then
      some (store.consume id canonical now, .accepted purpose)
    else some (store, .idle)
  | _, .acceptTotp purpose, store, .idle => some (store, .accepted purpose)
  | _, .hashCodes codeHashes, store, .idle => some (store, .changing (.replace codeHashes))
  | _, .disable, store, .accepted .disable => some (store, .changing .delete)
  | _, .resetByAdmin, store, .idle => some (store, .changing .delete)
  | i, .lockUser, store, .changing change =>
    if store.lockedBy = none then some (store.lockUser i, .locked change) else none
  | _, .deleteRecoveryCodes, store, .locked change =>
    some (store.deleteRecoveryCodes, .deleted change)
  | _, .insertRecoveryCodes ids now, store, .deleted (.replace codeHashes) =>
    let rows := newRecoveryCodes codeHashes ids now
    if ids.length = codeHashes.length ∧ ∀ row ∈ store.inserted, row.id ∉ ids then
      (Table.empty.insertAll rows).map fun codes => (store.insertRecoveryCodes rows, .issued codes)
    else none
  | _, .commit, store, .deleted .delete => some (store.commit Table.empty, .idle)
  | _, .commit, store, .issued codes => some (store.commit codes, .idle)
  | i, .leave, store, _ =>
    some (if store.lockedBy = some i then store.rollback else store, .idle)
  | _, _, _, _ => none

/-- A user without recovery codes. -/
def start (ι Hash : Type) : Interleaving ι (Store ι Hash) (Phase Hash) :=
  ⟨⟨Table.empty, none, false, [], []⟩, fun _ => .idle⟩

end Program

end InternalControl.RecoveryCodes
