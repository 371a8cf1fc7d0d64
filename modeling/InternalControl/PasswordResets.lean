import InternalControl.RefreshTokens

/-!
# Password resets

A call that resets a password reads the token it was given, reads the user,
hashes the new password, writes it and only then marks the token as used. The
statements are separate, so those of several calls interleave, also with those
of the requests that issue tokens. Two calls that read one token before either
marks it both change the password; what keeps a run from it is stated as a
condition on its steps, and under that condition every token is spent once.
-/

namespace InternalControl.PasswordResets

open RefreshTokens (Time UserStatus Families revokeAllForUser)

/-- An identifier that the runtime draws or the store holds. -/
abbrev Uuid := RefreshTokens.Uuid

inductive ErrorCode where
  | passwordResetInvalid
  /-- A statement of the call fails. -/
  | internal
  deriving DecidableEq

structure PasswordResetToken where
  id : Uuid
  userId : Uuid
  tokenHash : String
  expiresAt : Time
  usedAt : Option Time
  deriving DecidableEq

structure AppUser where
  id : Uuid
  passwordHash : String
  status : UserStatus
  mustChangePassword : Bool
  invitationExpiresAt : Option Time
  deriving DecidableEq

abbrev Tokens := Table PasswordResetToken.id

abbrev Users := Table AppUser.id

def passwordResetTtlMs : ℤ := 30 * 60 * 1000

section Repository

/-- The token with a hash, when it is neither used nor expired. -/
def findValidByHash (tokens : Tokens) (tokenHash : String) (now : Time) :
    Option PasswordResetToken :=
  tokens.rows.find? fun token =>
    token.tokenHash = tokenHash ∧ token.usedAt = none ∧ now < token.expiresAt

def markUsed (tokens : Tokens) (id : Uuid) (usedAt : Time) : Tokens :=
  tokens.update (fun token => token.id = id)
    (fun token => { token with usedAt := some usedAt }) fun _ => rfl

def invalidateUnusedForUser (tokens : Tokens) (userId : Uuid) (usedAt : Time) : Tokens :=
  tokens.update (fun token => token.userId = userId ∧ token.usedAt = none)
    (fun token => { token with usedAt := some usedAt }) fun _ => rfl

/-- Insert a token. Both its identifier and its hash are unique. -/
def insertToken (tokens : Tokens) (token : PasswordResetToken) : Option Tokens :=
  if token.tokenHash ∈ tokens.rows.map PasswordResetToken.tokenHash then none
  else tokens.insert token

def updatePassword (users : Users) (userId : Uuid) (passwordHash : String) : Users :=
  users.update (fun user => user.id = userId)
    (fun user => { user with
      passwordHash := passwordHash, mustChangePassword := false, invitationExpiresAt := none })
    fun _ => rfl

def activateAfterPasswordReset (users : Users) (userId : Uuid) : Users :=
  users.update (fun user => user.id = userId ∧ user.status = .pendingActivation)
    (fun user => { user with status := .active, mustChangePassword := false }) fun _ => rfl

end Repository

/-- How far a reset has come, by what it does next. -/
inductive Stage where
  /-- The token is read next. -/
  | started (token : String)
  /-- The user is read next. -/
  | found (stored : PasswordResetToken) (now : Time)
  /-- The password is hashed next. -/
  | verified (stored : PasswordResetToken) (user : AppUser) (now : Time)
  /-- The password is written next. -/
  | hashed (stored : PasswordResetToken) (user : AppUser) (now : Time) (passwordHash : String)
  /-- The account is activated next. -/
  | changed (stored : PasswordResetToken) (user : AppUser) (now : Time)
  /-- The token is marked next. -/
  | activated (stored : PasswordResetToken) (user : AppUser) (now : Time)
  /-- The other tokens of the user are invalidated next. -/
  | marked (stored : PasswordResetToken) (user : AppUser) (now : Time)
  /-- The sessions of the user are revoked next. -/
  | invalidated (user : AppUser) (now : Time)
  /-- The call returns next. -/
  | revoked (user : AppUser)
  | finished (result : Except ErrorCode Unit)
  deriving DecidableEq

/-- How far a request for a token has come. -/
inductive Request where
  /-- The tokens of the user are invalidated next. -/
  | requested (userId : Uuid) (now : Time)
  /-- The token is inserted next. -/
  | cleared (userId : Uuid) (now : Time)
  deriving DecidableEq

/-- What has happened to the tokens. -/
inductive Event where
  | issued (tokenId userId : Uuid)
  /-- A call changed the password of a user with a token. -/
  | changed (call : ℕ) (tokenId userId : Uuid)
  /-- A call completed. -/
  | completed (call : ℕ) (userId : Uuid)
  deriving DecidableEq

structure System where
  tokens : Tokens
  users : Users
  families : Families
  calls : ℕ → Option Stage
  requests : ℕ → Option Request
  history : List Event

/-- A database without tokens, and no call in progress. -/
def System.start (users : Users) (families : Families) : System where
  tokens := Table.empty
  users := users
  families := families
  calls := fun _ => none
  requests := fun _ => none
  history := []

/-- Put a call in a stage. -/
def System.at (system : System) (call : ℕ) (stage : Stage) : System :=
  { system with calls := Function.update system.calls call (some stage) }

/-- Which step is taken, and what it is given. -/
inductive Action where
  | began (call : ℕ) (token : String)
  | tokenRead (call : ℕ) (now : Time)
  | userRead (call : ℕ)
  | hashed (call : ℕ) (passwordHash : String)
  | changed (call : ℕ)
  | activated (call : ℕ)
  | marked (call : ℕ)
  | invalidated (call : ℕ)
  | revoked (call : ℕ)
  | completed (call : ℕ)
  | stopped (call : ℕ)
  | requested (request : ℕ) (userId : Uuid) (now : Time)
  | cleared (request : ℕ)
  | issued (request : ℕ) (id : Uuid) (token : String)
  /-- Other services change accounts and sessions. -/
  | elsewhere (users : Users) (families : Families)

variable (hashPasswordResetToken : String → String)

/-- The token that a request inserts. -/
def issuedToken (id userId : Uuid) (token : String) (now : Time) : PasswordResetToken where
  id := id
  userId := userId
  tokenHash := hashPasswordResetToken token
  expiresAt := now + passwordResetTtlMs
  usedAt := none

/-- One step of a call, of a request or of another service. -/
def next (system : System) : Action → Option System
  | .began call token =>
    match system.calls call with
    | none => some (system.at call (.started token))
    | some _ => none
  | .tokenRead call now =>
    match system.calls call with
    | some (.started token) =>
      match findValidByHash system.tokens (hashPasswordResetToken token) now with
      | none => some (system.at call (.finished (.error .passwordResetInvalid)))
      | some stored => some (system.at call (.found stored now))
    | _ => none
  | .userRead call =>
    match system.calls call with
    | some (.found stored now) =>
      match system.users.find? stored.userId with
      | none => some (system.at call (.finished (.error .passwordResetInvalid)))
      | some user => some (system.at call (.verified stored user now))
    | _ => none
  | .hashed call passwordHash =>
    match system.calls call with
    | some (.verified stored user now) =>
      some (system.at call (.hashed stored user now passwordHash))
    | _ => none
  | .changed call =>
    match system.calls call with
    | some (.hashed stored user now passwordHash) =>
      some { system.at call (.changed stored user now) with
        users := updatePassword system.users user.id passwordHash
        history := system.history ++ [.changed call stored.id user.id] }
    | _ => none
  | .activated call =>
    match system.calls call with
    | some (.changed stored user now) =>
      some { system.at call (.activated stored user now) with
        users := activateAfterPasswordReset system.users user.id }
    | _ => none
  | .marked call =>
    match system.calls call with
    | some (.activated stored user now) =>
      some { system.at call (.marked stored user now) with
        tokens := markUsed system.tokens stored.id now }
    | _ => none
  | .invalidated call =>
    match system.calls call with
    | some (.marked _ user now) =>
      some { system.at call (.invalidated user now) with
        tokens := invalidateUnusedForUser system.tokens user.id now }
    | _ => none
  | .revoked call =>
    match system.calls call with
    | some (.invalidated user now) =>
      some { system.at call (.revoked user) with
        families := revokeAllForUser system.families user.id now }
    | _ => none
  | .completed call =>
    match system.calls call with
    | some (.revoked user) =>
      some { system.at call (.finished (.ok ())) with
        history := system.history ++ [.completed call user.id] }
    | _ => none
  | .stopped call =>
    match system.calls call with
    | none | some (.finished _) => none
    | some _ => some (system.at call (.finished (.error .internal)))
  | .requested request userId now =>
    match system.requests request with
    | none => some { system with
        requests := Function.update system.requests request (some (.requested userId now)) }
    | some _ => none
  | .cleared request =>
    match system.requests request with
    | some (.requested userId now) =>
      some { system with
        tokens := invalidateUnusedForUser system.tokens userId now
        requests := Function.update system.requests request (some (.cleared userId now)) }
    | _ => none
  | .issued request id token =>
    match system.requests request with
    | some (.cleared userId now) =>
      (insertToken system.tokens
        (issuedToken hashPasswordResetToken id userId token now)).map fun tokens =>
        { system with
          tokens := tokens
          requests := Function.update system.requests request none
          history := system.history ++ [.issued id userId] }
    | _ => none
  | .elsewhere users families => some { system with users := users, families := families }

/-- A run from a database without tokens, of steps that a condition allows. -/
inductive Run (allowed : System → Action → Prop) : System → Prop
  | start (users : Users) (families : Families) : Run allowed (.start users families)
  | step {system after : System} {action : Action} (hrun : Run allowed system)
      (hallowed : allowed system action)
      (hnext : next hashPasswordResetToken system action = some after) : Run allowed after

/-- The tokens that passwords were changed with, in order. -/
def changedTokens (history : List Event) : List Uuid :=
  history.filterMap fun event =>
    match event with
    | .changed _ tokenId _ => some tokenId
    | _ => none

/-- A password is changed at most once with a token. -/
def SpentOnce (history : List Event) : Prop := (changedTokens history).Nodup

/-- Once a call has completed, no token issued to its user before changes a password. -/
def FinalOnce (history : List Event) : Prop :=
  ∀ before after call userId, history = before ++ .completed call userId :: after →
    ∀ tokenId, .issued tokenId userId ∈ before →
      ∀ other changed, .changed other tokenId changed ∉ after

section Condition

/-- The token that a call has changed the password with and not yet marked. -/
def Stage.pending : Stage → Option Uuid
  | .changed stored _ _ | .activated stored _ _ => some stored.id
  | _ => none

/-- The user whose tokens a call has invalidated, until it returns. -/
def Stage.closing : Stage → Option Uuid
  | .invalidated user _ | .revoked user => some user.id
  | _ => none

/-- A token of the store that is not marked. -/
def Unused (tokens : Tokens) (id : Uuid) : Prop :=
  ∃ token, tokens.find? id = some token ∧ token.usedAt = none

/-- A token of the store that is marked. -/
def Used (tokens : Tokens) (id : Uuid) : Prop :=
  ∃ token, tokens.find? id = some token ∧ token.usedAt ≠ none

/-- The condition on a step. A call writes the password while its token is unmarked and no other
call has written with it and not yet marked it; it does not stop between the two; and no token
is stored for a user between the invalidation of his tokens and the return of the call. -/
def Careful (system : System) : Action → Prop
  | .changed call => ∀ stored user now passwordHash,
      system.calls call = some (.hashed stored user now passwordHash) →
      Unused system.tokens stored.id ∧
        ∀ other stage, system.calls other = some stage → stage.pending ≠ some stored.id
  | .stopped call => ∀ stage, system.calls call = some stage → stage.pending = none
  | .issued request _ _ => ∀ userId now, system.requests request = some (.cleared userId now) →
      ∀ call stage, system.calls call = some stage → stage.closing ≠ some userId
  | _ => True

end Condition

section Store

/-- What no statement on the tokens undoes: a token stays, with its user, and stays marked. -/
def Keeps (tokens after : Tokens) : Prop :=
  ∀ id token, tokens.find? id = some token → ∃ kept, after.find? id = some kept ∧
    kept.userId = token.userId ∧ (token.usedAt ≠ none → kept.usedAt ≠ none)

theorem Keeps.refl (tokens : Tokens) : Keeps tokens tokens :=
  fun _ token hfound => ⟨token, hfound, rfl, fun hmarked => hmarked⟩

theorem Keeps.used {tokens after : Tokens} (h : Keeps tokens after) {id : Uuid}
    (hused : Used tokens id) : Used after id := by
  obtain ⟨token, hfound, hmarked⟩ := hused
  obtain ⟨kept, hkept, -, hstill⟩ := h id token hfound
  exact ⟨kept, hkept, hstill hmarked⟩

theorem Keeps.isSome {tokens after : Tokens} (h : Keeps tokens after) {id : Uuid}
    (hsome : (tokens.find? id).isSome) : (after.find? id).isSome := by
  obtain ⟨token, hfound⟩ := Option.isSome_iff_exists.mp hsome
  obtain ⟨kept, hkept, -⟩ := h id token hfound
  exact Option.isSome_iff_exists.mpr ⟨kept, hkept⟩

/-- Marking tokens keeps them. -/
theorem keeps_marking (tokens : Tokens) (picked : PasswordResetToken → Prop)
    [DecidablePred picked] (usedAt : Time) :
    Keeps tokens (tokens.update picked
      (fun token => { token with usedAt := some usedAt }) fun _ => rfl) := by
  intro id token hfound
  rw [Table.find?_update, hfound, Option.map_some]
  refine ⟨_, rfl, ?_⟩
  split
  · exact ⟨rfl, fun _ => Option.some_ne_none usedAt⟩
  · exact ⟨rfl, fun hmarked => hmarked⟩

/-- A token that is picked for marking is marked. -/
theorem used_marking {tokens : Tokens} {picked : PasswordResetToken → Prop}
    [DecidablePred picked] {usedAt : Time} {id : Uuid} {token : PasswordResetToken}
    (hfound : tokens.find? id = some token) (h : token.usedAt ≠ none ∨ picked token) :
    Used (tokens.update picked (fun token => { token with usedAt := some usedAt })
      fun _ => rfl) id := by
  refine ⟨_, by rw [Table.find?_update, hfound, Option.map_some], ?_⟩
  split
  · exact Option.some_ne_none usedAt
  · next hnot => exact h.resolve_right hnot

/-- Inserting a token keeps the others, and the token is there. -/
theorem insertToken_eq_some {tokens after : Tokens} {token : PasswordResetToken}
    (h : insertToken tokens token = some after) :
    Keeps tokens after ∧ after.find? token.id = some token := by
  unfold insertToken at h
  split at h
  · cases h
  · refine ⟨fun id other hfound => ⟨other, ?_, rfl, fun hmarked => hmarked⟩, ?_⟩
    · have hne : token.id ≠ id := by
        rintro rfl
        rw [(Table.insert_eq_some h).1] at hfound
        cases hfound
      rw [Table.find?_insert h, if_neg hne]
      exact hfound
    · rw [Table.find?_insert h, if_pos rfl]

end Store

section Invariant

/-- What holds of every system that careful steps lead to. -/
structure Spent (system : System) : Prop where
  once : SpentOnce system.history
  final : FinalOnce system.history
  /-- A token that was spent is marked, or the call that spent it is about to. -/
  spent : ∀ tokenId ∈ changedTokens system.history, Used system.tokens tokenId ∨
    ∃ call stage, system.calls call = some stage ∧ stage.pending = some tokenId
  issued : ∀ tokenId userId, .issued tokenId userId ∈ system.history →
    ∃ token, system.tokens.find? tokenId = some token ∧ token.userId = userId
  pending : ∀ call stage tokenId, system.calls call = some stage →
    stage.pending = some tokenId → (system.tokens.find? tokenId).isSome
  /-- Once the tokens of a user are invalidated, all that were issued to him are marked. -/
  closing : ∀ call stage userId tokenId, system.calls call = some stage →
    stage.closing = some userId → .issued tokenId userId ∈ system.history →
    Used system.tokens tokenId
  completed : ∀ before after call userId,
    system.history = before ++ .completed call userId :: after →
    ∀ tokenId, .issued tokenId userId ∈ before → Used system.tokens tokenId

theorem Spent.start (users : Users) (families : Families) : Spent (.start users families) where
  once := List.nodup_nil
  final before after call userId h :=
    absurd h.symm (List.append_ne_nil_of_right_ne_nil _ (List.cons_ne_nil _ _))
  spent _ h := by cases h
  issued _ _ h := by cases h
  pending _ _ _ h := by cases h
  closing _ _ _ _ h := by cases h
  completed before after call userId h :=
    absurd h.symm (List.append_ne_nil_of_right_ne_nil _ (List.cons_ne_nil _ _))

theorem System.at_calls {system : System} {call other : ℕ} {stage found : Stage}
    (h : (system.at call stage).calls other = some found) :
    (other = call ∧ found = stage) ∨ (other ≠ call ∧ system.calls other = some found) := by
  unfold System.at at h
  dsimp only at h
  rcases eq_or_ne other call with rfl | hne
  · rw [Function.update_self] at h
    exact .inl ⟨rfl, (Option.some.inj h).symm⟩
  · rw [Function.update_of_ne hne] at h
    exact .inr ⟨hne, h⟩

/-- A call in a stage without a token to mark has none. -/
theorem only_pending {system : System} {call : ℕ} {stage : Stage}
    (hcall : system.calls call = some stage) (hpending : stage.pending = none) :
    ∀ before, system.calls call = some before → before.pending = none := by
  intro before hbefore
  have hsame := hcall.symm.trans hbefore
  cases hsame
  exact hpending

/-- Statements on the accounts, the sessions and the requests, and those on the tokens that
keep them. -/
theorem Spent.store {system : System} (h : Spent system) {tokens : Tokens}
    (hkeeps : Keeps system.tokens tokens) (users : Users) (families : Families)
    (requests : ℕ → Option Request) :
    Spent { system with
      tokens := tokens, users := users, families := families, requests := requests } where
  once := h.once
  final := h.final
  spent tokenId htoken := (h.spent tokenId htoken).imp_left hkeeps.used
  issued tokenId userId hissued := by
    obtain ⟨token, hfound, huser⟩ := h.issued tokenId userId hissued
    obtain ⟨kept, hkept, hsame, -⟩ := hkeeps tokenId token hfound
    exact ⟨kept, hkept, hsame.trans huser⟩
  pending call stage tokenId hcall hpending := hkeeps.isSome (h.pending call stage tokenId hcall hpending)
  closing call stage userId tokenId hcall hclosing hissued :=
    hkeeps.used (h.closing call stage userId tokenId hcall hclosing hissued)
  completed before after call userId hhistory tokenId hissued :=
    hkeeps.used (h.completed before after call userId hhistory tokenId hissued)

/-- A call goes on: the token that it was about to mark is marked or still to be, and what it
takes on holds. -/
theorem Spent.at {system : System} (h : Spent system) (call : ℕ) (stage : Stage)
    (hleaves : ∀ before tokenId, system.calls call = some before →
      before.pending = some tokenId → Used system.tokens tokenId ∨ stage.pending = some tokenId)
    (hpending : ∀ tokenId, stage.pending = some tokenId →
      (system.tokens.find? tokenId).isSome)
    (hclosing : ∀ userId tokenId, stage.closing = some userId →
      .issued tokenId userId ∈ system.history → Used system.tokens tokenId) :
    Spent (system.at call stage) where
  once := h.once
  final := h.final
  spent tokenId htoken := by
    rcases h.spent tokenId htoken with hused | ⟨other, found, hother, hfound⟩
    · exact .inl hused
    · rcases eq_or_ne other call with rfl | hne
      · rcases hleaves found tokenId hother hfound with hused | hstill
        · exact .inl hused
        · exact .inr ⟨other, stage, Function.update_self .., hstill⟩
      · exact .inr ⟨other, found, (Function.update_of_ne hne ..).trans hother, hfound⟩
  issued := h.issued
  pending other found tokenId hother hfound := by
    rcases System.at_calls hother with ⟨rfl, rfl⟩ | ⟨-, hbefore⟩
    · exact hpending tokenId hfound
    · exact h.pending other found tokenId hbefore hfound
  closing other found userId tokenId hother hfound hissued := by
    rcases System.at_calls hother with ⟨rfl, rfl⟩ | ⟨-, hbefore⟩
    · exact hclosing userId tokenId hfound hissued
    · exact h.closing other found userId tokenId hbefore hfound hissued
  completed := h.completed

/-- A call that has no token to mark goes on to a stage that takes on nothing. -/
theorem Spent.at_plain {system : System} (h : Spent system) {call : ℕ} {stage : Stage}
    (hbefore : ∀ before, system.calls call = some before → before.pending = none)
    (hpending : stage.pending = none) (hclosing : stage.closing = none) :
    Spent (system.at call stage) := by
  refine h.at call _ ?_ ?_ ?_
  · intro before tokenId hcall htoken
    rw [hbefore before hcall] at htoken
    cases htoken
  · intro tokenId htoken
    rw [hpending] at htoken
    cases htoken
  · intro userId tokenId huser
    rw [hclosing] at huser
    cases huser

/-- Where an entry stands in a list with one entry more. -/
theorem split_append_singleton {α : Type} {items before after : List α} {last item : α}
    (h : items ++ [last] = before ++ item :: after) :
    (∃ init, after = init ++ [last] ∧ items = before ++ item :: init) ∨
      (after = [] ∧ item = last ∧ before = items) := by
  rcases List.eq_nil_or_concat after with rfl | ⟨init, other, rfl⟩
  · have hinit := List.append_inj_left' h rfl
    have hlast := List.append_inj_right' h rfl
    exact .inr ⟨rfl, (List.cons.inj hlast).1.symm, hinit.symm⟩
  · have hassoc : items ++ [last] = (before ++ item :: init) ++ [other] := by
      rw [h]
      simp
    have hinit := List.append_inj_left' hassoc rfl
    have hlast := List.append_inj_right' hassoc rfl
    refine .inl ⟨init, ?_, hinit⟩
    rw [(List.cons.inj hlast).1, List.concat_eq_append]

/-- The password is changed with an unmarked token that nobody is about to mark. -/
theorem Spent.changed {system : System} (h : Spent system) (call : ℕ)
    (stored : PasswordResetToken) (user : AppUser) (now : Time) (userId : Uuid)
    (hbefore : ∀ before, system.calls call = some before → before.pending = none)
    (hunused : Unused system.tokens stored.id)
    (halone : ∀ other stage, system.calls other = some stage →
      stage.pending ≠ some stored.id) :
    Spent { system.at call (.changed stored user now) with
      history := system.history ++ [.changed call stored.id userId] } := by
  have hnotUsed : ¬Used system.tokens stored.id := by
    rintro ⟨token, hfound, hmarked⟩
    obtain ⟨other, hother, hnone⟩ := hunused
    rw [hfound] at hother
    cases hother
    exact hmarked hnone
  have hnew : stored.id ∉ changedTokens system.history := fun hmem => by
    rcases h.spent _ hmem with hused | ⟨other, stage, hother, hpending⟩
    · exact hnotUsed hused
    · exact halone other stage hother hpending
  have htokens : changedTokens (system.history ++ [.changed call stored.id userId]) =
      changedTokens system.history ++ [stored.id] := by
    unfold changedTokens
    rw [List.filterMap_append]
    rfl
  have hnext : Spent (system.at call (.changed stored user now)) := by
    refine h.at call _ ?_ ?_ ?_
    · intro before tokenId hcall htoken
      rw [hbefore before hcall] at htoken
      cases htoken
    · intro tokenId htoken
      cases htoken
      obtain ⟨token, hfound, -⟩ := hunused
      exact Option.isSome_iff_exists.mpr ⟨token, hfound⟩
    · intro userId tokenId huser
      cases huser
  have hissued : ∀ tokenId userId', .issued tokenId userId' ∈
      system.history ++ [.changed call stored.id userId] →
      .issued tokenId userId' ∈ system.history := fun tokenId userId' hmem =>
    (List.mem_append.mp hmem).resolve_right fun hlast => by cases List.mem_singleton.mp hlast
  have hsplit : ∀ before after other completedBy,
      system.history ++ [.changed call stored.id userId] =
        before ++ .completed other completedBy :: after →
      ∃ init, after = init ++ [.changed call stored.id userId] ∧
        system.history = before ++ .completed other completedBy :: init := by
    intro before after other completedBy hhistory
    rcases split_append_singleton hhistory with hinit | ⟨-, hlast, -⟩
    · exact hinit
    · cases hlast
  constructor
  case once =>
    unfold SpentOnce
    dsimp only
    rw [htokens, List.nodup_append]
    refine ⟨h.once, List.nodup_singleton _, ?_⟩
    rintro first hfirst second hsecond rfl
    exact hnew (List.mem_singleton.mp hsecond ▸ hfirst)
  case final =>
    intro before after other completedBy hhistory tokenId htoken third changedUser hmem
    obtain ⟨init, rfl, hinit⟩ := hsplit before after other completedBy hhistory
    rcases List.mem_append.mp hmem with hearlier | hlast
    · exact h.final before init other completedBy hinit tokenId htoken third changedUser hearlier
    · cases List.mem_singleton.mp hlast
      exact hnotUsed (h.completed before init other completedBy hinit _ htoken)
  case spent =>
    intro tokenId hmem
    dsimp only at hmem
    rw [htokens, List.mem_append, List.mem_singleton] at hmem
    rcases hmem with hmem | rfl
    · exact hnext.spent tokenId hmem
    · exact .inr ⟨call, _, Function.update_self .., rfl⟩
  case issued => exact fun tokenId userId' hmem => h.issued tokenId userId' (hissued _ _ hmem)
  case pending => exact hnext.pending
  case closing =>
    exact fun other stage userId' tokenId hother hclosing hmem =>
      hnext.closing other stage userId' tokenId hother hclosing (hissued _ _ hmem)
  case completed =>
    intro before after other completedBy hhistory tokenId htoken
    obtain ⟨init, -, hinit⟩ := hsplit before after other completedBy hhistory
    exact h.completed before init other completedBy hinit tokenId htoken

/-- A call returns, and leaves every token of its user marked. -/
theorem Spent.finished {system : System} (h : Spent system) {call : ℕ} {user : AppUser}
    (hcall : system.calls call = some (.revoked user)) :
    Spent { system.at call (.finished (.ok ())) with
      history := system.history ++ [.completed call user.id] } := by
  have hnext : Spent (system.at call (.finished (.ok ()))) :=
    h.at_plain (only_pending hcall rfl) rfl rfl
  have htokens : changedTokens (system.history ++ [.completed call user.id]) =
      changedTokens system.history := by
    unfold changedTokens
    rw [List.filterMap_append]
    exact List.append_nil _
  have hissued : ∀ tokenId userId, .issued tokenId userId ∈
      system.history ++ [.completed call user.id] →
      .issued tokenId userId ∈ system.history := fun tokenId userId hmem =>
    (List.mem_append.mp hmem).resolve_right fun hlast => by cases List.mem_singleton.mp hlast
  constructor
  case once =>
    unfold SpentOnce
    dsimp only
    rw [htokens]
    exact h.once
  case final =>
    intro before after other completedBy hhistory tokenId htoken third changedUser hmem
    rcases split_append_singleton hhistory with ⟨init, rfl, hinit⟩ | ⟨rfl, -, -⟩
    · rcases List.mem_append.mp hmem with hearlier | hlast
      · exact h.final before init other completedBy hinit tokenId htoken third changedUser
          hearlier
      · cases List.mem_singleton.mp hlast
    · cases hmem
  case spent =>
    intro tokenId hmem
    dsimp only at hmem
    rw [htokens] at hmem
    exact hnext.spent tokenId hmem
  case issued => exact fun tokenId userId hmem => h.issued tokenId userId (hissued _ _ hmem)
  case pending => exact hnext.pending
  case closing =>
    exact fun other stage userId tokenId hother hclosing hmem =>
      hnext.closing other stage userId tokenId hother hclosing (hissued _ _ hmem)
  case completed =>
    intro before after other completedBy hhistory tokenId htoken
    rcases split_append_singleton hhistory with ⟨init, -, hinit⟩ | ⟨-, hlast, rfl⟩
    · exact h.completed before init other completedBy hinit tokenId htoken
    · cases hlast
      exact h.closing call _ user.id tokenId hcall rfl htoken

/-- A token is issued to a user whose tokens no call has just invalidated. -/
theorem Spent.issue {system : System} (h : Spent system) {tokens : Tokens}
    {token : PasswordResetToken} (hinsert : insertToken system.tokens token = some tokens)
    (hopen : ∀ call stage, system.calls call = some stage →
      stage.closing ≠ some token.userId) :
    Spent { system with
      tokens := tokens, history := system.history ++ [.issued token.id token.userId] } := by
  have hinserted := insertToken_eq_some hinsert
  have hnext := h.store hinserted.1 system.users system.families system.requests
  have htokens : changedTokens (system.history ++ [.issued token.id token.userId]) =
      changedTokens system.history := by
    unfold changedTokens
    rw [List.filterMap_append]
    exact List.append_nil _
  have hsplit : ∀ before after other completedBy,
      system.history ++ [.issued token.id token.userId] =
        before ++ .completed other completedBy :: after →
      ∃ init, after = init ++ [.issued token.id token.userId] ∧
        system.history = before ++ .completed other completedBy :: init := by
    intro before after other completedBy hhistory
    rcases split_append_singleton hhistory with hinit | ⟨-, hlast, -⟩
    · exact hinit
    · cases hlast
  constructor
  case once =>
    unfold SpentOnce
    dsimp only
    rw [htokens]
    exact h.once
  case final =>
    intro before after other completedBy hhistory tokenId htoken third changedUser hmem
    obtain ⟨init, rfl, hinit⟩ := hsplit before after other completedBy hhistory
    rcases List.mem_append.mp hmem with hearlier | hlast
    · exact h.final before init other completedBy hinit tokenId htoken third changedUser hearlier
    · cases List.mem_singleton.mp hlast
  case spent =>
    intro tokenId hmem
    dsimp only at hmem
    rw [htokens] at hmem
    exact hnext.spent tokenId hmem
  case issued =>
    intro tokenId userId hmem
    rcases List.mem_append.mp hmem with hbefore | hlast
    · exact hnext.issued tokenId userId hbefore
    · cases List.mem_singleton.mp hlast
      exact ⟨token, hinserted.2, rfl⟩
  case pending => exact hnext.pending
  case closing =>
    intro call stage userId tokenId hcall hclosing hmem
    rcases List.mem_append.mp hmem with hbefore | hlast
    · exact hnext.closing call stage userId tokenId hcall hclosing hbefore
    · cases List.mem_singleton.mp hlast
      exact absurd hclosing (hopen call stage hcall)
  case completed =>
    intro before after other completedBy hhistory tokenId htoken
    obtain ⟨init, -, hinit⟩ := hsplit before after other completedBy hhistory
    exact hnext.completed before init other completedBy hinit tokenId htoken

/-- A call marks its token. -/
theorem Spent.mark {system : System} (h : Spent system) {call : ℕ}
    {stored : PasswordResetToken} {user : AppUser} {now : Time}
    (hcall : system.calls call = some (.activated stored user now)) :
    Spent { system.at call (.marked stored user now) with
      tokens := markUsed system.tokens stored.id now } := by
  have hstored := h.store (keeps_marking system.tokens (fun token => token.id = stored.id) now)
    system.users system.families system.requests
  refine hstored.at call (.marked stored user now) ?_ ?_ ?_
  · intro before tokenId hbefore htoken
    have hsame := hcall.symm.trans hbefore
    cases hsame
    cases htoken
    obtain ⟨token, hfound⟩ := Option.isSome_iff_exists.mp (h.pending call _ _ hcall rfl)
    exact .inl (used_marking hfound (.inr (Table.key_of_find? hfound)))
  · intro tokenId htoken
    cases htoken
  · intro userId tokenId huser
    cases huser

/-- A call invalidates the tokens of its user. -/
theorem Spent.invalidate {system : System} (h : Spent system) {call : ℕ}
    {stored : PasswordResetToken} {user : AppUser} {now : Time}
    (hcall : system.calls call = some (.marked stored user now)) :
    Spent { system.at call (.invalidated user now) with
      tokens := invalidateUnusedForUser system.tokens user.id now } := by
  have hstored := h.store (keeps_marking system.tokens
    (fun token => token.userId = user.id ∧ token.usedAt = none) now)
    system.users system.families system.requests
  refine hstored.at call (.invalidated user now) ?_ ?_ ?_
  · intro before tokenId hbefore htoken
    have hsame := hcall.symm.trans hbefore
    cases hsame
    cases htoken
  · intro tokenId htoken
    cases htoken
  · intro userId tokenId huser hissued
    cases huser
    obtain ⟨token, hfound, huser⟩ := h.issued tokenId user.id hissued
    refine used_marking hfound ?_
    by_cases hmarked : token.usedAt = none
    · exact .inr ⟨huser, hmarked⟩
    · exact .inl hmarked

/-- A careful step keeps the invariant. -/
theorem Spent.step {system after : System} {action : Action} (h : Spent system)
    (hcareful : Careful system action)
    (hnext : next hashPasswordResetToken system action = some after) : Spent after := by
  cases action with
  | began call token =>
    simp only [next] at hnext
    split at hnext
    · next hcall =>
      cases hnext
      refine h.at_plain (fun before hbefore => ?_) rfl rfl
      rw [hcall] at hbefore
      cases hbefore
    · cases hnext
  | tokenRead call now =>
    simp only [next] at hnext
    split at hnext
    · next token hcall =>
      have hbefore := only_pending hcall rfl
      split at hnext <;> cases hnext
      · exact h.at_plain hbefore rfl rfl
      · exact h.at_plain hbefore rfl rfl
    · cases hnext
  | userRead call =>
    simp only [next] at hnext
    split at hnext
    · next stored now hcall =>
      have hbefore := only_pending hcall rfl
      split at hnext <;> cases hnext
      · exact h.at_plain hbefore rfl rfl
      · exact h.at_plain hbefore rfl rfl
    · cases hnext
  | hashed call passwordHash =>
    simp only [next] at hnext
    split at hnext
    · next stored user now hcall =>
      cases hnext
      exact h.at_plain (only_pending hcall rfl) rfl rfl
    · cases hnext
  | changed call =>
    simp only [next] at hnext
    split at hnext
    · next stored user now passwordHash hcall =>
      cases hnext
      have hguard := hcareful stored user now passwordHash hcall
      have hchanged := h.changed call stored user now user.id
        (only_pending hcall rfl) hguard.1 hguard.2
      exact hchanged.store (Keeps.refl _)
        _ _ _
    · cases hnext
  | activated call =>
    simp only [next] at hnext
    split at hnext
    · next stored user now hcall =>
      cases hnext
      have hstage : Spent (system.at call (.activated stored user now)) := by
        refine h.at call _ ?_ ?_ ?_
        · intro before tokenId hbefore htoken
          have hsame := hcall.symm.trans hbefore
          cases hsame
          exact .inr htoken
        · intro tokenId htoken
          exact h.pending call _ tokenId hcall htoken
        · intro userId tokenId huser
          cases huser
      exact hstage.store (Keeps.refl _)
        _ _ _
    · cases hnext
  | marked call =>
    simp only [next] at hnext
    split at hnext
    · next stored user now hcall =>
      cases hnext
      exact h.mark hcall
    · cases hnext
  | invalidated call =>
    simp only [next] at hnext
    split at hnext
    · next stored user now hcall =>
      cases hnext
      exact h.invalidate hcall
    · cases hnext
  | revoked call =>
    simp only [next] at hnext
    split at hnext
    · next user now hcall =>
      cases hnext
      have hstage : Spent (system.at call (.revoked user)) := by
        refine h.at call _ ?_ ?_ ?_
        · intro before tokenId hbefore htoken
          have hsame := hcall.symm.trans hbefore
          cases hsame
          cases htoken
        · intro tokenId htoken
          cases htoken
        · intro userId tokenId huser hissued
          exact h.closing call _ userId tokenId hcall huser hissued
      exact hstage.store (Keeps.refl _)
        _ _ _
    · cases hnext
  | completed call =>
    simp only [next] at hnext
    split at hnext
    · next user hcall =>
      cases hnext
      exact h.finished hcall
    · cases hnext
  | stopped call =>
    simp only [next] at hnext
    split at hnext
    · cases hnext
    · cases hnext
    · cases hnext
      exact h.at_plain hcareful rfl rfl
  | requested request userId now =>
    simp only [next] at hnext
    split at hnext
    · cases hnext
      exact h.store (Keeps.refl _) _ _ _
    · cases hnext
  | cleared request =>
    simp only [next] at hnext
    split at hnext
    · next userId now hrequest =>
      cases hnext
      exact h.store (keeps_marking system.tokens
        (fun token => token.userId = userId ∧ token.usedAt = none) now) _ _ _
    · cases hnext
  | issued request id token =>
    simp only [next] at hnext
    split at hnext
    · next userId now hrequest =>
      obtain ⟨tokens, hinsert, rfl⟩ := Option.map_eq_some_iff.mp hnext
      have hopen := hcareful userId now hrequest
      have hissue := h.issue hinsert hopen
      exact hissue.store (Keeps.refl _)
        _ _ _
    · cases hnext
  | elsewhere users families =>
    cases hnext
    exact h.store (Keeps.refl _) _ _ _

end Invariant

/-- In every run whose steps are careful, a password is changed at most once with each token,
and once a call has completed no token issued to its user before changes a password. -/
theorem reset_tokens_spent_once {system : System}
    (h : Run hashPasswordResetToken Careful system) :
    SpentOnce system.history ∧ FinalOnce system.history := by
  have hspent : Spent system := by
    induction h with
    | start users families => exact Spent.start users families
    | step hrun hallowed hnext ih => exact ih.step hashPasswordResetToken hallowed hnext
  exact ⟨hspent.once, hspent.final⟩

section Samples

/-- A user who has forgotten his password. -/
def plainUser : AppUser where
  id := "user"
  passwordHash := "old"
  status := .active
  mustChangePassword := false
  invitationExpiresAt := none

/-- The database of one user without tokens. -/
def plainStart : System :=
  .start ⟨[plainUser], List.nodup_singleton _⟩ Table.empty

/-- A run goes on with a step that a condition allows. -/
theorem Run.next {allowed : System → Action → Prop} {system after : System}
    (h : Run hashPasswordResetToken allowed system) (action : Action)
    (hallowed : allowed system action)
    (hnext : next hashPasswordResetToken system action = some after) :
    Run hashPasswordResetToken allowed after := .step h hallowed hnext

/-- A call that resets a password alone takes only careful steps. -/
theorem plainReset_run : ∃ system, Run id Careful system ∧
    system.history = [.issued "token" "user", .changed 1 "token" "user", .completed 1 "user"] := by
  have hstart : Run id Careful plainStart := .start _ _
  have hcleared := (hstart.next id (.requested 1 "user" 0) trivial rfl).next id (.cleared 1)
    trivial rfl
  have hissued := hcleared.next id (.issued 1 "token" "secret")
    (fun _ _ _ _ _ hcall => by cases hcall) rfl
  have hread := ((hissued.next id (.began 1 "secret") trivial rfl).next id (.tokenRead 1 1)
    trivial rfl).next id (.userRead 1) trivial rfl
  have hhashed := hread.next id (.hashed 1 "new") trivial rfl
  have hchanged := hhashed.next id (.changed 1) (by
    intro stored user now passwordHash hcall
    cases hcall
    refine ⟨⟨_, rfl, rfl⟩, fun other stage hother => ?_⟩
    rcases System.at_calls hother with ⟨-, rfl⟩ | ⟨hne, hother⟩
    · exact fun hpending => by cases hpending
    · rcases System.at_calls hother with ⟨rfl, -⟩ | ⟨-, hother⟩
      · exact absurd rfl hne
      · rcases System.at_calls hother with ⟨rfl, -⟩ | ⟨-, hother⟩
        · exact absurd rfl hne
        · rcases System.at_calls hother with ⟨rfl, -⟩ | ⟨-, hother⟩
          · exact absurd rfl hne
          · cases hother) rfl
  have hmarked := (hchanged.next id (.activated 1) trivial rfl).next id (.marked 1) trivial rfl
  have hrevoked := (hmarked.next id (.invalidated 1) trivial rfl).next id (.revoked 1) trivial rfl
  exact ⟨_, hrevoked.next id (.completed 1) trivial rfl, rfl⟩

theorem reset_tokens_spent_once_plain :
    ∃ system, Run id Careful system ∧ changedTokens system.history = ["token"] ∧
      SpentOnce system.history ∧ FinalOnce system.history := by
  obtain ⟨system, hrun, hhistory⟩ := plainReset_run
  have hspent := reset_tokens_spent_once id hrun
  exact ⟨system, hrun, by rw [hhistory]; rfl, hspent.1, hspent.2⟩

/-- Two calls that read one token before either marks it both change the password. -/
theorem reset_token_spent_twice :
    ∃ system, Run id (fun _ _ => True) system ∧
      .changed 1 "token" "user" ∈ system.history ∧
      .changed 2 "token" "user" ∈ system.history ∧ ¬SpentOnce system.history := by
  have hstart : Run id (fun _ _ => True) plainStart := .start _ _
  have hissued := ((hstart.next id (.requested 1 "user" 0) trivial rfl).next id (.cleared 1)
    trivial rfl).next id (.issued 1 "token" "secret") trivial rfl
  have hbegan := (hissued.next id (.began 1 "secret") trivial rfl).next id (.began 2 "secret")
    trivial rfl
  have hread := (hbegan.next id (.tokenRead 1 1) trivial rfl).next id (.tokenRead 2 1) trivial rfl
  have husers := (hread.next id (.userRead 1) trivial rfl).next id (.userRead 2) trivial rfl
  have hhashed := (husers.next id (.hashed 1 "new") trivial rfl).next id (.hashed 2 "newer")
    trivial rfl
  have hchanged := (hhashed.next id (.changed 1) trivial rfl).next id (.changed 2) trivial rfl
  refine ⟨_, hchanged, ?_, ?_, ?_⟩
  · exact List.mem_of_getElem? (i := 1) rfl
  · exact List.mem_of_getElem? (i := 2) rfl
  · exact fun hnodup => absurd (List.mem_singleton_self _) (List.nodup_cons.mp hnodup).1

end Samples

end InternalControl.PasswordResets
