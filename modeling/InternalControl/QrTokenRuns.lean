import InternalControl.QrTokens

/-!
# Revoked tokens over runs of requests

While every change that is written raises the version past the one it
replaces, a token that was taken out of the row is not accepted again, whatever
is issued or revoked later. Two requests that read the same version break it.
-/

namespace InternalControl.QrTokens

open Interleaving

variable {Token ι : Type}

/-- A change is written while its version is not below the one of the row, and above it when
the row carries a token. An issue that the guard refuses writes nothing. -/
def Raises : ι → Statement → Store Token → Option (Change Token) → Prop
  | _, .apply, store, some change => change.guard store.asset = .ok () →
    store.asset.qrTokenVersion ≤ change.version ∧
      (store.asset.qrToken.isSome → store.asset.qrTokenVersion < change.version)
  | _, _, _, _ => True

instance (asset : Asset Token) (change : Change Token) :
    Decidable (change.guard asset = .ok ()) := by
  cases change with
  | issue token version jti actorId signedAt =>
    unfold Change.guard
    dsimp only
    split
    · exact isFalse fun h => by cases h
    · exact isTrue rfl
  | revoke version jti actorId createdAt => exact isTrue rfl

instance (i : ι) (statement : Statement) (store : Store Token) (request : Option (Change Token)) :
    Decidable (Raises i statement store request) := by
  unfold Raises
  split <;> infer_instance

section Rows

variable {jwt : Jwt Token}

/-- A request holds a token for the version it will write. -/
def Signs (jwt : Jwt Token) (assetId : Uuid) : Change Token → Prop
  | .issue token version jti _ _ => token = jwt.sign ⟨assetId, version, jti⟩
  | .revoke .. => True

/-- The token of the row names the asset and its version. -/
def Carries (jwt : Jwt Token) (asset : Asset Token) : Prop :=
  ∀ token ∈ asset.qrToken, ∃ jti, token = jwt.sign ⟨asset.id, asset.qrTokenVersion, jti⟩

/-- The version does not fall, and while it stays the same so does a token of the row. -/
structure Advances (before after : Store Token) : Prop where
  id : after.asset.id = before.asset.id
  version : before.asset.qrTokenVersion ≤ after.asset.qrTokenVersion
  token : after.asset.qrTokenVersion = before.asset.qrTokenVersion →
    ∀ token ∈ before.asset.qrToken, after.asset.qrToken = some token

theorem Advances.refl (store : Store Token) : Advances store store :=
  ⟨rfl, le_refl _, fun _ _ h => h⟩

theorem Advances.trans {first second third : Store Token} (h : Advances first second)
    (h' : Advances second third) : Advances first third := by
  refine ⟨h'.id.trans h.id, h.version.trans h'.version, fun hsame token htoken => ?_⟩
  have hle := h.version
  have hle' := h'.version
  have hmiddle := h.token (by omega) token htoken
  exact h'.token (by omega) token hmiddle

theorem signs_issue {asset : Asset Token} {actorId : Uuid} {jti : String} {signedAt : ℤ}
    {change : Change Token} (h : issue jwt asset actorId jti signedAt = .ok change) :
    Signs jwt asset.id change := by
  unfold issue at h
  split at h
  · cases h
  · cases h
    rfl

theorem signs_revoke {asset : Asset Token} {actorId : Uuid} {jti : String} {createdAt : ℤ}
    {change : Change Token} (h : revoke asset actorId jti createdAt = .ok change) :
    Signs jwt asset.id change := by
  unfold revoke at h
  split at h
  · cases h
  · cases h
    trivial

theorem apply_eq_ok {store after : Store Token} {change : Change Token}
    (h : change.apply store = .ok after) :
    change.guard store.asset = .ok () ∧ after.asset = change.patch store.asset := by
  unfold Change.apply at h
  split at h
  · cases h
  · next hguard =>
    cases h
    exact ⟨hguard, rfl⟩

theorem version_patch (asset : Asset Token) (change : Change Token) :
    (change.patch asset).qrTokenVersion = change.version := by
  cases change <;> rfl

theorem id_patch (asset : Asset Token) (change : Change Token) :
    (change.patch asset).id = asset.id := by
  cases change <;> rfl

/-- What is written carries a token for its own version. -/
theorem carries_patch {asset : Asset Token} {change : Change Token}
    (h : Signs jwt asset.id change) : Carries jwt (change.patch asset) := by
  cases change with
  | issue token version jti actorId signedAt =>
    rintro _ ⟨⟩
    exact ⟨jti, h⟩
  | revoke version jti actorId createdAt =>
    rintro _ ⟨⟩

end Rows

section Runs

variable {jwt : Jwt Token}

/-- What a statement does: it leaves the row alone, it leaves the token alone, or it writes
the change of its request. -/
inductive Effect (jwt : Jwt Token) (store : Store Token) (request : Option (Change Token)) :
    Statement → Store Token → Option (Change Token) → Prop
  | wait {statement : Statement} {request' : Option (Change Token)}
      (hsigns : ∀ change ∈ request', Signs jwt store.asset.id change) :
      Effect jwt store request statement store request'
  | otherWrite (operationalStatus : Assets.OperationalStatus) (costCenterId : Uuid) :
      Effect jwt store request (.otherWrite operationalStatus costCenterId)
        { store with asset := { store.asset with
          operationalStatus := operationalStatus, costCenterId := costCenterId } } request
  | apply (change : Change Token) (after : Store Token) (hrequest : request = some change)
      (happly : change.apply store = .ok after) : Effect jwt store request .apply after none

theorem effect_of_program {i : ι} {statement : Statement} {store store' : Store Token}
    {request request' : Option (Change Token)}
    (h : program jwt i statement store request = some (store', request')) :
    Effect jwt store request statement store' request' := by
  unfold program at h
  split at h
  · next actorId jti signedAt =>
    cases h
    refine .wait fun change hchange => ?_
    cases hissue : issue jwt store.asset actorId jti signedAt with
    | error code =>
      rw [hissue] at hchange
      cases hchange
    | ok other =>
      rw [hissue] at hchange
      cases hchange
      exact signs_issue hissue
  · next actorId jti createdAt =>
    cases h
    refine .wait fun change hchange => ?_
    cases hrevoke : revoke store.asset actorId jti createdAt with
    | error code =>
      rw [hrevoke] at hchange
      cases hchange
    | ok other =>
      rw [hrevoke] at hchange
      cases hchange
      exact signs_revoke hrevoke
  · next change =>
    split at h
    · cases h
      exact .wait fun _ hnone => by cases hnone
    · next after happly =>
      split at h
      · cases h
        exact .apply change _ rfl happly
      · cases h
        exact .wait fun _ hnone => by cases hnone
  · cases h
    exact .otherWrite _ _
  · cases h
    exact .wait fun _ hnone => by cases hnone
  · cases h

/-- The id of the asset stays, so what a request has signed stays signed for it. -/
theorem id_of_effect {statement : Statement} {store store' : Store Token}
    {request request' : Option (Change Token)}
    (h : Effect jwt store request statement store' request') : store'.asset.id = store.asset.id := by
  cases h with
  | wait hsigns => rfl
  | otherWrite operationalStatus costCenterId => rfl
  | apply change after hrequest happly =>
    rw [(apply_eq_ok happly).2]
    exact id_patch _ _

theorem program_keeps : Keeps (@program Token jwt ι) Raises (fun store => Carries jwt store.asset)
    (fun _ store request => ∀ change ∈ request, Signs jwt store.asset.id change)
    (fun _ _ => True) where
  symm := fun _ _ _ => trivial
  own := by
    intro i statement store request store' request' _ h hcarries hsigns
    cases effect_of_program h with
    | wait hnext => exact ⟨hcarries, hnext⟩
    | otherWrite operationalStatus costCenterId => exact ⟨hcarries, hsigns⟩
    | apply change after hrequest happly =>
      refine ⟨?_, fun _ hnone => by cases hnone⟩
      rw [(apply_eq_ok happly).2]
      exact carries_patch (hsigns change hrequest)
  other := by
    intro i k statement store request store' request' other _ _ h _ _ hother _
    refine ⟨?_, trivial⟩
    rw [id_of_effect (effect_of_program h)]
    exact hother

/-- A statement that raises the version takes tokens out of the row for good. -/
theorem advances_program {i : ι} {statement : Statement} {store store' : Store Token}
    {request request' : Option (Change Token)} (hraises : Raises i statement store request)
    (h : program jwt i statement store request = some (store', request')) :
    Advances store store' := by
  cases effect_of_program h with
  | wait hsigns => exact Advances.refl store
  | otherWrite operationalStatus costCenterId => exact ⟨rfl, le_refl _, fun _ _ htoken => htoken⟩
  | apply change after hrequest happly =>
    obtain ⟨hguard, hafter⟩ := apply_eq_ok happly
    subst hrequest
    obtain ⟨hle, hlt⟩ := hraises hguard
    refine ⟨?_, ?_, fun hsame token htoken => ?_⟩
    · rw [hafter]
      exact id_patch _ _
    · rw [hafter, version_patch]
      exact hle
    · rw [hafter, version_patch] at hsame
      have hlt := hlt (Option.isSome_of_mem htoken)
      omega

/-- A token whose version is not the one of the asset is not accepted. -/
theorem not_accepted (hlawful : jwt.Lawful) {asset : Asset Token} {payload : QrPayload}
    (h : payload.tokenVersion ≠ asset.qrTokenVersion) :
    assetIdFromToken jwt asset (jwt.sign payload) = none ∧
      ∀ scope version, verify jwt asset (jwt.sign payload) scope ≠ .ok version := by
  constructor
  · simp only [assetIdFromToken, hlawful payload]
    exact if_neg fun hboth => h hboth.2.2.symm
  · intro scope version hok
    simp only [verify, hlawful payload] at hok
    split at hok
    · cases hok
    · split at hok
      · cases hok
      · rw [if_pos (Or.inl h)] at hok
        cases hok

variable [DecidableEq ι]

/-- An asset without a token, and nobody asking for one. -/
def start (ι : Type) (asset : Asset Token) :
    Interleaving ι (Store Token) (Option (Change Token)) :=
  ⟨⟨{ asset with qrToken := none }, []⟩, fun _ => none⟩

/-- In a run whose changes raise the version, a token that was in the row and no longer is, is
not accepted at any later time. -/
theorem revocation_is_final (hlawful : jwt.Lawful) (asset : Asset Token)
    {c c' c'' : Interleaving ι (Store Token) (Option (Change Token))}
    (hrun : Run (program jwt) Raises (start ι asset) c) (hgone : Run (program jwt) Raises c c')
    (hlater : Run (program jwt) Raises c' c'') {token : Token}
    (htoken : c.shared.asset.qrToken = some token)
    (hother : c'.shared.asset.qrToken ≠ some token) :
    assetIdFromToken jwt c''.shared.asset token = none ∧
      ∀ scope version, verify jwt c''.shared.asset token scope ≠ .ok version := by
  have hstart : Holds (fun store => Carries jwt store.asset)
      (fun _ store request => ∀ change ∈ request, Signs jwt store.asset.id change)
      (fun _ _ => True) (start ι asset) :=
    ⟨fun _ hnone => (by cases hnone), fun _ _ hnone => (by cases hnone), fun _ _ _ => trivial⟩
  have hbefore := program_keeps.run hrun hstart
  obtain ⟨jti, rfl⟩ := hbefore.shared token htoken
  have hfirst : Advances c.shared c'.shared :=
    program_keeps.run_related Advances.refl (fun _ _ _ => Advances.trans)
      (fun _ _ _ _ _ _ hraises h _ _ => advances_program hraises h) hgone hbefore
  have hsecond : Advances c'.shared c''.shared :=
    program_keeps.run_related Advances.refl (fun _ _ _ => Advances.trans)
      (fun _ _ _ _ _ _ hraises h _ _ => advances_program hraises h) hlater
      (program_keeps.run hgone hbefore)
  have hne : c'.shared.asset.qrTokenVersion ≠ c.shared.asset.qrTokenVersion :=
    fun hsame => hother (hfirst.token hsame _ htoken)
  have hle := hfirst.version
  have hle' := hsecond.version
  exact not_accepted hlawful (by simp only; omega)

end Runs

/-! ### Runs of two requests -/

section Samples

/-- A signature that shows what it signs. -/
def plainJwt : Jwt QrPayload := ⟨id, some⟩

theorem plainJwt_lawful : plainJwt.Lawful := fun _ => rfl

def chair : Asset QrPayload := ⟨"asset-1", "centre-1", .inUse, none, 1, none, none⟩

def firstIssue : List (Bool × Statement) :=
  [(false, .issue "ana" "jti-1" 0), (false, .apply)]

def revokeAndReissue : List (Bool × Statement) :=
  [(true, .revoke "luis" "jti-2" 1), (true, .apply), (false, .issue "ana" "jti-3" 2), (false, .apply)]

/-- The row carries a token with this id. -/
def carriesJti (jti : String) (c : Interleaving Bool (Store QrPayload) (Option (Change QrPayload))) :
    Bool :=
  c.shared.asset.qrToken.any fun token => token.jti = jti

theorem revocation_is_final_chair :
    ∃ (c' : Interleaving Bool (Store QrPayload) (Option (Change QrPayload))) (token : QrPayload),
      token.jti = "jti-1" ∧ carriesJti "jti-3" c' = true ∧
        assetIdFromToken plainJwt c'.shared.asset token = none ∧
          ∀ scope version, verify plainJwt c'.shared.asset token scope ≠ .ok version := by
  obtain ⟨c, c', hrun, hgone, hfirst, hthird⟩ :
      ∃ c c' : Interleaving Bool (Store QrPayload) (Option (Change QrPayload)),
        Run (program plainJwt) Raises (start Bool chair) c ∧ Run (program plainJwt) Raises c c' ∧
          carriesJti "jti-1" c = true ∧ carriesJti "jti-3" c' = true :=
    exists_run_run firstIssue revokeAndReissue (by decide +kernel)
  obtain ⟨token, htoken, hjti⟩ := (Option.any_eq_true _ _).mp hfirst
  have hother : c'.shared.asset.qrToken ≠ some token := by
    intro hsame
    obtain ⟨third, hcarried, hid⟩ := (Option.any_eq_true _ _).mp hthird
    rw [hsame] at hcarried
    cases hcarried
    rw [of_decide_eq_true hjti] at hid
    exact absurd hid (by decide)
  exact ⟨c', token, of_decide_eq_true hjti, hthird,
    revocation_is_final plainJwt_lawful chair hrun hgone .refl htoken hother⟩

/-- Two requests read version 1, and the first of them writes its token. -/
def twoReads : List (Bool × Statement) :=
  [(false, .issue "ana" "jti-1" 0), (false, .apply), (false, .issue "ana" "jti-2" 1),
    (true, .issue "luis" "jti-3" 1), (false, .apply)]

/-- The token that the second request replaces has the version of the new one. -/
theorem replaced_token_is_accepted :
    ¬∀ (asset : Asset QrPayload)
        (c c' c'' : Interleaving Bool (Store QrPayload) (Option (Change QrPayload)))
        (token : QrPayload),
      Run (program plainJwt) Anyhow (start Bool asset) c → Run (program plainJwt) Anyhow c c' →
        Run (program plainJwt) Anyhow c' c'' → c.shared.asset.qrToken = some token →
          c'.shared.asset.qrToken ≠ some token →
            assetIdFromToken plainJwt c''.shared.asset token = none ∧
              ∀ scope version, verify plainJwt c''.shared.asset token scope ≠ .ok version := by
  intro h
  obtain ⟨c, c', hrun, hgone, hsecond, hthird⟩ :
      ∃ c c' : Interleaving Bool (Store QrPayload) (Option (Change QrPayload)),
        Run (program plainJwt) Anyhow (start Bool chair) c ∧ Run (program plainJwt) Anyhow c c' ∧
          decide (c.shared.asset.qrToken = some ⟨"asset-1", 2, "jti-2"⟩) = true ∧
          decide (c'.shared.asset.qrToken ≠ some ⟨"asset-1", 2, "jti-2"⟩ ∧
            assetIdFromToken plainJwt c'.shared.asset ⟨"asset-1", 2, "jti-2"⟩ ≠ none) = true :=
    exists_run_run twoReads [(true, .apply)] (by decide +kernel)
  obtain ⟨hother, haccepted⟩ := of_decide_eq_true hthird
  exact haccepted
    (h chair c c' c' _ hrun hgone .refl (of_decide_eq_true hsecond) hother).1

end Samples

end InternalControl.QrTokens
