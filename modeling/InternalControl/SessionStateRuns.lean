import InternalControl.SessionState

/-!
# A revoked session over runs of calls

An entry lasts for one period from the start of the call that read it, so no
entry that was read before a revocation lasts longer than a period after it,
and a call that starts after it reads the revocation. The counters of the
instances stay right all along.
-/

namespace InternalControl.SessionState

open Interleaving RefreshTokens

/-! ### Sessions that are refused -/

/-- The family of a session is not there, or revoked. -/
def FamilyRevoked (database : Database) (sessionId : Uuid) : Prop :=
  ∀ family, database.families.find? sessionId = some family → family.status = .revoked

/-- A user is not there, or not usable at any time from an instant on. -/
def UserUnusable (database : Database) (userId : Uuid) (since : ℤ) : Prop :=
  ∀ user, database.users.find? userId = some user → ∀ active now, since ≤ now →
    isUsable ⟨user.status, user.mustChangePassword, user.invitationExpiresAt, active⟩ now = false

/-- The database refuses a session from an instant on. -/
def Refuses (database : Database) (userId sessionId : Uuid) (since : ℤ) : Prop :=
  FamilyRevoked database sessionId ∨ UserUnusable database userId since

/-- A user who is not usable at an instant is not usable later either: an invitation that has
expired stays so. -/
theorem isUsable_of_le {row : SessionRow} {since now : ℤ} (hle : since ≤ now)
    (h : isUsable row now = true) : isUsable row since = true := by
  unfold isUsable at h ⊢
  have hparts := of_decide_eq_true h
  refine decide_eq_true ⟨hparts.1, fun hexpired => hparts.2 ⟨hexpired.1, ?_⟩⟩
  have hinvitation := hexpired.2
  unfold isInvitationExpired at hinvitation ⊢
  cases hexpiry : row.invitationExpiresAt with
  | none =>
    rw [hexpiry] at hinvitation
    cases hinvitation
  | some expiry =>
    rw [hexpiry] at hinvitation
    exact decide_eq_true (Int.le_trans (of_decide_eq_true hinvitation) hle)

/-- A user who is not usable when a change is committed is so from then on. -/
theorem userUnusable_iff {database : Database} {userId : Uuid} {since : ℤ} :
    UserUnusable database userId since ↔ ∀ user, database.users.find? userId = some user →
      ∀ active, isUsable ⟨user.status, user.mustChangePassword, user.invitationExpiresAt, active⟩
        since = false := by
  constructor
  · intro h user huser active
    exact h user huser active since (Int.le_refl since)
  · intro h user huser active now hnow
    have hsince := h user huser active
    rw [Bool.eq_false_iff] at hsince ⊢
    exact fun husable => hsince (isUsable_of_le hnow husable)

instance (database : Database) (sessionId : Uuid) : Decidable (FamilyRevoked database sessionId) :=
  decidable_of_iff ((database.families.find? sessionId).all
      (fun family => decide (family.status = .revoked)) = true)
    (by simp [FamilyRevoked, Option.all_eq_true])

instance (database : Database) (userId : Uuid) (since : ℤ) :
    Decidable (UserUnusable database userId since) :=
  decidable_of_iff ((database.users.find? userId).all (fun user =>
      !isUsable ⟨user.status, user.mustChangePassword, user.invitationExpiresAt, true⟩ since &&
        !isUsable ⟨user.status, user.mustChangePassword, user.invitationExpiresAt, false⟩ since) = true)
    (by
      rw [userUnusable_iff]
      simp only [Option.all_eq_true, Bool.and_eq_true, Bool.not_eq_true', Bool.forall_bool, and_comm])

instance (database : Database) (userId sessionId : Uuid) (since : ℤ) :
    Decidable (Refuses database userId sessionId since) :=
  inferInstanceAs (Decidable (_ ∨ _))

/-- A call that started after the refusal reads no live state. -/
theorem Refuses.liveState {database : Database} {userId sessionId : Uuid} {since now : ℤ}
    (h : Refuses database userId sessionId since) (hnow : since ≤ now) (databaseNow : ℤ) :
    liveState (sessionRow database databaseNow userId sessionId) now = none := by
  unfold SessionState.liveState sessionRow
  cases huser : database.users.find? userId with
  | none => rfl
  | some user =>
    dsimp only [Option.map_some]
    refine if_neg fun hlive => ?_
    rcases h with hfamily | hunusable
    · obtain ⟨family, hfound, hactive⟩ := (Option.any_eq_true _ _).mp hlive.1
      have hrevoked := hfamily family hfound
      have hstatus := (of_decide_eq_true hactive).2.1
      rw [hrevoked] at hstatus
      cases hstatus
    · have husable := hlive.2
      rw [hunusable user huser _ now hnow] at husable
      cases husable

/-! ### Invariants -/

section Invariants

variable {κ : Type}

/-- The counters are right, and nothing was read later than now. -/
structure Sound (store : Store κ) : Prop where
  counted : ∀ k, (store.instances k).Counted
  cached : ∀ k userId sessionId entry, (store.instances k).cached userId sessionId = some entry →
    entry.expiresAt ≤ store.clock + sessionStateTtlMs
  answered : ∀ answer ∈ store.answers, answer.startedAt ≤ store.clock

/-- A call has started by now. -/
def Started (store : Store κ) : Phase κ → Prop
  | .idle => True
  | .querying _ _ _ now => now ≤ store.clock
  | .found _ _ _ now _ => now ≤ store.clock

/-- The database refuses a session since an instant, and what was read of it before lasts for
one period at most. -/
structure Refused (userId sessionId : Uuid) (since : ℤ) (store : Store κ) : Prop where
  reached : since ≤ store.clock
  database : Refuses store.database userId sessionId since
  cached : ∀ k entry, (store.instances k).cached userId sessionId = some entry →
    entry.expiresAt ≤ since + sessionStateTtlMs
  answered : ∀ answer ∈ store.answers, answer.userId = userId → answer.sessionId = sessionId →
    since + sessionStateTtlMs ≤ answer.startedAt → answer.state = none

/-- A call that has read a live state of the session started before the instant. -/
def Earlier (userId sessionId : Uuid) (since : ℤ) : Phase κ → Prop
  | .found _ userId' sessionId' now row =>
    userId' = userId → sessionId' = sessionId → (liveState row now).isSome → now ≤ since
  | _ => True

theorem Sound.start (κ : Type) (clock : ℤ) (database : Database) :
    Sound (⟨clock, database, fun _ => .empty, []⟩ : Store κ) :=
  ⟨fun _ => .empty, fun _ _ _ _ h => (by cases h), fun _ h => (by cases h)⟩

theorem Started.later {store store' : Store κ} (hle : store.clock ≤ store'.clock) {phase : Phase κ}
    (h : Started store phase) : Started store' phase := by
  cases phase with
  | idle => trivial
  | querying k userId sessionId now => exact Int.le_trans h hle
  | found k userId sessionId now row => exact Int.le_trans h hle

section Steps

variable {store : Store κ}

theorem Sound.tick (h : Sound store) {time : ℤ} (hle : store.clock ≤ time) :
    Sound { store with clock := time } := by
  refine ⟨h.counted, fun k userId sessionId entry hentry => ?_, fun answer hanswer => ?_⟩
  · have hcached := h.cached k userId sessionId entry hentry
    dsimp only
    omega
  · exact Int.le_trans (h.answered answer hanswer) hle

theorem Sound.answer (h : Sound store) {userId sessionId : Uuid} {startedAt : ℤ}
    (hstarted : startedAt ≤ store.clock) (state : Option LiveSessionState) :
    Sound (store.answer userId sessionId startedAt state) := by
  refine ⟨h.counted, h.cached, fun answer hanswer => ?_⟩
  rcases List.mem_append.mp hanswer with hbefore | hlast
  · exact h.answered answer hbefore
  · cases List.mem_singleton.mp hlast
    exact hstarted

theorem Refused.tick {userId sessionId : Uuid} {since time : ℤ}
    (h : Refused userId sessionId since store) (hle : store.clock ≤ time) :
    Refused userId sessionId since { store with clock := time } :=
  ⟨Int.le_trans h.reached hle, h.database, h.cached, h.answered⟩

/-- An answer that is late enough is that of the database. -/
theorem Refused.answer {userId sessionId : Uuid} {since : ℤ}
    (h : Refused userId sessionId since store) {userId' sessionId' : Uuid} {startedAt : ℤ}
    {state : Option LiveSessionState}
    (hlate : userId' = userId → sessionId' = sessionId → since + sessionStateTtlMs ≤ startedAt →
      state = none) : Refused userId sessionId since (store.answer userId' sessionId' startedAt state) := by
  refine ⟨h.reached, h.database, h.cached, fun answer hanswer => ?_⟩
  rcases List.mem_append.mp hanswer with hbefore | hlast
  · exact h.answered answer hbefore
  · cases List.mem_singleton.mp hlast
    exact hlate

theorem Sound.resolve (h : Sound store) (k : κ) (userId sessionId : Uuid) :
    Sound (store.resolve k userId sessionId).1 ∧
      Started (store.resolve k userId sessionId).1 (store.resolve k userId sessionId).2 := by
  unfold Store.resolve
  split
  · exact ⟨h, Int.le_refl store.clock⟩
  · split
    · exact ⟨h.answer (Int.le_refl store.clock) _, trivial⟩
    · exact ⟨h, Int.le_refl store.clock⟩

/-- An entry that is still valid is of a call before the instant. -/
theorem Refused.resolve {userId sessionId : Uuid} {since : ℤ}
    (h : Refused userId sessionId since store) (k : κ) (userId' sessionId' : Uuid) :
    Refused userId sessionId since (store.resolve k userId' sessionId').1 ∧
      Earlier userId sessionId since (store.resolve k userId' sessionId').2 := by
  unfold Store.resolve
  split
  · exact ⟨h, trivial⟩
  · next entry hentry =>
    split
    · next hvalid =>
      refine ⟨h.answer fun huser hsession hlate => ?_, trivial⟩
      subst huser hsession
      have hcached := h.cached k entry hentry
      omega
    · exact ⟨h, trivial⟩

variable [DecidableEq κ]

/-- An instance keeps other entries, each one kept before or new. -/
theorem Sound.keep (h : Sound store) (k : κ) {states : SessionStates} (hcounted : states.Counted)
    (hcached : ∀ userId sessionId entry, states.cached userId sessionId = some entry →
      entry.expiresAt ≤ store.clock + sessionStateTtlMs) : Sound (store.keep k states) := by
  refine ⟨fun other => ?_, fun other userId sessionId entry hentry => ?_, h.answered⟩
  · unfold Store.keep
    dsimp only
    by_cases hother : other = k
    · rw [hother, Function.update_self]
      exact hcounted
    · rw [Function.update_of_ne hother]
      exact h.counted other
  · unfold Store.keep at hentry
    dsimp only at hentry
    by_cases hother : other = k
    · rw [hother, Function.update_self] at hentry
      exact hcached userId sessionId entry hentry
    · rw [Function.update_of_ne hother] at hentry
      exact h.cached other userId sessionId entry hentry

theorem Refused.keep {userId sessionId : Uuid} {since : ℤ}
    (h : Refused userId sessionId since store) (k : κ) {states : SessionStates}
    (hcached : ∀ entry, states.cached userId sessionId = some entry →
      entry.expiresAt ≤ since + sessionStateTtlMs) :
    Refused userId sessionId since (store.keep k states) := by
  refine ⟨h.reached, h.database, fun other entry hentry => ?_, h.answered⟩
  unfold Store.keep at hentry
  dsimp only at hentry
  by_cases hother : other = k
  · rw [hother, Function.update_self] at hentry
    exact hcached entry hentry
  · rw [Function.update_of_ne hother] at hentry
    exact h.cached other entry hentry

theorem Sound.finish (h : Sound store) (k : κ) (userId sessionId : Uuid) {now : ℤ}
    (hstarted : now ≤ store.clock) (row : Option SessionRow) :
    Sound (store.finish k userId sessionId now row) := by
  unfold Store.finish
  split
  · refine Sound.answer (h.keep k ((h.counted k).forget userId sessionId) ?_) hstarted none
    intro userId' sessionId' entry hentry
    exact h.cached k userId' sessionId' entry (SessionStates.cached_forget hentry)
  · next state _ =>
    refine Sound.answer (h.keep k ((h.counted k).remember userId sessionId _) ?_) hstarted (some state)
    intro userId' sessionId' entry hentry
    rcases SessionStates.cached_remember hentry with ⟨-, -, rfl⟩ | hbefore
    · dsimp only
      omega
    · exact h.cached k userId' sessionId' entry hbefore

theorem Sound.invalidate (h : Sound store) (k : κ) (userId : Uuid) :
    Sound (store.keep k ((store.instances k).invalidate userId)) := by
  refine h.keep k ((h.counted k).invalidate userId) ?_
  intro userId' sessionId' entry hentry
  exact h.cached k userId' sessionId' entry (SessionStates.cached_invalidate hentry)

theorem Refused.finish {userId sessionId : Uuid} {since : ℤ}
    (h : Refused userId sessionId since store) (k : κ) {userId' sessionId' : Uuid} {now : ℤ}
    {row : Option SessionRow}
    (hearlier : Earlier userId sessionId since (.found k userId' sessionId' now row)) :
    Refused userId sessionId since (store.finish k userId' sessionId' now row) := by
  unfold Store.finish
  split
  · refine Refused.answer (h.keep k ?_) fun _ _ _ => rfl
    intro entry hentry
    exact h.cached k entry (SessionStates.cached_forget hentry)
  · next state hstate =>
    have hbefore : userId' = userId → sessionId' = sessionId → now ≤ since := fun huser hsession =>
      hearlier huser hsession (by rw [hstate]; rfl)
    refine Refused.answer (h.keep k ?_) fun huser hsession hlate => ?_
    · intro entry hentry
      rcases SessionStates.cached_remember hentry with ⟨huser, hsession, rfl⟩ | hkept
      · have hnow := hbefore huser.symm hsession.symm
        dsimp only
        omega
      · exact h.cached k entry hkept
    · have hnow := hbefore huser hsession
      unfold sessionStateTtlMs at hlate
      omega

theorem Refused.invalidate {userId sessionId : Uuid} {since : ℤ}
    (h : Refused userId sessionId since store) (k : κ) (userId' : Uuid) :
    Refused userId sessionId since (store.keep k ((store.instances k).invalidate userId')) :=
  h.keep k fun entry hentry => h.cached k entry (SessionStates.cached_invalidate hentry)

end Steps

end Invariants

/-! ### Runs -/

section Runs

variable {ι κ : Type} [DecidableEq κ]

/-- Every commit leaves the session refused. -/
def StaysRefused (userId sessionId : Uuid) (since : ℤ) :
    ι → Statement κ → Store κ → Phase κ → Prop
  | _, .commit database, _, _ => Refuses database userId sessionId since
  | _, _, _, _ => True

instance (userId sessionId : Uuid) (since : ℤ) (i : ι) (statement : Statement κ) (store : Store κ)
    (phase : Phase κ) : Decidable (StaysRefused userId sessionId since i statement store phase) := by
  unfold StaysRefused
  split <;> infer_instance

/-- A clock that moves on, or stands still. -/
theorem clock_le_of_program {i : ι} {statement : Statement κ} {store store' : Store κ}
    {phase phase' : Phase κ} (h : program i statement store phase = some (store', phase')) :
    store.clock ≤ store'.clock := by
  unfold program at h
  split at h
  · split at h
    · next hle =>
      cases h
      exact hle
    · cases h
  · cases h
    exact Int.le_refl _
  · next k userId sessionId =>
    have hsame : (store.resolve k userId sessionId).1.clock = store.clock := by
      unfold Store.resolve
      split
      · rfl
      · split <;> rfl
    rw [Option.some.inj h] at hsame
    exact Int.le_of_eq hsame.symm
  · cases h
    exact Int.le_refl _
  · next k userId sessionId now row =>
    cases h
    unfold Store.finish
    split <;> exact Int.le_refl _
  · cases h
    exact Int.le_refl _
  · cases h
    exact Int.le_refl _
  · cases h

theorem sound_of_program {i : ι} {statement : Statement κ} {store store' : Store κ}
    {phase phase' : Phase κ} (h : program i statement store phase = some (store', phase'))
    (hsound : Sound store) (hstarted : Started store phase) :
    Sound store' ∧ Started store' phase' := by
  unfold program at h
  split at h
  · split at h
    · next hle =>
      cases h
      exact ⟨hsound.tick hle, hstarted.later hle⟩
    · cases h
  · cases h
    refine ⟨⟨hsound.counted, hsound.cached, hsound.answered⟩, ?_⟩
    cases phase <;> exact hstarted
  · next k userId sessionId =>
    have hresolve := hsound.resolve k userId sessionId
    rw [Option.some.inj h] at hresolve
    exact hresolve
  · cases h
    exact ⟨hsound, hstarted⟩
  · cases h
    exact ⟨hsound.finish _ _ _ hstarted _, trivial⟩
  · cases h
    exact ⟨hsound.invalidate _ _, trivial⟩
  · cases h
    exact ⟨hsound, trivial⟩
  · cases h

theorem program_keeps_sound : Keeps (@program ι κ _) Anyhow Sound
    (fun _ store phase => Started store phase) (fun _ _ => True) where
  symm := fun _ _ _ => trivial
  own := fun _ _ _ _ _ _ _ h hsound hstarted => sound_of_program h hsound hstarted
  other := fun _ _ _ _ _ _ _ _ _ _ h _ _ hother _ => ⟨hother.later (clock_le_of_program h), trivial⟩

theorem refused_of_program {userId sessionId : Uuid} {since : ℤ} {i : ι}
    {statement : Statement κ} {store store' : Store κ} {phase phase' : Phase κ}
    (hmeets : StaysRefused userId sessionId since i statement store phase)
    (h : program i statement store phase = some (store', phase'))
    (hrefused : Refused userId sessionId since store)
    (hearlier : Earlier userId sessionId since phase) :
    Refused userId sessionId since store' ∧ Earlier userId sessionId since phase' := by
  unfold program at h
  split at h
  · split at h
    · next hle =>
      cases h
      exact ⟨hrefused.tick hle, hearlier⟩
    · cases h
  · cases h
    exact ⟨⟨hrefused.reached, hmeets, hrefused.cached, hrefused.answered⟩, hearlier⟩
  · next k userId' sessionId' =>
    have hresolve := hrefused.resolve k userId' sessionId'
    rw [Option.some.inj h] at hresolve
    exact hresolve
  · next databaseNow k userId' sessionId' now =>
    cases h
    refine ⟨hrefused, fun huser hsession hlive => ?_⟩
    subst huser hsession
    -- A call that starts after the instant reads the refusal.
    by_cases hnow : since ≤ now
    · rw [hrefused.database.liveState hnow databaseNow] at hlive
      cases hlive
    · omega
  · cases h
    exact ⟨hrefused.finish _ hearlier, trivial⟩
  · cases h
    exact ⟨hrefused.invalidate _ _, trivial⟩
  · cases h
    exact ⟨hrefused, trivial⟩
  · cases h

theorem program_keeps_refused (userId sessionId : Uuid) (since : ℤ) :
    Keeps (@program ι κ _) (StaysRefused userId sessionId since) (Refused userId sessionId since)
      (fun _ _ phase => Earlier userId sessionId since phase) (fun _ _ => True) where
  symm := fun _ _ _ => trivial
  own := fun _ _ _ _ _ _ hmeets h hrefused hearlier =>
    refused_of_program hmeets h hrefused hearlier
  other := fun _ _ _ _ _ _ _ _ _ _ _ _ _ hother _ => ⟨hother, trivial⟩

variable [DecidableEq ι]

theorem holds_sound {clock : ℤ} {database : Database} {c : Interleaving ι (Store κ) (Phase κ)}
    (hrun : Run program Anyhow (start ι κ clock database) c) :
    Holds Sound (fun _ store phase => Started store phase) (fun _ _ => True) c := by
  have hstart : Holds Sound (fun _ store phase => Started store phase) (fun _ _ => True)
      (start ι κ clock database) :=
    ⟨Sound.start κ clock database, fun _ => trivial, fun _ _ _ => trivial⟩
  exact program_keeps_sound.run hrun hstart

/-- In every state the counters are right, and once the database refuses a session and keeps
refusing it, every resolve of the session that starts a period later or more returns nothing. -/
theorem revoked_session_lives_one_period {clock : ℤ} {database : Database}
    {c : Interleaving ι (Store κ) (Phase κ)}
    (hbefore : Run program Anyhow (start ι κ clock database) c) :
    (∀ k, (c.shared.instances k).size = (c.shared.instances k).count ∧
        (c.shared.instances k).size ≤ maxEntries) ∧
      ∀ userId sessionId c', Refuses c.shared.database userId sessionId c.shared.clock →
        Run program (StaysRefused userId sessionId c.shared.clock) c c' →
        ∀ answer ∈ c'.shared.answers, answer.userId = userId → answer.sessionId = sessionId →
          c.shared.clock + sessionStateTtlMs ≤ answer.startedAt → answer.state = none := by
  have hsound := holds_sound hbefore
  refine ⟨fun k => ?_, fun userId sessionId c' hrefuses hafter => ?_⟩
  · have hcounted := hsound.shared.counted k
    exact ⟨hcounted.size, hcounted.size ▸ hcounted.bound⟩
  have hstart : Holds (Refused userId sessionId c.shared.clock)
      (fun _ _ phase => Earlier userId sessionId c.shared.clock phase) (fun _ _ => True) c := by
    refine ⟨⟨Int.le_refl _, hrefuses, fun k entry hentry => ?_, fun answer hanswer _ _ hlate => ?_⟩,
      fun i => ?_, fun _ _ _ => trivial⟩
    · exact hsound.shared.cached k userId sessionId entry hentry
    · have hstarted := hsound.shared.answered answer hanswer
      unfold sessionStateTtlMs at hlate
      omega
    · have hstarted := hsound.client i
      cases hphase : c.phase i with
      | found k userId' sessionId' now row =>
        rw [hphase] at hstarted
        exact fun _ _ _ => hstarted
      | _ => trivial
  exact ((program_keeps_refused userId sessionId c.shared.clock).run hafter hstart).shared.answered

end Runs

section Samples

/-- A user with one session. -/
def loggedIn (status : RefreshTokenFamilyStatus) : Database where
  users := ⟨[⟨"ana", "pa", "ana", .active, false, none⟩], by decide⟩
  families := ⟨[⟨"s1", "ana", status, "j1", 1000000, none, none⟩],
    List.nodup_singleton _⟩

/-- A call has read the session when its family is revoked, and keeps it for one period. -/
theorem revoked_session_lives_one_period_slow :
    ∃ c c' : Interleaving Bool (Store Unit) (Phase Unit),
      (∀ k, (c'.shared.instances k).size = (c'.shared.instances k).count ∧
        (c'.shared.instances k).size ≤ maxEntries) ∧
      (∀ answer ∈ c'.shared.answers, answer.userId = "ana" → answer.sessionId = "s1" →
        c.shared.clock + sessionStateTtlMs ≤ answer.startedAt → answer.state = none) ∧
      c'.shared.answers.map (fun answer => (answer.startedAt, answer.state.isSome)) =
        [(0, true), (4999, true), (5000, false)] := by
  have hcheck := @exists_run_run Bool (Store Unit) (Phase Unit) (Statement Unit) _
    (@program Bool Unit _) (StaysRefused "ana" "s1" 0) (start Bool Unit 0 (loggedIn .active)) _
    [(false, .resolve () "ana" "s1"), (false, .query 0), (true, .commit (loggedIn .revoked))]
    [(false, .finish), (true, .tick 4999), (true, .resolve () "ana" "s1"), (true, .tick 5000),
      (true, .resolve () "ana" "s1"), (true, .query 5000), (true, .finish)]
    (fun c => decide (c.shared.clock = 0 ∧ Refuses c.shared.database "ana" "s1" 0))
    (fun c => decide (c.shared.answers.map (fun answer => (answer.startedAt, answer.state.isSome)) =
      [(0, true), (4999, true), (5000, false)]))
    (by decide +kernel)
  obtain ⟨c, c', hbefore, hafter, hseen, hlast⟩ := hcheck
  obtain ⟨hclock, hrefuses⟩ := of_decide_eq_true hseen
  rw [← hclock] at hrefuses hafter
  have hanyhow : Run program Anyhow (start Bool Unit 0 (loggedIn .active)) c :=
    hbefore.mono fun _ _ _ _ _ => trivial
  have hanyhow' : Run program Anyhow c c' := hafter.mono fun _ _ _ _ _ => trivial
  exact ⟨c, c', (revoked_session_lives_one_period (hanyhow.trans hanyhow')).1,
    (revoked_session_lives_one_period hanyhow).2 "ana" "s1" c' hrefuses hafter, of_decide_eq_true hlast⟩

end Samples

end InternalControl.SessionState
