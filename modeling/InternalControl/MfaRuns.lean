import InternalControl.MfaAccount

/-!
# Time steps over runs of requests

A step is recorded for the user, whatever secret it was matched against. While
a step is recorded, and a secret enabled at the end of a setup, only when the
row still has the secret that the request has read, each step of a secret
authorises one operation, and none does after the secret is gone.
-/

namespace InternalControl.Mfa

open Interleaving

variable {ι Code : Type}

/-- A step is recorded and a setup is completed for the secret of the row. -/
def ForCurrentSecret : ι → Statement Code → Store → Phase → Prop
  | _, .recordTotpStep, store, .matched _ secret _ => store.user.mfaSecret = some secret
  | _, .completeSetupEnrollment, store, .accepted _ (some secret) =>
    store.user.mfaSecret = some secret
  | _, _, _, _ => True

instance (i : ι) (statement : Statement Code) (store : Store) (phase : Phase) :
    Decidable (ForCurrentSecret i statement store phase) := by
  unfold ForCurrentSecret
  split <;> infer_instance

/-! ### Invariants of the row -/

/-- The secrets of the row were generated, the pending one authorised nothing, and no step of the
current one above the last is recorded. -/
structure Sound (store : Store) : Prop where
  current : ∀ secret ∈ store.user.mfaSecret, secret ∈ store.generated
  pending : ∀ secret ∈ store.user.mfaPendingSecret, secret ∈ store.generated ∧
    store.user.mfaSecret ≠ some secret ∧ ∀ entry ∈ store.authorized, entry.secret ≠ secret
  known : ∀ entry ∈ store.authorized, entry.secret ∈ store.generated
  recorded : ∀ entry ∈ store.authorized, store.user.mfaSecret = some entry.secret →
    ∃ last ∈ store.user.mfaLastTotpStep, entry.step ≤ last
  once : store.authorized.Nodup

/-- A secret that was generated and is in the row no more never comes back, and what it
authorised stays as it is. -/
structure Retires (before after : Store) : Prop where
  generated : ∀ secret ∈ before.generated, secret ∈ after.generated
  pending : ∀ secret ∈ before.generated, before.user.mfaPendingSecret ≠ some secret →
    after.user.mfaPendingSecret ≠ some secret
  gone : ∀ secret ∈ before.generated, before.user.mfaSecret ≠ some secret →
    before.user.mfaPendingSecret ≠ some secret → after.user.mfaSecret ≠ some secret ∧
      (after.authorized.filter fun entry => entry.secret = secret) =
        before.authorized.filter fun entry => entry.secret = secret

theorem Retires.refl (store : Store) : Retires store store :=
  ⟨fun _ h => h, fun _ _ h => h, fun _ _ hcurrent _ => ⟨hcurrent, rfl⟩⟩

theorem Retires.trans {first second third : Store} (h : Retires first second)
    (h' : Retires second third) : Retires first third := by
  refine ⟨fun secret hin => h'.generated secret (h.generated secret hin),
    fun secret hin hpending => ?_, fun secret hin hcurrent hpending => ?_⟩
  · exact h'.pending secret (h.generated secret hin) (h.pending secret hin hpending)
  · obtain ⟨hcurrent', hsame⟩ := h.gone secret hin hcurrent hpending
    obtain ⟨hcurrent'', hsame'⟩ := h'.gone secret (h.generated secret hin) hcurrent'
      (h.pending secret hin hpending)
    exact ⟨hcurrent'', hsame'.trans hsame⟩

/-- What a statement writes: nothing, a step of the current secret, a new secret, the pending
secret in place of the current one, the current one enabled, or none. -/
inductive Effect (store : Store) : Store → Prop
  | wait : Effect store store
  | record (secret : Secret) (step : ℕ) (user : AppUser) (hcurrent : store.user.mfaSecret = some secret)
      (hrecord : store.user.recordTotpStep step = some user) :
      Effect store (store.authorize secret step user)
  | enable (secret : Secret) (hcurrent : store.user.mfaSecret = some secret) :
      Effect store (store.write (store.user.activate secret none))
  | pend (secret : Secret) (now : ℤ) (hfresh : secret ∉ store.generated) :
      Effect store { store with
        user := store.user.savePending secret now, generated := secret :: store.generated }
  | replace (secret : Secret) (hfresh : secret ∉ store.generated) :
      Effect store { store with
        user := store.user.saveMfaSecret secret, generated := secret :: store.generated }
  | confirm (secret : Secret) (step : ℕ) (hpending : store.user.mfaPendingSecret = some secret) :
      Effect store (store.authorize secret step (store.user.activate secret (some step)))
  | clear (enrollmentRequired : Bool) : Effect store (store.write (AppUser.clear enrollmentRequired))

theorem generate_eq_some {store after : Store} {secret : Secret} {user : AppUser}
    (h : store.generate secret user = some after) : secret ∉ store.generated ∧
      after = { store with user := user, generated := secret :: store.generated } := by
  unfold Store.generate at h
  split at h
  · cases h
  · next hfresh =>
    cases h
    exact ⟨hfresh, rfl⟩

theorem effect_of_program {matchTotp : ℤ → Code → Secret → Option ℕ} {i : ι}
    {statement : Statement Code} {store store' : Store} {phase phase' : Phase}
    (hmeets : ForCurrentSecret i statement store phase)
    (h : program matchTotp i statement store phase = some (store', phase')) : Effect store store' := by
  unfold program at h
  split at h
  · cases h
    exact .wait
  · cases h
    exact .wait
  · next purpose secret step =>
    split at h
    · cases h
      exact .wait
    · next user hrecord =>
      cases h
      exact .record secret step user hmeets hrecord
  · cases h
    exact .wait
  · cases h
    exact .wait
  · next secret =>
    cases h
    exact .enable secret hmeets
  · obtain ⟨after, hgenerate, heq⟩ := Option.map_eq_some_iff.mp h
    obtain ⟨hfresh, rfl⟩ := generate_eq_some hgenerate
    cases heq
    exact .pend _ _ hfresh
  · cases h
    exact .clear false
  · cases h
    exact .wait
  · cases h
    exact .wait
  · next secret step =>
    split at h
    · next hpending =>
      cases h
      exact .confirm secret step hpending
    · cases h
      exact .wait
  · cases h
    exact .clear true
  · cases h
    exact .wait
  · obtain ⟨after, hgenerate, heq⟩ := Option.map_eq_some_iff.mp h
    obtain ⟨hfresh, rfl⟩ := generate_eq_some hgenerate
    cases heq
    exact .replace _ hfresh
  · cases h
    exact .wait
  · cases h

section Steps

variable {store store' : Store}

theorem Sound.start (enrollmentRequired : Bool) : Sound ⟨AppUser.clear enrollmentRequired, [], []⟩ :=
  ⟨by simp [AppUser.clear], by simp [AppUser.clear], by simp, by simp, List.nodup_nil⟩

/-- A step that is recorded is above every step of the current secret. -/
theorem Sound.record (h : Sound store) {secret : Secret} {step : ℕ} {user : AppUser}
    (hcurrent : store.user.mfaSecret = some secret)
    (hrecord : store.user.recordTotpStep step = some user) :
    Sound (store.authorize secret step user) := by
  unfold AppUser.recordTotpStep at hrecord
  split at hrecord
  · next hbelow =>
    cases hrecord
    refine ⟨h.current, fun pending hpending => ?_, fun entry hentry => ?_, fun entry hentry hsame => ?_, ?_⟩
    · obtain ⟨hgenerated, hother, hunused⟩ := h.pending pending hpending
      refine ⟨hgenerated, hother, fun entry hentry => ?_⟩
      rcases List.mem_append.mp hentry with hentry | hentry
      · exact hunused entry hentry
      · cases List.mem_singleton.mp hentry
        rintro rfl
        exact hother hcurrent
    · rcases List.mem_append.mp hentry with hentry | hentry
      · exact h.known entry hentry
      · cases List.mem_singleton.mp hentry
        exact h.current secret hcurrent
    · refine ⟨step, rfl, ?_⟩
      rcases List.mem_append.mp hentry with hentry | hentry
      · obtain ⟨last, hlast, hle⟩ := h.recorded entry hentry hsame
        exact Nat.le_trans hle (Nat.le_of_lt (hbelow last hlast))
      · cases List.mem_singleton.mp hentry
        exact Nat.le_refl _
    · refine List.nodup_append.mpr ⟨h.once, by simp, ?_⟩
      rintro entry hentry last hlast rfl
      cases List.mem_singleton.mp hlast
      obtain ⟨last, hlast, hle⟩ := h.recorded _ hentry hcurrent
      exact absurd (hbelow last hlast) (Nat.not_lt.mpr hle)
  · cases hrecord

/-- The pending secret becomes the current one with its first step. -/
theorem Sound.confirm (h : Sound store) {secret : Secret} (step : ℕ)
    (hpending : store.user.mfaPendingSecret = some secret) :
    Sound (store.authorize secret step (store.user.activate secret (some step))) := by
  obtain ⟨hgenerated, -, hunused⟩ := h.pending secret hpending
  refine ⟨?_, fun _ hnone => (by cases hnone), fun entry hentry => ?_, fun entry hentry hsame => ?_, ?_⟩
  · rintro _ ⟨⟩
    exact hgenerated
  · rcases List.mem_append.mp hentry with hentry | hentry
    · exact h.known entry hentry
    · cases List.mem_singleton.mp hentry
      exact hgenerated
  · refine ⟨max (store.user.mfaLastTotpStep.getD step) step, rfl, ?_⟩
    rcases List.mem_append.mp hentry with hentry | hentry
    · exact absurd (Option.some.inj hsame).symm (hunused entry hentry)
    · cases List.mem_singleton.mp hentry
      exact Nat.le_max_right _ _
  · refine List.nodup_append.mpr ⟨h.once, by simp, ?_⟩
    rintro entry hentry last hlast rfl
    cases List.mem_singleton.mp hlast
    exact hunused _ hentry rfl

theorem Sound.effect (h : Sound store) (heffect : Effect store store') : Sound store' := by
  cases heffect with
  | wait => exact h
  | record secret step user hcurrent hrecord => exact h.record hcurrent hrecord
  | confirm secret step hpending => exact h.confirm step hpending
  | enable secret hcurrent =>
    refine ⟨?_, fun _ hnone => (by cases hnone), h.known, fun entry hentry hsame => ?_, h.once⟩
    · rintro _ ⟨⟩
      exact h.current secret hcurrent
    · exact h.recorded entry hentry (hcurrent.trans hsame)
  | pend secret now hfresh =>
    refine ⟨fun current hcurrent => List.mem_cons_of_mem _ (h.current current hcurrent), ?_,
      fun entry hentry => List.mem_cons_of_mem _ (h.known entry hentry), h.recorded, h.once⟩
    rintro _ ⟨⟩
    refine ⟨List.mem_cons_self .., fun hsame => hfresh (h.current secret hsame),
      fun entry hentry hsame => hfresh ?_⟩
    exact hsame ▸ h.known entry hentry
  | replace secret hfresh =>
    refine ⟨?_, fun pending hpending => ?_,
      fun entry hentry => List.mem_cons_of_mem _ (h.known entry hentry), fun entry hentry hsame => ?_,
      h.once⟩
    · rintro _ ⟨⟩
      exact List.mem_cons_self ..
    · obtain ⟨hgenerated, -, hunused⟩ := h.pending pending hpending
      refine ⟨List.mem_cons_of_mem _ hgenerated, fun hsame => hfresh ?_, hunused⟩
      exact Option.some.inj hsame ▸ hgenerated
    · have hknown := h.known entry hentry
      exact absurd (Option.some.inj hsame ▸ hknown) hfresh
  | clear enrollmentRequired =>
    exact ⟨fun _ hnone => (by cases hnone), fun _ hnone => (by cases hnone), h.known,
      fun _ _ hnone => (by cases hnone), h.once⟩

/-- An entry of another secret does not show among those of one. -/
theorem filter_authorize {secret other : Secret} (h : other ≠ secret) (step : ℕ) (user : AppUser) :
    ((store.authorize other step user).authorized.filter fun entry => entry.secret = secret) =
      store.authorized.filter fun entry => entry.secret = secret := by
  simp [Store.authorize, List.filter_append, h]

theorem Retires.effect (heffect : Effect store store') : Retires store store' := by
  cases heffect with
  | wait => exact Retires.refl store
  | record secret step user hcurrent hrecord =>
    unfold AppUser.recordTotpStep at hrecord
    split at hrecord
    · cases hrecord
      refine ⟨fun _ hin => hin, fun _ _ hpending => hpending, fun _ _ hother _ => ⟨hother, ?_⟩⟩
      refine filter_authorize (fun hsame => hother ?_) _ _
      rw [hcurrent, hsame]
    · cases hrecord
  | enable secret hcurrent =>
    refine ⟨fun _ hin => hin, fun _ _ _ hnone => (by cases hnone), fun _ _ hother _ => ⟨?_, rfl⟩⟩
    rw [hcurrent] at hother
    exact hother
  | pend secret now hfresh =>
    refine ⟨fun _ hin => List.mem_cons_of_mem _ hin, fun _ hin _ hsame => hfresh ?_,
      fun _ _ hother _ => ⟨hother, rfl⟩⟩
    exact Option.some.inj hsame ▸ hin
  | replace secret hfresh =>
    refine ⟨fun _ hin => List.mem_cons_of_mem _ hin, fun _ _ hpending => hpending,
      fun _ hin _ _ => ⟨fun hsame => hfresh ?_, rfl⟩⟩
    exact Option.some.inj hsame ▸ hin
  | confirm secret step hpending =>
    refine ⟨fun _ hin => hin, fun _ _ _ hnone => (by cases hnone), fun retired _ _ hother => ?_⟩
    have hne : secret ≠ retired := fun hsame => hother (hpending.trans (congrArg some hsame))
    exact ⟨fun hsame => hne (Option.some.inj hsame), filter_authorize hne _ _⟩
  | clear enrollmentRequired =>
    exact ⟨fun _ hin => hin, fun _ _ _ hnone => (by cases hnone),
      fun _ _ _ _ => ⟨fun hnone => (by cases hnone), rfl⟩⟩

end Steps

/-! ### Runs -/

section Runs

variable {matchTotp : ℤ → Code → Secret → Option ℕ}

theorem program_keeps : Keeps (@program ι Code matchTotp) ForCurrentSecret Sound
    (fun _ _ _ => True) (fun _ _ => True) where
  symm := fun _ _ _ => trivial
  own := fun _ _ _ _ _ _ hmeets h hsound _ => ⟨hsound.effect (effect_of_program hmeets h), trivial⟩
  other := fun _ _ _ _ _ _ _ _ _ _ _ _ _ _ _ => ⟨trivial, trivial⟩

variable [DecidableEq ι]

end Runs

section Samples

/-- A code that is the number of its step. -/
def plainCode (_ : ℤ) (code : ℕ) (_ : Secret) : Option ℕ := some code

/-- The user enrols a device at step 100. -/
def enrol : List (Bool × Statement ℕ) :=
  [(false, .read .reenroll), (false, .savePending "S" 0), (false, .findPending 1),
    (false, .matchTotp 100 1), (false, .confirmEnrollment)]

/-- A login with the code of step 101, and then the reset of an administrator. -/
def loginThenReset : List (Bool × Statement ℕ) :=
  [(false, .read .login), (false, .matchTotp 101 30), (false, .recordTotpStep),
    (true, .resetByAdmin)]

def hasSecret (secret : Option Secret) (c : Interleaving Bool Store Phase) : Bool :=
  c.shared.user.mfaSecret = secret

end Samples

end InternalControl.Mfa
