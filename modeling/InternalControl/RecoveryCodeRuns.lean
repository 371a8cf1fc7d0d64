import InternalControl.RecoveryCodes

/-!
# Recovery codes over runs of requests

The update that uses a code up names the row that was listed. It changes that
row once, and none when the row was deleted in between, so no row authorises two
operations and none of a set does after the set is replaced or deleted.
-/

namespace InternalControl.RecoveryCodes

open Interleaving

variable {ι Hash : Type} {verify : Hash → String → Bool}

/-! ### Invariants -/

/-- A row of this id was inserted, and its hash is that of the code. -/
def Verified (verify : Hash → String → Bool) (store : Store ι Hash) (id : ℕ) (canonical : String) :
    Prop :=
  ∃ origin ∈ store.inserted, origin.id = id ∧ verify origin.codeHash canonical = true

/-- A row of this id and this hash was inserted. -/
def Inserted (store : Store ι Hash) (id : ℕ) (codeHash : Hash) : Prop :=
  ∃ origin ∈ store.inserted, origin.id = id ∧ origin.codeHash = codeHash

/-- The codes were inserted, each authorisation is of a row that is used or gone, and no row has
two of them. -/
structure Sound (verify : Hash → String → Bool) (store : Store ι Hash) : Prop where
  known : ∀ row ∈ store.codes.rows, Inserted store row.id row.codeHash
  spent : ∀ entry ∈ store.authorized, Verified verify store entry.id entry.code
  used : ∀ entry ∈ store.authorized, ∀ row ∈ store.codes.rows, row.id = entry.id → row.usedAt ≠ none
  once : (store.authorized.map Authorization.id).Nodup

/-- Rows that were inserted once and are gone. -/
def Retired (old : List ℕ) (store : Store ι Hash) : Prop :=
  ∀ id ∈ old, (∃ origin ∈ store.inserted, origin.id = id) ∧ ∀ row ∈ store.codes.rows, row.id ≠ id

/-- A set that only its transaction sees. -/
structure Unseen (store : Store ι Hash) (codes : Codes Hash) : Prop where
  inserted : ∀ row ∈ codes.rows, row ∈ store.inserted
  apart : ∀ row ∈ codes.rows, ∀ other ∈ store.codes.rows, other.id ≠ row.id
  unspent : ∀ row ∈ codes.rows, ∀ entry ∈ store.authorized, entry.id ≠ row.id

/-- What a request knows where it is. -/
def Working (verify : Hash → String → Bool) (old : List ℕ) (i : ι) (store : Store ι Hash) :
    Phase Hash → Prop
  | .matching _ _ candidates =>
    ∀ candidate ∈ candidates, Inserted store candidate.id candidate.codeHash
  | .matched _ canonical id => Verified verify store id canonical
  | .locked _ => store.lockedBy = some i
  | .deleted _ => store.lockedBy = some i
  | .issued codes => store.lockedBy = some i ∧ Unseen store codes ∧ ∀ row ∈ codes.rows, row.id ∉ old
  | _ => True

/-- What a statement writes: nothing, a code that is used up, a lock, a deletion or rows that wait
for the end of their transaction, its end, or its withdrawal. -/
inductive Effect (verify : Hash → String → Bool) (old : List ℕ) (i : ι) (store : Store ι Hash) :
    Store ι Hash → Prop
  | wait : Effect verify old i store store
  | consume (id : ℕ) (canonical : String) (now : ℤ) (hverified : Verified verify store id canonical)
      (hunused : ∃ row ∈ store.codes.rows, row.id = id ∧ row.usedAt = none) :
      Effect verify old i store (store.consume id canonical now)
  | lock (hfree : store.lockedBy = none) : Effect verify old i store (store.lockUser i)
  | delete : Effect verify old i store store.deleteRecoveryCodes
  | insert (rows : List (MfaRecoveryCode Hash)) :
      Effect verify old i store (store.insertRecoveryCodes rows)
  | commit (codes : Codes Hash) (hlocked : store.lockedBy = some i) (hunseen : Unseen store codes)
      (hnew : ∀ row ∈ codes.rows, row.id ∉ old) : Effect verify old i store (store.commit codes)
  | rollback (hlocked : store.lockedBy = some i) : Effect verify old i store store.rollback

section Facts

variable {store : Store ι Hash} {old : List ℕ} {i : ι}

theorem mem_findUnusedRecoveryCodes {codes : Codes Hash} {candidate : StoredRecoveryCode Hash}
    (h : candidate ∈ findUnusedRecoveryCodes codes) :
    ∃ row ∈ codes.rows, row.id = candidate.id ∧ row.codeHash = candidate.codeHash := by
  obtain ⟨row, hrow, rfl⟩ := List.mem_map.mp h
  have hlisted := (List.mem_insertionSort _).mp hrow
  exact ⟨row, List.mem_of_mem_filter hlisted, rfl, rfl⟩

theorem exists_unused {codes : Codes Hash} {id : ℕ} (h : codes.affected (consumable id) = 1) :
    ∃ row ∈ codes.rows, row.id = id ∧ row.usedAt = none := by
  obtain ⟨row, hfound, hid, hunused⟩ := (Table.affected_eq_one_iff fun row hrow => hrow.1).mp h
  exact ⟨row, Table.mem_of_find? hfound, hid, hunused⟩

/-- Where the rows come from after a code is used up. -/
theorem mem_consumeRecoveryCode {codes : Codes Hash} {id : ℕ} {now : ℤ} {row : MfaRecoveryCode Hash}
    (h : row ∈ (consumeRecoveryCode codes id now).rows) :
    ∃ before ∈ codes.rows, before.id = row.id ∧ before.codeHash = row.codeHash ∧
      (before.usedAt ≠ none → row.usedAt ≠ none) ∧ (row.id = id → row.usedAt ≠ none) := by
  obtain ⟨before, hbefore, hrow⟩ := List.mem_map.mp h
  refine ⟨before, hbefore, ?_⟩
  by_cases hpicked : consumable id before
  · rw [if_pos hpicked] at hrow
    subst hrow
    exact ⟨rfl, rfl, fun _ hnone => (by cases hnone), fun _ hnone => (by cases hnone)⟩
  · rw [if_neg hpicked] at hrow
    subst hrow
    exact ⟨rfl, rfl, fun hused => hused, fun hid hnone => hpicked ⟨hid, hnone⟩⟩

theorem mem_newRecoveryCodes {codeHashes : List Hash} {ids : List ℕ} {now : ℤ}
    {row : MfaRecoveryCode Hash} (h : row ∈ newRecoveryCodes codeHashes ids now) : row.id ∈ ids := by
  induction ids generalizing codeHashes with
  | nil => cases h
  | cons id ids ih =>
    cases codeHashes with
    | nil => cases h
    | cons codeHash codeHashes =>
      have hmem : row ∈ ⟨id, codeHash, none, now⟩ :: newRecoveryCodes codeHashes ids now := h
      rcases List.mem_cons.mp hmem with hfirst | hrest
      · have hid : row.id = id := congrArg MfaRecoveryCode.id hfirst
        rw [hid]
        exact List.mem_cons_self ..
      · exact List.mem_cons_of_mem _ (ih hrest)

theorem Unseen.empty (store : Store ι Hash) : Unseen store Table.empty :=
  ⟨by simp [Table.empty], by simp [Table.empty], by simp [Table.empty]⟩

/-- Rows with ids that were never used make a set that nobody else sees. -/
theorem Unseen.insert (hsound : Sound verify store) {rows : List (MfaRecoveryCode Hash)}
    {codes : Codes Hash} (hrows : codes.rows = rows)
    (hfresh : ∀ row ∈ rows, ∀ origin ∈ store.inserted, origin.id ≠ row.id) :
    Unseen (store.insertRecoveryCodes rows) codes := by
  subst hrows
  refine ⟨fun row hrow => List.mem_append_right _ hrow, fun row hrow other hother hsame => ?_,
    fun row hrow entry hentry hsame => ?_⟩
  · obtain ⟨origin, horigin, hid, -⟩ := hsound.known other hother
    exact hfresh row hrow origin horigin (hid.trans hsame)
  · obtain ⟨origin, horigin, hid, -⟩ := hsound.spent entry hentry
    exact hfresh row hrow origin horigin (hid.trans hsame)

theorem Verified.mono {store' : Store ι Hash} {id : ℕ} {canonical : String}
    (h : Verified verify store id canonical) (hinserted : store.inserted ⊆ store'.inserted) :
    Verified verify store' id canonical := by
  obtain ⟨origin, horigin, hverified⟩ := h
  exact ⟨origin, hinserted horigin, hverified⟩

theorem Inserted.mono {store' : Store ι Hash} {id : ℕ} {codeHash : Hash}
    (h : Inserted store id codeHash) (hinserted : store.inserted ⊆ store'.inserted) :
    Inserted store' id codeHash := by
  obtain ⟨origin, horigin, hsame⟩ := h
  exact ⟨origin, hinserted horigin, hsame⟩

end Facts

/-! ### Statements -/

section Statements

variable [DecidableEq ι] {toUpperCase : String → String} {old : List ℕ} {i : ι}
  {statement : Statement Hash} {store store' : Store ι Hash} {phase phase' : Phase Hash}

theorem effect_of_program (hworking : Working verify old i store phase)
    (h : program toUpperCase verify i statement store phase = some (store', phase')) :
    Effect verify old i store store' := by
  unfold program at h
  split at h
  · cases h
    exact .wait
  · cases h
    exact .wait
  · cases h
    exact .wait
  · next now purpose canonical id =>
    split at h
    · cases h
    · split at h
      · next hone =>
        cases h
        exact .consume id canonical now hworking (exists_unused hone)
      · cases h
        exact .wait
  · cases h
    exact .wait
  · cases h
    exact .wait
  · cases h
    exact .wait
  · cases h
    exact .wait
  · split at h
    · next hfree =>
      cases h
      exact .lock hfree
    · cases h
  · cases h
    exact .delete
  · split at h
    · obtain ⟨codes, -, heq⟩ := Option.map_eq_some_iff.mp h
      cases heq
      exact .insert _
    · cases h
  · cases h
    have hlocked : store.lockedBy = some i := hworking
    exact .commit Table.empty hlocked (Unseen.empty store) (by simp [Table.empty])
  · next codes =>
    cases h
    obtain ⟨hlocked, hunseen, hnew⟩ := hworking
    exact .commit codes hlocked hunseen hnew
  · cases h
    split
    · next hlocked => exact .rollback hlocked
    · exact .wait
  · cases h

/-- What a request knows after its statement. -/
theorem Working.own (hsound : Sound verify store) (hretired : Retired old store)
    (hworking : Working verify old i store phase)
    (h : program toUpperCase verify i statement store phase = some (store', phase')) :
    Working verify old i store' phase' := by
  unfold program at h
  split at h
  · cases h
    split
    · trivial
    · intro candidate hcandidate
      obtain ⟨row, hrow, hid, hhash⟩ := mem_findUnusedRecoveryCodes hcandidate
      rw [← hid, ← hhash]
      exact hsound.known row hrow
  · next purpose canonical candidate candidates =>
    cases h
    have hinserted : ∀ other ∈ candidate :: candidates, Inserted store other.id other.codeHash :=
      hworking
    split
    · next hverify =>
      obtain ⟨origin, horigin, hid, hhash⟩ := hinserted candidate (List.mem_cons_self ..)
      rw [← hhash] at hverify
      exact ⟨origin, horigin, hid, hverify⟩
    · exact fun other hother => hinserted other (List.mem_cons_of_mem _ hother)
  · cases h
    trivial
  · split at h
    · cases h
    · split at h <;> cases h <;> trivial
  · cases h
    trivial
  · cases h
    trivial
  · cases h
    trivial
  · cases h
    trivial
  · split at h
    · cases h
      exact rfl
    · cases h
  · cases h
    exact hworking
  · next ids now codeHashes =>
    split at h
    · next hids =>
      obtain ⟨codes, hcodes, heq⟩ := Option.map_eq_some_iff.mp h
      cases heq
      have hrows : codes.rows = newRecoveryCodes codeHashes ids now :=
        Table.insertAll_eq_some_iff.mp hcodes
      have hfresh : ∀ row ∈ newRecoveryCodes codeHashes ids now, ∀ origin ∈ store.inserted,
          origin.id ≠ row.id := by
        intro row hrow origin horigin hsame
        have hid := mem_newRecoveryCodes hrow
        exact hids.2 origin horigin (hsame ▸ hid)
      refine ⟨hworking, Unseen.insert hsound hrows hfresh, fun row hrow hold => ?_⟩
      obtain ⟨⟨origin, horigin, hid⟩, -⟩ := hretired row.id hold
      exact hfresh row (hrows ▸ hrow) origin horigin hid
    · cases h
  · cases h
    trivial
  · cases h
    trivial
  · cases h
    trivial
  · cases h

end Statements

/-! ### Effects -/

section Effects

variable {store store' : Store ι Hash} {old : List ℕ} {i k : ι}

theorem Effect.inserted (h : Effect verify old i store store') :
    store.inserted ⊆ store'.inserted := by
  cases h with
  | insert rows => exact fun _ horigin => List.mem_append_left _ horigin
  | _ => exact fun _ horigin => horigin

/-- A code that is used up was not, and its row shows it. -/
theorem Sound.consume (h : Sound verify store) {id : ℕ} {canonical : String} (now : ℤ)
    (hverified : Verified verify store id canonical)
    (hunused : ∃ row ∈ store.codes.rows, row.id = id ∧ row.usedAt = none) :
    Sound verify (store.consume id canonical now) := by
  refine ⟨fun row hrow => ?_, fun entry hentry => ?_, fun entry hentry row hrow hsame => ?_, ?_⟩
  · obtain ⟨before, hbefore, hid, hhash, -⟩ := mem_consumeRecoveryCode hrow
    rw [← hid, ← hhash]
    exact h.known before hbefore
  · rcases List.mem_append.mp hentry with hentry | hlast
    · exact h.spent entry hentry
    · cases List.mem_singleton.mp hlast
      exact hverified
  · obtain ⟨before, hbefore, hid, -, hstays, hused⟩ := mem_consumeRecoveryCode hrow
    rcases List.mem_append.mp hentry with hentry | hlast
    · exact hstays (h.used entry hentry before hbefore (hid.trans hsame))
    · cases List.mem_singleton.mp hlast
      exact hused hsame
  · have hnew : id ∉ store.authorized.map Authorization.id := by
      intro hspent
      obtain ⟨entry, hentry, hid⟩ := List.mem_map.mp hspent
      obtain ⟨row, hrow, hrowid, hnone⟩ := hunused
      exact h.used entry hentry row hrow (hrowid.trans hid.symm) hnone
    have hmap : (store.consume id canonical now).authorized.map Authorization.id =
        store.authorized.map Authorization.id ++ [id] := List.map_append
    rw [hmap]
    exact List.nodup_append.mpr ⟨h.once, List.nodup_singleton id, fun other hother last hlast hsame =>
      hnew (List.mem_singleton.mp hlast ▸ hsame ▸ hother)⟩

theorem Sound.effect (h : Sound verify store) (heffect : Effect verify old i store store') :
    Sound verify store' := by
  cases heffect with
  | wait => exact h
  | lock hfree => exact ⟨h.known, h.spent, h.used, h.once⟩
  | delete => exact ⟨h.known, h.spent, h.used, h.once⟩
  | rollback hlocked => exact ⟨h.known, h.spent, h.used, h.once⟩
  | consume id canonical now hverified hunused => exact h.consume now hverified hunused
  | insert rows =>
    have hmore : store.inserted ⊆ (store.insertRecoveryCodes rows).inserted :=
      List.subset_append_left _ _
    exact ⟨fun row hrow => (h.known row hrow).mono hmore,
      fun entry hentry => (h.spent entry hentry).mono hmore, h.used, h.once⟩
  | commit codes hlocked hunseen hnew =>
    refine ⟨fun row hrow => ?_, h.spent, fun entry hentry row hrow hsame => ?_, h.once⟩
    · exact ⟨row, hunseen.inserted row hrow, rfl, rfl⟩
    · exact absurd hsame.symm (hunseen.unspent row hrow entry hentry)

/-- Rows that are gone stay gone. -/
theorem Retired.effect (h : Retired old store) (heffect : Effect verify old i store store') :
    Retired old store' := by
  have hinserted := heffect.inserted
  intro id hid
  obtain ⟨⟨origin, horigin, hsame⟩, hgone⟩ := h id hid
  refine ⟨⟨origin, hinserted horigin, hsame⟩, ?_⟩
  cases heffect with
  | consume used canonical now hverified hunused =>
    intro row hrow hrowid
    obtain ⟨before, hbefore, hbeforeid, -⟩ := mem_consumeRecoveryCode hrow
    exact hgone before hbefore (hbeforeid.trans hrowid)
  | commit codes hlocked hunseen hnew => exact fun row hrow hrowid => hnew row hrow (hrowid ▸ hid)
  | _ => exact hgone

/-- A set that only its transaction sees is not touched by the statements of others. -/
theorem Unseen.effect {codes : Codes Hash} (h : Unseen store codes)
    (hlocked : store.lockedBy = some k) (hik : i ≠ k)
    (heffect : Effect verify old i store store') : store'.lockedBy = some k ∧ Unseen store' codes := by
  cases heffect with
  | wait => exact ⟨hlocked, h⟩
  | delete => exact ⟨hlocked, h.inserted, h.apart, h.unspent⟩
  | insert rows =>
    exact ⟨hlocked, fun row hrow => List.mem_append_left _ (h.inserted row hrow), h.apart, h.unspent⟩
  | lock hfree =>
    rw [hfree] at hlocked
    cases hlocked
  | commit _ hother _ _ =>
    rw [hlocked] at hother
    exact absurd (Option.some.inj hother).symm hik
  | rollback hother =>
    rw [hlocked] at hother
    exact absurd (Option.some.inj hother).symm hik
  | consume id canonical now hverified hunused =>
    refine ⟨hlocked, h.inserted, fun row hrow other hother hsame => ?_, fun row hrow entry hentry => ?_⟩
    · obtain ⟨before, hbefore, hid, -⟩ := mem_consumeRecoveryCode hother
      exact h.apart row hrow before hbefore (hid.trans hsame)
    · rcases List.mem_append.mp hentry with hentry | hlast
      · exact h.unspent row hrow entry hentry
      · cases List.mem_singleton.mp hlast
        obtain ⟨used, hused, hid, -⟩ := hunused
        exact hid ▸ h.apart row hrow used hused

theorem lockedBy_effect (hlocked : store.lockedBy = some k) (hik : i ≠ k)
    (heffect : Effect verify old i store store') : store'.lockedBy = some k :=
  (Unseen.empty store).effect hlocked hik heffect |>.1

theorem Working.other {phase : Phase Hash} (h : Working verify old k store phase) (hik : i ≠ k)
    (heffect : Effect verify old i store store') : Working verify old k store' phase := by
  cases phase with
  | matching purpose canonical candidates =>
    exact fun candidate hcandidate => (h candidate hcandidate).mono heffect.inserted
  | matched purpose canonical id => exact Verified.mono h heffect.inserted
  | locked change => exact lockedBy_effect h hik heffect
  | deleted change => exact lockedBy_effect h hik heffect
  | issued codes =>
    obtain ⟨hlocked, hunseen, hnew⟩ := h
    obtain ⟨hlocked', hunseen'⟩ := hunseen.effect hlocked hik heffect
    exact ⟨hlocked', hunseen', hnew⟩
  | _ => trivial

/-- What a statement adds to the authorisations: at most one, of a row that is not gone. -/
theorem authorized_effect (hretired : Retired old store)
    (heffect : Effect verify old i store store') :
    ∃ later, store'.authorized = store.authorized ++ later ∧ ∀ entry ∈ later, entry.id ∉ old := by
  cases heffect with
  | consume id canonical now hverified hunused =>
    refine ⟨[⟨id, canonical⟩], rfl, fun entry hentry hold => ?_⟩
    cases List.mem_singleton.mp hentry
    obtain ⟨row, hrow, hid, -⟩ := hunused
    exact (hretired id hold).2 row hrow hid
  | _ => exact ⟨[], (List.append_nil _).symm, fun _ hentry => nomatch hentry⟩

end Effects

/-! ### Runs -/

section Runs

variable {old : List ℕ}

theorem start_holds : Holds (fun store => Sound verify store ∧ Retired [] store)
    (Working verify []) (fun _ _ => True) (start ι Hash) :=
  ⟨⟨⟨by simp [start, Table.empty], by simp [start], by simp [start], List.nodup_nil⟩,
    by simp [Retired]⟩, fun _ => trivial, fun _ _ _ => trivial⟩

/-- While no transaction runs, no request has rows of its own. -/
theorem Working.retire {k : ι} {store : Store ι Hash} {phase : Phase Hash}
    (h : Working verify [] k store phase) (hfree : store.lockedBy = none) :
    Working verify old k store phase := by
  cases phase with
  | issued codes =>
    obtain ⟨hlocked, -⟩ := h
    rw [hfree] at hlocked
    cases hlocked
  | _ => exact h

variable [DecidableEq ι] {toUpperCase : String → String}

theorem program_keeps : Keeps (@program Hash ι _ toUpperCase verify) Anyhow
    (fun store => Sound verify store ∧ Retired old store) (Working verify old)
    (fun _ _ => True) where
  symm := fun _ _ _ => trivial
  own := by
    intro i statement store phase store' phase' _ h hkept hworking
    have heffect := effect_of_program hworking h
    have hown := hworking.own hkept.1 hkept.2 h
    exact ⟨⟨hkept.1.effect heffect, hkept.2.effect heffect⟩, hown⟩
  other := by
    intro i k statement store phase store' phase' other hik _ h _ hworking hother _
    have heffect := effect_of_program hworking h
    exact ⟨hother.other hik heffect, trivial⟩

/-- A transaction that ends puts a set in the place of the old one that only it has seen. -/
theorem exists_unseen_of_commit {i : ι} {store store' : Store ι Hash} {phase phase' : Phase Hash}
    (hworking : Working verify old i store phase)
    (h : program toUpperCase verify i .commit store phase = some (store', phase')) :
    ∃ codes, store' = store.commit codes ∧ Unseen store codes := by
  cases phase with
  | deleted change =>
    cases change with
    | delete =>
      cases h
      exact ⟨Table.empty, rfl, Unseen.empty store⟩
    | replace codeHashes => cases h
  | issued codes =>
    cases h
    exact ⟨codes, rfl, hworking.2.1⟩
  | _ => cases h

/-- The old set is retired by the end of the transaction that replaces or deletes it. -/
theorem holds_of_commit {c c' : Interleaving ι (Store ι Hash) (Phase Hash)} {i : ι}
    (h : Holds (fun store => Sound verify store ∧ Retired [] store) (Working verify [])
      (fun _ _ => True) c) (hcommit : next (program toUpperCase verify) c i .commit = some c') :
    Holds (fun store => Sound verify store ∧
      Retired (c.shared.codes.rows.map MfaRecoveryCode.id) store)
      (Working verify (c.shared.codes.rows.map MfaRecoveryCode.id)) (fun _ _ => True) c' := by
  have hafter := program_keeps.step ⟨i, .commit, trivial, hcommit⟩ h
  obtain ⟨store', phase', hprogram, rfl⟩ := next_eq_some hcommit
  obtain ⟨codes, rfl, hunseen⟩ := exists_unseen_of_commit (h.client i) hprogram
  refine ⟨⟨hafter.shared.1, fun id hid => ?_⟩, fun k => ?_, fun _ _ _ => trivial⟩
  · obtain ⟨row, hrow, rfl⟩ := List.mem_map.mp hid
    obtain ⟨origin, horigin, hsame, -⟩ := h.shared.1.known row hrow
    exact ⟨⟨origin, horigin, hsame⟩, fun other hother hsame => hunseen.apart other hother row hrow
      hsame.symm⟩
  · exact (hafter.client k).retire rfl

end Runs

section Samples

/-- A hash that is the code itself. -/
def plainHash (codeHash code : String) : Bool := codeHash = code

/-- Two codes are issued at the end of a setup. -/
def setUp : List (Bool × Statement String) :=
  [(false, .hashCodes ["0123456789AB", "ABCDEFGHJKMN"]), (false, .lockUser),
    (false, .deleteRecoveryCodes), (false, .insertRecoveryCodes [1, 2] 0), (false, .commit)]

/-- One code is listed twice and used up once, and the codes are regenerated while another one is
on its way. -/
def useThenRegenerate : List (Bool × Statement String) :=
  [(true, .findUnusedRecoveryCodes .login "OI23-4567-89AB"), (true, .verify),
    (false, .findUnusedRecoveryCodes .login "0123456789AB"), (false, .verify),
    (true, .consumeRecoveryCode 1), (false, .consumeRecoveryCode 1), (true, .leave),
    (true, .findUnusedRecoveryCodes .disable "ABCD-EFGH-JKMN"), (true, .verify),
    (false, .hashCodes ["0123456789AB"]), (false, .lockUser), (false, .deleteRecoveryCodes),
    (false, .insertRecoveryCodes [3] 2)]

end Samples

end InternalControl.RecoveryCodes
